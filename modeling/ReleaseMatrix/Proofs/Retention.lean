import ReleaseMatrix.Proofs.StandardPolicy

/-!
# Which major lines are kept

A policy keeps the lines that are fewer than a fixed number of places behind the current one. The
place of a line is its major, or the major it continues if it has an alias. The line before the
current one is a matter of its own: it is named by the alias or else by the number. Under a policy
that keeps two lines and has no alias to a lower major the two agree, so a line that is reported as
missing is one that nobody declared.

Places do not say what was published when. Under the standard policy line 1 stands at place 7, as
the last line of the predecessor does, so both outlive the line before the current one.

## What is proved

* `Matrix.not_declared_of_missingLine`: a missing line has no declared version.
* `RetainedLines.mem_majors_standard`: the lines that the standard policy keeps.
* `RetainedLines.forall_length_majors_le_iff`: the current majors for which these are never more
  than the expected ones.
-/

namespace ReleaseMatrix

/-! ### The line before the current one -/

namespace Policy

variable {p : Policy} {current previous : Nat}

/-- A policy that keeps two lines at least, and whose aliases do not lead to lower majors. -/
structure ReachesBack (p : Policy) : Prop where
  /-- Two lines at least are kept. -/
  retained : 2 ≤ p.retainedMajors
  /-- No major continues a lower one. -/
  alias_le : ∀ major continued, p.majorAliases.get? major = some continued → major ≤ continued

theorem ReachesBack.le_effectiveMajor (h : p.ReachesBack) (major : Nat) :
    major ≤ p.effectiveMajor major := by
  rw [effectiveMajor]
  cases halias : p.majorAliases.get? major with
  | none => exact Nat.le_refl major
  | some continued => exact h.alias_le major continued halias

/-- A line has its place at the line it follows or right behind it. -/
theorem effectiveMajor_le_of_previousMajor? (h : p.previousMajor? current = some previous) :
    p.effectiveMajor current ≤ previous + 1 := by
  rw [previousMajor?] at h
  rw [effectiveMajor]
  cases halias : p.majorAliases.get? current with
  | none =>
    simp only [halias, Option.ite_none_left_eq_some, Option.some.injEq] at h
    simp only [Option.getD_none]
    omega
  | some continued =>
    simp only [halias, Option.some.injEq] at h
    simp only [Option.getD_some]
    omega

/-- The line before the current one is kept. -/
theorem ReachesBack.retains_previousMajor (h : p.ReachesBack)
    (hprevious : p.previousMajor? current = some previous) : p.Retains current previous := by
  have hcurrent := effectiveMajor_le_of_previousMajor? hprevious
  have hplace := h.le_effectiveMajor previous
  have hretained := h.retained
  rw [Retains]
  omega

theorem standard_reachesBack : standard.ReachesBack where
  retained := Nat.le_refl 2
  alias_le major continued h := by
    rw [standard_majorAliases_get?_eq, Option.ite_none_right_eq_some, Option.some.injEq] at h
    omega

end Policy

namespace Matrix

variable {declared : SortedSet Version} {expected : Version} {p : Policy} {major : Nat}

/-- If a line is reported as missing, it is lacking. -/
theorem lacks_of_build_eq_error (h : build declared expected p = .error (.missingLine major)) :
    Lacks declared expected p major := by
  rcases exists_refusal_or declared expected p with ⟨error, herror⟩ | ⟨hnewest, count, lacks⟩
  · have hsame := build_eq_error herror
    rw [h] at hsame
    cases hsame
    cases herror with
    | missingLine _ _ lacks => exact lacks
  · obtain ⟨m, hm⟩ := exists_build hnewest count lacks
    rw [h] at hm
    cases hm

/-- **A missing line is not declared.** Under a policy that reaches back to the line before the
current one, a line that is reported as missing has no declared version, be it kept or not. -/
theorem not_declared_of_missingLine
    (h : build declared expected p = .error (.missingLine major)) (hp : p.ReachesBack) :
    ∀ v ∈ declared, v.major ≠ major := by
  obtain ⟨-, hprevious, hmissing, -⟩ := lacks_of_build_eq_error h
  rintro v hv rfl
  exact hmissing v ⟨hv, hp.retains_previousMajor hprevious⟩ rfl

/-- Line 2 right behind the lines of the predecessor. -/
def skippedLine : SortedSet Version := .ofList [.of 2 0 0, .of 6 8 0, .of 7 10 0]

/-- What is missing is line 1, not line 7, which stands at the same place and is kept. -/
theorem not_declared_of_missingLine_skippedLine :
    build skippedLine (.of 2 0 0) .standard = .error (.missingLine 1) ∧
      Policy.standard.ReachesBack ∧ ∀ v ∈ skippedLine, v.major ≠ 1 := by
  have h : build skippedLine (.of 2 0 0) .standard = .error (.missingLine 1) := rfl
  exact ⟨h, Policy.standard_reachesBack,
    not_declared_of_missingLine h Policy.standard_reachesBack⟩

/-- With one line kept, line 3 is reported as missing although it is declared. -/
example : build (.ofList [.of 3 0 0, .of 4 0 0]) (.of 4 0 0)
    { Policy.standard with retainedMajors := 1 } = .error (.missingLine 3) := rfl

end Matrix

/-! ### The lines that the standard policy keeps -/

namespace Policy

variable {current previous major : Nat}

theorem standard_effectiveMajor_eq (major : Nat) :
    standard.effectiveMajor major = if major = 1 then 7 else major := by
  rw [effectiveMajor, standard_majorAliases_get?_eq]
  split <;> rfl

theorem standard_isLegacy_iff : standard.isLegacy major ↔ major = 6 ∨ major = 7 := by
  rw [isLegacy, decide_eq_true_eq, SortedSet.mem_def,
    show standard.legacyMajors.toList = [6, 7] from rfl]
  simp

theorem standard_previousMajor?_eq_some_iff : standard.previousMajor? current = some previous ↔
    current = 1 ∧ previous = 7 ∨ current ≠ 1 ∧ previous + 1 = current := by
  by_cases hone : current = 1
  · subst hone
    rw [show standard.previousMajor? 1 = some 7 from rfl, Option.some.injEq]
    omega
  · rw [standard_previousMajor?_eq hone, Option.ite_none_left_eq_some, Option.some.injEq]
    omega

theorem standard_majorPrecedes_iff : standard.MajorPrecedes major current ↔
    (major = 6 ∨ major = 7) ∧ ¬ (current = 6 ∨ current = 7) ∨
      ((major = 6 ∨ major = 7 ↔ current = 6 ∨ current = 7) ∧ major < current) := by
  rw [MajorPrecedes, standard_isLegacy_iff, standard_isLegacy_iff]

/-- Of the lines before the current one in release order, those are kept which it follows or which
have a greater number, and line 1 as long as the current major is less than 9. -/
theorem standard_retains_iff (h : standard.MajorPrecedes major current) :
    standard.Retains current major ↔ standard.previousMajor? current = some major ∨
      current < major ∨ major = 1 ∧ current < 9 := by
  rw [standard_majorPrecedes_iff] at h
  rw [Retains, standard_effectiveMajor_eq, standard_effectiveMajor_eq,
    standard_previousMajor?_eq_some_iff, show standard.retainedMajors = 2 from rfl]
  split_ifs <;> omega

theorem standard_expectedMajorCount_eq (current : Nat) :
    standard.expectedMajorCount current = if current < 3 then 3 else 2 := rfl

end Policy

namespace RetainedLines

variable {declared : SortedSet Version} {current v : Version} {p : Policy} {major : Nat}

/-- A declared line is that of the newest version or comes before it. -/
theorem majorPrecedes_of_isLatest (hnewest : IsLatest p.Precedes declared.toList current)
    (hv : v ∈ declared) (hne : v.major ≠ current.major) :
    p.MajorPrecedes v.major current.major := by
  have hprecedes := hnewest.2 v hv fun heq => hne (congrArg _ heq)
  rw [Policy.precedes_def, Version.lt_def] at hprecedes
  exact hprecedes.imp id (And.imp id fun hlt => by omega)

/-- **The lines that the standard policy keeps**: the current one, the one before it, and besides
these every line with a greater number, which is a legacy line, and line 1 as long as the current
major is less than 9. -/
theorem mem_majors_standard
    (hnewest : IsLatest Policy.standard.Precedes declared.toList current) :
    major ∈ (of declared current .standard).majors ↔ (∃ v ∈ declared, v.major = major) ∧
      (major = current.major ∨ Policy.standard.MajorPrecedes major current.major ∧
        (Policy.standard.previousMajor? current.major = some major ∨
          current.major < major ∨ major = 1 ∧ current.major < 9)) := by
  rw [mem_majors_of]
  constructor
  · rintro ⟨v, ⟨hv, hretains⟩, rfl⟩
    refine ⟨⟨v, hv, rfl⟩, ?_⟩
    by_cases hmajor : v.major = current.major
    · exact .inl hmajor
    · have hprecedes := majorPrecedes_of_isLatest hnewest hv hmajor
      exact .inr ⟨hprecedes, (Policy.standard_retains_iff hprecedes).1 hretains⟩
  · rintro ⟨⟨v, hv, rfl⟩, hmajor | ⟨hprecedes, hkept⟩⟩
    · exact ⟨v, ⟨hv, hmajor ▸ Policy.retains_self (by decide) _⟩, rfl⟩
    · exact ⟨v, ⟨hv, (Policy.standard_retains_iff hprecedes).2 hkept⟩, rfl⟩

/-! ### How many lines the standard policy keeps -/

/-- Majors that are all in a list are not more than it has members. -/
theorem length_majors_le_of_subset {majors : List Nat}
    (h : ∀ major ∈ (of declared current p).majors, major ∈ majors) :
    (of declared current p).majors.length ≤ majors.length :=
  (nodup_of_pairwise (Table.keys_ascending _)).length_le_of_subset h

/-- For most current majors there are no more lines than expected, whatever is declared. -/
theorem length_majors_le (hnewest : IsLatest Policy.standard.Precedes declared.toList current)
    (hmajor : current.major ∉ [2, 3, 4, 5, 8]) :
    (of declared current .standard).majors.length ≤
      Policy.standard.expectedMajorCount current.major := by
  have hkept := fun major (hmem : major ∈ (of declared current .standard).majors) =>
    ((mem_majors_standard hnewest).1 hmem).2
  simp only [Policy.standard_majorPrecedes_iff, Policy.standard_previousMajor?_eq_some_iff] at hkept
  obtain ⟨majors, hmem, hlength⟩ : ∃ majors : List Nat,
      (∀ major ∈ (of declared current .standard).majors, major ∈ majors) ∧
        majors.length = if current.major < 3 then 3 else 2 := by
    have hcases : current.major < 2 ∨ (current.major = 6 ∨ current.major = 7) ∨
        9 ≤ current.major := by
      simp only [List.mem_cons, List.not_mem_nil, or_false] at hmajor
      omega
    rcases hcases with hfirst | hlegacy | hlater
    · -- nothing is older than lines 0 and 1 but the legacy lines
      refine ⟨[current.major, 6, 7], fun major hmem => ?_, (if_pos (by omega)).symm⟩
      have hmajor := hkept major hmem
      simp only [List.mem_cons, List.not_mem_nil, or_false]
      omega
    · -- a legacy version is the newest only among legacy versions
      refine ⟨[6, 7], fun major hmem => ?_, (if_neg (by omega)).symm⟩
      have hmajor := hkept major hmem
      simp only [List.mem_cons, List.not_mem_nil, or_false]
      omega
    · -- no place is as far back as the line before the current one
      refine ⟨[current.major, current.major - 1], fun major hmem => ?_, (if_neg (by omega)).symm⟩
      have hmajor := hkept major hmem
      simp only [List.mem_cons, List.not_mem_nil, or_false]
      omega
  rw [Policy.standard_expectedMajorCount_eq, ← hlength]
  exact length_majors_le_of_subset hmem

/-- Line 1 and the two legacy lines, and the first version of another line. -/
def earlierLines (major : UInt32) : SortedSet Version :=
  .ofList [.of 1 0 0, .of 6 0 0, .of 7 0 0, .of major 0 0]

/-- For the others there may be more. -/
theorem exists_expectedMajorCount_lt (h : major ∈ [2, 3, 4, 5, 8]) :
    ∃ (declared : SortedSet Version) (current : Version), current.major = major ∧
      IsLatest Policy.standard.Precedes declared.toList current ∧
      Policy.standard.expectedMajorCount major < (of declared current .standard).majors.length := by
  simp only [List.mem_cons, List.not_mem_nil, or_false] at h
  rcases h with rfl | rfl | rfl | rfl | rfl
  · exact ⟨earlierLines 2, .of 2 0 0, rfl, Policy.newest?_eq_some_iff.1 rfl, by decide⟩
  · exact ⟨earlierLines 3, .of 3 0 0, rfl, Policy.newest?_eq_some_iff.1 rfl, by decide⟩
  · exact ⟨earlierLines 4, .of 4 0 0, rfl, Policy.newest?_eq_some_iff.1 rfl, by decide⟩
  · exact ⟨earlierLines 5, .of 5 0 0, rfl, Policy.newest?_eq_some_iff.1 rfl, by decide⟩
  · exact ⟨earlierLines 8, .of 8 0 0, rfl, Policy.newest?_eq_some_iff.1 rfl, by decide⟩

/-- **How many lines the standard policy keeps.** For a current major the kept lines are never more
than the expected ones, whatever is declared, exactly if it is none of 2, 3, 4, 5 and 8. -/
theorem forall_length_majors_le_iff (major : Nat) :
    (∀ (declared : SortedSet Version) (current : Version), current.major = major →
      IsLatest Policy.standard.Precedes declared.toList current →
      (of declared current .standard).majors.length ≤
        Policy.standard.expectedMajorCount major) ↔ major ∉ [2, 3, 4, 5, 8] := by
  constructor
  · intro h hmem
    obtain ⟨declared, current, hmajor, hnewest, hlt⟩ := exists_expectedMajorCount_lt hmem
    exact Nat.not_le_of_lt hlt (h declared current hmajor hnewest)
  · rintro hnot declared current rfl hnewest
    exact length_majors_le hnewest hnot

/-- The lines 4 and 5, and line 1 long before them. -/
def outlivingLine : SortedSet Version := .ofList [.of 1 0 0, .of 4 0 0, .of 5 0 0]

/-- Two lines are expected for version 5, but line 1 is kept as well. -/
theorem length_majors_outlivingLine :
    IsLatest Policy.standard.Precedes outlivingLine.toList (.of 5 0 0) ∧
      (of outlivingLine (.of 5 0 0) .standard).majors = [1, 4, 5] ∧
      Policy.standard.expectedMajorCount 5 = 2 ∧
      ¬ (of outlivingLine (.of 5 0 0) .standard).majors.length ≤
        Policy.standard.expectedMajorCount 5 :=
  ⟨Policy.newest?_eq_some_iff.1 rfl, rfl, rfl, by decide⟩

end RetainedLines

end ReleaseMatrix
