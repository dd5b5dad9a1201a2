import ReleaseMatrix.Proofs.Compatibility

/-!
# Under the standard policy

The standard policy describes a project whose line 1 continues line 7 of a predecessor and whose
lines 1 and 2 have transitions of their own. What the transitions say about indices and what they
say about the wire is given separately, but it amounts to the same majors, and these are given in
release order. So under this policy, whichever versions are declared, the versions whose indices are
read come in release order, and the versions talked to over the wire are among them.

The majors before the current one are in release order by the table of the policy. That the current
major comes behind them is not: a line that no predecessor published may be read before a legacy
one. It is because the current version is the newest, so that such a line has no versions.
-/

namespace ReleaseMatrix

/-! ### Majors in release order -/

namespace Policy

variable {p : Policy} {a b : Nat}

/-- Whether all versions of one major come before those of another in release order. -/
def MajorPrecedes (p : Policy) (a b : Nat) : Prop :=
  (p.isLegacy a ∧ ¬ p.isLegacy b) ∨ ((p.isLegacy a ↔ p.isLegacy b) ∧ a < b)

instance : Decidable (p.MajorPrecedes a b) :=
  inferInstanceAs (Decidable
    ((p.isLegacy a ∧ ¬ p.isLegacy b) ∨ ((p.isLegacy a ↔ p.isLegacy b) ∧ a < b)))

theorem MajorPrecedes.precedes (h : p.MajorPrecedes a b) {v w : Version} (hv : v.major = a)
    (hw : w.major = b) : p.Precedes v w := by
  subst hv hw
  exact precedes_def.2 (h.imp id (And.imp id fun hlt => Version.lt_def.2 (.inl hlt)))

end Policy

namespace RetainedLines

variable {declared : SortedSet Version} {current : Version} {p : Policy}

/-- If the majors before the own one come in release order, so do the versions whose indices are
read. -/
theorem pairwise_indexCompatible (hnewest : IsLatest p.Precedes declared.toList current)
    {before : List Nat} (hmajors : indexMajors current p = before ++ [current.major])
    (hnot : current.major ∉ before) (hbefore : before.Pairwise p.MajorPrecedes) :
    ((of declared current p).indexCompatible current p).Pairwise p.Precedes := by
  have hlines : (of declared current p).Ordered := ordered_of
  rw [indexCompatible, hmajors]
  refine List.Pairwise.filter _ (List.pairwise_flatMap.2 ⟨?_, List.pairwise_append.2 ⟨?_,
    List.pairwise_singleton _ _, ?_⟩⟩)
  · -- within a line
    exact fun major _ => (hlines major).pairwise_precedes
  · -- between two lines before the own one
    refine hbefore.imp fun {a b} hab v hv w hw => ?_
    exact hab.precedes ((hlines a).major_eq v hv) ((hlines b).major_eq w hw)
  · -- between another line and the own one: the current version is newer than the former
    intro a ha b hb v hv w hw
    have hva : v.major = a := (hlines a).major_eq v hv
    have hwb : w.major = current.major :=
      ((hlines b).major_eq w hw).trans (List.mem_singleton.1 hb)
    have hmajor : v.major ≠ current.major := fun heq => hnot (heq ▸ hva ▸ ha)
    exact p.precedes_of_isLatest hnewest (mem_line_of.1 hv).1.1 hmajor hwb

/-- If all majors on which the current version talks to others have their indices read, so have all
versions it talks to. -/
theorem Ordered.mem_indexCompatible_of_wire {lines : RetainedLines} (hlines : lines.Ordered)
    (hmajors : ∀ major ∈ wireMajors current p, major ∈ indexMajors current p) {v : Version}
    (hv : v ∈ lines.wireCompatible current p) : v ∈ lines.indexCompatible current p := by
  obtain ⟨hline, hmajor, hne⟩ := hlines.mem_line_of_mem_wireCompatible hv
  exact hlines.mem_indexCompatible.2 ⟨hline, hmajors _ hmajor, hne⟩

end RetainedLines

/-! ### The majors of the standard policy -/

namespace Policy

variable {major : Nat}

/-- Only the lines 1 and 2 have transitions. -/
theorem standard_transition?_eq_none (h1 : major ≠ 1) (h2 : major ≠ 2) :
    standard.transition? major = none := by
  simp [transition?, standard, Ne.symm h1, Ne.symm h2]

/-- Only line 1 continues another numbering. -/
theorem standard_majorAliases_get?_eq (major : Nat) :
    standard.majorAliases.get? major = if major = 1 then some 7 else none := by
  rw [show standard.majorAliases = Table.empty.alter 1 fun _ => 7 from rfl, Table.get?_alter]
  rfl

/-- Line 1 follows line 7, line 0 follows none, and every other one follows the line before it. -/
theorem standard_previousMajor?_eq (h : major ≠ 1) :
    standard.previousMajor? major = if major = 0 then none else some (major - 1) := by
  rw [previousMajor?, standard_majorAliases_get?_eq, if_neg h]

theorem standard_previousMajor?_ne (h : major ≠ 1) :
    standard.previousMajor? major ≠ some major := by
  rw [standard_previousMajor?_eq h]
  split
  · simp
  · rw [ne_eq, Option.some.injEq]
    omega

end Policy

namespace RetainedLines

/-- The current version talks to others on the very majors whose indices it reads: some in release
order, then its own. -/
theorem exists_majors_standard (current : Version) : ∃ before,
    indexMajors current .standard = before ++ [current.major] ∧
      wireMajors current .standard = before ++ [current.major] ∧
      current.major ∉ before ∧ before.Pairwise Policy.standard.MajorPrecedes := by
  by_cases h1 : current.major = 1
  · refine ⟨[6, 7], ?_, ?_, ?_, by decide⟩
    · rw [indexMajors, h1]
      rfl
    · rw [wireMajors, h1]
      rfl
    · rw [h1]
      decide
  · by_cases h2 : current.major = 2
    · refine ⟨[7, 1], ?_, ?_, ?_, by decide⟩
      · rw [indexMajors, h2]
        rfl
      · rw [wireMajors, h2]
        rfl
      · rw [h2]
        decide
    · -- without a transition there is at most the previous major
      have hnone := Policy.standard_transition?_eq_none h1 h2
      have hnot : current.major ∉ (Policy.standard.previousMajor? current.major).toList :=
        Option.mem_toList.not.2 (Policy.standard_previousMajor?_ne h1)
      refine ⟨(Policy.standard.previousMajor? current.major).toList, ?_, ?_, hnot, ?_⟩
      · simp only [indexMajors, hnone, List.nil_append]
        rw [firstOccurrences_concat_of_not_mem hnot]
        cases Policy.standard.previousMajor? current.major <;> rfl
      · simp only [wireMajors, Policy.wirePreviousMajor?, hnone, Option.bind_none, Option.none_or,
          List.append_nil]
      · cases Policy.standard.previousMajor? current.major with
        | none => exact .nil
        | some previous => exact List.pairwise_singleton _ _

end RetainedLines

/-! ### What is read and what is talked to -/

namespace Matrix

open RetainedLines

variable {declared : SortedSet Version} {current : Version}

/-- **Whatever is talked to is read.** Under the standard policy the versions that the current one
talks to over the wire are some of those whose indices it reads, in the same order, and both lists
are in release order. -/
theorem wireCompatible_sublist_indexCompatible
    (h : IsLatest Policy.standard.Precedes declared.toList current) :
    ((of declared current .standard).wireCompatible current .standard).Sublist
      ((of declared current .standard).indexCompatible current .standard) ∧
    ((of declared current .standard).indexCompatible current .standard).Pairwise
      Policy.standard.Precedes ∧
    ∀ m, build declared current .standard = .ok m →
      m.wireCompatible.Sublist m.indexCompatible ∧
        m.indexCompatible.Pairwise Policy.standard.Precedes := by
  obtain ⟨before, hindex, hwire, hnot, hbefore⟩ := exists_majors_standard current
  have hpairwise := pairwise_indexCompatible h hindex hnot hbefore
  have hsublist : ((of declared current .standard).wireCompatible current .standard).Sublist
      ((of declared current .standard).indexCompatible current .standard) := by
    refine sublist_of_pairwise_of_mem pairwise_wireCompatible hpairwise fun v hv => ?_
    exact ordered_of.mem_indexCompatible_of_wire (fun major => by rw [hindex, hwire]; exact id) hv
  refine ⟨hsublist, hpairwise, fun m hm => ?_⟩
  have hbuilt := build_eq_ok_iff.1 hm
  rw [hbuilt.wireCompatible_eq, hbuilt.indexCompatible_eq]
  exact ⟨hsublist, hpairwise⟩

/-- Of line 7 all indices are read, but only its newest minor is talked to. -/
theorem wireCompatible_sublist_legacyMinors :
    ∃ m, build (continuedLines.insert (.of 7 9 3)) (.of 2 1 0) .standard = .ok m ∧
      .of 7 9 3 ∈ m.indexCompatible ∧ .of 7 9 3 ∉ m.wireCompatible ∧
      m.wireCompatible.Sublist m.indexCompatible ∧
      m.indexCompatible.Pairwise Policy.standard.Precedes := by
  have hnewest : IsLatest Policy.standard.Precedes (continuedLines.insert (.of 7 9 3)).toList
      (.of 2 1 0) := Policy.newest?_eq_some_iff.1 rfl
  obtain ⟨-, -, hmatrix⟩ := wireCompatible_sublist_indexCompatible hnewest
  exact ⟨_, rfl, by decide, by decide, hmatrix _ rfl⟩

end Matrix

end ReleaseMatrix
