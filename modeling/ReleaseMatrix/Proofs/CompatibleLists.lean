import ReleaseMatrix.Proofs.Compatibility

/-!
# Which versions are compatible, and in what order

The versions whose indices are read are laid out major by major; those that are talked to over the
wire are collected from several lines and sorted. Here both lists are said in terms of the declared
versions and of what the policy names, for any set of versions and any current version, also one
that is not declared or not the newest. A policy may name a major several times, among the further
majors of a transition, as the previous major and as the own one; every version is listed once all
the same.

## What is proved

* `indexCompatible_inBlocks`: the list of those whose indices are read has one block for each major,
  and the blocks come in the order in which the policy first names their majors.
* `wireCompatible_members`: the list of those that are talked to is in release order, and of the
  wire-previous major it has the greatest minor only.
-/

namespace ReleaseMatrix

/-! ### What a policy names -/

namespace Policy

variable {p : Policy} {current major : Nat} {t : Transition}

/-- The transition of a current major: the first one that the policy lists for it. -/
def IsTransition (p : Policy) (current : Nat) (t : Transition) : Prop :=
  ∃ before after, p.transitions = before ++ t :: after ∧ t.major = current ∧
    ∀ s ∈ before, s.major ≠ current

theorem transition?_eq_some_iff : p.transition? current = some t ↔ p.IsTransition current t := by
  rw [transition?, List.find?_eq_some_iff_append]
  simp only [decide_eq_true_eq, Bool.not_eq_true', decide_eq_false_iff_not, IsTransition]
  constructor
  · rintro ⟨hmajor, before, after, heq, hbefore⟩
    exact ⟨before, after, heq, hmajor, hbefore⟩
  · rintro ⟨before, after, heq, hmajor, hbefore⟩
    exact ⟨hmajor, before, after, heq, hbefore⟩

/-- The major whose newest minor takes part over the wire. -/
inductive IsWirePrevious (p : Policy) (current : Nat) : Nat → Prop where
  /-- The one that the transition names. -/
  | named {t : Transition} {major : Nat} (ht : p.IsTransition current t)
      (hmajor : t.wirePreviousMajor = some major) : IsWirePrevious p current major
  /-- The previous major, if there is no transition or it names none. -/
  | previous {major : Nat} (unnamed : ∀ t, p.IsTransition current t → t.wirePreviousMajor = none)
      (hmajor : p.previousMajor? current = some major) : IsWirePrevious p current major

theorem wirePreviousMajor?_eq_some_iff :
    p.wirePreviousMajor? current = some major ↔ p.IsWirePrevious current major := by
  rw [wirePreviousMajor?, Option.or_eq_some_iff, Option.bind_eq_some_iff, Option.bind_eq_none_iff]
  simp only [transition?_eq_some_iff]
  constructor
  · rintro (⟨t, ht, hmajor⟩ | ⟨unnamed, hmajor⟩)
    · exact .named ht hmajor
    · exact .previous unnamed hmajor
  · intro h
    cases h with
    | named ht hmajor => exact .inl ⟨_, ht, hmajor⟩
    | previous unnamed hmajor => exact .inr ⟨unnamed, hmajor⟩

/-- The majors whose indices are read, as the policy names them: those of the transition, then the
previous major, then the own one. A major can be named more than once. -/
def indexNames (p : Policy) (current : Nat) : List Nat :=
  let extra := match p.transition? current with
    | some transition => transition.extraIndexMajors
    | none => []
  extra ++ (p.previousMajor? current).toList ++ [current]

end Policy

/-! ### Blocks of versions -/

/-- Versions in blocks, one for each major, the blocks in the order in which their majors are first
named. -/
structure InBlocks (names : List Nat) (versions : List Version) : Prop where
  /-- Between two versions of one major there is none of another. -/
  contiguous : ∀ u v w, [u, v, w].Sublist versions → u.major = w.major → v.major = u.major
  /-- The versions of one major ascend. -/
  ascending : versions.Pairwise fun v w => v.major = w.major → v < w
  /-- Of two majors the one that is named earlier comes first. -/
  ordered : versions.Pairwise fun v w =>
    v.major ≠ w.major → names.idxOf v.major < names.idxOf w.major

/-- Whether a version has its place before another: its major is named earlier, or it is older and
on the same major. -/
def NamedBefore (names : List Nat) (v w : Version) : Prop :=
  names.idxOf v.major < names.idxOf w.major ∨ v.major = w.major ∧ v < w

theorem inBlocks_of_pairwise {names : List Nat} {versions : List Version}
    (h : versions.Pairwise (NamedBefore names)) : InBlocks names versions := by
  refine ⟨fun u v w hsublist huw => ?_, h.imp fun {v w} hvw hmajor => ?_,
    h.imp fun {v w} hvw hmajor => ?_⟩
  · obtain ⟨hu, hv, -⟩ := by simpa only [List.pairwise_cons] using h.sublist hsublist
    rcases hu v (by simp) with huv | ⟨huv, -⟩
    · -- the major in the middle would be named behind itself
      rw [huw] at huv
      rcases hv w (by simp) with hvw | ⟨hvw, -⟩
      · exact absurd hvw (Nat.lt_asymm huv)
      · exact absurd huv (hvw ▸ Nat.lt_irrefl _)
    · exact huv.symm
  · rcases hvw with hlt | ⟨-, hlt⟩
    · exact absurd hlt (hmajor ▸ Nat.lt_irrefl _)
    · exact hlt
  · rcases hvw with hlt | ⟨hsame, -⟩
    · exact hlt
    · exact absurd hsame hmajor

namespace RetainedLines

variable {lines : RetainedLines} {declared : SortedSet Version} {current v : Version} {p : Policy}
  {major : Nat}

/-! ### The versions whose indices are read -/

theorem indexMajors_eq : indexMajors current p = firstOccurrences (p.indexNames current.major) :=
  rfl

/-- Within a line the versions ascend, and the lines come in the order of their names. -/
theorem Ordered.pairwise_namedBefore (hlines : lines.Ordered) :
    (lines.indexCompatible current p).Pairwise (NamedBefore (p.indexNames current.major)) := by
  rw [indexCompatible, indexMajors_eq]
  refine List.Pairwise.filter _ (List.pairwise_flatMap.2 ⟨fun major _ => ?_, ?_⟩)
  · refine (hlines major).ascending.imp_of_mem fun {v w} hv hw hlt => .inr ⟨?_, hlt⟩
    exact ((hlines major).major_eq v hv).trans ((hlines major).major_eq w hw).symm
  · refine (pairwise_firstOccurrences _).imp fun {a b} hab v hv w hw => .inl ?_
    rwa [(hlines a).major_eq v hv, (hlines b).major_eq w hw]

theorem mem_line_self : v ∈ (of declared current p).line v.major ↔ p.Keeps declared current v := by
  rw [mem_line_of]
  exact and_iff_left rfl

/-- **The versions whose indices are read.** They are the kept versions, but for the current one, on
the own major, the previous major and the further majors of the transition. Each comes once; those
of one major stand together and ascend, and the majors come in the order in which they are first
named by the transition, then as the previous major, then as the own one. -/
theorem indexCompatible_inBlocks (declared : SortedSet Version) (current : Version) (p : Policy) :
    ((of declared current p).indexCompatible current p).Nodup ∧
    (∀ v, v ∈ (of declared current p).indexCompatible current p ↔
      p.Keeps declared current v ∧ v ≠ current ∧
        (v.major = current.major ∨ p.previousMajor? current.major = some v.major ∨
          ∃ t, p.IsTransition current.major t ∧ v.major ∈ t.extraIndexMajors)) ∧
    InBlocks (p.indexNames current.major) ((of declared current p).indexCompatible current p) := by
  have hlines : (of declared current p).Ordered := ordered_of
  refine ⟨hlines.nodup_indexCompatible, fun v => ?_,
    inBlocks_of_pairwise hlines.pairwise_namedBefore⟩
  rw [hlines.mem_indexCompatible, mem_line_self, mem_indexMajors]
  simp only [Policy.transition?_eq_some_iff]
  constructor
  · rintro ⟨hkeeps, hextra | hprevious | hown, hne⟩
    · exact ⟨hkeeps, hne, .inr (.inr hextra)⟩
    · exact ⟨hkeeps, hne, .inr (.inl hprevious)⟩
    · exact ⟨hkeeps, hne, .inl hown⟩
  · rintro ⟨hkeeps, hne, hown | hprevious | hextra⟩
    · exact ⟨hkeeps, .inr (.inr hown), hne⟩
    · exact ⟨hkeeps, .inr (.inl hprevious), hne⟩
    · exact ⟨hkeeps, .inl hextra, hne⟩

/-- A transition of line 5 that names its own line, a line without versions and the previous line,
some of them repeatedly. -/
def repeatedNames : Policy :=
  { Policy.standard with
    transitions := [{
      major := 5, wirePreviousMajor := none
      extraIndexMajors := [5, 9, 4, 5], extraWireMajors := [5, 9, 5] }] }

/-- The own line comes first, where it is first named. -/
example : (of (.ofList [.of 4 0 0, .of 4 1 0, .of 5 0 0, .of 5 0 1, .of 5 1 0]) (.of 5 1 0)
      repeatedNames).indexCompatible (.of 5 1 0) repeatedNames =
    [.of 5 0 0, .of 5 0 1, .of 4 0 0, .of 4 1 0] := by decide

/-! ### The versions that are talked to over the wire -/

/-- A kept version is on the newest minor of a line if no kept one of its major has a greater minor. -/
theorem mem_newestMinorLine_of : v ∈ (of declared current p).newestMinorLine major ↔
    p.Keeps declared current v ∧ v.major = major ∧
      ∀ w, p.Keeps declared current w → w.major = major → w.minor ≤ v.minor := by
  have hline : IsLine major ((of declared current p).line major) := ordered_of major
  rw [ordered_of.mem_newestMinorLine, mem_line_of, and_assoc]
  refine and_congr_right fun hkeeps => and_congr_right fun hmajor => ?_
  constructor
  · rintro ⟨t, ht, hminor⟩ w hw hwmajor
    rw [hminor]
    exact hline.minor_le ht (mem_line_of.2 ⟨hw, hwmajor⟩)
  · intro hgreatest
    have hv : v ∈ (of declared current p).line major := mem_line_of.2 ⟨hkeeps, hmajor⟩
    obtain ⟨t, ht⟩ := hline.exists_isLatest (List.ne_nil_of_mem hv)
    obtain ⟨htkeeps, htmajor⟩ := mem_line_of.1 ht.1
    exact ⟨t, ht, Nat.le_antisymm (hline.minor_le ht hv) (hgreatest t htkeeps htmajor)⟩

/-- **The versions that are talked to over the wire.** They come in strict release order, and they
are the kept versions, but for the current one, on the own major, on the further majors of the
transition, and on the greatest minor of the wire-previous major. -/
theorem wireCompatible_members (declared : SortedSet Version) (current : Version) (p : Policy) :
    ((of declared current p).wireCompatible current p).Pairwise p.Precedes ∧
    ∀ v, v ∈ (of declared current p).wireCompatible current p ↔
      p.Keeps declared current v ∧ v ≠ current ∧
        (v.major = current.major ∨
          (∃ t, p.IsTransition current.major t ∧ v.major ∈ t.extraWireMajors) ∨
          p.IsWirePrevious current.major v.major ∧
            ∀ w, p.Keeps declared current w → w.major = v.major → w.minor ≤ v.minor) := by
  refine ⟨pairwise_wireCompatible, fun v => ?_⟩
  rw [mem_wireCompatible]
  simp only [Policy.transition?_eq_some_iff, Policy.wirePreviousMajor?_eq_some_iff,
    mem_newestMinorLine_of, mem_line_of]
  constructor
  · rintro ⟨hne, hsource⟩
    rcases hsource with ⟨_, hprevious, hkeeps, rfl, hgreatest⟩ | ⟨t, ht, _, hextra, hkeeps, rfl⟩ |
      ⟨hkeeps, hown⟩
    · exact ⟨hkeeps, hne, .inr (.inr ⟨hprevious, hgreatest⟩)⟩
    · exact ⟨hkeeps, hne, .inr (.inl ⟨t, ht, hextra⟩)⟩
    · exact ⟨hkeeps, hne, .inl hown⟩
  · rintro ⟨hkeeps, hne, hown | ⟨t, ht, hextra⟩ | ⟨hprevious, hgreatest⟩⟩
    · exact ⟨hne, .inr (.inr ⟨hkeeps, hown⟩)⟩
    · exact ⟨hne, .inr (.inl ⟨t, ht, _, hextra, hkeeps, rfl⟩)⟩
    · exact ⟨hne, .inl ⟨_, hprevious, hkeeps, rfl, hgreatest⟩⟩

/-- The transition names no wire-previous major, so of the previous major there is the minor 1 only;
and no version of the own line comes twice. -/
example : (of (.ofList [.of 4 0 0, .of 4 1 0, .of 5 0 0, .of 5 0 1, .of 5 1 0]) (.of 5 1 0)
      repeatedNames).wireCompatible (.of 5 1 0) repeatedNames =
    [.of 4 1 0, .of 5 0 0, .of 5 0 1] := by decide

end RetainedLines

end ReleaseMatrix
