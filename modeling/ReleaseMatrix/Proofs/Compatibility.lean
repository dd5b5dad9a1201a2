import ReleaseMatrix.Proofs.Leaves

/-!
# Compatible and unreleased versions

The versions whose indices the current version reads are computed line by line, for the majors of
its transition, then the previous major, then its own. Every unreleased version but the current one
is among them, since it is on one of the last two. The majors are distinct, so no version comes
twice; and with its own line at the end, the versions that are unreleased come in release order: the
current version is newer than everything on another line, so its whole line is.

The versions that the current one talks to over the wire are collected from some of the same lines
and then sorted; of them it is said here only which they are, and that each comes once.
-/

namespace ReleaseMatrix

/-! ### First occurrences -/

section

variable {α : Type} [DecidableEq α] {xs : List α} {x y : α}

theorem firstOccurrences_concat (xs : List α) (x : α) : firstOccurrences (xs ++ [x]) =
    if x ∈ firstOccurrences xs then firstOccurrences xs else firstOccurrences xs ++ [x] := by
  rw [firstOccurrences, List.foldl_append]
  rfl

@[simp] theorem mem_firstOccurrences : y ∈ firstOccurrences xs ↔ y ∈ xs := by
  induction xs using List.reverseRecOn with
  | nil => simp [firstOccurrences]
  | append_singleton xs x ih =>
    rw [firstOccurrences_concat]
    split
    · rename_i hx
      rw [ih, List.mem_append, List.mem_singleton]
      refine ⟨.inl, ?_⟩
      rintro (hy | rfl)
      · exact hy
      · exact ih.1 hx
    · rw [List.mem_append, List.mem_append, ih]

/-- Of a list the first occurrences come in the order of their places. -/
theorem pairwise_firstOccurrences (xs : List α) :
    (firstOccurrences xs).Pairwise fun x y => xs.idxOf x < xs.idxOf y := by
  induction xs using List.reverseRecOn with
  | nil => exact .nil
  | append_singleton xs x ih =>
    have hold : (firstOccurrences xs).Pairwise fun y z =>
        (xs ++ [x]).idxOf y < (xs ++ [x]).idxOf z := by
      refine ih.imp_of_mem fun hy hz hlt => ?_
      rwa [List.idxOf_append_of_mem (mem_firstOccurrences.1 hy),
        List.idxOf_append_of_mem (mem_firstOccurrences.1 hz)]
    rw [firstOccurrences_concat]
    split
    · exact hold
    · -- a new member has its place behind all others
      rename_i hx
      refine List.pairwise_append.2 ⟨hold, List.pairwise_singleton _ _, fun y hy z hz => ?_⟩
      have hy' : y ∈ xs := mem_firstOccurrences.1 hy
      have hx' : x ∉ xs := fun hmem => hx (mem_firstOccurrences.2 hmem)
      rw [List.mem_singleton.1 hz, List.idxOf_append_of_mem hy', List.idxOf_append_of_notMem hx']
      exact Nat.lt_add_right _ (List.idxOf_lt_length_of_mem hy')

theorem nodup_firstOccurrences (xs : List α) : (firstOccurrences xs).Nodup := by
  refine (pairwise_firstOccurrences xs).imp fun {x y} hlt heq => ?_
  exact Nat.lt_irrefl _ (heq ▸ hlt)

/-- A new last member stays the last. -/
theorem firstOccurrences_concat_of_not_mem (h : x ∉ xs) :
    firstOccurrences (xs ++ [x]) = firstOccurrences xs ++ [x] := by
  rw [firstOccurrences_concat, if_neg (mem_firstOccurrences.not.2 h)]

end

namespace RetainedLines

variable {lines : RetainedLines} {current v : Version} {p : Policy} {major : Nat}

/-! ### The majors whose indices are read -/

theorem mem_indexMajors : major ∈ indexMajors current p ↔
    (∃ t, p.transition? current.major = some t ∧ major ∈ t.extraIndexMajors) ∨
      p.previousMajor? current.major = some major ∨ major = current.major := by
  rw [indexMajors, mem_firstOccurrences, List.mem_append, List.mem_append, Option.mem_toList,
    List.mem_singleton, or_assoc]
  refine or_congr_left ?_
  cases p.transition? current.major with
  | none => simp
  | some t => simp

/-- Unless the transition names it, the own major is the last of the majors. -/
theorem exists_indexMajors (h : ∀ t, p.transition? current.major = some t →
      current.major ∉ t.extraIndexMajors) :
    ∃ before, indexMajors current p = before ++ [current.major] ∧ current.major ∉ before := by
  obtain ⟨extra, hmajors, hnot⟩ : ∃ extra, indexMajors current p =
      firstOccurrences (extra ++ (p.previousMajor? current.major).toList ++ [current.major]) ∧
        current.major ∉ extra := by
    cases ht : p.transition? current.major with
    | none => exact ⟨[], by rw [indexMajors, ht], List.not_mem_nil⟩
    | some t => exact ⟨t.extraIndexMajors, by rw [indexMajors, ht], h t ht⟩
  rw [hmajors]
  by_cases hself : p.previousMajor? current.major = some current.major
  · -- the own major is the previous one as well: its second mention changes nothing
    refine ⟨firstOccurrences extra, ?_, mem_firstOccurrences.not.2 hnot⟩
    rw [hself, Option.toList_some, firstOccurrences_concat, if_pos (by simp),
      firstOccurrences_concat_of_not_mem hnot]
  · have hnot' : current.major ∉ extra ++ (p.previousMajor? current.major).toList := by
      rw [List.mem_append, Option.mem_toList]
      rintro (hmem | hmem)
      · exact hnot hmem
      · exact hself hmem
    exact ⟨_, firstOccurrences_concat_of_not_mem hnot', mem_firstOccurrences.not.2 hnot'⟩

/-! ### The versions whose indices are read -/

theorem Ordered.mem_indexCompatible (hlines : lines.Ordered) :
    v ∈ lines.indexCompatible current p ↔
      v ∈ lines.line v.major ∧ v.major ∈ indexMajors current p ∧ v ≠ current := by
  rw [indexCompatible, List.mem_filter, List.mem_flatMap, decide_eq_true_eq]
  constructor
  · rintro ⟨⟨major, hmajor, hv⟩, hne⟩
    rw [(hlines major).major_eq v hv]
    exact ⟨hv, hmajor, hne⟩
  · rintro ⟨hv, hmajor, hne⟩
    exact ⟨⟨v.major, hmajor, hv⟩, hne⟩

theorem Ordered.nodup_indexCompatible (hlines : lines.Ordered) :
    (lines.indexCompatible current p).Nodup := by
  refine List.Pairwise.filter _ (List.pairwise_flatMap.2 ⟨fun M _ => (hlines M).nodup, ?_⟩)
  refine (nodup_firstOccurrences _).imp ?_
  intro a b hab v hv w hw hvw
  rw [← (hlines a).major_eq v hv, ← (hlines b).major_eq w hw, hvw] at hab
  exact hab rfl

/-! ### The versions that are talked to over the wire -/

theorem Ordered.mem_newestMinorLine (hlines : lines.Ordered) :
    v ∈ lines.newestMinorLine major ↔ v ∈ lines.line major ∧
      ∃ t, IsLatest (· < ·) (lines.line major) t ∧ v.minor = t.minor := by
  simp only [← getLast?_eq_some_iff_of_pairwise (hlines major).ascending, newestMinorLine]
  cases (lines.line major).getLast? with
  | none => simp
  | some t => simp

/-- The versions on the newest minor of the wire-previous major, on the further majors of the
transition and on the own major are talked to, apart from the current one. -/
theorem mem_wireCompatible : v ∈ lines.wireCompatible current p ↔ v ≠ current ∧
    ((∃ major, p.wirePreviousMajor? current.major = some major ∧
        v ∈ lines.newestMinorLine major) ∨
      (∃ t, p.transition? current.major = some t ∧
        ∃ major ∈ t.extraWireMajors, v ∈ lines.line major) ∨
      v ∈ lines.line current.major) := by
  rw [wireCompatible, mem_dropRepeats, Policy.mem_sortReleases, List.mem_filter, decide_eq_true_eq,
    List.mem_append, List.mem_append, or_assoc, and_comm]
  refine and_congr_right fun _ => or_congr ?_ (or_congr_left ?_)
  · cases p.wirePreviousMajor? current.major with
    | none => simp
    | some major => simp
  · cases p.transition? current.major with
    | none => simp
    | some t => simp

/-- What is talked to is in release order. -/
theorem pairwise_wireCompatible : (lines.wireCompatible current p).Pairwise p.Precedes := by
  rw [wireCompatible]
  exact p.pairwise_dropRepeats_sortReleases _

/-- The majors on which the current version talks to others: the wire-previous major, the further
ones of the transition, its own. -/
def wireMajors (current : Version) (p : Policy) : List Nat :=
  let extra := match p.transition? current.major with
    | some transition => transition.extraWireMajors
    | none => []
  (p.wirePreviousMajor? current.major).toList ++ extra ++ [current.major]

theorem mem_wireMajors : major ∈ wireMajors current p ↔
    p.wirePreviousMajor? current.major = some major ∨
      (∃ t, p.transition? current.major = some t ∧ major ∈ t.extraWireMajors) ∨
      major = current.major := by
  rw [wireMajors, List.mem_append, List.mem_append, Option.mem_toList, List.mem_singleton, or_assoc]
  refine or_congr_right (or_congr_left ?_)
  cases p.transition? current.major with
  | none => simp
  | some t => simp

/-- What is talked to is on the line of one of those majors and is not the current version. -/
theorem Ordered.mem_line_of_mem_wireCompatible (hlines : lines.Ordered)
    (hv : v ∈ lines.wireCompatible current p) :
    v ∈ lines.line v.major ∧ v.major ∈ wireMajors current p ∧ v ≠ current := by
  obtain ⟨hne, hsource⟩ := mem_wireCompatible.1 hv
  have hline : ∀ major, v ∈ lines.line major → major ∈ wireMajors current p →
      v ∈ lines.line v.major ∧ v.major ∈ wireMajors current p ∧ v ≠ current := by
    intro major hmem hmajor
    rw [(hlines major).major_eq v hmem]
    exact ⟨hmem, hmajor, hne⟩
  rcases hsource with hprevious | hextra | hown
  · obtain ⟨major, hmajor, hmem⟩ := hprevious
    exact hline major (hlines.mem_newestMinorLine.1 hmem).1 (mem_wireMajors.2 (.inl hmajor))
  · obtain ⟨t, ht, major, hmajor, hmem⟩ := hextra
    exact hline major hmem (mem_wireMajors.2 (.inr (.inl ⟨t, ht, hmajor⟩)))
  · exact hline _ hown (mem_wireMajors.2 (.inr (.inr rfl)))

end RetainedLines

/-! ### The unreleased versions whose indices are read -/

namespace Matrix

variable {declared : SortedSet Version} {current v : Version} {p : Policy} {m : Matrix}

theorem previousUnreleased_versions :
    m.previousUnreleased.map (·.version) = m.unreleasedVersions.filter (· ≠ m.current) := by
  rw [previousUnreleased, unreleasedVersions, List.filter_map]
  rfl

theorem Built.mem_previousUnreleased (h : Built declared current p m) :
    v ∈ m.previousUnreleased.map (·.version) ↔ v ∈ m.unreleasedVersions ∧ v ≠ current := by
  rw [previousUnreleased_versions, List.mem_filter, decide_eq_true_eq, h.current_eq]

theorem Built.pairwise_previousUnreleased (h : Built declared current p m) :
    (m.previousUnreleased.map (·.version)).Pairwise p.Precedes := by
  rw [previousUnreleased_versions]
  exact h.pairwise_unreleasedVersions.filter _

/-- Every unreleased version but the current one is on a line whose indices are read. -/
theorem Built.mem_unreleasedIndexCompatible (h : Built declared current p m) :
    v ∈ m.unreleasedIndexCompatible ↔ v ∈ m.unreleasedVersions ∧ v ≠ current := by
  have hlines : (RetainedLines.of declared current p).Ordered := RetainedLines.ordered_of
  rw [unreleasedIndexCompatible, retainUnreleased, List.mem_filter, decide_eq_true_eq,
    h.indexCompatible_eq, hlines.mem_indexCompatible, and_comm]
  refine and_congr_right fun hv => ?_
  refine ⟨fun hmem => hmem.2.2, fun hne => ?_⟩
  have hdev := h.mem_unreleasedVersions_iff.1 hv
  exact ⟨(hdev.isLeaf hlines hne).1,
    RetainedLines.mem_indexMajors.2 (.inr (hdev.major_eq hlines).symm), hne⟩

theorem Built.nodup_unreleasedIndexCompatible (h : Built declared current p m) :
    m.unreleasedIndexCompatible.Nodup := by
  rw [unreleasedIndexCompatible, retainUnreleased, h.indexCompatible_eq]
  exact RetainedLines.ordered_of.nodup_indexCompatible.filter _

/-- Away from the own line all unreleased versions are on one line. -/
theorem Built.major_eq_of_ne (h : Built declared current p m) {w : Version}
    (hv : v ∈ m.unreleasedVersions) (hw : w ∈ m.unreleasedVersions)
    (hvne : v.major ≠ current.major) (hwne : w.major ≠ current.major) : v.major = w.major := by
  have hlines : (RetainedLines.of declared current p).Ordered := RetainedLines.ordered_of
  have hprevious := ((h.mem_unreleasedVersions_iff.1 hv).major_eq hlines).resolve_left hvne
  have hprevious' := ((h.mem_unreleasedVersions_iff.1 hw).major_eq hlines).resolve_left hwne
  exact Option.some.inj (hprevious.symm.trans hprevious')

/-- An unreleased version on another line precedes every version on the own line. -/
theorem Built.precedes_of_major (h : Built declared current p m) (hv : v ∈ m.unreleasedVersions)
    (hmajor : v.major ≠ current.major) {w : Version} (hw : w.major = current.major) :
    p.Precedes v w :=
  p.precedes_of_isLatest h.isLatest_unreleasedVersions hv hmajor hw

/-- With the own line last, the unreleased versions come in release order. -/
theorem Built.pairwise_unreleasedIndexCompatible (h : Built declared current p m)
    (hextra : ∀ t, p.transition? current.major = some t → current.major ∉ t.extraIndexMajors) :
    m.unreleasedIndexCompatible.Pairwise p.Precedes := by
  have hlines : (RetainedLines.of declared current p).Ordered := RetainedLines.ordered_of
  obtain ⟨before, hmajors, hnot⟩ := RetainedLines.exists_indexMajors hextra
  have hnodup : (before ++ [current.major]).Nodup := hmajors ▸ nodup_firstOccurrences _
  rw [unreleasedIndexCompatible, retainUnreleased, h.indexCompatible_eq,
    RetainedLines.indexCompatible, List.filter_filter, List.pairwise_filter, hmajors,
    List.pairwise_flatMap]
  simp only [Bool.and_eq_true, decide_eq_true_eq]
  constructor
  · -- within a line
    intro a _
    exact (hlines a).pairwise_precedes.imp fun hvw _ _ => hvw
  · -- between two lines
    refine List.pairwise_append.2 ⟨?_, List.pairwise_singleton _ _, ?_⟩
    · -- neither is the own one, so at most one of them has unreleased versions
      refine (List.nodup_append.1 hnodup).1.imp_of_mem ?_
      intro a b ha hb hab v hv w hw hv' hw'
      have hva := (hlines a).major_eq v hv
      have hwb := (hlines b).major_eq w hw
      have hsame := h.major_eq_of_ne hv'.1 hw'.1 (fun heq => hnot (heq ▸ hva ▸ ha))
        fun heq => hnot (heq ▸ hwb ▸ hb)
      exact absurd (hva.symm.trans (hsame.trans hwb)) hab
    · intro a ha b hb v hv w hw hv' _
      have hva := (hlines a).major_eq v hv
      have hwb := (hlines b).major_eq w hw
      refine h.precedes_of_major hv'.1 ?_ (hwb.trans (List.mem_singleton.1 hb))
      intro heq
      exact hnot (heq ▸ hva ▸ ha)

/-! ### The two lists -/

/-- **Every previous unreleased version has its indices read.** The unreleased versions whose
indices are read and the previous unreleased versions are the same, each of them once; and if the
transition does not name the own major, they come in the same order. -/
theorem unreleasedIndexCompatible_previousUnreleased (h : build declared current p = .ok m) :
    m.unreleasedIndexCompatible.Nodup ∧ (m.previousUnreleased.map (·.version)).Nodup ∧
    (∀ v, v ∈ m.unreleasedIndexCompatible ↔ v ∈ m.previousUnreleased.map (·.version)) ∧
    ((∀ t, p.transition? current.major = some t → current.major ∉ t.extraIndexMajors) →
      m.unreleasedIndexCompatible = m.previousUnreleased.map (·.version)) := by
  have hbuilt := build_eq_ok_iff.1 h
  have hmem : ∀ v, v ∈ m.unreleasedIndexCompatible ↔ v ∈ m.previousUnreleased.map (·.version) := by
    intro v
    rw [hbuilt.mem_unreleasedIndexCompatible, hbuilt.mem_previousUnreleased]
  refine ⟨hbuilt.nodup_unreleasedIndexCompatible,
    nodup_of_pairwise hbuilt.pairwise_previousUnreleased, hmem, fun hextra => ?_⟩
  exact eq_of_pairwise_of_mem_iff (hbuilt.pairwise_unreleasedIndexCompatible hextra)
    hbuilt.pairwise_previousUnreleased hmem

/-- The lines 1 and 2 of a project and the end of line 7 of its predecessor. -/
def continuedLines : SortedSet Version := .ofList
  [.of 1 2 0, .of 1 3 0, .of 1 3 1, .of 2 0 0, .of 2 0 1, .of 2 1 0, .of 7 10 0, .of 7 10 1]

/-- Line 7 is read before line 1, but none of its versions is unreleased. -/
theorem unreleasedIndexCompatible_continuedLines :
    ∃ m, build continuedLines (.of 2 1 0) .standard = .ok m ∧
      .of 7 10 1 ∈ m.indexCompatible ∧
      m.unreleasedIndexCompatible = [.of 1 3 1, .of 2 0 1] ∧
      m.unreleasedIndexCompatible = m.previousUnreleased.map (·.version) := by
  refine ⟨_, rfl, by decide, rfl, ?_⟩
  have h : build continuedLines (.of 2 1 0) .standard = .ok _ := rfl
  obtain ⟨-, -, -, heq⟩ := unreleasedIndexCompatible_previousUnreleased h
  refine heq fun t ht => ?_
  cases ht
  decide

end Matrix

end ReleaseMatrix
