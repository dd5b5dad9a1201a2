import ReleaseMatrix.Policy.ReleaseOrder
import ReleaseMatrix.Proofs.Collection

/-!
# Lists in release order

A list is in release order if every version in it precedes those behind it. Sorting brings the
versions of any list into release order, dropping repeats then leaves each of them once, and the
newest version of a list is the one that all others precede. On one major line release order is the
order of the numbers; between two lines it looks at the majors only.

## What is proved

* `pairwise_dropRepeats`: dropping repeats makes an order strict.
* `Policy.newest?_eq_some_iff`: the newest version of a list is its latest in release order.
* `Policy.sortReleases_canonical`: release order is a strict total order, by which sorting, the
  newest version and dropping repeats agree.
-/

namespace ReleaseMatrix

/-! ### Dropping repeats -/

section

variable {α : Type} {r : α → α → Prop} [DecidableEq α]

/-- Dropping repeats keeps every member. -/
@[simp] theorem mem_dropRepeats {xs : List α} {x : α} : x ∈ dropRepeats xs ↔ x ∈ xs := by
  fun_induction dropRepeats xs with
  | case1 => simp
  | case2 => simp
  | case3 y rest ih => simp [ih]
  | case4 y z rest _ ih => simp [ih]

/-- Dropping repeats makes an order strict. -/
theorem pairwise_dropRepeats [Std.Asymm r] {xs : List α}
    (h : xs.Pairwise fun x y => x = y ∨ r x y) : (dropRepeats xs).Pairwise r := by
  fun_induction dropRepeats xs with
  | case1 => exact .nil
  | case2 x => exact List.pairwise_singleton r x
  | case3 y rest ih => exact ih (List.pairwise_cons.1 h).2
  | case4 x y rest hne ih =>
    obtain ⟨hx, hrest⟩ := List.pairwise_cons.1 h
    have hxy : r x y := (hx y List.mem_cons_self).resolve_left hne
    refine List.pairwise_cons.2 ⟨?_, ih hrest⟩
    intro z hz
    rcases List.mem_cons.1 (mem_dropRepeats.1 hz) with rfl | hz
    · exact hxy
    · -- a later repeat of `x` would stand behind `y` and yet not follow it
      refine (hx z (List.mem_cons_of_mem _ hz)).resolve_left ?_
      rintro rfl
      rcases (List.pairwise_cons.1 hrest).1 x hz with rfl | hyx
      · exact hne rfl
      · exact Std.Asymm.asymm x y hxy hyx

end

/-! ### Release order -/

namespace Policy

variable {p : Policy}

instance : Std.Asymm p.Precedes where
  asymm v _ h h' := not_precedes_self v (h.trans h')

theorem eq_or_precedes_of_not_precedes {v w : Version} (h : ¬ p.Precedes w v) :
    v = w ∨ p.Precedes v w := by
  rcases p.precedes_trichotomy v w with h' | h' | h'
  · exact .inr h'
  · exact .inl h'
  · exact absurd h' h

/-- On one major line release order is the order of the numbers. -/
theorem precedes_iff_lt {v w : Version} (h : v.major = w.major) : p.Precedes v w ↔ v < w := by
  rw [precedes_def, h]
  simp

/-- On its major the newest version has the greatest numbers. -/
theorem le_of_isLatest {versions : List Version} {v w : Version}
    (h : IsLatest p.Precedes versions v) (hw : w ∈ versions) (hmajor : w.major = v.major) :
    w ≤ v := by
  by_cases hne : w = v
  · exact Version.le_def.2 (.inr hne)
  · exact Version.le_def.2 (.inl ((precedes_iff_lt hmajor).1 (h.2 w hw hne)))

/-- Between two major lines release order looks at the majors only. -/
theorem Precedes.of_majors {v v' w w' : Version} (h : p.Precedes v w) (hne : v.major ≠ w.major)
    (hv : v'.major = v.major) (hw : w'.major = w.major) : p.Precedes v' w' := by
  rw [precedes_def, Version.lt_def] at *
  rw [hv, hw]
  refine h.imp id (And.imp id fun hlt => .inl ?_)
  omega

/-- A version on another major than the newest one precedes everything on that major. -/
theorem precedes_of_isLatest {versions : List Version} {v w newest : Version}
    (h : IsLatest p.Precedes versions newest) (hv : v ∈ versions)
    (hmajor : v.major ≠ newest.major) (hw : w.major = newest.major) : p.Precedes v w := by
  have hne : v ≠ newest := fun heq => hmajor (congrArg _ heq)
  exact (h.2 v hv hne).of_majors hmajor rfl hw

theorem mem_insertRelease {v w : Version} {versions : List Version} :
    w ∈ p.insertRelease v versions ↔ w = v ∨ w ∈ versions := by
  induction versions with
  | nil => simp [insertRelease]
  | cons u rest ih =>
    rw [insertRelease]
    split
    · rw [List.mem_cons, ih, List.mem_cons]
      exact or_left_comm
    · exact List.mem_cons

theorem pairwise_insertRelease (v : Version) {versions : List Version}
    (h : versions.Pairwise fun v w => v = w ∨ p.Precedes v w) :
    (p.insertRelease v versions).Pairwise fun v w => v = w ∨ p.Precedes v w := by
  induction versions with
  | nil => exact List.pairwise_singleton _ v
  | cons u rest ih =>
    obtain ⟨hu, hrest⟩ := List.pairwise_cons.1 h
    rw [insertRelease]
    split
    · rename_i huv
      refine List.pairwise_cons.2 ⟨?_, ih hrest⟩
      intro w hw
      rcases mem_insertRelease.1 hw with rfl | hw
      · exact .inr huv
      · exact hu w hw
    · rename_i huv
      refine List.pairwise_cons.2 ⟨?_, h⟩
      intro w hw
      have hvu := eq_or_precedes_of_not_precedes huv
      rcases List.mem_cons.1 hw with rfl | hw
      · exact hvu
      · rcases hu w hw with rfl | huw
        · exact hvu
        · rcases hvu with rfl | hvu
          · exact .inr huw
          · exact .inr (hvu.trans huw)

/-- Sorting brings the versions into release order. -/
theorem pairwise_sortReleases (versions : List Version) :
    (p.sortReleases versions).Pairwise fun v w => v = w ∨ p.Precedes v w := by
  induction versions with
  | nil => exact .nil
  | cons v rest ih => exact pairwise_insertRelease v ih

/-- Sorting versions without repeats brings them into strict release order. -/
theorem pairwise_sortReleases_of_nodup {versions : List Version} (h : versions.Nodup) :
    (p.sortReleases versions).Pairwise p.Precedes := by
  have hnodup : (p.sortReleases versions).Nodup := (sortReleases_perm versions).nodup_iff.2 h
  exact (pairwise_sortReleases versions).imp₂ (fun v w hvw hne => hvw.resolve_left hne) hnodup

/-! ### The newest version -/

/-- One more version is the newest unless it precedes the newest of those before it. -/
theorem newest?_concat (versions : List Version) (v : Version) :
    p.newest? (versions ++ [v]) = match p.newest? versions with
      | none => some v
      | some b => if p.Precedes v b then some b else some v := by
  rw [newest?, List.foldl_append]
  rfl

theorem isLatest_concat {versions : List Version} {b v : Version}
    (h : IsLatest p.Precedes versions b) (hv : p.Precedes v b) :
    IsLatest p.Precedes (versions ++ [v]) b := by
  refine ⟨List.mem_append_left _ h.1, ?_⟩
  intro y hy hne
  rcases List.mem_append.1 hy with hy | hy
  · exact h.2 y hy hne
  · exact List.mem_singleton.1 hy ▸ hv

theorem isLatest_concat_self {versions : List Version} {b v : Version}
    (h : IsLatest p.Precedes versions b) (hv : b = v ∨ p.Precedes b v) :
    IsLatest p.Precedes (versions ++ [v]) v := by
  refine ⟨by simp, ?_⟩
  intro y hy hne
  rcases List.mem_append.1 hy with hy | hy
  · by_cases hyb : y = b
    · subst hyb
      exact hv.resolve_left hne
    · have hyb := h.2 y hy hyb
      rcases hv with rfl | hv
      · exact hyb
      · exact hyb.trans hv
  · exact absurd (List.mem_singleton.1 hy) hne

theorem isLatest_newest? (versions : List Version) :
    (versions = [] ∧ p.newest? versions = none) ∨
      ∃ v, p.newest? versions = some v ∧ IsLatest p.Precedes versions v := by
  induction versions using List.reverseRecOn with
  | nil => exact .inl ⟨rfl, rfl⟩
  | append_singleton versions v ih =>
    right
    rw [newest?_concat]
    rcases ih with ⟨rfl, hnone⟩ | ⟨b, hb, hlatest⟩
    · rw [hnone]
      refine ⟨v, rfl, by simp, ?_⟩
      intro y hy hne
      exact absurd (List.mem_singleton.1 hy) hne
    · rw [hb]
      by_cases hvb : p.Precedes v b
      · exact ⟨b, if_pos hvb, isLatest_concat hlatest hvb⟩
      · exact ⟨v, if_neg hvb,
          isLatest_concat_self hlatest (eq_or_precedes_of_not_precedes hvb)⟩

theorem newest?_eq_none_iff {versions : List Version} :
    p.newest? versions = none ↔ versions = [] := by
  rcases isLatest_newest? (p := p) versions with ⟨rfl, h⟩ | ⟨v, h, hlatest⟩
  · exact ⟨fun _ => rfl, fun _ => h⟩
  · constructor
    · intro hnone
      rw [h] at hnone
      cases hnone
    · rintro rfl
      exact absurd hlatest.1 List.not_mem_nil

/-- The newest version of a list is the one that all others precede. -/
theorem newest?_eq_some_iff {versions : List Version} {v : Version} :
    p.newest? versions = some v ↔ IsLatest p.Precedes versions v := by
  rcases isLatest_newest? (p := p) versions with ⟨rfl, h⟩ | ⟨w, h, hlatest⟩
  · constructor
    · intro hsome
      rw [h] at hsome
      cases hsome
    · intro hlatest
      exact absurd hlatest.1 List.not_mem_nil
  · rw [h, Option.some.injEq]
    constructor
    · rintro rfl
      exact hlatest
    · intro hv
      exact hlatest.unique hv

/-! ### Sorting, the newest version and dropping repeats agree -/

instance : IsStrictTotalOrder Version p.Precedes where
  irrefl := not_precedes_self
  trans _ _ _ := Precedes.trans
  trichotomous v w h h' := (p.precedes_trichotomy v w).resolve_left h |>.resolve_right h'

/-- Two lists are sorted to the same list exactly if they have the same versions equally often. -/
theorem sortReleases_eq_iff_perm {versions versions' : List Version} :
    p.sortReleases versions = p.sortReleases versions' ↔ versions.Perm versions' := by
  constructor
  · intro h
    have hperm := (sortReleases_perm (p := p) versions).symm
    rw [h] at hperm
    exact hperm.trans (sortReleases_perm versions')
  · intro h
    have hperm : (p.sortReleases versions).Perm (p.sortReleases versions') :=
      (sortReleases_perm versions).trans (h.trans (sortReleases_perm versions').symm)
    refine hperm.eq_of_pairwise ?_ (pairwise_sortReleases versions)
      (pairwise_sortReleases versions')
    rintro v w - - hvw hwv
    rcases hvw with rfl | hvw
    · rfl
    · exact (hwv.resolve_right (Std.Asymm.asymm v w hvw)).symm

/-- The newest version is the last one in release order. -/
theorem newest?_eq_getLast? (versions : List Version) :
    p.newest? versions = (p.sortReleases versions).getLast? := by
  cases hlast : (p.sortReleases versions).getLast? with
  | none =>
    have hnil : p.sortReleases versions = [] := List.getLast?_eq_none_iff.1 hlast
    have hperm := sortReleases_perm (p := p) versions
    rw [hnil] at hperm
    exact newest?_eq_none_iff.2 hperm.nil_eq.symm
  | some v =>
    have hlatest := isLatest_of_getLast? (pairwise_sortReleases versions) hlast
    refine newest?_eq_some_iff.2 ⟨mem_sortReleases.1 hlatest.1, fun w hw hne => ?_⟩
    exact hlatest.2 w (mem_sortReleases.2 hw) hne

/-- The newest version depends on the members of a list only. -/
theorem newest?_eq_of_mem_iff {versions versions' : List Version}
    (h : ∀ v, v ∈ versions ↔ v ∈ versions') : p.newest? versions = p.newest? versions' := by
  ext v
  rw [newest?_eq_some_iff, newest?_eq_some_iff, IsLatest, IsLatest, h]
  simp only [h]

theorem pairwise_dropRepeats_sortReleases (versions : List Version) :
    (dropRepeats (p.sortReleases versions)).Pairwise p.Precedes :=
  pairwise_dropRepeats (pairwise_sortReleases versions)

/-- Without repeats the sorted list has every version of a list once. -/
theorem count_dropRepeats_sortReleases (versions : List Version) (v : Version) :
    (dropRepeats (p.sortReleases versions)).count v = if v ∈ versions then 1 else 0 := by
  have hnodup : (dropRepeats (p.sortReleases versions)).Nodup :=
    nodup_of_pairwise (pairwise_dropRepeats_sortReleases versions)
  simp only [hnodup.count, mem_dropRepeats, mem_sortReleases]

/-- **Release order is a strict total order, and everything goes by it.** Sorting rearranges a list
into ascending order; lists with the same versions are sorted to the same list, whatever their
order; the newest version is the last one of the sorted list, and there is one unless the list is
empty; and without its repeats the sorted list has every version of the list once, in strictly
ascending order. -/
theorem sortReleases_canonical (p : Policy) :
    IsStrictTotalOrder Version p.Precedes ∧
    (∀ versions, (p.sortReleases versions).Perm versions ∧
      (p.sortReleases versions).Pairwise fun v w => v = w ∨ p.Precedes v w) ∧
    (∀ versions versions',
      p.sortReleases versions = p.sortReleases versions' ↔ versions.Perm versions') ∧
    (∀ versions, p.newest? versions = (p.sortReleases versions).getLast? ∧
      (p.newest? versions = none ↔ versions = [])) ∧
    (∀ versions versions', (∀ v, v ∈ versions ↔ v ∈ versions') →
      p.newest? versions = p.newest? versions') ∧
    ∀ versions, (dropRepeats (p.sortReleases versions)).Pairwise p.Precedes ∧
      ∀ v, (dropRepeats (p.sortReleases versions)).count v = if v ∈ versions then 1 else 0 := by
  refine ⟨inferInstance, fun versions => ?_, fun _ _ => sortReleases_eq_iff_perm,
    fun versions => ?_, fun _ _ => newest?_eq_of_mem_iff, fun versions => ?_⟩
  · exact ⟨sortReleases_perm versions, pairwise_sortReleases versions⟩
  · exact ⟨newest?_eq_getLast? versions, newest?_eq_none_iff⟩
  · exact ⟨pairwise_dropRepeats_sortReleases versions, count_dropRepeats_sortReleases versions⟩

end Policy

end ReleaseMatrix
