import ReleaseMatrix.Lines.Minor
import ReleaseMatrix.Proofs.ReleaseOrder

/-!
# What the look-ups of a line give

The kept lines of a build represent the declared versions that its policy keeps: a version is on the
line of its major if it is declared and that major is retained. This module says of every look-up
what it gives in terms of the versions on a line. A line is ascending, so its last version is its
newest. The newest version of a minor is a *leaf* of the line, and a minor is *alone* if it has a
single version.
-/

namespace ReleaseMatrix

/-! ### Lines of versions -/

instance : Std.Asymm (α := Version) (· < ·) where
  asymm v _ h h' := v.lt_irrefl (Version.lt_trans h h')

/-- The versions on one major line, ascending. -/
structure IsLine (major : Nat) (line : List Version) : Prop where
  /-- The line is ascending. -/
  ascending : line.Pairwise (· < ·)
  /-- The line has versions of its own major only. -/
  major_eq : ∀ v ∈ line, v.major = major

/-- The newest version of its minor on a line. -/
def IsLeaf (line : List Version) (v : Version) : Prop :=
  v ∈ line ∧ ∀ w ∈ line, w.minor = v.minor → w ≤ v

/-- A minor of which a line has a single version. -/
def IsAlone (line : List Version) (minor : Nat) : Prop := ∃! v, v ∈ line ∧ v.minor = minor

namespace IsLine

variable {major : Nat} {line : List Version} {t v : Version}

theorem nil (major : Nat) : IsLine major [] := ⟨.nil, fun _ h => absurd h List.not_mem_nil⟩

theorem nodup (h : IsLine major line) : line.Nodup := nodup_of_pairwise h.ascending

/-- A line is in release order. -/
theorem pairwise_precedes (h : IsLine major line) {p : Policy} : line.Pairwise p.Precedes := by
  refine h.ascending.imp_of_mem fun {v w} hv hw hlt => ?_
  have hsame : v.major = w.major := (h.major_eq v hv).trans (h.major_eq w hw).symm
  exact (Policy.precedes_iff_lt hsame).2 hlt

theorem exists_isLatest (h : IsLine major line) (hne : line ≠ []) :
    ∃ t, IsLatest (· < ·) line t := by
  cases ht : line.getLast? with
  | none => exact absurd (List.getLast?_eq_none_iff.1 ht) hne
  | some t => exact ⟨t, (getLast?_eq_some_iff_of_pairwise h.ascending).1 ht⟩

/-- The minor of the newest version of a line is the greatest of the line. -/
theorem minor_le (h : IsLine major line) (ht : IsLatest (· < ·) line t) (hv : v ∈ line) :
    v.minor ≤ t.minor := by
  by_cases hne : v = t
  · exact Nat.le_of_eq (hne ▸ rfl)
  · have hlt : v < t := ht.2 v hv hne
    have hmajor : v.major = t.major := (h.major_eq v hv).trans (h.major_eq t ht.1).symm
    rw [Version.lt_def] at hlt
    omega

end IsLine

/-- The newest version of a line is a leaf. -/
theorem IsLatest.isLeaf {line : List Version} {t : Version} (h : IsLatest (· < ·) line t) :
    IsLeaf line t := by
  refine ⟨h.1, ?_⟩
  intro w hw _
  by_cases hne : w = t
  · exact Version.le_def.2 (.inr hne)
  · exact Version.le_def.2 (.inl (h.2 w hw hne))

/-- A line has one leaf in each of its minors. -/
theorem IsLeaf.unique {line : List Version} {v w : Version} (hv : IsLeaf line v)
    (hw : IsLeaf line w) (h : v.minor = w.minor) : v = w := by
  have hvw := hw.2 v hv.1 h
  have hwv := hv.2 w hw.1 h.symm
  rcases Version.le_def.1 hvw with hlt | heq
  · exact absurd hlt (Version.le_iff_not_lt.1 hwv)
  · exact heq

/-- A filter by minor has a maximum exactly at a leaf. -/
theorem max?_filter_minor_eq_some_iff {line : List Version} {minor : Nat} {v : Version} :
    (line.filter fun w => w.minor = minor).max? = some v ↔ IsLeaf line v ∧ v.minor = minor := by
  rw [List.max?_eq_some_iff]
  simp only [List.mem_filter, decide_eq_true_eq]
  constructor
  · rintro ⟨⟨hv, rfl⟩, hle⟩
    exact ⟨⟨hv, fun w hw hminor => hle w ⟨hw, hminor⟩⟩, rfl⟩
  · rintro ⟨⟨hv, hle⟩, rfl⟩
    exact ⟨⟨hv, rfl⟩, fun w ⟨hw, hminor⟩ => hle w hw hminor⟩

/-! ### Minor lines -/

namespace MinorLines

variable {line : List Version}

theorem newest?_of {minor : Nat} {v : Version} :
    (of line).newest? minor = some v ↔ IsLeaf line v ∧ v.minor = minor := by
  rw [newest?, line_of]
  exact max?_filter_minor_eq_some_iff

theorem contains_of {v : Version} : (of line).contains v ↔ v ∈ line := by
  simp [contains, line_of]

theorem isSingle_of (h : line.Nodup) {minor : Nat} :
    (of line).IsSingle minor ↔ IsAlone line minor := by
  rw [IsSingle, line_of, length_eq_one_iff_existsUnique (h.filter _)]
  simp only [List.mem_filter, decide_eq_true_eq, IsAlone]

theorem greatestMinor?_of {minor : Nat} : (of line).greatestMinor? = some minor ↔
    (∃ v ∈ line, v.minor = minor) ∧ ∀ v ∈ line, v.minor ≤ minor := by
  rw [greatestMinor?, getLast?_eq_some_iff_of_pairwise (Table.keys_ascending _)]
  simp only [IsLatest, of, Table.mem_keys_groupBy]
  refine and_congr_right fun _ => ?_
  constructor
  · intro h v hv
    by_cases hne : v.minor = minor
    · exact Nat.le_of_eq hne
    · exact Nat.le_of_lt (h v.minor ⟨v, hv, rfl⟩ hne)
  · rintro h m ⟨v, hv, rfl⟩ hne
    exact Nat.lt_of_le_of_ne (h v hv) hne

end MinorLines

/-! ### Retained lines -/

/-- A policy that keeps any line keeps that of the current version. -/
theorem Policy.retains_self {p : Policy} (h : 0 < p.retainedMajors) (major : Nat) :
    p.Retains major major := by
  rw [Retains]
  omega

/-- A declared version on a major line that the policy retains for the current version. -/
def Policy.Keeps (p : Policy) (declared : SortedSet Version) (current v : Version) : Prop :=
  v ∈ declared ∧ p.Retains current.major v.major

namespace RetainedLines

/-- Every line is one major line. -/
def Ordered (lines : RetainedLines) : Prop := ∀ major, IsLine major (lines.line major)

section

variable {declared : SortedSet Version} {current : Version} {p : Policy}

/-- A line has exactly the kept versions of its major. -/
theorem mem_line_of {major : Nat} {v : Version} :
    v ∈ (of declared current p).line major ↔ p.Keeps declared current v ∧ v.major = major := by
  rw [line_of]
  simp only [List.mem_filter, decide_eq_true_eq, Policy.Keeps, SortedSet.mem_def]
  constructor
  · rintro ⟨hv, rfl, hretains⟩
    exact ⟨⟨hv, hretains⟩, rfl⟩
  · rintro ⟨⟨hv, hretains⟩, rfl⟩
    exact ⟨hv, rfl, hretains⟩

/-- A line is empty exactly if no version of its major is kept. -/
theorem line_of_eq_nil_iff {major : Nat} : (of declared current p).line major = [] ↔
    ∀ v, p.Keeps declared current v → v.major ≠ major := by
  simp only [List.eq_nil_iff_forall_not_mem, mem_line_of, not_and]

theorem ordered_of : (of declared current p).Ordered := by
  refine fun major => ⟨?_, fun v hv => (mem_line_of.1 hv).2⟩
  rw [line_of]
  exact declared.ascending.filter _

theorem mem_majors_of {major : Nat} :
    major ∈ (of declared current p).majors ↔ ∃ v, p.Keeps declared current v ∧ v.major = major := by
  rw [majors, of, Table.mem_keys_groupBy]
  simp only [List.mem_filter, decide_eq_true_eq, Policy.Keeps, SortedSet.mem_def]

theorem mem_versions_of {v : Version} :
    v ∈ (of declared current p).versions ↔ p.Keeps declared current v := by
  rw [versions, Table.mem_flatMap_rows]
  constructor
  · rintro ⟨major, hv⟩
    exact (mem_line_of.1 hv).1
  · intro hv
    exact ⟨v.major, mem_line_of.2 ⟨hv, rfl⟩⟩

/-- The search finds the kept versions, since it is on ascending lines. -/
theorem contains_of {v : Version} :
    (of declared current p).contains v ↔ p.Keeps declared current v := by
  rw [contains, searchSorted_iff (ordered_of v.major).ascending, mem_line_of]
  exact and_iff_left rfl

end

variable {lines : RetainedLines} {major minor : Nat} {v : Version}

/-- Line by line, the versions of ordered lines ascend. -/
theorem Ordered.pairwise_versions (h : lines.Ordered) : lines.versions.Pairwise (· < ·) := by
  have hrow : ∀ row ∈ lines.table.rows, IsLine row.1 row.2 := by
    intro row hmem
    have hgroup := h row.1
    rwa [line, Table.group_of_mem_rows hmem] at hgroup
  refine List.pairwise_flatMap.2 ⟨fun row hmem => (hrow row hmem).ascending, ?_⟩
  refine lines.table.ascending.imp_of_mem ?_
  intro a b ha hb hab v hv w hw
  rw [← (hrow a ha).major_eq v hv, ← (hrow b hb).major_eq w hw] at hab
  exact Version.lt_def.2 (.inl hab)

theorem Ordered.newest_eq_ok_iff (h : lines.Ordered) :
    lines.newest major = .ok v ↔ IsLatest (· < ·) (lines.line major) v := by
  rw [← getLast?_eq_some_iff_of_pairwise (h major).ascending, newest]
  cases (lines.line major).getLast? <;> simp

theorem newest_eq_error_iff {e : MatrixError} :
    lines.newest major = .error e ↔ e = .missingLine major ∧ lines.line major = [] := by
  rw [← List.getLast?_eq_none_iff, newest]
  cases (lines.line major).getLast? <;> simp [eq_comm]

theorem newestInMinor?_eq_some_iff :
    lines.newestInMinor? major minor = some v ↔ IsLeaf (lines.line major) v ∧ v.minor = minor :=
  max?_filter_minor_eq_some_iff

end RetainedLines

end ReleaseMatrix
