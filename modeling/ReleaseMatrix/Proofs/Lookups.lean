import ReleaseMatrix.Proofs.Pending

/-!
# What the groupings represent

Two groupings hold versions in tables of lists: by major the declared versions that a build keeps,
and by minor any list of versions. Both are read through look-ups only. A grouping *represents* the
versions it was made of if each of its look-ups, however it is carried out, answers what is said of
these versions: by a search in a list, by the last member of a list or by its maximum.

## What is proved

* `RetainedLines.represents_keeps`: the kept lines of a build represent the kept versions.
* `MinorLines.represents_and_agrees`: minor lines represent the list they were made of, and made of
  a kept line they agree with it about the newest versions.
-/

namespace ReleaseMatrix

/-! ### Look-ups that find nothing -/

theorem max?_filter_minor_eq_none_iff {line : List Version} {minor : Nat} :
    (line.filter fun v => v.minor = minor).max? = none ↔ ∀ v ∈ line, v.minor ≠ minor := by
  rw [List.max?_eq_none_iff, List.filter_eq_nil_iff]
  simp only [decide_eq_true_eq, ne_eq]

/-! ### Grouping by major -/

namespace RetainedLines

/-- Every look-up of the lines answers what is said of a set of versions. -/
structure Represents (lines : RetainedLines) (kept : Set Version) : Prop where
  /-- The majors ascend. -/
  majors_ascending : lines.majors.Pairwise (· < ·)
  /-- They are the majors of the versions. -/
  mem_majors : ∀ major, major ∈ lines.majors ↔ ∃ v ∈ kept, v.major = major
  /-- The line of each of them has a version, and no other line has one. -/
  line_eq_nil_iff : ∀ major, lines.line major = [] ↔ major ∉ lines.majors
  /-- A line ascends. -/
  line_ascending : ∀ major, (lines.line major).Pairwise (· < ·)
  /-- A line has the versions of its major. -/
  mem_line : ∀ major v, v ∈ lines.line major ↔ v ∈ kept ∧ v.major = major
  /-- The versions ascend, line by line. -/
  versions_ascending : lines.versions.Pairwise (· < ·)
  /-- They are the versions of the set. -/
  mem_versions : ∀ v, v ∈ lines.versions ↔ v ∈ kept
  /-- The search finds the versions of the set. -/
  contains_iff : ∀ v, lines.contains v ↔ v ∈ kept
  /-- The newest version of a line is the greatest of its major. -/
  newest_eq_ok_iff : ∀ major v,
    lines.newest major = .ok v ↔ IsGreatest {w ∈ kept | w.major = major} v
  /-- It is missed exactly if the set has no version of that major. -/
  newest_eq_error_iff : ∀ major e,
    lines.newest major = .error e ↔ e = .missingLine major ∧ ∀ v ∈ kept, v.major ≠ major
  /-- The newest version of a minor is the greatest of its major and minor. -/
  newestInMinor?_eq_some_iff : ∀ major minor v, lines.newestInMinor? major minor = some v ↔
    IsGreatest {w ∈ kept | w.major = major ∧ w.minor = minor} v
  /-- There is none exactly if the set has no version of that major and minor. -/
  newestInMinor?_eq_none_iff : ∀ major minor, lines.newestInMinor? major minor = none ↔
    ∀ v ∈ kept, ¬ (v.major = major ∧ v.minor = minor)

variable {declared : SortedSet Version} {current v : Version} {p : Policy} {major minor : Nat}

theorem line_of_eq_nil_iff_not_mem_majors :
    (of declared current p).line major = [] ↔ major ∉ (of declared current p).majors := by
  rw [line_of_eq_nil_iff, mem_majors_of]
  push Not
  rfl

theorem newestInMinor?_of_eq_some_iff :
    (of declared current p).newestInMinor? major minor = some v ↔
      IsGreatest {w | p.Keeps declared current w ∧ w.major = major ∧ w.minor = minor} v := by
  rw [newestInMinor?_eq_some_iff, ← isHighest_keptOn, IsHighest, keptOn]
  simp only [Set.mem_ofPred_eq, and_assoc]

theorem newestInMinor?_of_eq_none_iff :
    (of declared current p).newestInMinor? major minor = none ↔
      ∀ v, p.Keeps declared current v → ¬ (v.major = major ∧ v.minor = minor) := by
  rw [newestInMinor?, max?_filter_minor_eq_none_iff]
  simp only [mem_line_of, and_imp, not_and, ne_eq]

/-- **The kept lines represent the kept versions**: those that are declared on a major which the
policy retains for the current version. -/
theorem represents_keeps (declared : SortedSet Version) (current : Version) (p : Policy) :
    (of declared current p).Represents {v | v ∈ declared ∧ p.Retains current.major v.major} where
  majors_ascending := Table.keys_ascending _
  mem_majors _ := mem_majors_of
  line_eq_nil_iff _ := line_of_eq_nil_iff_not_mem_majors
  line_ascending major := (ordered_of major).ascending
  mem_line _ _ := mem_line_of
  versions_ascending := ordered_of.pairwise_versions
  mem_versions _ := mem_versions_of
  contains_iff _ := contains_of
  newest_eq_ok_iff _ _ := by
    rw [ordered_of.newest_eq_ok_iff, ← isGreatest_keptOn]
    rfl
  newest_eq_error_iff _ _ := by
    rw [newest_eq_error_iff, line_of_eq_nil_iff]
    rfl
  newestInMinor?_eq_some_iff _ _ _ := newestInMinor?_of_eq_some_iff
  newestInMinor?_eq_none_iff _ _ := newestInMinor?_of_eq_none_iff

end RetainedLines

/-! ### Grouping by minor -/

namespace MinorLines

/-- Every look-up of the lines answers what is said of a list of versions. -/
structure Represents (lines : MinorLines) (versions : List Version) : Prop where
  /-- A line has the versions of its minor, as often and in the order in which the list has them. -/
  line_eq : ∀ minor, lines.line minor = versions.filter fun v => v.minor = minor
  /-- The greatest minor is that of the list. -/
  greatestMinor?_eq_some_iff : ∀ minor,
    lines.greatestMinor? = some minor ↔ IsGreatest {n | ∃ v ∈ versions, v.minor = n} minor
  /-- There is none exactly if the list is empty. -/
  greatestMinor?_eq_none_iff : lines.greatestMinor? = none ↔ versions = []
  /-- The newest version of a minor is the greatest of the list with that minor. -/
  newest?_eq_some_iff : ∀ minor v,
    lines.newest? minor = some v ↔ IsGreatest {w | w ∈ versions ∧ w.minor = minor} v
  /-- There is none exactly if the list has no version of that minor. -/
  newest?_eq_none_iff : ∀ minor, lines.newest? minor = none ↔ ∀ v ∈ versions, v.minor ≠ minor
  /-- The versions of the list are contained. -/
  contains_iff : ∀ v, lines.contains v ↔ v ∈ versions

variable {versions : List Version} {minor : Nat}

theorem greatestMinor?_of_eq_none_iff : (of versions).greatestMinor? = none ↔ versions = [] := by
  rw [greatestMinor?, List.getLast?_eq_none_iff, List.eq_nil_iff_forall_not_mem]
  simp only [of, Table.mem_keys_groupBy]
  constructor
  · intro h
    exact List.eq_nil_iff_forall_not_mem.2 fun v hv => h v.minor ⟨v, hv, rfl⟩
  · rintro rfl _ ⟨v, hv, -⟩
    exact absurd hv List.not_mem_nil

theorem represents_of (versions : List Version) : (of versions).Represents versions where
  line_eq := line_of versions
  greatestMinor?_eq_some_iff minor := by
    rw [greatestMinor?_of]
    refine and_congr_right fun _ => ⟨?_, fun h v hv => h ⟨v, hv, rfl⟩⟩
    rintro h _ ⟨v, hv, rfl⟩
    exact h v hv
  greatestMinor?_eq_none_iff := greatestMinor?_of_eq_none_iff
  newest?_eq_some_iff minor v := by
    rw [newest?_of, ← isHighest_iff_isLeaf]
    rfl
  newest?_eq_none_iff minor := by
    rw [newest?, line_of, max?_filter_minor_eq_none_iff]
  contains_iff _ := contains_of

/-- **Minor lines represent their list and agree with the kept lines.** Whatever list they are made
of, in any order and with repeats, their look-ups answer what is said of that list. Made of a kept
line, they give the same newest version of every minor as that line, and if it has a version their
greatest minor is that of its newest one. -/
theorem represents_and_agrees :
    (∀ versions, (of versions).Represents versions) ∧
    ∀ declared current p major,
      (∀ minor, (of ((RetainedLines.of declared current p).line major)).newest? minor =
        (RetainedLines.of declared current p).newestInMinor? major minor) ∧
      ((RetainedLines.of declared current p).line major ≠ [] →
        ∃ t, (RetainedLines.of declared current p).newest major = .ok t ∧
          (of ((RetainedLines.of declared current p).line major)).greatestMinor? =
            some t.minor) := by
  refine ⟨represents_of, fun declared current p major => ⟨fun minor => ?_, fun hne => ?_⟩⟩
  · rw [newest?, line_of, RetainedLines.newestInMinor?]
  · have hlines : (RetainedLines.of declared current p).Ordered := RetainedLines.ordered_of
    obtain ⟨t, ht⟩ := (hlines major).exists_isLatest hne
    have hgreatest := (hlines major).greatestMinor?_eq_some_iff.2 ⟨t, ht, rfl⟩
    exact ⟨t, hlines.newest_eq_ok_iff.2 ht, hgreatest⟩

end MinorLines

end ReleaseMatrix
