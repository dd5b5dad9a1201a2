import ReleaseMatrix.Proofs.Projects
import ReleaseMatrix.Text.Cut
import ReleaseMatrix.Text.Numeral

/-!
# Branches are not shared

The branch of an unreleased version is the trunk, the branch of its major or the branch of its
minor. Written out, the last two show what they belong to: the digits before the point are the
major, and behind it stands an `x` or the digits of the minor. The branch of a major goes to its
newest minor only, and no two unreleased versions share a minor. So their branches differ, unless
the trunk is named like the branch of another line.
-/

namespace ReleaseMatrix

/-! ### The names of branches -/

/-- The number before a point is known from the text, and so is the text behind the point. -/
theorem eq_of_toDigits_append_point {m n : Nat} {s t : List Char}
    (h : Nat.toDigits 10 m ++ '.' :: s = Nat.toDigits 10 n ++ '.' :: t) : m = n ∧ s = t := by
  have hpoint : ∀ k, '.' ∉ Nat.toDigits 10 k := Text.not_mem_toDigits (by decide)
  obtain ⟨hdigits, hrest⟩ := Text.append_separator_inj (hpoint m) (hpoint n) h
  exact ⟨Text.eq_of_toDigits_eq hdigits, hrest⟩

namespace Version

variable {v w : Version}

theorem toList_minorBranch (v : Version) :
    v.minorBranch.toList = Nat.toDigits 10 v.major ++ '.' :: Nat.toDigits 10 v.minor := by
  simp [minorBranch]

theorem toList_majorBranch (v : Version) :
    v.majorBranch.toList = Nat.toDigits 10 v.major ++ '.' :: ['x'] := by
  simp [majorBranch]

theorem major_eq_of_majorBranch_eq (h : v.majorBranch = w.majorBranch) : v.major = w.major := by
  have hchars := congrArg String.toList h
  rw [toList_majorBranch, toList_majorBranch] at hchars
  exact (eq_of_toDigits_append_point hchars).1

theorem eq_of_minorBranch_eq (h : v.minorBranch = w.minorBranch) :
    (v.major, v.minor) = (w.major, w.minor) := by
  have hchars := congrArg String.toList h
  rw [toList_minorBranch, toList_minorBranch] at hchars
  obtain ⟨hmajor, hminor⟩ := eq_of_toDigits_append_point hchars
  rw [hmajor, Text.eq_of_toDigits_eq hminor]

theorem majorBranch_ne_minorBranch : v.majorBranch ≠ w.minorBranch := by
  intro h
  have hchars := congrArg String.toList h
  rw [toList_majorBranch, toList_minorBranch] at hchars
  have hx : 'x' ∈ Nat.toDigits 10 w.minor := by
    rw [← (eq_of_toDigits_append_point hchars).2]
    exact List.mem_singleton_self _
  exact Text.not_mem_toDigits (by decide) w.minor hx

end Version

/-! ### Which branch a version has -/

/-- The ways in which an unreleased version comes to its branch. -/
inductive OnBranch (lines : RetainedLines) (current : Version) (trunk : String) :
    Version → String → Prop
  /-- The current version is on the trunk. -/
  | trunk : OnBranch lines current trunk current trunk
  /-- A version on the newest minor of its line can be on the branch of the major. -/
  | major {t v : Version} (ht : IsLatest (· < ·) (lines.line v.major) t)
      (hminor : t.minor = v.minor) : OnBranch lines current trunk v v.majorBranch
  /-- Any version can be on the branch of its minor. -/
  | minor {v : Version} : OnBranch lines current trunk v v.minorBranch

/-- The branch of a version under a project, of which the distribution has the current version only.
-/
theorem RetainedLines.Ordered.onBranch {lines : RetainedLines} (hlines : lines.Ordered)
    {current v : Version} {trunk b : String} {project : Project}
    (h : lines.branch trunk v project = .ok b) (hproject : project = .distribution → v = current) :
    OnBranch lines current trunk v b := by
  cases project with
  | distribution =>
    obtain rfl := Except.ok.inj h
    rw [hproject rfl]
    exact .trunk
  | minor =>
    rw [RetainedLines.branch] at h
    cases hnewest : lines.newest v.major with
    | error e =>
      rw [hnewest] at h
      cases h
    | ok t =>
      rw [hnewest, ok_bind] at h
      rw [← Except.ok.inj h]
      split
      · rename_i hminor
        exact .major (hlines.newest_eq_ok_iff.1 hnewest) hminor
      · exact .minor
  | staged =>
    obtain rfl := Except.ok.inj h
    exact .minor
  | bugfix =>
    obtain rfl := Except.ok.inj h
    exact .minor
  | maintenance =>
    obtain rfl := Except.ok.inj h
    exact .minor

theorem Matrix.Built.onBranch {declared : SortedSet Version} {current : Version} {p : Policy}
    {m : Matrix} (h : Built declared current p m) {u : Unreleased} (hu : u ∈ m.unreleased) :
    OnBranch (.of declared current p) current p.trunkBranch u.version u.branch := by
  refine RetainedLines.ordered_of.onBranch (h.branch_eq hu) fun hproject => ?_
  rw [h.project_eq hu] at hproject
  exact Project.ofVersion_eq_iff.1 hproject

/-! ### One branch, one minor -/

/-- The trunk is not named like a branch of another line: neither like that of a major but the
current one, nor like that of a minor but the current one. -/
structure Policy.TrunkApart (p : Policy) (current : Version) : Prop where
  /-- The name is not that of another major. -/
  major : ∀ v : Version, p.trunkBranch = v.majorBranch → v.major = current.major
  /-- The name is not that of another minor. -/
  minor : ∀ v : Version, p.trunkBranch = v.minorBranch →
    (v.major, v.minor) = (current.major, current.minor)

namespace OnBranch

variable {lines : RetainedLines} {current v w : Version} {p : Policy} {b b' : String}

/-- Only the current minor has the name of the trunk. -/
theorem minor_eq_current (hv : OnBranch lines current p.trunkBranch v b)
    (hapart : p.TrunkApart current)
    (htip : ∀ t, IsLatest (· < ·) (lines.line current.major) t → t = current)
    (hb : b = p.trunkBranch) : (v.major, v.minor) = (current.major, current.minor) := by
  cases hv with
  | trunk => rfl
  | @major t _ ht hminor =>
    have hmajor : v.major = current.major := hapart.major v hb.symm
    rw [hmajor] at ht
    rw [hmajor, ← hminor, htip t ht]
  | minor => exact hapart.minor v hb.symm

/-- Versions on branches of one name are on one minor. -/
theorem minor_eq (hv : OnBranch lines current p.trunkBranch v b)
    (hw : OnBranch lines current p.trunkBranch w b') (hapart : p.TrunkApart current)
    (htip : ∀ t, IsLatest (· < ·) (lines.line current.major) t → t = current) (hb : b = b') :
    (v.major, v.minor) = (w.major, w.minor) := by
  cases hv with
  | trunk => exact (hw.minor_eq_current hapart htip hb.symm).symm
  | @major t _ ht hminor =>
    cases hw with
    | trunk => exact (major ht hminor).minor_eq_current hapart htip hb
    | @major t' _ ht' hminor' =>
      have hmajor : v.major = w.major := Version.major_eq_of_majorBranch_eq hb
      rw [hmajor] at ht
      rw [hmajor, ← hminor, ← hminor', ht.unique ht']
    | minor => exact absurd hb Version.majorBranch_ne_minorBranch
  | minor =>
    cases hw with
    | trunk => exact minor.minor_eq_current hapart htip hb
    | major => exact absurd hb.symm Version.majorBranch_ne_minorBranch
    | minor => exact Version.eq_of_minorBranch_eq hb

end OnBranch

namespace Matrix

variable {declared : SortedSet Version} {current : Version} {p : Policy} {m : Matrix}

/-- **Branches are not shared.** Unless the trunk is named like the branch of another line, the
branches of the unreleased versions are pairwise different. -/
theorem pairwise_branch_ne (h : build declared current p = .ok m)
    (hapart : p.TrunkApart current) : m.unreleased.Pairwise fun u w => u.branch ≠ w.branch := by
  have hbuilt := build_eq_ok_iff.1 h
  have hminors := hbuilt.pairwise_minor_ne
  rw [unreleasedVersions, List.pairwise_map] at hminors
  refine hminors.imp_of_mem fun hu hw hne hbranch => hne ?_
  exact (hbuilt.onBranch hu).minor_eq (hbuilt.onBranch hw) hapart
    (fun t ht => RetainedLines.eq_of_isLatest_line hbuilt.newest ht) hbranch

/-- The trunk may be named like the branch of the current major: no other version has that name,
since the current version is on the newest minor of its major. -/
theorem pairwise_branch_ne_stagedMinors :
    ∃ m, build stagedMinors (.of 5 3 0) { Policy.standard with trunkBranch := "5.x" } = .ok m ∧
      m.unreleased.map (·.branch) = ["4.2", "4.3", "5.1", "5.2", "5.x"] ∧
      ({ Policy.standard with trunkBranch := "5.x" } : Policy).TrunkApart (.of 5 3 0) ∧
      m.unreleased.Pairwise fun u w => u.branch ≠ w.branch := by
  have hname : "5.x" = (Version.of 5 0 0).majorBranch := rfl
  have hapart : ({ Policy.standard with trunkBranch := "5.x" } : Policy).TrunkApart (.of 5 3 0) := by
    refine ⟨fun v hv => ?_, fun v hv => ?_⟩
    · exact (Version.major_eq_of_majorBranch_eq (hname.symm.trans hv)).symm
    · exact absurd (hname.symm.trans hv) Version.majorBranch_ne_minorBranch
  refine ⟨_, rfl, by decide, hapart, ?_⟩
  have h : build stagedMinors (.of 5 3 0) { Policy.standard with trunkBranch := "5.x" } = .ok _ :=
    rfl
  exact pairwise_branch_ne h hapart

end Matrix

end ReleaseMatrix
