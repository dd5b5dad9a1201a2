/-!
# Versions

A version is a triple of numbers of 32 bits, ordered first by major, then by minor, then by
revision. The order is a strict total one, which is what makes a finite set of versions equal to its
ascending list.
-/

namespace ReleaseMatrix

/-- A version `major.minor.revision`; each number fits in 32 bits. -/
@[ext] structure Version where
  /-- The major number, which names a line of development. -/
  major : Nat
  /-- The minor number, which names a branch of its major line. -/
  minor : Nat
  /-- The revision on its minor branch; zero is a new minor. -/
  revision : Nat
  /-- The major number fits in 32 bits. -/
  major_lt : major < 0x100000000 := by omega
  /-- The minor number fits in 32 bits. -/
  minor_lt : minor < 0x100000000 := by omega
  /-- The revision fits in 32 bits. -/
  revision_lt : revision < 0x100000000 := by omega
deriving DecidableEq

namespace Version

/-- The version with three numbers of 32 bits. -/
def of (major minor revision : UInt32) : Version where
  major := major.toNat
  minor := minor.toNat
  revision := revision.toNat
  major_lt := major.toNat_lt
  minor_lt := minor.toNat_lt
  revision_lt := revision.toNat_lt

/-! ### The order -/

/-- Versions are compared number by number, the major first. -/
instance : LT Version where
  lt v w := v.major < w.major ∨
    v.major = w.major ∧ (v.minor < w.minor ∨ v.minor = w.minor ∧ v.revision < w.revision)

/-- A version is at most another if it comes before it or is it. -/
instance : LE Version where
  le v w := v < w ∨ v = w

theorem lt_def {v w : Version} : v < w ↔ v.major < w.major ∨
    v.major = w.major ∧ (v.minor < w.minor ∨ v.minor = w.minor ∧ v.revision < w.revision) :=
  Iff.rfl

theorem le_def {v w : Version} : v ≤ w ↔ v < w ∨ v = w := Iff.rfl

instance : DecidableLT Version := fun v w =>
  inferInstanceAs (Decidable (v.major < w.major ∨
    v.major = w.major ∧ (v.minor < w.minor ∨ v.minor = w.minor ∧ v.revision < w.revision)))

instance : DecidableLE Version := fun v w => inferInstanceAs (Decidable (v < w ∨ v = w))

theorem lt_irrefl (v : Version) : ¬ v < v := by
  rw [lt_def]
  omega

theorem lt_trans {u v w : Version} (h : u < v) (h' : v < w) : u < w := by
  rw [lt_def] at *
  omega

theorem lt_trichotomy (v w : Version) : v < w ∨ v = w ∨ w < v := by
  simp only [lt_def, Version.ext_iff]
  omega

instance : Trans (α := Version) (· < ·) (· < ·) (· < ·) := ⟨lt_trans⟩

instance : Std.Irrefl (α := Version) (· < ·) := ⟨lt_irrefl⟩

instance : Std.Trichotomous (α := Version) (· < ·) where
  trichotomous v w h h' := (lt_trichotomy v w).resolve_left h |>.resolve_right h'

/-- The later of two versions. -/
instance : Max Version where
  max v w := if v ≤ w then w else v

theorem le_iff_not_lt {v w : Version} : v ≤ w ↔ ¬ w < v := by
  simp only [le_def, lt_def, Version.ext_iff]
  omega

instance : Std.IsLinearOrder Version where
  le_refl v := le_def.2 (.inr rfl)
  le_trans u v w := by
    simp only [le_iff_not_lt, lt_def]
    omega
  le_antisymm v w := by
    simp only [le_iff_not_lt, lt_def, Version.ext_iff]
    omega
  le_total v w := by
    simp only [le_iff_not_lt, lt_def]
    omega

instance : Std.LawfulOrderLT Version where
  lt_iff v w := by
    simp only [le_iff_not_lt, lt_def]
    omega

instance : Std.LawfulOrderMax Version where
  max_eq_or v w := by
    show (if v ≤ w then w else v) = v ∨ (if v ≤ w then w else v) = w
    split <;> simp
  max_le_iff u v w := by
    show (if u ≤ v then v else u) ≤ w ↔ u ≤ w ∧ v ≤ w
    split <;> simp only [le_iff_not_lt, lt_def] at * <;> omega

/-- How two versions compare. -/
instance : Ord Version where
  compare v w := if v < w then .lt else if v = w then .eq else .gt

/-- Whether a version is another or comes after it. -/
def onOrAfter (v w : Version) : Bool := w ≤ v

theorem onOrAfter_iff {v w : Version} : v.onOrAfter w ↔ ¬ v < w := by
  simp [onOrAfter, le_iff_not_lt]

end Version

end ReleaseMatrix
