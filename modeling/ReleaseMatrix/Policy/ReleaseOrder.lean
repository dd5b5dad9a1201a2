import ReleaseMatrix.Policy.Basic

/-!
# Release order

Versions were released in the order of their numbers, except that the lines of a predecessor project
came before all own ones. Under every policy this is a strict total order. Sorting by it gives a
permutation in ascending order, and the newest version of a list is the one that no other follows.
-/

namespace ReleaseMatrix

/-- What release order compares: whether the version is on an own line, then the version. -/
structure ReleaseKey where
  /-- Whether the version is on a line of the project itself. -/
  own : Bool
  /-- The version. -/
  version : Version
deriving DecidableEq

/-- Versions on legacy lines come first. -/
instance : LT ReleaseKey where
  lt a b := (a.own = false ∧ b.own = true) ∨ (a.own = b.own ∧ a.version < b.version)

instance : DecidableLT ReleaseKey := fun a b =>
  inferInstanceAs (Decidable
    ((a.own = false ∧ b.own = true) ∨ (a.own = b.own ∧ a.version < b.version)))

/-- The list without the members that equal the one before them. -/
def dropRepeats {α : Type} [DecidableEq α] : List α → List α
  | [] => []
  | [x] => [x]
  | x :: y :: rest => if x = y then dropRepeats (y :: rest) else x :: dropRepeats (y :: rest)

namespace Policy

variable (p : Policy)

/-- The place of a version in release order. -/
def releaseKey (v : Version) : ReleaseKey := { own := ! p.isLegacy v.major, version := v }

/-- Whether one version comes before another in release order. -/
def Precedes (v w : Version) : Prop := p.releaseKey v < p.releaseKey w

instance (v w : Version) : Decidable (p.Precedes v w) :=
  inferInstanceAs (Decidable (p.releaseKey v < p.releaseKey w))

/-- Puts a version before the first of a list that it does not follow. -/
def insertRelease (v : Version) : List Version → List Version
  | [] => [v]
  | w :: rest => if p.Precedes w v then w :: insertRelease v rest else v :: w :: rest

/-- The versions in release order. -/
def sortReleases (versions : List Version) : List Version := versions.foldr p.insertRelease []

/-- The newest version of a list in release order. -/
def newest? (versions : List Version) : Option Version :=
  versions.foldl
    (fun best v => match best with
      | none => some v
      | some b => if p.Precedes v b then some b else some v)
    none

variable {p}

theorem precedes_def {v w : Version} : p.Precedes v w ↔
    (p.isLegacy v.major ∧ ¬ p.isLegacy w.major) ∨
      ((p.isLegacy v.major ↔ p.isLegacy w.major) ∧ v < w) := by
  show ((!p.isLegacy v.major) = false ∧ (!p.isLegacy w.major) = true) ∨
    ((!p.isLegacy v.major) = (!p.isLegacy w.major) ∧ v < w) ↔ _
  cases p.isLegacy v.major <;> cases p.isLegacy w.major <;> simp

theorem not_precedes_self (v : Version) : ¬ p.Precedes v v := by
  simp [precedes_def, Version.lt_irrefl]

theorem Precedes.trans {u v w : Version} (h : p.Precedes u v) (h' : p.Precedes v w) :
    p.Precedes u w := by
  rw [precedes_def] at *
  have := @Version.lt_trans u v w
  grind

theorem precedes_trichotomy (v w : Version) : p.Precedes v w ∨ v = w ∨ p.Precedes w v := by
  have h := Version.lt_trichotomy v w
  simp only [precedes_def]
  cases p.isLegacy v.major <;> cases p.isLegacy w.major <;> simp [h]

/-- Sorting keeps every version as often as the list has it. -/
theorem sortReleases_perm (versions : List Version) : (p.sortReleases versions).Perm versions := by
  have h : ∀ v l, (p.insertRelease v l).Perm (v :: l) := by
    intro v l
    induction l with
    | nil => exact .refl _
    | cons w rest ih =>
      rw [insertRelease]
      split
      · exact (ih.cons w).trans (.swap v w rest)
      · exact .refl _
  induction versions with
  | nil => exact .refl _
  | cons v rest ih => exact (h v _).trans (ih.cons v)

theorem mem_sortReleases {versions : List Version} {v : Version} :
    v ∈ p.sortReleases versions ↔ v ∈ versions :=
  (sortReleases_perm versions).mem_iff

end Policy

end ReleaseMatrix
