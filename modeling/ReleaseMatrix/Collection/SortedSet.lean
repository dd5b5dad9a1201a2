/-!
# Finite sets as ascending lists

A finite set of values with a strict total order is held as the list of its members in strictly
ascending order, so that two sets with the same members are the same value.
-/

namespace ReleaseMatrix

/-- The list with a value put in its place, unless the list has it already. -/
def insertSorted {α : Type} [LT α] [DecidableLT α] (x : α) : List α → List α
  | [] => [x]
  | y :: ys => if x < y then x :: y :: ys else if y < x then y :: insertSorted x ys else y :: ys

variable {α : Type} [LT α]

theorem eq_or_mem_of_mem_insertSorted [DecidableLT α] {x z : α} {ys : List α}
    (h : z ∈ insertSorted x ys) : z = x ∨ z ∈ ys := by
  induction ys with
  | nil => simpa [insertSorted] using h
  | cons y ys ih => grind [insertSorted]

/-- Putting a value in its place keeps a list strictly ascending. -/
theorem pairwise_insertSorted [DecidableLT α] [Trans (α := α) (· < ·) (· < ·) (· < ·)] (x : α)
    {ys : List α} (h : ys.Pairwise (· < ·)) : (insertSorted x ys).Pairwise (· < ·) := by
  induction ys with
  | nil => simp [insertSorted]
  | cons y ys ih =>
    obtain ⟨hy, hys⟩ := List.pairwise_cons.1 h
    rw [insertSorted]
    split
    · rename_i hxy
      refine List.pairwise_cons.2 ⟨?_, h⟩
      intro z hz
      rcases List.mem_cons.1 hz with rfl | hz
      · exact hxy
      · exact Trans.trans hxy (hy z hz)
    · split
      · rename_i hyx
        refine List.pairwise_cons.2 ⟨?_, ih hys⟩
        intro z hz
        rcases eq_or_mem_of_mem_insertSorted hz with rfl | hz
        · exact hyx
        · exact hy z hz
      · exact h

/-- A finite set, held as its members in strictly ascending order. -/
structure SortedSet (α : Type) [LT α] where
  /-- The members in ascending order. -/
  toList : List α
  /-- The members ascend strictly. -/
  ascending : toList.Pairwise (· < ·)

namespace SortedSet

instance : Membership α (SortedSet α) := ⟨fun s x => x ∈ s.toList⟩

theorem mem_def {s : SortedSet α} {x : α} : x ∈ s ↔ x ∈ s.toList := Iff.rfl

instance [DecidableEq α] {s : SortedSet α} {x : α} : Decidable (x ∈ s) :=
  inferInstanceAs (Decidable (x ∈ s.toList))

instance [DecidableEq α] : DecidableEq (SortedSet α) := fun s t =>
  decidable_of_iff (s.toList = t.toList) ⟨fun h => by cases s; cases t; simp_all, fun h => h ▸ rfl⟩

/-- The set without members. -/
def empty : SortedSet α := ⟨[], .nil⟩

variable [DecidableLT α] [Trans (α := α) (· < ·) (· < ·) (· < ·)]

/-- The set with one more member. -/
def insert (s : SortedSet α) (x : α) : SortedSet α :=
  ⟨insertSorted x s.toList, pairwise_insertSorted x s.ascending⟩

/-- The set of the members of a list. -/
def ofList (xs : List α) : SortedSet α := xs.foldl insert empty

/-- A set with one more member has that member and those it had. -/
theorem mem_insert [Std.Trichotomous (α := α) (· < ·)] {s : SortedSet α} {x z : α} :
    z ∈ s.insert x ↔ z = x ∨ z ∈ s := by
  refine ⟨eq_or_mem_of_mem_insertSorted, ?_⟩
  show z = x ∨ z ∈ s.toList → z ∈ insertSorted x s.toList
  generalize s.toList = ys
  induction ys with
  | nil => simp [insertSorted]
  | cons y ys ih =>
    rw [insertSorted]
    split
    · simp [eq_comm]
    · split
      · simp only [List.mem_cons]
        rintro (rfl | rfl | h)
        · exact .inr (ih (.inl rfl))
        · exact .inl rfl
        · exact .inr (ih (.inr h))
      · rename_i h h'
        rintro (rfl | h'')
        · exact List.mem_cons.2 (.inl (Std.Trichotomous.trichotomous _ _ h h'))
        · exact h''

/-- The set of the members of a list has exactly the members of the list. -/
theorem mem_ofList [Std.Trichotomous (α := α) (· < ·)] {xs : List α} {z : α} :
    z ∈ ofList xs ↔ z ∈ xs := by
  have h : ∀ s : SortedSet α, z ∈ xs.foldl insert s ↔ z ∈ s ∨ z ∈ xs := by
    induction xs with
    | nil => simp
    | cons x xs ih =>
      intro s
      rw [List.foldl_cons, ih, mem_insert]
      simp only [List.mem_cons]
      constructor
      · rintro ((h | h) | h) <;> simp [h]
      · rintro (h | h | h) <;> simp [h]
  rw [ofList, h]
  simp [mem_def, empty]

end SortedSet

end ReleaseMatrix
