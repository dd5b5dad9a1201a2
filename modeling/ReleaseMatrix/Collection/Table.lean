/-!
# Tables keyed by numbers

A table holds one value for each of finitely many numbers, its rows in ascending order of their
keys, so that tables with the same rows are the same value. Grouping a list by a number of its
members makes a table of lists, in which every member keeps its place among those of its group.
-/

namespace ReleaseMatrix

/-- Gives the row of a key the value that `f` makes of the value it has. -/
def alterRows {β : Type} (key : Nat) (f : Option β → β) : List (Nat × β) → List (Nat × β)
  | [] => [(key, f none)]
  | row :: rows =>
    if key < row.1 then (key, f none) :: row :: rows
    else if row.1 < key then row :: alterRows key f rows
    else (key, f (some row.2)) :: rows

theorem key_of_mem_alterRows {β : Type} {key : Nat} {f : Option β → β} {rows : List (Nat × β)}
    {row : Nat × β} (h : row ∈ alterRows key f rows) :
    row.1 = key ∨ ∃ r ∈ rows, r.1 = row.1 := by
  induction rows with
  | nil => simp_all [alterRows]
  | cons r rows ih => grind [alterRows]

/-- Altering one row keeps the rows in ascending order. -/
theorem pairwise_alterRows {β : Type} (key : Nat) (f : Option β → β) {rows : List (Nat × β)}
    (h : rows.Pairwise fun a b => a.1 < b.1) :
    (alterRows key f rows).Pairwise fun a b => a.1 < b.1 := by
  induction rows with
  | nil => simp [alterRows]
  | cons r rows ih =>
    obtain ⟨hr, hrows⟩ := List.pairwise_cons.1 h
    rw [alterRows]
    split
    · rename_i hk
      refine List.pairwise_cons.2 ⟨?_, h⟩
      intro b hb
      rcases List.mem_cons.1 hb with rfl | hb
      · exact hk
      · exact Nat.lt_trans hk (hr b hb)
    · split
      · rename_i hk
        refine List.pairwise_cons.2 ⟨?_, ih hrows⟩
        intro b hb
        rcases key_of_mem_alterRows hb with hb | ⟨c, hc, hcb⟩
        · omega
        · exact hcb ▸ hr c hc
      · refine List.pairwise_cons.2 ⟨?_, hrows⟩
        intro b hb
        have := hr b hb
        simp only
        omega

/-- A finite table keyed by numbers. -/
structure Table (β : Type) where
  /-- The keys with their values. -/
  rows : List (Nat × β)
  /-- The keys ascend strictly. -/
  ascending : rows.Pairwise fun a b => a.1 < b.1

namespace Table

variable {α β : Type}

instance [DecidableEq β] : DecidableEq (Table β) := fun s t =>
  decidable_of_iff (s.rows = t.rows) ⟨fun h => by cases s; cases t; simp_all, fun h => h ▸ rfl⟩

/-- The table without rows. -/
def empty : Table β := ⟨[], .nil⟩

/-- The keys in ascending order. -/
def keys (t : Table β) : List Nat := t.rows.map Prod.fst

/-- The value of a key. -/
def get? (t : Table β) (key : Nat) : Option β := t.rows.lookup key

/-- Gives a key the value that `f` makes of the value it has. -/
def alter (t : Table β) (key : Nat) (f : Option β → β) : Table β :=
  ⟨alterRows key f t.rows, pairwise_alterRows key f t.ascending⟩

/-- Gives a key a value, in place of the value it had. -/
def insert (t : Table β) (key : Nat) (value : β) : Table β := t.alter key fun _ => value

/-- The table of a list of rows; of two rows with one key the later counts. -/
def ofList (rows : List (Nat × β)) : Table β :=
  rows.foldl (fun t row => t.insert row.1 row.2) empty

/-- The list of a key, empty if the table has none. -/
def group (t : Table (List α)) (key : Nat) : List α := (t.get? key).getD []

/-- The members of a list, grouped by a number of theirs, each group in the order of the list. -/
def groupBy (number : α → Nat) (xs : List α) : Table (List α) :=
  xs.foldl (fun t x => t.alter (number x) fun group => group.getD [] ++ [x]) empty

theorem keys_ascending (t : Table β) : t.keys.Pairwise (· < ·) :=
  List.pairwise_map.2 t.ascending

/-- Altering a key changes the value of that key only. -/
theorem get?_alter (t : Table β) (key k : Nat) (f : Option β → β) :
    (t.alter key f).get? k = if k = key then some (f (t.get? key)) else t.get? k := by
  obtain ⟨rows, ascending⟩ := t
  simp only [get?, alter]
  induction rows with
  | nil =>
    by_cases hk : k = key
    · simp [alterRows, hk]
    · have hk' : (k == key) = false := by simpa using hk
      simp [alterRows, List.lookup_cons, hk, hk']
  | cons r rows ih =>
    obtain ⟨hr, hrows⟩ := List.pairwise_cons.1 ascending
    obtain ⟨j, b⟩ := r
    have hnone : ∀ i, i ≤ j → rows.lookup i = none := by
      intro i hi
      rw [List.lookup_eq_none_iff]
      intro p hp
      have := hr p hp
      simp only at this
      simp only [bne_iff_ne, ne_eq]
      omega
    rw [alterRows]
    simp only
    split
    · rename_i hlt
      have hne : (key == j) = false := by simp; omega
      by_cases hk : k = key
      · subst hk
        simp [List.lookup_cons, hne, hnone k (by omega)]
      · have hk' : (k == key) = false := by simpa using hk
        simp [List.lookup_cons, hk, hk']
    · split
      · rename_i hlt
        have hne : (key == j) = false := by simp; omega
        by_cases hkj : k = j
        · subst hkj
          have : ¬ k = key := by omega
          simp [this]
        · have hkj' : (k == j) = false := by simpa using hkj
          simp [List.lookup_cons, hkj', hne, ih hrows]
      · have hj : j = key := by omega
        subst hj
        by_cases hk : k = j
        · subst hk
          simp
        · have hk' : (k == j) = false := by simpa using hk
          simp [List.lookup_cons, hk', hk]

@[simp] theorem get?_empty (key : Nat) : (empty : Table β).get? key = none := rfl

/-- The group of a number is the list of the members that have the number. -/
theorem group_groupBy (number : α → Nat) (xs : List α) (key : Nat) :
    (groupBy number xs).group key = xs.filter fun x => number x = key := by
  have h : ∀ t : Table (List α),
      (xs.foldl (fun t x => t.alter (number x) fun group => group.getD [] ++ [x]) t).group key =
        t.group key ++ xs.filter fun x => number x = key := by
    induction xs with
    | nil => simp
    | cons x xs ih =>
      intro t
      rw [List.foldl_cons, ih, List.filter_cons]
      by_cases hx : key = number x
      · subst hx
        simp [group, get?_alter]
      · have hx' : ¬ number x = key := fun h => hx h.symm
        simp [group, get?_alter, hx, hx']
  rw [groupBy, h]
  simp [group]

end Table

end ReleaseMatrix
