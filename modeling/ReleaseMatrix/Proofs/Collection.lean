import Mathlib.Data.List.Forall2
import Mathlib.Data.List.Induction
import Mathlib.Data.List.Sort
import ReleaseMatrix.Collection.SortedSet
import ReleaseMatrix.Collection.Table

/-!
# Ordered lists, tables and outcomes

What the other modules use of the collections, whatever their members are. A list in strict order is
known once its members are, and its last member is the one that all others come before. A grouping
of a list has the numbers that occur as its keys. A traversal whose steps may fail succeeds exactly
if every step does.
-/

namespace ReleaseMatrix

/-! ### Lists ordered by a relation -/

section

variable {α : Type} {r : α → α → Prop}

/-- A member of a list that the relation puts behind all other members. -/
def IsLatest (r : α → α → Prop) (xs : List α) (x : α) : Prop :=
  x ∈ xs ∧ ∀ y ∈ xs, y ≠ x → r y x

theorem nodup_of_pairwise [Std.Asymm r] {xs : List α} (h : xs.Pairwise r) : xs.Nodup := h.nodup

/-- A list in strict order is known once its members are. -/
theorem eq_of_pairwise_of_mem_iff [Std.Asymm r] {xs ys : List α} (hx : xs.Pairwise r)
    (hy : ys.Pairwise r) (h : ∀ z, z ∈ xs ↔ z ∈ ys) : xs = ys := hx.eq_of_mem_iff hy h

/-- A list in strict order is a part of another, in its order, once its members are in the other. -/
theorem sublist_of_pairwise_of_mem [Std.Asymm r] {xs ys : List α} (hx : xs.Pairwise r)
    (hy : ys.Pairwise r) (h : ∀ z ∈ xs, z ∈ ys) : xs.Sublist ys :=
  List.sublist_of_subperm_of_pairwise (List.subperm_of_subset (nodup_of_pairwise hx) h) hx hy

/-- A list in one strict order is in another exactly if the one implies the other on its members. -/
theorem pairwise_iff_of_pairwise [Std.Asymm r] {r' : α → α → Prop} {xs : List α}
    (h : xs.Pairwise r) : xs.Pairwise r' ↔ ∀ x ∈ xs, ∀ y ∈ xs, r x y → r' x y := by
  refine ⟨fun h' => ?_, fun h' => h.imp_of_mem fun {x y} hx hy hxy => h' x hx y hy hxy⟩
  induction xs with
  | nil => simp
  | cons z xs ih =>
    obtain ⟨hz, hxs⟩ := List.pairwise_cons.1 h
    obtain ⟨hz', hxs'⟩ := List.pairwise_cons.1 h'
    intro x hx y hy hxy
    rcases List.mem_cons.1 hx with rfl | hxmem
    · rcases List.mem_cons.1 hy with rfl | hymem
      · exact absurd hxy (Std.Asymm.asymm _ _ hxy)
      · exact hz' y hymem
    · rcases List.mem_cons.1 hy with rfl | hymem
      · exact absurd hxy (Std.Asymm.asymm _ _ (hz x hxmem))
      · exact ih hxs hxs' x hxmem y hymem hxy

theorem IsLatest.unique [Std.Asymm r] {xs : List α} {x y : α} (hx : IsLatest r xs x)
    (hy : IsLatest r xs y) : x = y := by
  by_contra hne
  exact Std.Asymm.asymm x y (hy.2 x hx.1 hne) (hx.2 y hy.1 (Ne.symm hne))

/-- The last member of a list in which repeats stand together is its latest. -/
theorem isLatest_of_getLast? {xs : List α} (h : xs.Pairwise fun x y => x = y ∨ r x y) {x : α}
    (hx : xs.getLast? = some x) : IsLatest r xs x := by
  obtain ⟨zs, rfl⟩ := List.getLast?_eq_some_iff.1 hx
  refine ⟨by simp, fun z hz hne => ?_⟩
  rcases List.mem_append.1 hz with hz | hz
  · exact ((List.pairwise_append.1 h).2.2 z hz x (by simp)).resolve_left hne
  · exact absurd (List.mem_singleton.1 hz) hne

/-- The last member of a list in strict order is its latest. -/
theorem getLast?_eq_some_iff_of_pairwise [Std.Asymm r] {xs : List α} (h : xs.Pairwise r) {x : α} :
    xs.getLast? = some x ↔ IsLatest r xs x := by
  have hlast : ∀ y, xs.getLast? = some y → IsLatest r xs y :=
    fun _ => isLatest_of_getLast? (h.imp .inr)
  refine ⟨hlast x, ?_⟩
  intro hx
  cases hy : xs.getLast? with
  | none =>
    rw [List.getLast?_eq_none_iff] at hy
    subst hy
    exact absurd hx.1 (by simp)
  | some y => rw [(hlast y hy).unique hx]

/-- A list without repeats has length one exactly if it has one member. -/
theorem length_eq_one_iff_existsUnique {xs : List α} (h : xs.Nodup) :
    xs.length = 1 ↔ ∃! x, x ∈ xs := by
  constructor
  · intro hlength
    obtain ⟨x, rfl⟩ := List.length_eq_one_iff.1 hlength
    exact ⟨x, List.mem_singleton_self x, fun y hy => List.mem_singleton.1 hy⟩
  · rintro ⟨x, hx, huniq⟩
    have hmem : ∀ y, y ∈ xs ↔ y ∈ [x] := by
      intro y
      rw [List.mem_singleton]
      exact ⟨huniq y, fun hy => hy ▸ hx⟩
    have hperm := (List.perm_ext_iff_of_nodup h (by simp)).2 hmem
    exact hperm.length_eq

end

/-! ### Sets -/

namespace SortedSet

variable {α : Type} [LT α] [Std.Asymm (α := α) (· < ·)]

/-- Sets with the same members are the same. -/
theorem eq_of_mem_iff {s t : SortedSet α} (h : ∀ x, x ∈ s ↔ x ∈ t) : s = t := by
  obtain ⟨xs, hxs⟩ := s
  obtain ⟨ys, hys⟩ := t
  obtain rfl : xs = ys := eq_of_pairwise_of_mem_iff hxs hys h
  rfl

/-- A set is made again from the list of its members. -/
theorem ofList_toList [DecidableLT α] [Trans (α := α) (· < ·) (· < ·) (· < ·)]
    [Std.Trichotomous (α := α) (· < ·)] (s : SortedSet α) : ofList s.toList = s :=
  eq_of_mem_iff fun _ => mem_ofList

end SortedSet

/-! ### Tables -/

namespace Table

variable {α β : Type}

/-- A row is a key with its value. -/
theorem mem_rows_iff {t : Table β} {key : Nat} {value : β} :
    (key, value) ∈ t.rows ↔ t.get? key = some value := by
  obtain ⟨rows, ascending⟩ := t
  simp only [get?]
  induction rows with
  | nil => simp
  | cons row rows ih =>
    obtain ⟨hrow, hrows⟩ := List.pairwise_cons.1 ascending
    obtain ⟨k, b⟩ := row
    rw [List.lookup_cons, List.mem_cons, ih hrows]
    by_cases hk : key = k
    · subst hk
      have hnone : rows.lookup key = none := by
        rw [List.lookup_eq_none_iff]
        intro p hp
        have hlt := hrow p hp
        simpa using (Nat.ne_of_lt hlt)
      simp [hnone, eq_comm]
    · have hk' : (key == k) = false := by simpa using hk
      simp [hk, hk']

theorem mem_keys_iff {t : Table β} {key : Nat} : key ∈ t.keys ↔ ∃ value, t.get? key = some value := by
  simp only [keys, List.mem_map, Prod.exists, exists_and_right, exists_eq_right, mem_rows_iff]

/-- A key behind all others gets its row at the end. -/
theorem alterRows_of_forall_lt {key : Nat} {f : Option β → β} {rows : List (Nat × β)}
    (h : ∀ row ∈ rows, row.1 < key) : alterRows key f rows = rows ++ [(key, f none)] := by
  induction rows with
  | nil => rfl
  | cons row rows ih =>
    obtain ⟨hrow, hrows⟩ := List.forall_mem_cons.1 h
    rw [alterRows, if_neg (Nat.lt_asymm hrow), if_pos hrow, ih hrows, List.cons_append]

/-- A table is made again from the list of its rows. -/
theorem ofList_rows (t : Table β) : ofList t.rows = t := by
  have hfold : ∀ (rows : List (Nat × β)) (t : Table β),
      (t.rows ++ rows).Pairwise (fun a b => a.1 < b.1) →
      (rows.foldl (fun t row => t.insert row.1 row.2) t).rows = t.rows ++ rows := by
    intro rows
    induction rows with
    | nil => intro t _; rw [List.foldl_nil, List.append_nil]
    | cons row rows ih =>
      intro t ht
      have hlast : (t.insert row.1 row.2).rows = t.rows ++ [row] :=
        alterRows_of_forall_lt fun r hr =>
          (List.pairwise_append.1 ht).2.2 r hr row List.mem_cons_self
      have hsplit : t.rows ++ row :: rows = t.rows ++ [row] ++ rows := by simp
      rw [List.foldl_cons, ih _ (by rwa [hlast, ← hsplit]), hlast, hsplit]
  have hrows : (ofList t.rows).rows = t.rows := hfold t.rows empty t.ascending
  obtain ⟨rows, ascending⟩ := t
  generalize ofList rows = made at hrows
  obtain ⟨rows', ascending'⟩ := made
  obtain rfl : rows' = rows := hrows
  rfl

/-- A row of a table was given for it. -/
theorem mem_of_mem_rows_ofList {rows : List (Nat × β)} {row : Nat × β}
    (h : row ∈ (ofList rows).rows) : row ∈ rows := by
  obtain ⟨key, value⟩ := row
  rw [mem_rows_iff] at h
  induction rows using List.reverseRecOn with
  | nil => simp [ofList] at h
  | append_singleton rows row ih =>
    have hconcat : ofList (rows ++ [row]) = (ofList rows).insert row.1 row.2 := by
      rw [ofList, List.foldl_append]
      rfl
    rw [hconcat, insert, get?_alter] at h
    split at h
    · rename_i hkey
      obtain rfl := Option.some.inj h
      simp [hkey]
    · exact List.mem_append_left _ (ih h)

/-- The keys of a grouping are the numbers that occur. -/
theorem mem_keys_groupBy {number : α → Nat} {xs : List α} {key : Nat} :
    key ∈ (groupBy number xs).keys ↔ ∃ x ∈ xs, number x = key := by
  induction xs using List.reverseRecOn with
  | nil => simp [groupBy, keys, empty]
  | append_singleton xs x ih =>
    have hconcat : groupBy number (xs ++ [x]) =
        (groupBy number xs).alter (number x) fun group => group.getD [] ++ [x] := by
      rw [groupBy, List.foldl_append]
      rfl
    rw [mem_keys_iff] at ih
    rw [hconcat, mem_keys_iff]
    by_cases hx : key = number x
    · subst hx
      simp [get?_alter]
    · have hx' : ¬ number x = key := fun h => hx h.symm
      simp [get?_alter, hx, hx', ih]

theorem group_of_mem_rows {t : Table (List α)} {row : Nat × List α} (h : row ∈ t.rows) :
    t.group row.1 = row.2 := by
  rw [group, mem_rows_iff.1 h, Option.getD_some]

/-- The groups of a table have the members of its rows. -/
theorem mem_flatMap_rows {t : Table (List α)} {x : α} :
    x ∈ t.rows.flatMap (·.2) ↔ ∃ key, x ∈ t.group key := by
  rw [List.mem_flatMap]
  constructor
  · rintro ⟨⟨key, xs⟩, hrow, hx⟩
    exact ⟨key, (group_of_mem_rows hrow).symm ▸ hx⟩
  · rintro ⟨key, hx⟩
    cases h : t.get? key with
    | none =>
      rw [group, h] at hx
      exact absurd hx List.not_mem_nil
    | some xs =>
      rw [group, h] at hx
      exact ⟨(key, xs), mem_rows_iff.2 h, hx⟩

end Table

/-! ### Outcomes -/

section

variable {ε α β : Type}

@[simp] theorem ok_bind (x : α) (f : α → Except ε β) : (Except.ok x >>= f) = f x := rfl

/-- Other errors do not change a success. -/
@[simp] theorem mapError_eq_ok_iff {ε' : Type} {f : ε → ε'} {r : Except ε α} {x : α} :
    r.mapError f = .ok x ↔ r = .ok x := by
  cases r <;> simp [Except.mapError]

@[simp] theorem error_bind (e : ε) (f : α → Except ε β) :
    ((Except.error e : Except ε α) >>= f) = .error e := rfl

/-- A traversal succeeds exactly if every step does, with the results of the steps. -/
theorem mapM_eq_ok_iff {f : α → Except ε β} {xs : List α} {ys : List β} :
    xs.mapM f = .ok ys ↔ List.Forall₂ (fun x y => f x = .ok y) xs ys := by
  induction xs generalizing ys with
  | nil =>
    rw [List.mapM_nil, List.forall₂_nil_left_iff]
    exact ⟨fun h => (Except.ok.inj h).symm, fun h => h ▸ rfl⟩
  | cons x xs ih =>
    rw [List.mapM_cons, List.forall₂_cons_left_iff]
    constructor
    · intro h
      cases hx : f x with
      | error e => simp [hx] at h
      | ok y =>
        cases hxs : xs.mapM f with
        | error e => simp [hx, hxs] at h
        | ok zs =>
          rw [hx, hxs] at h
          exact ⟨y, zs, rfl, ih.1 hxs, (Except.ok.inj h).symm⟩
    · rintro ⟨y, zs, hx, hxs, rfl⟩
      rw [hx, ok_bind, ih.2 hxs]
      rfl

/-- A traversal whose steps give things that show what they were made of. -/
theorem mapM_eq_ok_iff_of_view {f : α → Except ε β} {view : β → α} {good : β → Prop}
    (h : ∀ x y, f x = .ok y ↔ view y = x ∧ good y) {xs : List α} {ys : List β} :
    xs.mapM f = .ok ys ↔ ys.map view = xs ∧ ∀ y ∈ ys, good y := by
  rw [mapM_eq_ok_iff]
  induction ys generalizing xs with
  | nil => simp [eq_comm]
  | cons y ys ih =>
    rw [List.forall₂_cons_right_iff]
    constructor
    · rintro ⟨x, xs, hx, hxs, rfl⟩
      obtain ⟨rfl, hy⟩ := (h x y).1 hx
      obtain ⟨rfl, hys⟩ := ih.1 hxs
      exact ⟨rfl, List.forall_mem_cons.2 ⟨hy, hys⟩⟩
    · rintro ⟨rfl, hall⟩
      obtain ⟨hy, hys⟩ := List.forall_mem_cons.1 hall
      exact ⟨view y, ys.map view, (h _ _).2 ⟨rfl, hy⟩, ih.2 ⟨rfl, hys⟩, rfl⟩

theorem exists_mapM_eq_ok {f : α → Except ε β} {xs : List α} (h : ∀ x ∈ xs, ∃ y, f x = .ok y) :
    ∃ ys, xs.mapM f = .ok ys := by
  induction xs with
  | nil => exact ⟨[], rfl⟩
  | cons x xs ih =>
    obtain ⟨⟨y, hy⟩, hrest⟩ := List.forall_mem_cons.1 h
    obtain ⟨ys, hys⟩ := ih hrest
    refine ⟨y :: ys, ?_⟩
    rw [List.mapM_cons, hy, ok_bind, hys]
    rfl

end

end ReleaseMatrix
