/-!
# Searching ascending lists

A value is sought in an ascending list by halving the list until at most one member is left. That
finds it exactly if the list has it, since what is thrown away is all before or all behind it.
-/

namespace ReleaseMatrix

variable {α : Type} [LT α] [DecidableLT α] [DecidableEq α]

/-- Whether an ascending list has a value. The value is sought in the lower half of the list if it
comes before the first member of the upper half, and in the upper half otherwise. -/
def searchSorted (x : α) (xs : List α) : Bool :=
  if h : xs.length ≤ 1 then xs = [x]
  else if x < xs[xs.length / 2] then searchSorted x (xs.take (xs.length / 2))
  else searchSorted x (xs.drop (xs.length / 2))
termination_by xs.length
decreasing_by
  · rw [List.length_take]
    omega
  · rw [List.length_drop]
    omega

/-- In an ascending list the halving finds the members and nothing else. -/
theorem searchSorted_iff [Std.Irrefl (α := α) (· < ·)] [Trans (α := α) (· < ·) (· < ·) (· < ·)]
    {x : α} {xs : List α} (h : xs.Pairwise (· < ·)) : searchSorted x xs ↔ x ∈ xs := by
  fun_induction searchSorted x xs with
  | case1 xs hlength =>
    match xs, hlength with
    | [], _ => simp
    | [y], _ => simp [eq_comm]
  | case2 xs hlength hlt ih =>
    rw [ih (h.sublist (List.take_sublist _ _))]
    refine ⟨List.mem_of_mem_take, fun hx => ?_⟩
    rw [← List.take_append_drop (xs.length / 2) xs, List.mem_append] at hx
    refine hx.resolve_right fun hupper => ?_
    -- the upper half begins with a member behind the value, so all of it is behind the value
    have hdrop := h.sublist (List.drop_sublist (xs.length / 2) xs)
    rw [List.drop_eq_getElem_cons (by omega)] at hupper hdrop
    rcases List.mem_cons.1 hupper with heq | hupper
    · rw [← heq] at hlt
      exact Std.Irrefl.irrefl x hlt
    · have hbehind := (List.pairwise_cons.1 hdrop).1 x hupper
      exact Std.Irrefl.irrefl x (Trans.trans hlt hbehind)
  | case3 xs hlength hnot ih =>
    rw [ih (h.sublist (List.drop_sublist _ _))]
    refine ⟨List.mem_of_mem_drop, fun hx => ?_⟩
    rw [← List.take_append_drop (xs.length / 2) xs, List.mem_append] at hx
    refine hx.resolve_left fun hlower => hnot ?_
    -- all of the lower half is before the first member of the upper half
    have hhead : xs[xs.length / 2] ∈ xs.drop (xs.length / 2) := by
      rw [List.drop_eq_getElem_cons (by omega)]
      exact List.mem_cons_self
    rw [← List.take_append_drop (xs.length / 2) xs, List.pairwise_append] at h
    exact h.2.2 x hlower _ hhead

end ReleaseMatrix
