/-!
# Cutting texts

Three ways to take a text apart: at every occurrence of a separator, at the first occurrence of one,
and behind a fixed beginning. A fourth is to take off a run of characters of one kind, which ends
where a character of another kind stands.
-/

namespace ReleaseMatrix.Text

/-- The pieces of a text between the occurrences of a separator; one more than there are
separators. -/
def pieces (separator : Char) : List Char → List (List Char)
  | [] => [[]]
  | c :: rest =>
    if c = separator then [] :: pieces separator rest
    else match pieces separator rest with
      | [] => [[c]]
      | piece :: more => (c :: piece) :: more

/-- The text before and the text behind the first separator, if there is one. -/
def cut? (isSeparator : Char → Bool) : List Char → Option (List Char × List Char)
  | [] => none
  | c :: rest =>
    if isSeparator c then some ([], rest)
    else (cut? isSeparator rest).map fun (before, behind) => (c :: before, behind)

/-- The text behind a fixed beginning, if it has that beginning. -/
def behind? : List Char → List Char → Option (List Char)
  | [], s => some s
  | _ :: _, [] => none
  | b :: beginning, c :: s => if b = c then behind? beginning s else none

theorem pieces_ne_nil (separator : Char) (s : List Char) : pieces separator s ≠ [] := by
  cases s with
  | nil => simp [pieces]
  | cons c rest =>
    rw [pieces]
    split
    · simp
    · split <;> simp

/-- A text without the separator is one piece. -/
theorem pieces_of_not_mem {separator : Char} {s : List Char} (h : separator ∉ s) :
    pieces separator s = [s] := by
  induction s with
  | nil => rfl
  | cons c s ih =>
    obtain ⟨hc, hs⟩ := not_or.1 (fun hmem => h (List.mem_cons.2 hmem))
    rw [pieces, if_neg (Ne.symm hc), ih hs]

/-- Wherever a separator stands, the pieces are those before it and those behind it. -/
theorem pieces_append_separator (separator : Char) (s rest : List Char) :
    pieces separator (s ++ separator :: rest) = pieces separator s ++ pieces separator rest := by
  induction s with
  | nil => simp [pieces]
  | cons c s ih =>
    rw [List.cons_append, pieces, pieces, ih]
    split
    · rfl
    · cases hpieces : pieces separator s with
      | nil => exact absurd hpieces (pieces_ne_nil separator s)
      | cons piece more => rfl

/-- The first separator ends the first piece. -/
theorem pieces_append {separator : Char} {s : List Char} (rest : List Char) (h : separator ∉ s) :
    pieces separator (s ++ separator :: rest) = s :: pieces separator rest := by
  rw [pieces_append_separator, pieces_of_not_mem h, List.singleton_append]

/-- Stretches that the separator ends are the first pieces. -/
theorem pieces_flatMap_append {separator : Char} {stretches : List (List Char)} (rest : List Char)
    (h : ∀ stretch ∈ stretches, separator ∉ stretch) :
    pieces separator (stretches.flatMap (· ++ [separator]) ++ rest) =
      stretches ++ pieces separator rest := by
  induction stretches with
  | nil => rfl
  | cons stretch stretches ih =>
    rw [List.flatMap_cons, List.append_assoc, List.append_assoc, List.singleton_append,
      pieces_append _ (h stretch List.mem_cons_self),
      ih fun other hother => h other (List.mem_cons_of_mem stretch hother), List.cons_append]

/-- What stands before the first separator is known from the text, and so is what stands behind. -/
theorem append_separator_inj {separator : Char} {s s' rest rest' : List Char} (h : separator ∉ s)
    (h' : separator ∉ s') (heq : s ++ separator :: rest = s' ++ separator :: rest') :
    s = s' ∧ rest = rest' := by
  have hpieces := congrArg (pieces separator) heq
  rw [pieces_append rest h, pieces_append rest' h'] at hpieces
  obtain rfl : s = s' := (List.cons.inj hpieces).1
  exact ⟨rfl, (List.cons.inj (List.append_cancel_left heq)).2⟩

/-- There is one piece more than there are separators. -/
theorem length_pieces (separator : Char) (s : List Char) :
    (pieces separator s).length = s.count separator + 1 := by
  induction s with
  | nil => rfl
  | cons c s ih =>
    rw [pieces, List.count_cons]
    split
    · rename_i hc
      simp [hc, ih]
    · rename_i hc
      cases hpieces : pieces separator s with
      | nil => exact absurd hpieces (pieces_ne_nil separator s)
      | cons piece more =>
        rw [hpieces] at ih
        simpa [hc] using ih

/-- No piece has the separator in it. -/
theorem not_mem_of_mem_pieces {separator : Char} {s piece : List Char}
    (h : piece ∈ pieces separator s) : separator ∉ piece := by
  induction s generalizing piece with
  | nil =>
    rw [pieces, List.mem_singleton] at h
    simp [h]
  | cons c s ih =>
    rw [pieces] at h
    split at h
    · rcases List.mem_cons.1 h with rfl | h
      · exact List.not_mem_nil
      · exact ih h
    · rename_i hc
      cases hpieces : pieces separator s with
      | nil => exact absurd hpieces (pieces_ne_nil separator s)
      | cons first more =>
        rw [hpieces] at h ih
        rcases List.mem_cons.1 h with rfl | h
        · simp [Ne.symm hc, ih List.mem_cons_self]
        · exact ih (List.mem_cons_of_mem first h)

/-- The pieces with the separator between them are the text. -/
theorem intercalate_pieces (separator : Char) (s : List Char) :
    [separator].intercalate (pieces separator s) = s := by
  induction s with
  | nil => rfl
  | cons c s ih =>
    rw [pieces]
    cases hpieces : pieces separator s with
    | nil => exact absurd hpieces (pieces_ne_nil separator s)
    | cons first more =>
      rw [hpieces] at ih
      split
      · rename_i hc
        rw [hc, List.intercalate_cons_cons, ih]
        rfl
      · cases more with
        | nil => simpa using ih
        | cons second more =>
          rw [List.intercalate_cons_cons] at ih ⊢
          rw [← ih]
          rfl

/-- Three pieces are what stands before, between and behind two separators. -/
theorem pieces_eq_three_iff {separator : Char} {s first second third : List Char} :
    pieces separator s = [first, second, third] ↔
      separator ∉ first ∧ separator ∉ second ∧ separator ∉ third ∧
        s = first ++ separator :: (second ++ separator :: third) := by
  constructor
  · intro h
    have hnot : ∀ piece ∈ [first, second, third], separator ∉ piece := by
      rw [← h]
      exact fun piece => not_mem_of_mem_pieces
    refine ⟨hnot _ (by simp), hnot _ (by simp), hnot _ (by simp), ?_⟩
    rw [← intercalate_pieces separator s, h]
    simp [List.intercalate]
  · rintro ⟨hfirst, hsecond, hthird, rfl⟩
    rw [pieces_append _ hfirst, pieces_append _ hsecond, pieces_of_not_mem hthird]

@[simp] theorem behind?_append (beginning s : List Char) :
    behind? beginning (beginning ++ s) = some s := by
  induction beginning with
  | nil => rfl
  | cons b beginning ih => simp [behind?, ih]

theorem behind?_singleton (c : Char) (s : List Char) : behind? [c] (c :: s) = some s :=
  behind?_append [c] s

/-- A text is its beginning and what is behind it. -/
theorem behind?_eq_some_iff {beginning s rest : List Char} :
    behind? beginning s = some rest ↔ s = beginning ++ rest := by
  constructor
  · intro h
    fun_induction behind? beginning s with
    | case1 s => simpa using h
    | case2 => simp at h
    | case3 b beginning s ih => simp [ih h]
    | case4 => simp at h
  · rintro rfl
    exact behind?_append beginning rest

/-- A cut text is put together again by its separator. -/
theorem cut?_eq_some_iff {p : Char → Bool} {s before behind : List Char} :
    cut? p s = some (before, behind) ↔
      (∀ c ∈ before, ¬ p c) ∧ ∃ d, p d ∧ s = before ++ d :: behind := by
  induction s generalizing before with
  | nil => simp [cut?]
  | cons c rest ih =>
    by_cases hc : p c
    · rw [cut?, if_pos hc]
      constructor
      · intro h
        simp only [Option.some.injEq, Prod.mk.injEq] at h
        obtain ⟨rfl, rfl⟩ := h
        exact ⟨by simp, c, hc, rfl⟩
      · rintro ⟨hb, d, hd, h⟩
        cases before with
        | nil => simp_all
        | cons b before =>
          simp only [List.cons_append, List.cons.injEq] at h
          exact absurd (h.1 ▸ hc) (hb b (by simp))
    · rw [cut?, if_neg hc, Option.map_eq_some_iff]
      constructor
      · rintro ⟨⟨before', behind'⟩, h, he⟩
        simp only [Prod.mk.injEq] at he
        obtain ⟨rfl, rfl⟩ := he
        obtain ⟨hb, d, hd, hs⟩ := ih.1 h
        refine ⟨?_, d, hd, by simp [hs]⟩
        intro x hx
        rcases List.mem_cons.1 hx with rfl | hx
        · exact hc
        · exact hb x hx
      · rintro ⟨hb, d, hd, h⟩
        cases before with
        | nil =>
          simp only [List.nil_append, List.cons.injEq] at h
          exact absurd (h.1 ▸ hd) hc
        | cons b before =>
          simp only [List.cons_append, List.cons.injEq] at h
          obtain ⟨rfl, rfl⟩ := h
          exact ⟨(before, behind), ih.2 ⟨fun x hx => hb x (by simp [hx]), d, hd, rfl⟩, rfl⟩

/-! ### Runs of characters -/

section Runs

variable {p : Char → Bool} {run run' rest rest' : List Char}

/-- A run of characters ends where one of another kind stands. -/
theorem takeWhile_run_append (hrun : ∀ c ∈ run, p c) (hrest : ∀ c ∈ rest.head?, ¬ p c) :
    (run ++ rest).takeWhile p = run := by
  rw [List.takeWhile_append_of_pos hrun]
  cases rest with
  | nil => simp
  | cons c rest => simp [hrest c rfl]

theorem dropWhile_run_append (hrun : ∀ c ∈ run, p c) (hrest : ∀ c ∈ rest.head?, ¬ p c) :
    (run ++ rest).dropWhile p = rest := by
  rw [List.dropWhile_append_of_pos hrun]
  cases rest with
  | nil => simp
  | cons c rest => simp [hrest c rfl]

/-- A text begins with one run only. -/
theorem run_append_inj (hrun : ∀ c ∈ run, p c) (hrest : ∀ c ∈ rest.head?, ¬ p c)
    (hrun' : ∀ c ∈ run', p c) (hrest' : ∀ c ∈ rest'.head?, ¬ p c)
    (h : run ++ rest = run' ++ rest') : run = run' ∧ rest = rest' := by
  constructor
  · rw [← takeWhile_run_append hrun hrest, h, takeWhile_run_append hrun' hrest']
  · rw [← dropWhile_run_append hrun hrest, h, dropWhile_run_append hrun' hrest']

end Runs

end ReleaseMatrix.Text
