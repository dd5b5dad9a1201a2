/-!
# White space

The characters of the Unicode property `White_Space`, and the text that is left when they are taken
off both ends. Texts are lists of characters here, so that a reader is a recursion on its input.

Beside the definitions stand the facts that readers use: a trimmed text has no white space at its
ends, trimming changes no text that has none there, and white space put around a text is taken off
again.
-/

namespace ReleaseMatrix.Text

/-- The characters with the property `White_Space`. -/
def isBlank (c : Char) : Bool :=
  (9 ≤ c.toNat && c.toNat ≤ 13) || c.toNat = 0x20 || c.toNat = 0x85 || c.toNat = 0xA0 ||
    c.toNat = 0x1680 || (0x2000 ≤ c.toNat && c.toNat ≤ 0x200A) || c.toNat = 0x2028 ||
    c.toNat = 0x2029 || c.toNat = 0x202F || c.toNat = 0x205F || c.toNat = 0x3000

/-- The text without the white space in front of it. -/
def trimStart (s : List Char) : List Char := s.dropWhile isBlank

/-- The text without the white space behind it. -/
def trimEnd (s : List Char) : List Char := (s.reverse.dropWhile isBlank).reverse

/-- The text without the white space around it. -/
def trim (s : List Char) : List Char := trimEnd (trimStart s)

/-- Every character that the core library takes for white space has the property. -/
theorem isBlank_of_isWhitespace {c : Char} (h : c.isWhitespace) : isBlank c := by
  simp only [Char.isWhitespace, Bool.or_eq_true, decide_eq_true_eq] at h
  rcases h with ((rfl | rfl) | rfl) | rfl <;> decide

/-- No digit is white space. -/
theorem not_isBlank_of_isDigit {c : Char} (h : c.isDigit) : ¬ isBlank c := by
  simp only [Char.isDigit, Bool.and_eq_true, decide_eq_true_eq, ge_iff_le,
    UInt32.le_iff_toNat_le] at h
  have hlow : 48 ≤ c.toNat := h.1
  have hhigh : c.toNat ≤ 57 := h.2
  simp only [isBlank, Bool.or_eq_true, Bool.and_eq_true, decide_eq_true_eq]
  omega

@[simp] theorem trimStart_nil : trimStart [] = [] := rfl

@[simp] theorem trim_nil : trim [] = [] := rfl

theorem trimStart_eq_self {c : Char} {s : List Char} (h : ¬ isBlank c) :
    trimStart (c :: s) = c :: s := by
  simp [trimStart, h]

theorem trimEnd_eq_self {c : Char} {s : List Char} (h : ¬ isBlank c) :
    trimEnd (s ++ [c]) = s ++ [c] := by
  simp [trimEnd, h]

theorem trimStart_append_of_blank {w s : List Char} (h : ∀ c ∈ w, isBlank c) :
    trimStart (w ++ s) = trimStart s := by
  induction w with
  | nil => rfl
  | cons c w ih =>
    have hc : isBlank c := h c (by simp)
    have hw : ∀ x ∈ w, isBlank x := fun x hx => h x (by simp [hx])
    simpa [trimStart, hc] using ih hw

theorem trimEnd_append_of_blank {w s : List Char} (h : ∀ c ∈ w, isBlank c) :
    trimEnd (s ++ w) = trimEnd s := by
  have hr : ∀ c ∈ w.reverse, isBlank c := fun c hc => h c (by simpa using hc)
  have := trimStart_append_of_blank (s := s.reverse) hr
  simpa [trimEnd, trimStart] using this

/-- White space is taken off only behind the last other character. -/
theorem trimEnd_cons {c : Char} (s : List Char) (h : ¬ isBlank c) :
    trimEnd (c :: s) = c :: trimEnd s := by
  rw [trimEnd, trimEnd, List.reverse_cons, List.dropWhile_append]
  split
  · rename_i hempty
    simp [List.isEmpty_iff.1 hempty, h]
  · simp

theorem trim_cons {c : Char} (s : List Char) (h : ¬ isBlank c) :
    trim (c :: s) = c :: trimEnd s := by
  rw [trim, trimStart_eq_self h, trimEnd_cons s h]

/-- A text without white space is not changed. -/
theorem trim_eq_self {s : List Char} (h : ∀ c ∈ s, ¬ isBlank c) : trim s = s := by
  have hend : trimEnd s = s := by
    induction s with
    | nil => rfl
    | cons c s ih =>
      rw [trimEnd_cons s (h c List.mem_cons_self), ih fun x hx => h x (List.mem_cons_of_mem c hx)]
  cases s with
  | nil => rfl
  | cons c s => rw [trim, trimStart_eq_self (h c List.mem_cons_self), hend]

theorem trim_append_left {w s : List Char} (h : ∀ c ∈ w, isBlank c) : trim (w ++ s) = trim s := by
  rw [trim, trim, trimStart_append_of_blank h]

theorem trim_append_right {s w : List Char} (h : ∀ c ∈ w, isBlank c) : trim (s ++ w) = trim s := by
  rw [trim, trim, trimStart, List.dropWhile_append]
  split
  · rename_i hempty
    have hs : trimStart s = [] := List.isEmpty_iff.1 hempty
    have hw : w.dropWhile isBlank = [] := by
      simpa [trimStart] using trimStart_append_of_blank (s := []) h
    rw [hw, hs]
  · exact trimEnd_append_of_blank h

/-- Nothing is left of white space. -/
theorem trim_eq_nil {w : List Char} (h : ∀ c ∈ w, isBlank c) : trim w = [] :=
  (trim_append_right h : trim ([] ++ w) = trim [])

/-- White space is taken off only behind the last character that is none. -/
theorem trimEnd_append {s : List Char} (rest : List Char) (h : ∀ c ∈ s, ¬ isBlank c) :
    trimEnd (s ++ rest) = s ++ trimEnd rest := by
  induction s with
  | nil => rfl
  | cons c s ih =>
    rw [List.cons_append, trimEnd_cons _ (h c List.mem_cons_self),
      ih fun x hx => h x (List.mem_cons_of_mem c hx), List.cons_append]

/-- What begins with something that has no white space is trimmed behind it only. -/
theorem trim_append {s : List Char} (rest : List Char) (hne : s ≠ [])
    (h : ∀ c ∈ s, ¬ isBlank c) : trim (s ++ rest) = s ++ trimEnd rest := by
  cases s with
  | nil => exact absurd rfl hne
  | cons c s => rw [trim, List.cons_append, trimStart_eq_self (h c List.mem_cons_self),
      ← List.cons_append, trimEnd_append rest h]

/-! ### What trimming leaves -/

/-- No white space is at either end of the text. -/
def Tight (s : List Char) : Prop :=
  (∀ c ∈ s.head?, ¬ isBlank c) ∧ ∀ c ∈ s.getLast?, ¬ isBlank c

/-- A text is the white space in front of it and what is left. -/
theorem exists_append_trimStart (s : List Char) :
    ∃ before, (∀ c ∈ before, isBlank c) ∧ s = before ++ trimStart s :=
  ⟨s.takeWhile isBlank, List.all_eq_true.1 List.all_takeWhile,
    List.takeWhile_append_dropWhile.symm⟩

/-- A text is what is left and the white space behind it. -/
theorem exists_trimEnd_append (s : List Char) :
    ∃ behind, (∀ c ∈ behind, isBlank c) ∧ s = trimEnd s ++ behind := by
  obtain ⟨before, hbefore, hs⟩ := exists_append_trimStart s.reverse
  refine ⟨before.reverse, fun c hc => hbefore c (List.mem_reverse.1 hc), ?_⟩
  rw [trimEnd, ← trimStart, ← List.reverse_append, ← hs, List.reverse_reverse]

/-- A text is what is left of it, with the white space around it. -/
theorem exists_append_trim_append (s : List Char) : ∃ before behind,
    (∀ c ∈ before, isBlank c) ∧ (∀ c ∈ behind, isBlank c) ∧ s = before ++ trim s ++ behind := by
  obtain ⟨before, hbefore, hs⟩ := exists_append_trimStart s
  obtain ⟨behind, hbehind, hstart⟩ := exists_trimEnd_append (trimStart s)
  refine ⟨before, behind, hbefore, hbehind, ?_⟩
  rw [trim, List.append_assoc, ← hstart, ← hs]

theorem not_isBlank_of_head?_trimStart {s : List Char} {c : Char} (h : c ∈ (trimStart s).head?) :
    ¬ isBlank c := by
  have hfalse := List.head?_dropWhile_not isBlank s
  rw [trimStart] at h
  rw [Option.mem_def.1 h] at hfalse
  simpa using hfalse

theorem not_isBlank_of_getLast?_trimEnd {s : List Char} {c : Char} (h : c ∈ (trimEnd s).getLast?) :
    ¬ isBlank c := by
  rw [trimEnd, List.getLast?_reverse] at h
  exact not_isBlank_of_head?_trimStart h

/-- Nothing is left to be trimmed. -/
theorem tight_trim (s : List Char) : Tight (trim s) := by
  refine ⟨fun c hc => ?_, fun c => not_isBlank_of_getLast?_trimEnd⟩
  obtain ⟨behind, -, hs⟩ := exists_trimEnd_append (trimStart s)
  refine not_isBlank_of_head?_trimStart (s := s) ?_
  rw [hs, Option.mem_def, List.head?_append, ← trim, Option.mem_def.1 hc, Option.some_or]

/-- A text without white space at its ends is not changed. -/
theorem trim_eq_self_of_tight {s : List Char} (h : Tight s) : trim s = s := by
  have hstart : trimStart s = s := by
    cases s with
    | nil => rfl
    | cons c s => exact trimStart_eq_self (h.1 c rfl)
  rw [trim, hstart]
  rcases List.eq_nil_or_concat s with rfl | ⟨s, c, rfl⟩
  · rfl
  · rw [List.concat_eq_append] at h ⊢
    exact trimEnd_eq_self (h.2 c (by simp))

/-- The trimmed text is the one tight text that is left when white space is taken off both ends. -/
theorem trim_eq_iff {s t : List Char} : trim s = t ↔ Tight t ∧ ∃ before behind,
    (∀ c ∈ before, isBlank c) ∧ (∀ c ∈ behind, isBlank c) ∧ s = before ++ t ++ behind := by
  constructor
  · rintro rfl
    exact ⟨tight_trim s, exists_append_trim_append s⟩
  · rintro ⟨htight, before, behind, hbefore, hbehind, rfl⟩
    rw [trim_append_right hbehind, trim_append_left hbefore, trim_eq_self_of_tight htight]

/-! ### Trimming around a character that stays -/

theorem trim_trimStart (s : List Char) : trim (trimStart s) = trim s := by
  obtain ⟨before, hbefore, hs⟩ := exists_append_trimStart s
  conv => rhs; rw [hs]
  exact (trim_append_left hbefore).symm

theorem trim_trimEnd (s : List Char) : trim (trimEnd s) = trim s := by
  obtain ⟨behind, hbehind, hs⟩ := exists_trimEnd_append s
  conv => rhs; rw [hs]
  exact (trim_append_right hbehind).symm

theorem trimStart_append_cons {c : Char} (s rest : List Char) (h : ¬ isBlank c) :
    trimStart (s ++ c :: rest) = trimStart s ++ c :: rest := by
  rw [trimStart, trimStart, List.dropWhile_append]
  split
  · rename_i hempty
    rw [List.isEmpty_iff.1 hempty]
    exact trimStart_eq_self h
  · rfl

/-- White space is taken off in front of what stands before such a character, and behind what stands
behind it. -/
theorem trim_append_cons {c : Char} (s rest : List Char) (h : ¬ isBlank c) :
    trim (s ++ c :: rest) = trimStart s ++ c :: trimEnd rest := by
  have hend : ∀ t, trimEnd (t ++ c :: rest) = t ++ c :: trimEnd rest := by
    intro t
    have hreverse : (t ++ c :: rest).reverse = rest.reverse ++ c :: t.reverse := by simp
    rw [trimEnd, ← trimStart, hreverse, trimStart_append_cons _ _ h]
    simp [trimEnd, trimStart]
  rw [trim, trimStart_append_cons s rest h, hend]

/-- White space behind a text does not change how the text begins. -/
theorem head?_trimStart (s : List Char) : (trimStart s).head? = (trim s).head? := by
  cases hs : trimStart s with
  | nil => rw [trim, hs]; rfl
  | cons c rest =>
    have hc : ¬ isBlank c := not_isBlank_of_head?_trimStart (s := s) (by rw [hs]; rfl)
    rw [trim, hs, trimEnd_cons rest hc]
    rfl

end ReleaseMatrix.Text
