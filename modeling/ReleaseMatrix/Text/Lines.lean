import ReleaseMatrix.Text.Blank

/-!
# Lines

A text is cut into lines after each newline. A line ends in a newline, in a carriage return and a
newline, or with the text; nothing else ends a line, and a text that ends in a newline has no empty
line behind it.
-/

namespace ReleaseMatrix.Text

/-- The lines of a text, without the newline, or carriage return and newline, at their ends. -/
def lines : List Char → List (List Char)
  | [] => []
  | '\n' :: rest => [] :: lines rest
  | '\r' :: '\n' :: rest => [] :: lines rest
  | c :: rest =>
    match lines rest with
    | [] => [[c]]
    | line :: more => (c :: line) :: more

/-- The lines of a text with the newlines at their ends. -/
def endedLines : List Char → List (List Char)
  | [] => []
  | c :: rest =>
    if c = '\n' then [c] :: endedLines rest
    else match endedLines rest with
      | [] => [[c]]
      | line :: more => (c :: line) :: more

/-- The lines of a text, as texts. -/
def linesOf (text : String) : List String := (lines text.toList).map String.ofList

@[simp] theorem lines_nil : lines [] = [] := rfl

@[simp] theorem lines_newline (rest : List Char) : lines ('\n' :: rest) = [] :: lines rest := rfl

@[simp] theorem lines_return_newline (rest : List Char) :
    lines ('\r' :: '\n' :: rest) = [] :: lines rest := rfl

/-- A character that ends no line and is no carriage return goes to the front of the first line. -/
theorem lines_cons {c : Char} (rest : List Char) (hn : c ≠ '\n') (hr : c ≠ '\r') :
    lines (c :: rest) =
      match lines rest with
      | [] => [[c]]
      | line :: more => (c :: line) :: more := by
  rw [lines]
  · exact hn
  · exact fun _ h => absurd h hr

/-- A line that a newline ends, without the carriage return that may stand at its own end. -/
def withoutReturn : List Char → List Char
  | [] => []
  | ['\r'] => []
  | c :: line => c :: withoutReturn line

/-- At most a carriage return is taken off. -/
theorem eq_or_eq_append_return (line : List Char) :
    line = withoutReturn line ∨ line = withoutReturn line ++ ['\r'] := by
  fun_induction withoutReturn line with
  | case1 => exact .inl rfl
  | case2 => exact .inr rfl
  | case3 c line _ ih =>
    rcases ih with h | h
    · exact .inl (congrArg (c :: ·) h)
    · exact .inr (congrArg (c :: ·) h)

/-- A carriage return at the end of a line is white space. -/
theorem trim_withoutReturn (line : List Char) : trim (withoutReturn line) = trim line := by
  rcases eq_or_eq_append_return line with h | h
  · rw [← h]
  · have hreturn : ∀ c ∈ ['\r'], isBlank c := List.forall_mem_singleton.2 (by decide)
    conv => rhs; rw [h]
    exact (trim_append_right hreturn).symm

/-- A newline ends the first line. -/
theorem lines_append_newline {line : List Char} (rest : List Char) (h : '\n' ∉ line) :
    lines (line ++ '\n' :: rest) = withoutReturn line :: lines rest := by
  fun_induction withoutReturn line with
  | case1 => rfl
  | case2 => rfl
  | case3 c line hreturn ih =>
    obtain ⟨hc, hline⟩ := not_or.1 (fun hmem => h (List.mem_cons.2 hmem))
    -- a carriage return that is not at the end of the line is a character like any other
    have hnot : ∀ behind, c = '\r' → line ++ '\n' :: rest = '\n' :: behind → False := by
      rintro behind rfl hbehind
      cases line with
      | nil => exact hreturn rfl rfl
      | cons d line => exact hline (by simp [(List.cons.inj hbehind).1])
    rw [List.cons_append, lines, ih hline]
    · exact fun hnewline => hc hnewline.symm
    · exact hnot

/-- A line without a carriage return is not changed. -/
theorem withoutReturn_eq_self {line : List Char} (h : '\r' ∉ line) : withoutReturn line = line := by
  rcases eq_or_eq_append_return line with heq | heq
  · exact heq.symm
  · exact absurd (by rw [heq]; simp) h

/-- Lines that newlines end are the first lines. -/
theorem lines_flatMap_append {ls : List (List Char)} (rest : List Char)
    (h : ∀ line ∈ ls, '\n' ∉ line) :
    lines (ls.flatMap (· ++ ['\n']) ++ rest) = ls.map withoutReturn ++ lines rest := by
  induction ls with
  | nil => rfl
  | cons line ls ih =>
    rw [List.flatMap_cons, List.append_assoc, List.append_assoc, List.singleton_append,
      lines_append_newline _ (h line List.mem_cons_self),
      ih fun other hother => h other (List.mem_cons_of_mem line hother), List.map_cons,
      List.cons_append]

/-- Lines that newlines end are the lines of the text. -/
theorem lines_flatMap {ls : List (List Char)} (h : ∀ line ∈ ls, '\n' ∉ line ∧ '\r' ∉ line) :
    lines (ls.flatMap (· ++ ['\n'])) = ls := by
  have hlines := lines_flatMap_append [] fun line hline => (h line hline).1
  have hself : ls.map withoutReturn = ls.map id :=
    List.map_congr_left fun line hline => withoutReturn_eq_self (h line hline).2
  simpa [hself] using hlines

/-- A text in which there is no newline is its only line. -/
theorem lines_of_not_mem {line : List Char} (h : '\n' ∉ line) (hne : line ≠ []) :
    lines line = [line] := by
  fun_induction lines line with
  | case1 => exact absurd rfl hne
  | case2 => exact absurd List.mem_cons_self h
  | case3 => exact absurd (List.mem_cons_of_mem _ List.mem_cons_self) h
  | case4 c rest _ _ hnone ih =>
    by_cases hempty : rest = []
    · rw [hempty]
    · rw [ih (fun hmem => h (List.mem_cons_of_mem c hmem)) hempty] at hnone
      cases hnone
  | case5 c rest _ _ line more hsome ih =>
    have hrest : rest ≠ [] := by
      rintro rfl
      cases hsome
    rw [ih (fun hmem => h (List.mem_cons_of_mem c hmem)) hrest] at hsome
    obtain ⟨rfl, rfl⟩ := List.cons.inj hsome
    rfl

/-- A line that ends with the text or in a newline is the first one, but for a carriage return. -/
theorem exists_lines_append {line rest : List Char} (hne : line ≠ []) (h : '\n' ∉ line)
    (hrest : rest = [] ∨ rest.head? = some '\n') :
    ∃ first later, lines (line ++ rest) = first :: later ∧ trim first = trim line := by
  cases rest with
  | nil => exact ⟨line, [], by rw [List.append_nil, lines_of_not_mem h hne], rfl⟩
  | cons c rest =>
    obtain rfl : c = '\n' := by simpa using hrest
    exact ⟨withoutReturn line, lines rest, lines_append_newline rest h, trim_withoutReturn line⟩

/-- No character is lost in lines that keep their ends. -/
@[simp] theorem flatten_endedLines (s : List Char) : (endedLines s).flatten = s := by
  induction s with
  | nil => rfl
  | cons c rest ih =>
    rw [endedLines]
    split
    · simp [ih]
    · split
      · simp_all
      · rename_i line more h
        rw [h] at ih
        simp [← ih]

end ReleaseMatrix.Text
