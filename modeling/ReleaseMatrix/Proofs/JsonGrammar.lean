import ReleaseMatrix.Json.Reader
import ReleaseMatrix.Proofs.VersionGrammar

/-!
# The grammar of JSON

`Json.Writes` is the grammar of JSON: which texts write a value, the items of a list or the fields
of an object. It leaves a writer free where JSON does: there can be white space around every token,
a character can stand for itself or be escaped, by a letter or by its one or two units in UTF-16,
and a number can have a sign, a fraction and an exponent. Only objects whose fields have distinct
names are in the grammar, since it is up to the reader what two fields with one name mean.

The reader bounds the number of nested readings. Every reading starts behind a character that no
later one sees, so the length of the text is bound enough. A number has no closing mark: it ends
where none of its characters follows.

## What is proved

* `Json.readAs_of_writes`: in front of anything that ends it, a text is read as what it writes.
* `Json.IsWrittenBy.read?_eq`: a document is read as the value that it writes.
* `Json.IsWrittenBy.unique`: it writes no other value.
-/

namespace ReleaseMatrix.Json

open Text

/-! ### The grammar -/

/-- The four characters that can stand between tokens. -/
def IsSpace (c : Char) : Prop := c = ' ' ∨ c = '\n' ∨ c = '\t' ∨ c = '\r'

instance (c : Char) : Decidable (IsSpace c) :=
  inferInstanceAs (Decidable (c = ' ' ∨ c = '\n' ∨ c = '\t' ∨ c = '\r'))

/-- White space between tokens. -/
def Spaces (w : List Char) : Prop := ∀ c ∈ w, IsSpace c

/-- A hexadecimal digit and its value. -/
inductive HexDigit : Char → Nat → Prop where
  /-- A digit in lower case. -/
  | lower {n : Nat} (h : n < 16) : HexDigit (Nat.digitChar n) n
  /-- A digit in upper case. -/
  | upper {n : Nat} (h : n < 16) : HexDigit (Nat.digitChar n).toUpper n

/-- Four hexadecimal digits and the unit that they write. -/
inductive HexUnit : List Char → Nat → Prop where
  /-- The most significant digit is the first. -/
  | digits {a b c d : Char} {w x y z : Nat} (ha : HexDigit a w) (hb : HexDigit b x)
      (hc : HexDigit c y) (hd : HexDigit d z) :
      HexUnit [a, b, c, d] (((w * 16 + x) * 16 + y) * 16 + z)

/-- The letters that write a character behind a backslash. -/
def shortEscapes : List (Char × Char) := [('\x22', '\x22'), ('\\', '\\'), ('/', '/'), ('b', '\x08'),
  ('f', '\x0c'), ('n', '\n'), ('r', '\r'), ('t', '\t')]

/-- What writes a character inside quotes. -/
inductive WritesChar : List Char → Char → Prop where
  /-- A character other than the controls, the quote and the backslash writes itself. -/
  | plain {c : Char} (hcontrol : 0x20 ≤ c.toNat) (hquote : c ≠ '\x22') (hbackslash : c ≠ '\\') :
      WritesChar [c] c
  /-- An escape by a letter. -/
  | short {letter c : Char} (h : (letter, c) ∈ shortEscapes) : WritesChar ['\\', letter] c
  /-- An escape by the one unit of the character. -/
  | unit {s : List Char} {c : Char} (h : HexUnit s c.toNat) : WritesChar ('\\' :: 'u' :: s) c
  /-- An escape by the two units of the character. -/
  | pair {s t : List Char} {c : Char} (hc : 0x10000 ≤ c.toNat)
      (hhigh : HexUnit s (0xD800 + (c.toNat - 0x10000) / 0x400))
      (hlow : HexUnit t (0xDC00 + (c.toNat - 0x10000) % 0x400)) :
      WritesChar ('\\' :: 'u' :: s ++ '\\' :: 'u' :: t) c

/-- What writes characters inside quotes, one behind the other. -/
inductive WritesChars : List Char → List Char → Prop where
  /-- Nothing writes nothing. -/
  | nil : WritesChars [] []
  /-- One more character in front. -/
  | cons {s t : List Char} {c : Char} {cs : List Char} (hc : WritesChar s c)
      (h : WritesChars t cs) : WritesChars (s ++ t) (c :: cs)

/-- A quoted text. -/
inductive WritesString : List Char → String → Prop where
  /-- The characters stand between quotes. -/
  | quoted {s : List Char} {text : String} (h : WritesChars s text.toList) :
      WritesString ('\x22' :: s ++ ['\x22']) text

/-- An integer without a sign. -/
inductive WritesInteger : List Char → Nat → Prop where
  /-- A zero stands alone. -/
  | zero : WritesInteger ['0'] 0
  /-- Other integers have no leading zero. -/
  | leading {s : List Char} {n : Nat} (h : Decimal s n) (hzero : s.head? ≠ some '0') :
      WritesInteger s n

/-- The fraction of a number. -/
inductive IsFraction : List Char → Prop where
  /-- No fraction. -/
  | none : IsFraction []
  /-- Digits behind a point. -/
  | point {s : List Char} {n : Nat} (h : Decimal s n) : IsFraction ('.' :: s)

/-- The exponent of a number. -/
inductive IsExponent : List Char → Prop where
  /-- No exponent. -/
  | none : IsExponent []
  /-- Digits behind the letter. -/
  | bare {e : Char} {s : List Char} {n : Nat} (he : e = 'e' ∨ e = 'E') (h : Decimal s n) :
      IsExponent (e :: s)
  /-- Digits behind the letter and a sign. -/
  | signed {e sign : Char} {s : List Char} {n : Nat} (he : e = 'e' ∨ e = 'E')
      (hsign : sign = '+' ∨ sign = '-') (h : Decimal s n) : IsExponent (e :: sign :: s)

/-- A number. -/
inductive WritesNumber : List Char → Json → Prop where
  /-- Digits alone. -/
  | natural {s : List Char} {n : Nat} (h : WritesInteger s n) : WritesNumber s (.natural n)
  /-- A number with a sign, a fraction or an exponent is kept as it is written. -/
  | other {sign integer fraction exponent : List Char} {n : Nat} (hsign : sign = [] ∨ sign = ['-'])
      (hinteger : WritesInteger integer n) (hfraction : IsFraction fraction)
      (hexponent : IsExponent exponent) (h : ¬ (sign = [] ∧ fraction = [] ∧ exponent = [])) :
      WritesNumber (sign ++ integer ++ fraction ++ exponent)
        (.number (String.ofList (sign ++ integer ++ fraction ++ exponent)))

/-- What a text can write. -/
inductive Part where
  /-- A value. -/
  | value (v : Json)
  /-- The items of a list up to its closing bracket, at least one. -/
  | items (items : List Json)
  /-- The fields of an object up to its closing brace, at least one. -/
  | fields (fields : List (String × Json))

/-- The text writes a value, without white space around it, the items of a list or the fields of an
object. -/
inductive Writes : List Char → Part → Prop where
  /-- The literal `null`. -/
  | null : Writes "null".toList (.value .null)
  /-- The literal `true`. -/
  | true : Writes "true".toList (.value (.bool true))
  /-- The literal `false`. -/
  | false : Writes "false".toList (.value (.bool false))
  /-- A number. -/
  | number {s : List Char} {v : Json} (h : WritesNumber s v) : Writes s (.value v)
  /-- A quoted text. -/
  | string {s : List Char} {text : String} (h : WritesString s text) :
      Writes s (.value (.string text))
  /-- A list without items. -/
  | emptyArray {w : List Char} (hw : Spaces w) : Writes ('[' :: w ++ [']']) (.value (.array []))
  /-- A list with items. -/
  | array {s : List Char} {items : List Json} (h : Writes s (.items items)) :
      Writes ('[' :: s) (.value (.array items))
  /-- An object without fields. -/
  | emptyObject {w : List Char} (hw : Spaces w) :
      Writes ('\x7b' :: w ++ ['\x7d']) (.value (.object []))
  /-- An object with fields, whose names are distinct. -/
  | object {s : List Char} {fields : List (String × Json)} (h : Writes s (.fields fields))
      (hnames : (fields.map Prod.fst).Nodup) : Writes ('\x7b' :: s) (.value (.object fields))
  /-- The last item. -/
  | lastItem {w s w' : List Char} {v : Json} (hw : Spaces w) (h : Writes s (.value v))
      (hw' : Spaces w') : Writes (w ++ s ++ w' ++ [']']) (.items [v])
  /-- An item in front of others. -/
  | item {w s w' t : List Char} {v : Json} {items : List Json} (hw : Spaces w)
      (h : Writes s (.value v)) (hw' : Spaces w') (hlater : Writes t (.items items)) :
      Writes (w ++ s ++ w' ++ ',' :: t) (.items (v :: items))
  /-- The last field. -/
  | lastField {w n w₁ w₂ s w' : List Char} {name : String} {v : Json} (hw : Spaces w)
      (hname : WritesString n name) (hw₁ : Spaces w₁) (hw₂ : Spaces w₂) (h : Writes s (.value v))
      (hw' : Spaces w') :
      Writes (w ++ n ++ w₁ ++ ':' :: (w₂ ++ s ++ w' ++ ['\x7d'])) (.fields [(name, v)])
  /-- A field in front of others. -/
  | field {w n w₁ w₂ s w' t : List Char} {name : String} {v : Json}
      {fields : List (String × Json)} (hw : Spaces w) (hname : WritesString n name)
      (hw₁ : Spaces w₁) (hw₂ : Spaces w₂) (h : Writes s (.value v)) (hw' : Spaces w')
      (hlater : Writes t (.fields fields)) :
      Writes (w ++ n ++ w₁ ++ ':' :: (w₂ ++ s ++ w' ++ ',' :: t)) (.fields ((name, v) :: fields))

/-- The text is a document, a value with white space around it. -/
inductive IsWrittenBy (v : Json) : List Char → Prop where
  /-- White space in front of the value and behind it. -/
  | document {w s w' : List Char} (hw : Spaces w) (h : Writes s (.value v)) (hw' : Spaces w') :
      IsWrittenBy v (w ++ s ++ w')

/-! ### White space -/

variable {w s t rest : List Char} {fuel : Nat} {v : Json}

theorem skipBlanks_append (hw : Spaces w) (s : List Char) : skipBlanks (w ++ s) = skipBlanks s :=
  List.dropWhile_append_of_pos fun c hc => by simpa [IsSpace, or_assoc] using hw c hc

theorem skipBlanks_of_spaces (hw : Spaces w) : skipBlanks w = [] := by
  simpa [skipBlanks] using skipBlanks_append hw []

theorem readValue_append (hw : Spaces w) (s : List Char) :
    readValue fuel (w ++ s) = readValue fuel s := by
  cases fuel with
  | zero => rw [readValue, readValue]
  | succ fuel => simp only [readValue, skipBlanks_append hw]

theorem readFields_append (hw : Spaces w) (s : List Char) :
    readFields fuel (w ++ s) = readFields fuel s := by
  cases fuel with
  | zero => rw [readFields, readFields]
  | succ fuel => simp only [readFields, skipBlanks_append hw]

/-! ### Texts -/

theorem HexDigit.hexDigit?_eq {c : Char} {n : Nat} (h : HexDigit c n) : hexDigit? c = some n := by
  have hlower : ∀ n < 16, hexDigit? (Nat.digitChar n) = some n := by decide
  have hupper : ∀ n < 16, hexDigit? (Nat.digitChar n).toUpper = some n := by decide
  cases h with
  | lower hn => exact hlower n hn
  | upper hn => exact hupper n hn

theorem HexUnit.readUnits_append {n : Nat} (h : HexUnit s n) (rest : List Char) :
    readUnits ('\\' :: 'u' :: s ++ rest) =
      (readUnits rest).map fun (units, behind) => (n :: units, behind) := by
  cases h with
  | digits ha hb hc hd =>
    simp only [List.cons_append, List.nil_append, readUnits, hexNumber?, ha.hexDigit?_eq,
      hb.hexDigit?_eq, hc.hexDigit?_eq, hd.hexDigit?_eq]
    cases readUnits rest <;> rfl

/-- No character has the code of a surrogate. -/
theorem not_surrogate (c : Char) : ¬ (0xD800 ≤ c.toNat ∧ c.toNat < 0xE000) := by
  have hvalid : c.toNat.isValidChar := c.valid
  simp only [Nat.isValidChar] at hvalid
  omega

theorem joinUnits_toNat_cons (c : Char) (units : List Nat) :
    joinUnits (c.toNat :: units) = (joinUnits units).map (c :: ·) := by
  have hvalid : c.toNat.isValidChar := c.valid
  cases units with
  | nil => simp [joinUnits, hvalid]
  | cons low units =>
    have hhigh : ¬ (0xD800 ≤ c.toNat ∧ c.toNat < 0xDC00) := by
      have := not_surrogate c
      omega
    rw [joinUnits, if_neg hhigh, if_pos hvalid, Char.ofNat_toNat]

theorem joinUnits_pair_cons {c : Char} (hc : 0x10000 ≤ c.toNat) (units : List Nat) :
    joinUnits ((0xD800 + (c.toNat - 0x10000) / 0x400) :: (0xDC00 + (c.toNat - 0x10000) % 0x400) ::
      units) = (joinUnits units).map (c :: ·) := by
  have hvalid : c.toNat.isValidChar := c.valid
  simp only [Nat.isValidChar] at hvalid
  have hcode : 0x10000 + (0xD800 + (c.toNat - 0x10000) / 0x400 - 0xD800) * 0x400 +
      (0xDC00 + (c.toNat - 0x10000) % 0x400 - 0xDC00) = c.toNat := by omega
  rw [joinUnits, if_pos (by omega), if_pos (by omega), hcode, Char.ofNat_toNat]

/-- A character is read as units that give it back. -/
theorem WritesChar.exists_units {c : Char} (h : WritesChar s c) : ∃ units : List Nat,
    (∀ rest, readUnits (s ++ rest) =
      (readUnits rest).map fun (later, behind) => (units ++ later, behind)) ∧
    ∀ later, joinUnits (units ++ later) = (joinUnits later).map (c :: ·) := by
  cases h with
  -- a character that is not escaped counts as one unit, even if UTF-16 has two for it
  | plain hcontrol hquote hbackslash =>
    refine ⟨[c.toNat], fun rest => ?_, joinUnits_toNat_cons c⟩
    rw [List.singleton_append, readUnits, if_neg (by omega)]
    · cases readUnits rest <;> rfl
    · exact hquote
    · rintro _ _ _ _ _ rfl
      exact absurd rfl hbackslash
    · rintro _ _ rfl
      exact absurd rfl hbackslash
  | @short letter c h =>
    refine ⟨[c.toNat], fun rest => ?_, joinUnits_toNat_cons c⟩
    have hletters : ∀ escape ∈ shortEscapes,
        shortEscape? escape.1 = some escape.2 ∧ escape.1 ≠ 'u' := by decide
    obtain ⟨hread, hletter⟩ := hletters _ h
    rw [List.cons_append, List.cons_append, List.nil_append, readUnits, hread]
    · cases readUnits rest <;> rfl
    · rintro _ _ _ _ _ rfl
      exact absurd rfl hletter
  | unit h => exact ⟨[c.toNat], h.readUnits_append, joinUnits_toNat_cons c⟩
  | @pair s t c hc hhigh hlow =>
    refine ⟨[_, _], fun rest => ?_, joinUnits_pair_cons hc⟩
    rw [List.append_assoc, hhigh.readUnits_append, hlow.readUnits_append]
    cases readUnits rest <;> rfl

theorem WritesChars.exists_units {cs : List Char} (h : WritesChars s cs) : ∃ units : List Nat,
    (∀ rest, readUnits (s ++ '\x22' :: rest) = some (units, rest)) ∧ joinUnits units = some cs := by
  induction h with
  | nil => exact ⟨[], fun rest => rfl, rfl⟩
  | cons hc h ih =>
    obtain ⟨units, hread, hjoin⟩ := hc.exists_units
    obtain ⟨later, hlater, hcs⟩ := ih
    refine ⟨units ++ later, fun rest => ?_, ?_⟩
    · rw [List.append_assoc, hread, hlater, Option.map_some]
    · rw [hjoin, hcs, Option.map_some]

/-- A text between quotes is read up to the closing quote. -/
theorem WritesString.readString_eq {text : String} (h : WritesString s text) (rest : List Char) :
    ∃ t, s ++ rest = '\x22' :: t ∧ readString t = some (text, rest) := by
  cases h with
  | @quoted s text h =>
    obtain ⟨units, hread, hjoin⟩ := h.exists_units
    refine ⟨s ++ '\x22' :: rest, by simp, ?_⟩
    simp [readString, hread, hjoin]

/-! ### Numbers -/

/-- The text goes on with nothing that a number could go on with. -/
def Ends (rest : List Char) : Prop :=
  ∀ c ∈ rest.head?, ¬ c.isDigit ∧ c ≠ '.' ∧ c ≠ 'e' ∧ c ≠ 'E'

theorem ends_of_spaces (hw : Spaces w) : Ends w := by
  intro c hc
  rcases hw c (List.mem_of_mem_head? hc) with rfl | rfl | rfl | rfl <;> decide

theorem ends_append (hw : Spaces w) (hrest : Ends rest) : Ends (w ++ rest) := by
  cases w with
  | nil => exact hrest
  | cons c w => exact fun c' hc => ends_of_spaces hw c' hc

theorem ends_cons {c : Char} (h : ¬ c.isDigit ∧ c ≠ '.' ∧ c ≠ 'e' ∧ c ≠ 'E') (rest : List Char) :
    Ends (c :: rest) := by
  rintro c' ⟨⟩
  exact h

theorem readDigits_append {n : Nat} (h : Decimal s n) (hrest : ∀ c ∈ rest.head?, ¬ c.isDigit) :
    readDigits (s ++ rest) = some (s, rest) := by
  rw [readDigits, takeWhile_run_append h.isDigit hrest, dropWhile_run_append h.isDigit hrest]
  obtain ⟨c, s, rfl⟩ := List.exists_cons_of_ne_nil h.ne_nil
  rfl

theorem readInteger_append {n : Nat} (h : WritesInteger s n)
    (hrest : ∀ c ∈ rest.head?, ¬ c.isDigit) : readInteger (s ++ rest) = some (s, rest) := by
  cases h with
  | zero => rfl
  | leading h hzero =>
    have hdigits := readDigits_append h hrest
    rw [readInteger]
    · exact hdigits
    · intro t heq
      obtain ⟨c, s, rfl⟩ := List.exists_cons_of_ne_nil h.ne_nil
      rw [List.cons_append, List.cons.injEq] at heq
      exact hzero (congrArg some heq.1)

theorem WritesInteger.ofDigitChars_eq {n : Nat} (h : WritesInteger s n) :
    Nat.ofDigitChars 10 s 0 = n := by
  cases h with
  | zero => rfl
  | leading h => exact (natural?_eq_some_iff.1 (natural?_eq_some_iff_decimal.2 h)).2.2

theorem readFraction_append (h : IsFraction s)
    (hrest : ∀ c ∈ rest.head?, ¬ c.isDigit ∧ c ≠ '.') :
    readFraction (s ++ rest) = some (s, rest) := by
  cases h with
  | none =>
    rw [List.nil_append, readFraction]
    rintro t rfl
    exact (hrest '.' rfl).2 rfl
  | point h =>
    rw [List.cons_append, readFraction, readDigits_append h fun c hc => (hrest c hc).1]
    rfl

theorem readExponent_append (h : IsExponent s) (hrest : Ends rest) :
    readExponent (s ++ rest) = some (s, rest) := by
  cases h with
  | none =>
    match rest, hrest with
    | [], _ => rfl
    | [c], hrest =>
      obtain ⟨-, -, he⟩ := hrest c rfl
      simp [readExponent, he]
    | c :: c' :: rest, hrest =>
      obtain ⟨-, -, he⟩ := hrest c rfl
      simp [readExponent, he]
  | @bare e s n he h =>
    have hdigits := readDigits_append h fun c hc => (hrest c hc).1
    obtain ⟨c, s, rfl⟩ := List.exists_cons_of_ne_nil h.ne_nil
    have hc : ¬ (c = '+' ∨ c = '-') := by
      rintro (rfl | rfl) <;> exact absurd (h.isDigit _ List.mem_cons_self) (by decide)
    rw [List.cons_append] at hdigits
    rw [List.cons_append, List.cons_append, readExponent, if_pos he, if_neg hc, hdigits]
    rfl
  | signed he hsign h =>
    rw [List.cons_append, List.cons_append, readExponent, if_pos he, if_pos hsign,
      readDigits_append h fun c hc => (hrest c hc).1]
    rfl

/-- What is behind an integer or a fraction ends it. -/
theorem IsExponent.ends_append (h : IsExponent s) (hrest : Ends rest) :
    ∀ c ∈ (s ++ rest).head?, ¬ c.isDigit ∧ c ≠ '.' := by
  cases h with
  | none => exact fun c hc => ⟨(hrest c hc).1, (hrest c hc).2.1⟩
  | bare he => rintro c ⟨⟩; rcases he with rfl | rfl <;> decide
  | signed he => rintro c ⟨⟩; rcases he with rfl | rfl <;> decide

theorem IsFraction.ends_append (h : IsFraction s) (hrest : ∀ c ∈ rest.head?, ¬ c.isDigit) :
    ∀ c ∈ (s ++ rest).head?, ¬ c.isDigit := by
  cases h with
  | none => exact hrest
  | point => rintro c ⟨⟩; decide

theorem WritesInteger.head {n : Nat} (h : WritesInteger s n) :
    ∃ c t, s = c :: t ∧ c.isDigit := by
  cases h with
  | zero => exact ⟨'0', [], rfl, rfl⟩
  | leading h =>
    obtain ⟨c, t, rfl⟩ := List.exists_cons_of_ne_nil h.ne_nil
    exact ⟨c, t, rfl, h.isDigit c List.mem_cons_self⟩

theorem WritesNumber.head (h : WritesNumber s v) :
    ∃ c t, s = c :: t ∧ (c = '-' ∨ c.isDigit) := by
  cases h with
  | natural h =>
    obtain ⟨c, t, rfl, hc⟩ := h.head
    exact ⟨c, t, rfl, .inr hc⟩
  | other hsign hinteger =>
    obtain ⟨c, t, rfl, hc⟩ := hinteger.head
    rcases hsign with rfl | rfl
    · exact ⟨c, _, rfl, .inr hc⟩
    · exact ⟨'-', _, rfl, .inl rfl⟩

/-- The three parts of a number are read one behind the other. -/
theorem readNumber_of_parts {sign integer fraction exponent : List Char} {n : Nat}
    (hsign : sign = [] ∨ sign = ['-']) (hinteger : WritesInteger integer n)
    (hfraction : IsFraction fraction) (hexponent : IsExponent exponent) (hrest : Ends rest) :
    readNumber (sign ++ integer ++ fraction ++ exponent ++ rest) =
      if sign = [] ∧ fraction = [] ∧ exponent = [] then some (.natural n, rest)
      else some (.number (String.ofList (sign ++ integer ++ fraction ++ exponent)), rest) := by
  have hbehind := hexponent.ends_append hrest
  have hread := readInteger_append hinteger
    (hfraction.ends_append fun c hc => (hbehind c hc).1)
  have hnatural := hinteger.ofDigitChars_eq
  rcases hsign with rfl | rfl
  · obtain ⟨c, t, rfl, hdigit⟩ := hinteger.head
    have hminus : c ≠ '-' := by
      rintro rfl
      exact absurd hdigit (by decide)
    rw [List.cons_append] at hread
    simp [readNumber, hminus, hread, readFraction_append hfraction hbehind,
      readExponent_append hexponent hrest, hnatural, String.append_assoc]
  · simp [readNumber, hread, readFraction_append hfraction hbehind,
      readExponent_append hexponent hrest]

theorem readNumber_append (h : WritesNumber s v) (hrest : Ends rest) :
    readNumber (s ++ rest) = some (v, rest) := by
  cases h with
  | natural h => simpa using readNumber_of_parts (.inl rfl) h .none .none hrest
  | other hsign hinteger hfraction hexponent h =>
    rw [readNumber_of_parts hsign hinteger hfraction hexponent hrest, if_neg h]

/-! ### Values -/

/-- What a text that writes a part is read as, whatever is behind it. -/
def ReadAs (fuel : Nat) (s rest : List Char) : Part → Prop
  | .value v => Ends rest → readValue fuel (s ++ rest) = some (v, rest)
  | .items items => readItems fuel (s ++ rest) = some (items, rest)
  | .fields fields => readFields fuel (s ++ rest) = some (fields, rest)

theorem not_isSpace_of_isDigit {c : Char} (h : c.isDigit) : ¬ IsSpace c := by
  rintro (rfl | rfl | rfl | rfl) <;> exact absurd h (by decide)

theorem skipBlanks_cons {c : Char} (hc : ¬ IsSpace c) (s : List Char) :
    skipBlanks (c :: s) = c :: s :=
  List.dropWhile_cons_of_neg (by simpa [IsSpace, or_assoc] using hc)

/-- The first character of a value is no white space and closes no list. -/
theorem Writes.head (h : Writes s (.value v)) :
    ∃ c t, s = c :: t ∧ ¬ IsSpace c ∧ c ≠ ']' := by
  cases h with
  | null => exact ⟨'n', _, rfl, by decide⟩
  | true => exact ⟨'t', _, rfl, by decide⟩
  | false => exact ⟨'f', _, rfl, by decide⟩
  | number h =>
    obtain ⟨c, t, rfl, hc⟩ := h.head
    refine ⟨c, t, rfl, ?_⟩
    rcases hc with rfl | hc
    · decide
    · refine ⟨not_isSpace_of_isDigit hc, ?_⟩
      rintro rfl
      exact absurd hc (by decide)
  | string h =>
    cases h with
    | quoted => exact ⟨'\x22', _, rfl, by decide⟩
  | emptyArray | array => exact ⟨'[', _, rfl, by decide⟩
  | emptyObject | object => exact ⟨'\x7b', _, rfl, by decide⟩

/-- The items of a list do not begin with the closing bracket. -/
theorem Writes.skipBlanks_items {items : List Json} (h : Writes s (.items items)) (t : List Char) :
    ¬ ∃ t', skipBlanks (s ++ t) = ']' :: t' := by
  cases h with
  | lastItem hw h =>
    obtain ⟨c, s, rfl, hspace, hbracket⟩ := h.head
    simp [skipBlanks_append hw, skipBlanks_cons hspace, hbracket]
  | item hw h =>
    obtain ⟨c, s, rfl, hspace, hbracket⟩ := h.head
    simp [skipBlanks_append hw, skipBlanks_cons hspace, hbracket]

/-- The fields of an object do not begin with the closing brace. -/
theorem Writes.skipBlanks_fields {fields : List (String × Json)} (h : Writes s (.fields fields))
    (t : List Char) : ¬ ∃ t', skipBlanks (s ++ t) = '\x7d' :: t' := by
  cases h with
  | lastField hw hname =>
    cases hname
    simp [skipBlanks_append hw, skipBlanks_cons (c := '\x22') (by decide)]
  | field hw hname =>
    cases hname
    simp [skipBlanks_append hw, skipBlanks_cons (c := '\x22') (by decide)]

/-- Fields with distinct names are all kept. -/
theorem laterFields_of_nodup {fields : List (String × Json)} (h : (fields.map Prod.fst).Nodup) :
    laterFields fields = fields := by
  induction fields with
  | nil => rfl
  | cons field fields ih =>
    obtain ⟨hnot, hnodup⟩ := List.nodup_cons.1 h
    have hname : ¬ fields.any fun f => f.1 = field.1 := by
      simpa using hnot
    rw [laterFields, ih hnodup, if_neg hname]

theorem readValue_quote (s : List Char) : readValue (fuel + 1) ('\x22' :: s) =
    (readString s).map fun (text, rest) => (.string text, rest) := by
  simp only [readValue, skipBlanks_cons (c := '\x22') (by decide)]

theorem readValue_bracket (h : ¬ ∃ t, skipBlanks s = ']' :: t) :
    readValue (fuel + 1) ('[' :: s) =
      (readItems fuel s).map fun (items, rest) => (.array items, rest) := by
  simp only [readValue, skipBlanks_cons (c := '[') (by decide)]
  split
  · exact absurd ⟨_, ‹_›⟩ h
  · rfl

theorem readValue_brace (h : ¬ ∃ t, skipBlanks s = '\x7d' :: t) :
    readValue (fuel + 1) ('\x7b' :: s) =
      (readFields fuel s).map fun (fields, rest) => (.object (laterFields fields), rest) := by
  simp only [readValue, skipBlanks_cons (c := '\x7b') (by decide)]
  split
  · exact absurd ⟨_, ‹_›⟩ h
  · rfl

theorem readValue_digit {c : Char} (hc : c = '-' ∨ c.isDigit) (s : List Char) :
    readValue (fuel + 1) (c :: s) = readNumber (c :: s) := by
  have hmark : ∀ mark, ¬ (mark = '-' ∨ mark.isDigit) → c ≠ mark := fun mark hmark heq =>
    hmark (heq ▸ hc)
  have hspace : ¬ IsSpace c := by
    rintro (rfl | rfl | rfl | rfl) <;> exact absurd hc (by decide)
  simp [readValue, skipBlanks_cons hspace, hmark '\x22' (by decide), hmark '[' (by decide),
    hmark '\x7b' (by decide), hc]

theorem readItems_bracket (hw : Spaces w)
    (hvalue : readValue fuel s = some (v, w ++ ']' :: rest)) :
    readItems (fuel + 1) s = some ([v], rest) := by
  simp [readItems, hvalue, skipBlanks_append hw, skipBlanks_cons (c := ']') (by decide)]

theorem readItems_comma (hw : Spaces w) (hvalue : readValue fuel s = some (v, w ++ ',' :: t)) :
    readItems (fuel + 1) s =
      (readItems fuel t).map fun (items, rest) => (v :: items, rest) := by
  simp only [readItems, hvalue, Option.bind_eq_bind, Option.bind_some, skipBlanks_append hw,
    skipBlanks_cons (c := ',') (by decide)]
  cases readItems fuel t <;> rfl

theorem readFields_brace {n w₁ w' : List Char} {name : String} (hw : Spaces w)
    (hname : WritesString n name) (hw₁ : Spaces w₁) (hw' : Spaces w')
    (hvalue : readValue fuel s = some (v, w' ++ '\x7d' :: rest)) :
    readFields (fuel + 1) (w ++ n ++ w₁ ++ ':' :: s) = some ([(name, v)], rest) := by
  obtain ⟨t, ht, hread⟩ := hname.readString_eq (w₁ ++ ':' :: s)
  rw [List.append_assoc, List.append_assoc, readFields_append hw, ht]
  simp [readFields, behind?, skipBlanks_cons (c := '\x22') (by decide), hread,
    skipBlanks_append hw₁, skipBlanks_cons (c := ':') (by decide), hvalue, skipBlanks_append hw',
    skipBlanks_cons (c := '\x7d') (by decide)]

theorem readFields_comma {n w₁ w' : List Char} {name : String} (hw : Spaces w)
    (hname : WritesString n name) (hw₁ : Spaces w₁) (hw' : Spaces w')
    (hvalue : readValue fuel s = some (v, w' ++ ',' :: t)) :
    readFields (fuel + 1) (w ++ n ++ w₁ ++ ':' :: s) =
      (readFields fuel t).map fun (fields, rest) => ((name, v) :: fields, rest) := by
  obtain ⟨t', ht, hread⟩ := hname.readString_eq (w₁ ++ ':' :: s)
  rw [List.append_assoc, List.append_assoc, readFields_append hw, ht]
  simp only [readFields, behind?, if_true, skipBlanks_cons (c := '\x22') (by decide), hread,
    skipBlanks_append hw₁, skipBlanks_cons (c := ':') (by decide), hvalue, skipBlanks_append hw',
    skipBlanks_cons (c := ',') (by decide), Option.bind_eq_bind, Option.bind_some]
  cases readFields fuel t <;> rfl

theorem Writes.ne_nil {part : Part} (h : Writes s part) : s ≠ [] := by
  cases part with
  | value v =>
    obtain ⟨c, t, rfl, -⟩ := h.head
    exact List.cons_ne_nil c t
  | items => cases h <;> simp
  | fields => cases h <;> simp

/-- **Reading undoes writing.** What a text writes is read off it, whatever is behind it, if the
number of nested readings may be its length. -/
theorem readAs_of_writes {part : Part} (h : Writes s part) (hfuel : s.length ≤ fuel)
    (rest : List Char) : ReadAs fuel s rest part := by
  -- the induction is on the recursion of the reader; the text of every part that is read one step
  -- deeper is shorter by the mark in front of it or behind it
  induction fuel generalizing s part rest with
  | zero => exact absurd (List.length_eq_zero_iff.1 (Nat.le_zero.1 hfuel)) h.ne_nil
  | succ fuel ih =>
    cases h with
    | null => exact fun _ => rfl
    | true => exact fun _ => rfl
    | false => exact fun _ => rfl
    | number h =>
      intro hrest
      obtain ⟨c, t, rfl, hc⟩ := h.head
      rw [List.cons_append, readValue_digit hc]
      exact readNumber_append h hrest
    | string h =>
      intro _
      obtain ⟨t, ht, hread⟩ := h.readString_eq rest
      rw [ht, readValue_quote, hread, Option.map_some]
    | emptyArray hw =>
      intro _
      simp [readValue, skipBlanks_append hw, skipBlanks_cons (c := '[') (by decide),
        skipBlanks_cons (c := ']') (by decide)]
    | array h =>
      intro _
      have hitems := ih h (Nat.le_of_succ_le_succ hfuel) rest
      rw [List.cons_append, readValue_bracket (h.skipBlanks_items rest), hitems, Option.map_some]
    | emptyObject hw =>
      intro _
      simp [readValue, skipBlanks_append hw, skipBlanks_cons (c := '\x7b') (by decide),
        skipBlanks_cons (c := '\x7d') (by decide)]
    | object h hnames =>
      intro _
      have hfields := ih h (Nat.le_of_succ_le_succ hfuel) rest
      rw [List.cons_append, readValue_brace (h.skipBlanks_fields rest), hfields, Option.map_some]
      simp only [laterFields_of_nodup hnames]
    | @lastItem w s w' v hw h hw' =>
      simp only [List.length_append, List.length_cons] at hfuel
      have hvalue := ih h (by omega) (w' ++ ']' :: rest)
        (ends_append hw' (ends_cons (by decide) _))
      rw [← readValue_append hw] at hvalue
      simpa [ReadAs] using readItems_bracket hw' hvalue
    | @item w s w' t v items hw h hw' hlater =>
      simp only [List.length_append, List.length_cons] at hfuel
      have hvalue := ih h (by omega) (w' ++ ',' :: (t ++ rest))
        (ends_append hw' (ends_cons (by decide) _))
      have hitems : readItems fuel (t ++ rest) = some (items, rest) := ih hlater (by omega) rest
      rw [← readValue_append hw] at hvalue
      simpa [ReadAs, hitems] using readItems_comma hw' hvalue
    | @lastField w n w₁ w₂ s w' name v hw hname hw₁ hw₂ h hw' =>
      simp only [List.length_append, List.length_cons] at hfuel
      have hvalue := ih h (by omega) (w' ++ '\x7d' :: rest)
        (ends_append hw' (ends_cons (by decide) _))
      rw [← readValue_append hw₂] at hvalue
      simpa [ReadAs] using readFields_brace hw hname hw₁ hw' hvalue
    | @field w n w₁ w₂ s w' t name v fields hw hname hw₁ hw₂ h hw' hlater =>
      simp only [List.length_append, List.length_cons] at hfuel
      have hvalue := ih h (by omega) (w' ++ ',' :: (t ++ rest))
        (ends_append hw' (ends_cons (by decide) _))
      have hfields : readFields fuel (t ++ rest) = some (fields, rest) := ih hlater (by omega) rest
      rw [← readValue_append hw₂] at hvalue
      simpa [ReadAs, hfields] using readFields_comma hw hname hw₁ hw' hvalue

/-! ### Documents -/

/-- **A document is read as the value that it writes.** -/
theorem IsWrittenBy.read?_eq {text : String} (h : v.IsWrittenBy text.toList) :
    read? text = some v := by
  generalize htext : text.toList = document at h
  cases h with
  | @document w s w' hw h hw' =>
    have hlength : text.length = (w ++ s ++ w').length := by
      rw [← htext, String.length_toList]
    have hfuel : s.length ≤ text.length + 1 := by
      simp only [hlength, List.length_append]
      omega
    have hread := readAs_of_writes h hfuel w' (ends_of_spaces hw')
    rw [read?, htext, List.append_assoc, readValue_append hw, hread]
    exact if_pos (skipBlanks_of_spaces hw')

/-- A document writes one value. -/
theorem IsWrittenBy.unique {v' : Json} (h : v.IsWrittenBy s) (h' : v'.IsWrittenBy s) : v = v' := by
  rw [← String.toList_ofList (l := s)] at h h'
  exact Option.some.inj (h.read?_eq.symm.trans h'.read?_eq)

end ReleaseMatrix.Json
