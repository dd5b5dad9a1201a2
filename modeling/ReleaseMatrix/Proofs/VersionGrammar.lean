import Mathlib.Data.List.Basic
import Mathlib.Data.List.Induction
import Mathlib.Data.List.TakeWhile
import ReleaseMatrix.Version.Text

/-!
# The texts that write a version

`Version.Written` is the grammar of versions: white space, three numerals with points between them,
nothing or a qualifier behind a hyphen, and white space. `Version.Refused` lists the reasons why a
text writes no version: the part of the trimmed text before its first hyphen has not two points, or
one of its three pieces is no numeral in range; of these the first one is named. Every text falls
under one of the two, and it is read accordingly.

A qualifier is any text, so it may hold points, hyphens and the white space at the end. A hyphen in
front of the version, on the other hand, leaves nothing before it and so no pieces.

## What is proved

* `Text.natural?_eq_some_iff_decimal`, `Text.bounded?_eq_some_iff`: which numerals are read.
* `Version.ofText_outcome`: a text is read as the version that it writes, or refused for the reason
  that it gives; and a version is read back with white space around it and a qualifier behind it.
-/

namespace ReleaseMatrix

/-! ### Numerals -/

namespace Text

/-- A run of decimal digits, the most significant first, with the number that it writes. -/
inductive Decimal : List Char → Nat → Prop where
  /-- A single digit. -/
  | digit {d : Nat} (h : d < 10) : Decimal [Nat.digitChar d] d
  /-- One more digit behind a run. -/
  | append {s : List Char} {n d : Nat} (hs : Decimal s n) (h : d < 10) :
      Decimal (s ++ [Nat.digitChar d]) (10 * n + d)

/-- An unsigned numeral, which a single plus sign may precede, with the number that it writes. -/
inductive Unsigned : List Char → Nat → Prop where
  /-- Digits alone. -/
  | bare {s : List Char} {n : Nat} (h : Decimal s n) : Unsigned s n
  /-- Digits behind a plus sign. -/
  | plus {s : List Char} {n : Nat} (h : Decimal s n) : Unsigned ('+' :: s) n

variable {s : List Char} {n bound : Nat} {c : Char}

theorem exists_digitChar_of_isDigit (h : c.isDigit) : ∃ d < 10, c = Nat.digitChar d := by
  simp only [Char.isDigit, Bool.and_eq_true, decide_eq_true_eq, ge_iff_le,
    UInt32.le_iff_toNat_le] at h
  have hlow : 48 ≤ c.toNat := h.1
  have hhigh : c.toNat ≤ 57 := h.2
  refine ⟨c.toNat - 48, by omega, Char.toNat_inj.1 ?_⟩
  rw [Nat.toNat_digitChar_of_lt_ten (by omega)]
  omega

theorem ofDigitChars_append_digitChar (s : List Char) {d : Nat} (h : d < 10) :
    Nat.ofDigitChars 10 (s ++ [Nat.digitChar d]) 0 = 10 * Nat.ofDigitChars 10 s 0 + d := by
  rw [Nat.ofDigitChars_append, Nat.ofDigitChars_cons_digitChar_of_lt_ten h, Nat.ofDigitChars_nil]

/-- A run of digits is read as its number. -/
theorem natural?_eq_some_iff_decimal : natural? s = some n ↔ Decimal s n := by
  rw [natural?_eq_some_iff]
  constructor
  · rintro ⟨hne, hdigits, rfl⟩
    -- the grammar grows at the end of the run, where the digit of the least weight stands
    induction s using List.reverseRecOn with
    | nil => exact absurd rfl hne
    | append_singleton s c ih =>
      obtain ⟨d, hd, rfl⟩ := exists_digitChar_of_isDigit (hdigits c (by simp))
      rw [ofDigitChars_append_digitChar s hd]
      by_cases hs : s = []
      · subst hs
        simpa using Decimal.digit hd
      · exact .append (ih hs fun x hx => hdigits x (by simp [hx])) hd
  · intro h
    induction h with
    | digit hd =>
      exact ⟨by simp, by simpa using hd, by simpa using ofDigitChars_append_digitChar [] hd⟩
    | @append s n d hs hd ih =>
      obtain ⟨-, hdigits, hn⟩ := ih
      refine ⟨by simp, fun c hc => ?_, ?_⟩
      · rcases List.mem_append.1 hc with hc | hc
        · exact hdigits c hc
        · rw [List.mem_singleton.1 hc]
          simpa using hd
      · rw [ofDigitChars_append_digitChar s hd, hn]

theorem Decimal.isDigit (h : Decimal s n) : ∀ c ∈ s, c.isDigit :=
  (natural?_eq_some_iff.1 (natural?_eq_some_iff_decimal.2 h)).2.1

theorem Decimal.ne_nil (h : Decimal s n) : s ≠ [] :=
  (natural?_eq_some_iff.1 (natural?_eq_some_iff_decimal.2 h)).1

theorem decimal_toDigits (n : Nat) : Decimal (Nat.toDigits 10 n) n :=
  natural?_eq_some_iff_decimal.1 (natural?_toDigits n)

/-- A numeral below the bound is read as its number. -/
theorem bounded?_eq_some_iff : bounded? bound s = some n ↔ Unsigned s n ∧ n < bound := by
  simp only [bounded?, Option.filter_eq_some_iff, natural?_eq_some_iff_decimal, decide_eq_true_eq]
  refine and_congr_left fun _ => ⟨fun h => ?_, fun h => ?_⟩
  · split at h
    · exact .plus h
    · exact .bare h
  · cases h with
    | plus h => exact h
    | bare h =>
      split
      · exact absurd (h.isDigit '+' List.mem_cons_self) (by decide)
      · exact h

theorem Unsigned.ne_nil (h : Unsigned s n) : s ≠ [] := by
  cases h with
  | bare h => exact h.ne_nil
  | plus h => exact List.cons_ne_nil _ _

/-- A numeral is made of digits and a sign. -/
theorem Unsigned.isDigit_or (h : Unsigned s n) (hc : c ∈ s) : c.isDigit ∨ c = '+' := by
  cases h with
  | bare h => exact .inl (h.isDigit c hc)
  | plus h =>
    rcases List.mem_cons.1 hc with rfl | hc
    · exact .inr rfl
    · exact .inl (h.isDigit c hc)

end Text

namespace Version

open Text

/-! ### The grammar -/

/-- White space. -/
def IsBlank (w : List Char) : Prop := ∀ c ∈ w, isBlank c

/-- What may stand behind the numbers of a version: nothing, or a hyphen and any text. -/
inductive Qualifier : List Char → Prop where
  /-- No qualifier. -/
  | none : Qualifier []
  /-- A hyphen and a text. -/
  | text (q : List Char) : Qualifier ('-' :: q)

/-- A component of a version: an unsigned numeral for a number of 32 bits. -/
def Writes (piece : List Char) (n : Nat) : Prop := Unsigned piece n ∧ n < 0x100000000

/-- The texts that write a version. -/
inductive Written (v : Version) : List Char → Prop where
  /-- White space, the three numbers with points between them, a qualifier or none, white space. -/
  | intro {before first second third qualifier behind : List Char} (hbefore : IsBlank before)
      (hfirst : Writes first v.major) (hsecond : Writes second v.minor)
      (hthird : Writes third v.revision) (hqualifier : Qualifier qualifier)
      (hbehind : IsBlank behind) :
      Written v (before ++ (first ++ '.' :: (second ++ '.' :: third) ++ qualifier) ++ behind)

/-- The part of a text, without the white space around it, before its first hyphen. -/
inductive NumericPart : List Char → List Char → Prop where
  /-- Nothing is left to be trimmed, the part has no hyphen, and a qualifier follows or nothing. -/
  | intro {before part qualifier behind : List Char} (hbefore : IsBlank before)
      (htight : Tight (part ++ qualifier)) (hpart : '-' ∉ part) (hqualifier : Qualifier qualifier)
      (hbehind : IsBlank behind) : NumericPart (before ++ (part ++ qualifier) ++ behind) part

/-- A text writes no component. -/
def IsBad (piece : List Char) : Prop := ∀ n, ¬ Writes piece n

/-- Why a text writes no version. -/
inductive Refused (input : String) : VersionError → Prop where
  /-- The part before the qualifier does not contain exactly two points. -/
  | format {part : List Char} (hpart : NumericPart input.toList part) (h : part.count '.' ≠ 2) :
      Refused input (.format input)
  /-- It does, but the first piece is no component. -/
  | major {first second third : List Char}
      (hpart : NumericPart input.toList (first ++ '.' :: (second ++ '.' :: third)))
      (hpoints : '.' ∉ first ∧ '.' ∉ second ∧ '.' ∉ third) (hfirst : IsBad first) :
      Refused input (.component .major (String.ofList first) input)
  /-- The first piece is a component and the second is not. -/
  | minor {first second third : List Char} {n : Nat}
      (hpart : NumericPart input.toList (first ++ '.' :: (second ++ '.' :: third)))
      (hpoints : '.' ∉ first ∧ '.' ∉ second ∧ '.' ∉ third) (hfirst : Writes first n)
      (hsecond : IsBad second) : Refused input (.component .minor (String.ofList second) input)
  /-- The first two pieces are components and the third is not. -/
  | revision {first second third : List Char} {n n' : Nat}
      (hpart : NumericPart input.toList (first ++ '.' :: (second ++ '.' :: third)))
      (hpoints : '.' ∉ first ∧ '.' ∉ second ∧ '.' ∉ third) (hfirst : Writes first n)
      (hsecond : Writes second n') (hthird : IsBad third) :
      Refused input (.component .revision (String.ofList third) input)

/-! ### The part before the qualifier -/

variable {s part piece first second third : List Char} {input : String} {v : Version}

/-- A text is the part before its first hyphen and a qualifier. -/
theorem takeWhile_eq_of_qualifier {qualifier : List Char} (h : '-' ∉ part)
    (hqualifier : Qualifier qualifier) : (part ++ qualifier).takeWhile (· ≠ '-') = part := by
  have hall : ∀ c ∈ part, decide (c ≠ '-') = true := fun c hc =>
    decide_eq_true fun heq => h (heq ▸ hc)
  refine takeWhile_run_append hall ?_
  cases hqualifier with
  | none => simp
  | text q => simp

theorem qualifier_dropWhile (s : List Char) : Qualifier (s.dropWhile (· ≠ '-')) := by
  cases h : s.dropWhile (· ≠ '-') with
  | nil => exact .none
  | cons c q =>
    have hc := List.head?_dropWhile_not (fun c => decide (c ≠ '-')) s
    rw [h] at hc
    obtain rfl : c = '-' := by simpa using hc
    exact .text q

/-- Every text has exactly one part before the qualifier. -/
theorem numericPart_iff : NumericPart s part ↔ part = (trim s).takeWhile (· ≠ '-') := by
  constructor
  · intro h
    cases h with
    | @intro before part qualifier behind hbefore htight hpart hqualifier hbehind =>
      rw [trim_eq_iff.2 ⟨htight, before, behind, hbefore, hbehind, rfl⟩,
        takeWhile_eq_of_qualifier hpart hqualifier]
  · rintro rfl
    obtain ⟨htight, before, behind, hbefore, hbehind, hs⟩ := trim_eq_iff.1 (rfl : trim s = _)
    have hsplit : (trim s).takeWhile (· ≠ '-') ++ (trim s).dropWhile (· ≠ '-') = trim s :=
      List.takeWhile_append_dropWhile
    have hhyphen : '-' ∉ (trim s).takeWhile (· ≠ '-') := by
      intro hmem
      have hne := List.mem_takeWhile_imp hmem
      simp at hne
    rw [← hsplit] at htight hs
    conv => enter [1]; rw [hs]
    exact .intro hbefore htight hhyphen (qualifier_dropWhile _) hbehind

/-! ### Reading the pieces -/

theorem readComponent_eq_ok_iff {component : Component} {n : { n : Nat // n < 0x100000000 }} :
    readComponent input component piece = .ok n ↔ Writes piece n := by
  rw [Writes, ← bounded?_eq_some_iff, ← number32?_eq_some_iff, readComponent]
  cases number32? piece <;> simp

theorem readComponent_of_writes {component : Component} {n : Nat} (h : Writes piece n) :
    readComponent input component piece = .ok ⟨n, h.2⟩ :=
  readComponent_eq_ok_iff.2 h

theorem readComponent_of_isBad {component : Component} (h : IsBad piece) :
    readComponent input component piece =
      .error (.component component (String.ofList piece) input) := by
  cases hread : readComponent input component piece with
  | ok n => exact absurd (readComponent_eq_ok_iff.1 hread) (h n)
  | error e =>
    rw [readComponent] at hread
    split at hread
    · cases hread
    · rw [← hread]

/-- With two points before the qualifier the three pieces are read one after the other. -/
theorem ofText_of_points
    (hpart : NumericPart input.toList (first ++ '.' :: (second ++ '.' :: third)))
    (hpoints : '.' ∉ first ∧ '.' ∉ second ∧ '.' ∉ third) : ofText input = (do
      let ⟨major, major_lt⟩ ← readComponent input .major first
      let ⟨minor, minor_lt⟩ ← readComponent input .minor second
      let ⟨revision, revision_lt⟩ ← readComponent input .revision third
      return { major, minor, revision, major_lt, minor_lt, revision_lt }) := by
  obtain ⟨hfirst, hsecond, hthird⟩ := hpoints
  rw [ofText, ← numericPart_iff.1 hpart,
    pieces_eq_three_iff.2 ⟨hfirst, hsecond, hthird, rfl⟩]

/-- Otherwise there are no three pieces. -/
theorem ofText_of_count_ne (hpart : NumericPart input.toList part) (h : part.count '.' ≠ 2) :
    ofText input = .error (.format input) := by
  have hlength : (pieces '.' part).length ≠ 3 := by
    rw [length_pieces]
    omega
  rw [ofText, ← numericPart_iff.1 hpart]
  split
  · rename_i hpieces
    exact absurd (congrArg List.length hpieces) hlength
  · rfl

/-! ### What is read -/

theorem Writes.point_not_mem {n : Nat} (h : Writes piece n) : '.' ∉ piece := fun hmem => by
  rcases h.1.isDigit_or hmem with hdigit | hplus <;> contradiction

theorem Written.numericPart (h : Written v s) : ∃ first second third,
    NumericPart s (first ++ '.' :: (second ++ '.' :: third)) ∧ Writes first v.major ∧
      Writes second v.minor ∧ Writes third v.revision := by
  obtain ⟨hbefore, hfirst, hsecond, hthird, hqualifier, hbehind⟩ := h
  rename_i before first second third qualifier behind
  refine ⟨first, second, third, numericPart_iff.2 ?_, hfirst, hsecond, hthird⟩
  -- no character of the three numbers is white space or a hyphen
  have hplain : ∀ c ∈ first ++ '.' :: (second ++ '.' :: third), ¬ isBlank c ∧ c ≠ '-' := by
    intro c hc
    have hpiece : ∀ {piece : List Char} {n : Nat}, Writes piece n → c ∈ piece →
        c.isDigit ∨ c = '+' := fun hpiece => hpiece.1.isDigit_or
    have hcases : (c.isDigit ∨ c = '+') ∨ c = '.' := by
      simp only [List.mem_append, List.mem_cons] at hc
      rcases hc with hc | hc | hc | hc | hc
      · exact .inl (hpiece hfirst hc)
      · exact .inr hc
      · exact .inl (hpiece hsecond hc)
      · exact .inr hc
      · exact .inl (hpiece hthird hc)
    rcases hcases with (hdigit | rfl) | rfl
    · refine ⟨not_isBlank_of_isDigit hdigit, ?_⟩
      rintro rfl
      cases hdigit
    · decide
    · decide
  have hne : first ++ '.' :: (second ++ '.' :: third) ≠ [] := by simp
  have htrimmed : Qualifier (trimEnd qualifier) := by
    cases hqualifier with
    | none => exact .none
    | text q =>
      rw [trimEnd_cons q (by decide)]
      exact .text _
  rw [trim_append_right hbehind, trim_append_left hbefore,
    trim_append qualifier hne fun c hc => (hplain c hc).1,
    takeWhile_eq_of_qualifier (fun hmem => (hplain _ hmem).2 rfl) htrimmed]

/-- A text is read as the version that it writes. -/
theorem ofText_of_written (h : Written v input.toList) : ofText input = .ok v := by
  obtain ⟨first, second, third, hpart, hfirst, hsecond, hthird⟩ := h.numericPart
  rw [ofText_of_points hpart ⟨hfirst.point_not_mem, hsecond.point_not_mem, hthird.point_not_mem⟩,
    readComponent_of_writes hfirst, readComponent_of_writes hsecond,
    readComponent_of_writes hthird]
  rfl

/-- A text is refused for the reason that it gives. -/
theorem ofText_of_refused {e : VersionError} (h : Refused input e) : ofText input = .error e := by
  cases h with
  | format hpart h => exact ofText_of_count_ne hpart h
  | major hpart hpoints hfirst =>
    rw [ofText_of_points hpart hpoints, readComponent_of_isBad hfirst]
    rfl
  | minor hpart hpoints hfirst hsecond =>
    rw [ofText_of_points hpart hpoints, readComponent_of_writes hfirst,
      readComponent_of_isBad hsecond]
    rfl
  | revision hpart hpoints hfirst hsecond hthird =>
    rw [ofText_of_points hpart hpoints, readComponent_of_writes hfirst,
      readComponent_of_writes hsecond, readComponent_of_isBad hthird]
    rfl

theorem exists_writes_or_isBad (piece : List Char) : (∃ n, Writes piece n) ∨ IsBad piece := by
  by_cases h : ∃ n, Writes piece n
  · exact .inl h
  · exact .inr (not_exists.1 h)

/-- Three components before the qualifier write a version. -/
theorem NumericPart.exists_written {n n' n'' : Nat}
    (hpart : NumericPart s (first ++ '.' :: (second ++ '.' :: third))) (hfirst : Writes first n)
    (hsecond : Writes second n') (hthird : Writes third n'') : ∃ v, Written v s := by
  generalize hwhole : first ++ '.' :: (second ++ '.' :: third) = part at hpart
  obtain ⟨hbefore, -, -, hqualifier, hbehind⟩ := hpart
  rw [← hwhole]
  exact ⟨⟨n, n', n'', hfirst.2, hsecond.2, hthird.2⟩,
    .intro hbefore hfirst hsecond hthird hqualifier hbehind⟩

/-- Every text writes a version or gives a reason why not. -/
theorem exists_written_or_refused (input : String) :
    (∃ v, Written v input.toList) ∨ ∃ e, Refused input e := by
  have hpart : NumericPart input.toList _ := numericPart_iff.2 rfl
  generalize (trim input.toList).takeWhile (· ≠ '-') = part at hpart
  by_cases hcount : part.count '.' = 2
  · obtain ⟨first, second, third, hpieces⟩ : ∃ first second third,
        pieces '.' part = [first, second, third] := by
      rw [← List.length_eq_three, length_pieces, hcount]
    obtain ⟨hone, htwo, hthree, rfl⟩ := pieces_eq_three_iff.1 hpieces
    rcases exists_writes_or_isBad first with ⟨n, hfirst⟩ | hfirst
    · rcases exists_writes_or_isBad second with ⟨n', hsecond⟩ | hsecond
      · rcases exists_writes_or_isBad third with ⟨n'', hthird⟩ | hthird
        · exact .inl (hpart.exists_written hfirst hsecond hthird)
        · exact .inr ⟨_, .revision hpart ⟨hone, htwo, hthree⟩ hfirst hsecond hthird⟩
      · exact .inr ⟨_, .minor hpart ⟨hone, htwo, hthree⟩ hfirst hsecond⟩
    · exact .inr ⟨_, .major hpart ⟨hone, htwo, hthree⟩ hfirst⟩
  · exact .inr ⟨_, .format hpart hcount⟩

theorem writes_toDigits {n : Nat} (h : n < 0x100000000) : Writes (Nat.toDigits 10 n) n :=
  ⟨.bare (decimal_toDigits n), h⟩

/-- A version is written by its text with white space around it, also with a qualifier. -/
theorem written_text (v : Version) {before qualifier behind : List Char} (hbefore : IsBlank before)
    (hqualifier : Qualifier qualifier) (hbehind : IsBlank behind) :
    Written v (before ++ (v.text.toList ++ qualifier) ++ behind) := by
  rw [toList_text]
  exact .intro hbefore (writes_toDigits v.major_lt) (writes_toDigits v.minor_lt)
    (writes_toDigits v.revision_lt) hqualifier hbehind

/-- **A text is read exactly if it writes a version**, and then as that version; otherwise it is
refused for the reason that it gives. Every text has one part before the qualifier, and the form of
the text is refused exactly if that part does not contain two points. So the text of a version is
read back with white space around it, without a qualifier and with any. -/
theorem ofText_outcome :
    (∀ input : String,
      (∀ v, ofText input = .ok v ↔ Written v input.toList) ∧
      (∀ e, ofText input = .error e ↔ Refused input e) ∧
      ∃ part, (∀ part', NumericPart input.toList part' ↔ part' = part) ∧
        (ofText input = .error (.format input) ↔ part.count '.' ≠ 2)) ∧
    ∀ (v : Version) (before behind : String), IsBlank before.toList → IsBlank behind.toList →
      ofText (before ++ v.text ++ behind) = .ok v ∧
      ∀ q : String, ofText (before ++ v.text ++ "-" ++ q ++ behind) = .ok v := by
  have hok : ∀ input v, ofText input = .ok v ↔ Written v input.toList := by
    intro input v
    refine ⟨fun h => ?_, ofText_of_written⟩
    rcases exists_written_or_refused input with ⟨v', hv'⟩ | ⟨e, he⟩
    · rw [ofText_of_written hv'] at h
      exact Except.ok.inj h ▸ hv'
    · rw [ofText_of_refused he] at h
      cases h
  have herror : ∀ input e, ofText input = .error e ↔ Refused input e := by
    intro input e
    refine ⟨fun h => ?_, ofText_of_refused⟩
    rcases exists_written_or_refused input with ⟨v, hv⟩ | ⟨e', he'⟩
    · rw [ofText_of_written hv] at h
      cases h
    · rw [ofText_of_refused he'] at h
      exact Except.error.inj h ▸ he'
  refine ⟨fun input => ⟨hok input, herror input, _, fun _ => numericPart_iff, ?_⟩, ?_⟩
  · rw [herror]
    constructor
    · intro h
      cases h with
      | format hpart h => rwa [← numericPart_iff.1 hpart]
    · exact .format (numericPart_iff.2 rfl)
  · intro v before behind hbefore hbehind
    refine ⟨(hok _ v).2 ?_, fun q => (hok _ v).2 ?_⟩
    · simpa using v.written_text hbefore .none hbehind
    · simpa using v.written_text hbefore (.text q.toList) hbehind

/-- A sign, leading zeros, points and hyphens in the qualifier, and white space that is none in
ASCII; the white space within a version is part of a piece, which is then no component. -/
theorem ofText_outcome_qualified :
    ofText "\u2003+7.010.2-rc.1-x \n" = .ok (.of 7 10 2) ∧
    ofText ("\u2003" ++ (Version.of 7 10 2).text ++ "-" ++ "rc.1" ++ " ") = .ok (.of 7 10 2) ∧
    ofText "7. 10.2" = .error (.component .minor " 10" "7. 10.2") ∧
    ofText "-7.10.2" = .error (.format "-7.10.2") := by
  obtain ⟨houtcome, hqualified⟩ := ofText_outcome
  have hspace : IsBlank "\u2003".toList := List.forall_mem_singleton.2 (by decide)
  have hblank : IsBlank " ".toList := List.forall_mem_singleton.2 (by decide)
  refine ⟨rfl, (hqualified (.of 7 10 2) "\u2003" " " hspace hblank).2 "rc.1", rfl, ?_⟩
  obtain ⟨-, -, part, hpart, hformat⟩ := houtcome "-7.10.2"
  refine hformat.2 ?_
  rw [← (hpart []).1 (numericPart_iff.2 rfl)]
  decide

end Version

end ReleaseMatrix
