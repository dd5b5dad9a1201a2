import Mathlib.Data.Option.Basic
import ReleaseMatrix.Declaration
import ReleaseMatrix.Proofs.VersionGrammar

/-!
# The lines that declare a version

A line declares a version if it has the form of a declaration and its three numbers are numerals for
numbers of 32 bits. `Declaration.Form` is a line of that form, taken apart. Its digits may be of any
script: the form of a line does not depend on that, and whether they are the ASCII digits that
numerals are made of is a second question.

No line has two forms. Each part ends at a character that cannot belong to it: what stands before
the keywords at a letter, a run of digits at an underscore or a space, and the qualifier at a space,
which is neither in its name nor a digit. So it does not matter in which way the form of a line is
searched for, and a line whose one form has other digits, or too great a number, declares nothing.

## What is proved

* `Declaration.Form.eq_of_line_eq`: a line has at most one form.
* `Declaration.ofLine_line`, `Declaration.exists_form`: a line of the form declares what its
  numerals write, and no other line declares anything.
* `Declaration.ofLine_eq_some_iff_form`: which lines declare which version.
-/

namespace ReleaseMatrix.Declaration

open Text

/-! ### The form of a declaration -/

/-- A non-empty run of decimal digits of any script. -/
structure IsDigits (s : List Char) : Prop where
  /-- There is a digit. -/
  ne_nil : s ≠ []
  /-- There is nothing else. -/
  all_digits : ∀ c ∈ s, isDecimalDigit c

/-- What may stand behind the three numbers in the name of a constant. -/
inductive Qualifier : List Char → Prop where
  /-- Nothing. -/
  | none : Qualifier []
  /-- The qualifier of a pre-release, with its number. -/
  | numbered {name : String} {digits : List Char}
      (hname : name ∈ ["_alpha", "_beta", "_rc", "_ee"]) (hdigits : IsDigits digits) :
      Qualifier (name.toList ++ digits)

/-- A line of the form of a declaration, taken apart. -/
@[ext] structure Form where
  /-- What stands before the keywords. -/
  before : List Char
  /-- Whether the constant belongs to the older line. -/
  isLegacy : Bool
  /-- The digits of the first number. -/
  first : List Char
  /-- The digits of the second number. -/
  second : List Char
  /-- The digits of the third number. -/
  third : List Char
  /-- What stands behind the numbers in the name of the constant. -/
  qualifier : List Char
  /-- What stands behind the space that ends the name. -/
  rest : List Char
  /-- Something stands before the keywords. -/
  before_ne_nil : before ≠ []
  /-- It has no word characters; newlines are none. -/
  not_isWord : ∀ c ∈ before, ¬ isWord c
  /-- The first number has digits. -/
  isDigits_first : IsDigits first
  /-- The second number has digits. -/
  isDigits_second : IsDigits second
  /-- The third number has digits. -/
  isDigits_third : IsDigits third
  /-- The qualifier is one of the known ones, or none. -/
  isQualifier : Qualifier qualifier
  /-- There is no newline behind the name. -/
  newline_not_mem : '\n' ∉ rest

namespace Form

/-- The name of the constant behind `V_`, and the rest of the line. -/
def name (form : Form) : List Char :=
  form.first ++ '_' :: (form.second ++ '_' :: (form.third ++ (form.qualifier ++ ' ' :: form.rest)))

/-- The line from the keywords on. -/
def constant (form : Form) : List Char :=
  "public static final ".toList ++ ((if form.isLegacy then "LegacyES".toList else []) ++
    ("Version V_".toList ++ form.name))

/-- The line. -/
def line (form : Form) : List Char := form.before ++ form.constant

/-- The three numbers are numerals, of ASCII digits, for the numbers of the version. -/
structure Writes (form : Form) (v : Version) : Prop where
  /-- The first number. -/
  major : Decimal form.first v.major
  /-- The second number. -/
  minor : Decimal form.second v.minor
  /-- The third number. -/
  revision : Decimal form.third v.revision

/-- The version that the three numbers write, if they are numerals for numbers of 32 bits. -/
def version? (form : Form) : Option Version := do
  let ⟨major, major_lt⟩ ← number32? form.first
  let ⟨minor, minor_lt⟩ ← number32? form.second
  let ⟨revision, revision_lt⟩ ← number32? form.third
  return { major, minor, revision, major_lt, minor_lt, revision_lt }

end Form

variable {s digits rest line : List Char} {v : Version}

/-! ### Where the parts end -/

theorem not_isDecimalDigit_underscore : ¬ isDecimalDigit '_' := by decide

theorem not_isDecimalDigit_space : ¬ isDecimalDigit ' ' := by decide

theorem IsDigits.not_mem {c : Char} (h : IsDigits s) (hc : ¬ isDecimalDigit c) : c ∉ s :=
  fun hmem => hc (h.all_digits c hmem)

/-- No qualifier has a space. -/
theorem Qualifier.space_not_mem (h : Qualifier s) : ' ' ∉ s := by
  cases h with
  | none => exact List.not_mem_nil
  | numbered hname hdigits =>
    have hspace := hdigits.not_mem not_isDecimalDigit_space
    simp only [List.mem_cons, List.not_mem_nil, or_false] at hname
    rcases hname with rfl | rfl | rfl | rfl <;> simp [hspace]

/-- The digits of the third number end where the qualifier begins, or at the space. -/
theorem Qualifier.not_isDecimalDigit_head (h : Qualifier s) :
    ∀ c ∈ (s ++ ' ' :: rest).head?, ¬ isDecimalDigit c := by
  intro c hc
  cases h with
  | none =>
    obtain rfl : ' ' = c := by simpa using hc
    exact not_isDecimalDigit_space
  | numbered hname hdigits =>
    simp only [List.mem_cons, List.not_mem_nil, or_false] at hname
    obtain rfl : '_' = c := by
      rcases hname with rfl | rfl | rfl | rfl <;> simpa using hc
    exact not_isDecimalDigit_underscore

theorem Form.not_isWord_before (form : Form) : ∀ c ∈ form.before, ! isWord c := by
  intro c hc
  simp [form.not_isWord c hc]

/-- The keywords begin with a letter. -/
theorem Form.isWord_head_constant (form : Form) : ∀ c ∈ form.constant.head?, ¬ ! isWord c := by
  have hhead : form.constant.head? = some 'p' := rfl
  intro c hc
  obtain rfl : 'p' = c := Option.some.inj (hhead.symm.trans hc)
  decide

theorem Form.eq_of_name_eq {form form' : Form} (h : form.name = form'.name) :
    form.first = form'.first ∧ form.second = form'.second ∧ form.third = form'.third ∧
      form.qualifier = form'.qualifier ∧ form.rest = form'.rest := by
  have hbar {digits : List Char} (hdigits : IsDigits digits) : '_' ∉ digits :=
    hdigits.not_mem not_isDecimalDigit_underscore
  obtain ⟨hfirst, h⟩ :=
    append_separator_inj (hbar form.isDigits_first) (hbar form'.isDigits_first) h
  obtain ⟨hsecond, h⟩ :=
    append_separator_inj (hbar form.isDigits_second) (hbar form'.isDigits_second) h
  obtain ⟨hthird, h⟩ := run_append_inj form.isDigits_third.all_digits
    form.isQualifier.not_isDecimalDigit_head form'.isDigits_third.all_digits
    form'.isQualifier.not_isDecimalDigit_head h
  obtain ⟨hqualifier, hrest⟩ :=
    append_separator_inj form.isQualifier.space_not_mem form'.isQualifier.space_not_mem h
  exact ⟨hfirst, hsecond, hthird, hqualifier, hrest⟩

/-- A line has at most one form. -/
theorem Form.eq_of_line_eq {form form' : Form} (h : form.line = form'.line) : form = form' := by
  obtain ⟨hbefore, h⟩ := run_append_inj form.not_isWord_before form.isWord_head_constant
    form'.not_isWord_before form'.isWord_head_constant h
  have h := List.append_cancel_left h
  have hlegacy : form.isLegacy = form'.isLegacy := by
    cases hl : form.isLegacy <;> cases hl' : form'.isLegacy <;> simp_all
  rw [hlegacy] at h
  have h := List.append_cancel_left (List.append_cancel_left h)
  obtain ⟨hfirst, hsecond, hthird, hqualifier, hrest⟩ := eq_of_name_eq h
  exact Form.ext hbefore hlegacy hfirst hsecond hthird hqualifier hrest

/-! ### Reading the parts -/

/-- A run of digits is taken off a text that begins with one. -/
theorem digitRun?_eq_some_iff : digitRun? s = some (digits, rest) ↔
    IsDigits digits ∧ (∀ c ∈ rest.head?, ¬ isDecimalDigit c) ∧ s = digits ++ rest := by
  unfold digitRun?
  constructor
  · intro h
    split at h
    · cases h
    · rename_i hne
      obtain ⟨rfl, rfl⟩ := Prod.mk.inj (Option.some.inj h)
      refine ⟨⟨hne, fun c => List.mem_takeWhile_imp⟩, fun c hc => ?_,
        List.takeWhile_append_dropWhile.symm⟩
      have hhead := List.head?_dropWhile_not isDecimalDigit s
      rw [Option.mem_def.1 hc] at hhead
      simpa using hhead
  · rintro ⟨hdigits, hrest, rfl⟩
    rw [takeWhile_run_append hdigits.all_digits hrest,
      dropWhile_run_append hdigits.all_digits hrest]
    split
    · exact absurd rfl hdigits.ne_nil
    · rfl

theorem IsDigits.digitRun?_append (h : IsDigits digits)
    (hrest : ∀ c ∈ rest.head?, ¬ isDecimalDigit c) :
    digitRun? (digits ++ rest) = some (digits, rest) :=
  digitRun?_eq_some_iff.2 ⟨h, hrest, rfl⟩

theorem IsDigits.digitRun?_underscore (h : IsDigits digits) :
    digitRun? (digits ++ '_' :: rest) = some (digits, '_' :: rest) :=
  h.digitRun?_append (by simpa using not_isDecimalDigit_underscore)

theorem IsDigits.digitRun?_space (h : IsDigits digits) :
    digitRun? (digits ++ ' ' :: rest) = some (digits, ' ' :: rest) :=
  h.digitRun?_append (by simpa using not_isDecimalDigit_space)

/-- What is left behind a qualifier is behind one. -/
theorem exists_qualifier (s : List Char) : ∃ q, Qualifier q ∧ s = q ++ behindQualifier s := by
  unfold behindQualifier
  cases hfound : qualifiers.findSome? _ with
  | none => exact ⟨[], .none, rfl⟩
  | some rest =>
    obtain ⟨name, hname, hrest⟩ := List.exists_of_findSome?_eq_some hfound
    simp only [Option.bind_eq_bind, Option.bind_eq_some_iff] at hrest
    obtain ⟨number, hnumber, ⟨digits, rest'⟩, hrun, hrest⟩ := hrest
    obtain rfl : rest' = rest := Option.some.inj hrest
    obtain ⟨hdigits, -, rfl⟩ := digitRun?_eq_some_iff.1 hrun
    refine ⟨name.toList ++ digits, .numbered hname hdigits, ?_⟩
    rw [behind?_eq_some_iff.1 hnumber, List.append_assoc]
    rfl

/-- Behind the qualifier stands the space. -/
theorem Qualifier.behindQualifier_append (h : Qualifier s) :
    behindQualifier (s ++ ' ' :: rest) = ' ' :: rest := by
  unfold behindQualifier qualifiers
  -- the names are written out here, before they are compared letter by letter
  simp only [List.findSome?_cons, List.findSome?_nil, String.reduceToList]
  cases h with
  | none => simp [behind?]
  | numbered hname hdigits =>
    simp only [List.mem_cons, List.not_mem_nil, or_false] at hname
    rcases hname with rfl | rfl | rfl | rfl <;> simp [behind?, hdigits.digitRun?_space]

/-- The mark of the older line is passed over where it stands. -/
theorem behind?_legacy (isLegacy : Bool) (s : List Char) :
    (behind? "LegacyES".toList ((if isLegacy then "LegacyES".toList else []) ++
      ("Version V_".toList ++ s))).getD ((if isLegacy then "LegacyES".toList else []) ++
        ("Version V_".toList ++ s)) = "Version V_".toList ++ s := by
  cases isLegacy <;> simp [behind?]

/-- A text is the mark of the older line, or nothing, and what is left behind it. -/
theorem exists_isLegacy (s : List Char) : ∃ isLegacy : Bool,
    s = (if isLegacy then "LegacyES".toList else []) ++ (behind? "LegacyES".toList s).getD s := by
  cases h : behind? "LegacyES".toList s with
  | none => exact ⟨false, rfl⟩
  | some rest => exact ⟨true, behind?_eq_some_iff.1 h⟩

/-! ### Reading a line -/

theorem Form.takeWhile_line (form : Form) : form.line.takeWhile (! isWord ·) = form.before := by
  unfold line
  exact takeWhile_run_append form.not_isWord_before form.isWord_head_constant

theorem Form.dropWhile_line (form : Form) : form.line.dropWhile (! isWord ·) = form.constant := by
  unfold line
  exact dropWhile_run_append form.not_isWord_before form.isWord_head_constant

/-- A line of the form declares what its three numbers write. -/
theorem ofLine_line (form : Form) : ofLine form.line = form.version? := by
  obtain ⟨c, hc⟩ : ∃ c, form.before.head? = some c :=
    Option.isSome_iff_exists.1 (List.isSome_head?.2 form.before_ne_nil)
  rw [ofLine, form.takeWhile_line, form.dropWhile_line, hc]
  unfold Form.constant Form.name Form.version?
  simp only [behind?_append, behind?_legacy, behind?_singleton, Option.bind_eq_bind,
    Option.bind_some, form.isDigits_first.digitRun?_underscore,
    form.isDigits_second.digitRun?_underscore,
    form.isDigits_third.digitRun?_append form.isQualifier.not_isDecimalDigit_head,
    form.isQualifier.behindQualifier_append, guard, form.newline_not_mem, not_false_eq_true,
    if_true]
  rfl

/-- What declares a version is a line of the form. -/
theorem exists_form (h : ofLine line = some v) : ∃ form : Form, form.line = line := by
  unfold ofLine at h
  simp only [Option.bind_eq_bind, Option.bind_eq_some_iff, behind?_eq_some_iff] at h
  obtain ⟨c, hc, s, hkeywords, name, hname, ⟨first, s₁⟩, hfirst, s₂, hs₁, ⟨second, s₃⟩, hsecond,
    s₄, hs₃, ⟨third, s₅⟩, hthird, rest, hrest, ⟨⟩, hguard, -⟩ := h
  obtain ⟨isLegacy, hlegacy⟩ := exists_isLegacy s
  obtain ⟨qualifier, isQualifier, hqualifier⟩ := exists_qualifier s₅
  obtain ⟨isDigits_first, -, hfirst⟩ := digitRun?_eq_some_iff.1 hfirst
  obtain ⟨isDigits_second, -, hsecond⟩ := digitRun?_eq_some_iff.1 hsecond
  obtain ⟨isDigits_third, -, hthird⟩ := digitRun?_eq_some_iff.1 hthird
  have before_ne_nil : line.takeWhile (! isWord ·) ≠ [] := by
    intro hnil
    simp [hnil] at hc
  have not_isWord : ∀ c ∈ line.takeWhile (! isWord ·), ¬ isWord c := by
    intro c hmem
    simpa using List.mem_takeWhile_imp hmem
  have newline_not_mem : '\n' ∉ rest := by
    intro hmem
    simp [guard, hmem] at hguard
  have hbehind : s₅ = qualifier ++ ' ' :: rest := by
    rw [hqualifier]
    exact congrArg (qualifier ++ ·) hrest
  have hnumbers : name = first ++ '_' :: (second ++ '_' :: (third ++ s₅)) := by
    rw [hfirst, show s₁ = '_' :: s₂ from hs₁, hsecond, show s₃ = '_' :: s₄ from hs₃, hthird]
  have hconstant : line.dropWhile (! isWord ·) = "public static final ".toList ++
      ((if isLegacy then "LegacyES".toList else []) ++ ("Version V_".toList ++ name)) := by
    rw [hkeywords, ← hname, ← hlegacy]
  refine ⟨⟨_, isLegacy, first, second, third, qualifier, rest, before_ne_nil, not_isWord,
    isDigits_first, isDigits_second, isDigits_third, isQualifier, newline_not_mem⟩, ?_⟩
  refine (congrArg (line.takeWhile (! isWord ·) ++ ·) ?_).trans List.takeWhile_append_dropWhile
  rw [hconstant, hnumbers, hbehind]
  rfl

/-- The three numbers write a version exactly if they are numerals for its numbers. -/
theorem Form.version?_eq_some_iff {form : Form} : form.version? = some v ↔ form.Writes v := by
  have hnumber {digits : List Char} (hdigits : IsDigits digits) {n : Nat} (hn : n < 0x100000000) :
      number32? digits = some ⟨n, hn⟩ ↔ Decimal digits n := by
    rw [number32?_eq_some_iff, bounded?_eq_some_iff]
    constructor
    · rintro ⟨hunsigned, -⟩
      cases hunsigned with
      | bare h => exact h
      | plus h => exact absurd (hdigits.all_digits '+' List.mem_cons_self) (by decide)
    · exact fun h => ⟨.bare h, hn⟩
  unfold Form.version?
  simp only [Option.bind_eq_bind, Option.bind_eq_some_iff]
  constructor
  · rintro ⟨⟨major, major_lt⟩, hmajor, ⟨minor, minor_lt⟩, hminor, ⟨revision, revision_lt⟩,
      hrevision, h⟩
    obtain rfl := Option.some.inj h
    exact ⟨(hnumber form.isDigits_first major_lt).1 hmajor,
      (hnumber form.isDigits_second minor_lt).1 hminor,
      (hnumber form.isDigits_third revision_lt).1 hrevision⟩
  · rintro ⟨hmajor, hminor, hrevision⟩
    exact ⟨_, (hnumber form.isDigits_first v.major_lt).2 hmajor,
      _, (hnumber form.isDigits_second v.minor_lt).2 hminor,
      _, (hnumber form.isDigits_third v.revision_lt).2 hrevision, rfl⟩

/-- An answer to the question for a form of a line, in whatever way one is searched for. -/
inductive Answers (line : List Char) : Option Form → Prop where
  /-- A form is found. -/
  | found {form : Form} (h : form.line = line) : Answers line (some form)
  /-- There is none to be found. -/
  | nothing (h : ∀ form : Form, form.line ≠ line) : Answers line none

/-- Every search for a form gives what the line declares. -/
theorem Answers.ofLine_eq {answer : Option Form} (h : Answers line answer) :
    ofLine line = answer.bind Form.version? := by
  cases h with
  | found h =>
    subst h
    exact ofLine_line _
  | nothing h =>
    cases hline : ofLine line with
    | none => rfl
    | some v =>
      obtain ⟨form, hform⟩ := exists_form hline
      exact absurd hform (h form)

/-- **A line declares a version exactly if it has the form of a declaration** and its three numbers
are numerals for the numbers of the version. No line has two forms, so every search for the form of
a line gives the same version, or none. -/
theorem ofLine_eq_some_iff_form :
    (∀ (line : List Char) (v : Version),
      ofLine line = some v ↔ ∃ form : Form, form.line = line ∧ form.Writes v) ∧
    Function.Injective Form.line ∧
    ∀ (line : List Char) (answer : Option Form), Answers line answer →
      ofLine line = answer.bind Form.version? := by
  refine ⟨fun line v => ⟨fun h => ?_, ?_⟩, fun form form' h => Form.eq_of_line_eq h,
    fun line answer h => h.ofLine_eq⟩
  · obtain ⟨form, rfl⟩ := exists_form h
    rw [ofLine_line, Form.version?_eq_some_iff] at h
    exact ⟨form, rfl, h⟩
  · rintro ⟨form, rfl, h⟩
    rw [ofLine_line, Form.version?_eq_some_iff]
    exact h

/-- A newline before the keywords, a leading zero, and a qualifier whose number is not ASCII. -/
def legacyCandidate : Form where
  before := "\n\t".toList
  isLegacy := true
  first := "7".toList
  second := "010".toList
  third := "2".toList
  qualifier := "_rc".toList ++ "\u0663".toList
  rest := "= x".toList
  before_ne_nil := by decide
  not_isWord := List.forall_mem_cons.2 ⟨by decide, List.forall_mem_cons.2 ⟨by decide, by simp⟩⟩
  isDigits_first := ⟨by decide, List.all_eq_true.1 (by decide)⟩
  isDigits_second := ⟨by decide, List.all_eq_true.1 (by decide)⟩
  isDigits_third := ⟨by decide, List.all_eq_true.1 (by decide)⟩
  isQualifier := .numbered (by decide) ⟨by decide, List.all_eq_true.1 (by decide)⟩
  newline_not_mem := by decide

/-- The qualifier may have such a digit; a component that has one is no numeral. -/
theorem ofLine_eq_some_iff_form_legacyCandidate :
    ofLine "\n\tpublic static final LegacyESVersion V_7_010_2_rc\u0663 = x".toList =
      some (.of 7 10 2) ∧
    (∀ form : Form, form.line = legacyCandidate.line → form = legacyCandidate) ∧
    ofLine " public static final Version V_7_\u0663_2 = x".toList = none := by
  obtain ⟨hiff, hinjective, -⟩ := ofLine_eq_some_iff_form
  have hwrites : legacyCandidate.Writes (.of 7 10 2) :=
    ⟨natural?_eq_some_iff_decimal.1 rfl, natural?_eq_some_iff_decimal.1 rfl,
      natural?_eq_some_iff_decimal.1 rfl⟩
  have hline : legacyCandidate.line =
      "\n\tpublic static final LegacyESVersion V_7_010_2_rc\u0663 = x".toList := by
    decide +kernel
  have hnone : ofLine " public static final Version V_7_\u0663_2 = x".toList = none := by
    decide +kernel
  exact ⟨(hiff _ _).2 ⟨legacyCandidate, hline, hwrites⟩, fun form h => hinjective h, hnone⟩

end ReleaseMatrix.Declaration
