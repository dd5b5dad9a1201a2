import ReleaseMatrix.Text.Blank
import ReleaseMatrix.Text.Cut
import ReleaseMatrix.Text.Numeral
import ReleaseMatrix.Version.Basic

/-!
# Versions as text

A version is written as its three numbers with points between them. A version is read from a text
with white space around it, behind whose numbers a qualifier may follow that begins with a hyphen
(`2.1.0-SNAPSHOT`); the qualifier is not part of the version. Each number is an unsigned decimal
numeral, which a plus sign may precede.
-/

namespace ReleaseMatrix

open Text

/-- One of the three numbers of a version. -/
inductive Component where
  /-- The first number. -/
  | major
  /-- The second number. -/
  | minor
  /-- The third number. -/
  | revision
deriving DecidableEq

/-- The name of the number in messages. -/
def Component.name : Component → String
  | .major => "major"
  | .minor => "minor"
  | .revision => "revision"

/-- Why a text is no version. -/
inductive VersionError where
  /-- The text before the qualifier is not made of three pieces. -/
  | format (input : String)
  /-- The first piece that is no number in range. -/
  | component (part : Component) (value input : String)
deriving DecidableEq

/-- The wording of the error. -/
def VersionError.message : VersionError → String
  | .format input => "invalid version format: '" ++ input ++ "'"
  | .component part value input =>
    "invalid " ++ part.name ++ " component '" ++ value ++ "' in version '" ++ input ++ "'"

namespace Version

/-- The version as text. -/
def text (v : Version) : String :=
  v.major.repr ++ "." ++ v.minor.repr ++ "." ++ v.revision.repr

instance : ToString Version := ⟨text⟩

/-- The number that a piece of the input writes. -/
def readComponent (input : String) (part : Component) (piece : List Char) :
    Except VersionError { n : Nat // n < 0x100000000 } :=
  match number32? piece with
  | some n => .ok n
  | none => .error (.component part (String.ofList piece) input)

/-- The version that a text writes. -/
def ofText (input : String) : Except VersionError Version :=
  match pieces '.' ((trim input.toList).takeWhile (· ≠ '-')) with
  | [first, second, third] => do
    let ⟨major, major_lt⟩ ← readComponent input .major first
    let ⟨minor, minor_lt⟩ ← readComponent input .minor second
    let ⟨revision, revision_lt⟩ ← readComponent input .revision third
    return { major, minor, revision, major_lt, minor_lt, revision_lt }
  | _ => .error (.format input)

theorem toList_text (v : Version) :
    v.text.toList = Nat.toDigits 10 v.major ++ '.' :: (Nat.toDigits 10 v.minor ++
      '.' :: Nat.toDigits 10 v.revision) := by
  simp [text]

/-! ### Reading versions back -/

/-- A version is written with digits and points. -/
theorem isDigit_or_eq_point {v : Version} {c : Char} (h : c ∈ v.text.toList) :
    c.isDigit ∨ c = '.' := by
  have hdigit : ∀ n, c ∈ Nat.toDigits 10 n → c.isDigit := fun _ =>
    Nat.isDigit_of_mem_toDigits (by decide) (by decide)
  simp only [toList_text, List.mem_append, List.mem_cons] at h
  rcases h with h | rfl | h | rfl | h
  · exact .inl (hdigit _ h)
  · exact .inr rfl
  · exact .inl (hdigit _ h)
  · exact .inr rfl
  · exact .inl (hdigit _ h)

theorem not_isBlank_of_mem_text {v : Version} {c : Char} (h : c ∈ v.text.toList) :
    ¬ isBlank c := by
  rcases isDigit_or_eq_point h with hdigit | rfl
  · exact not_isBlank_of_isDigit hdigit
  · decide

theorem not_mem_text {c : Char} (hdigit : ¬ c.isDigit) (hpoint : c ≠ '.') (v : Version) :
    c ∉ v.text.toList := fun h => (isDigit_or_eq_point h).elim hdigit hpoint

theorem newline_not_mem_text (v : Version) : '\n' ∉ v.text.toList :=
  v.not_mem_text (by decide) (by decide)

theorem space_not_mem_text (v : Version) : ' ' ∉ v.text.toList :=
  v.not_mem_text (by decide) (by decide)

theorem ne_hyphen_of_mem_text {v : Version} {c : Char} (h : c ∈ v.text.toList) : c ≠ '-' := by
  rintro rfl
  exact v.not_mem_text (by decide) (by decide) h

/-- The pieces of the text of a version are its three numbers. -/
theorem pieces_text (v : Version) : pieces '.' v.text.toList =
    [Nat.toDigits 10 v.major, Nat.toDigits 10 v.minor, Nat.toDigits 10 v.revision] := by
  have hpoint : ∀ n, '.' ∉ Nat.toDigits 10 n := not_mem_toDigits (by decide)
  rw [toList_text, pieces_append _ (hpoint _), pieces_append _ (hpoint _),
    pieces_of_not_mem (hpoint _)]

/-- A version is read back from its text. -/
theorem ofText_text (v : Version) : ofText v.text = .ok v := by
  have htrim : trim v.text.toList = v.text.toList :=
    trim_eq_self fun _ => not_isBlank_of_mem_text
  have hwhole : v.text.toList.takeWhile (· ≠ '-') = v.text.toList := by
    rw [← List.append_nil v.text.toList, List.takeWhile_append_of_pos]
    · rfl
    · exact fun c hc => decide_eq_true (ne_hyphen_of_mem_text hc)
  simp only [ofText, htrim, hwhole, pieces_text, readComponent, number32?_toDigits v.major_lt,
    number32?_toDigits v.minor_lt, number32?_toDigits v.revision_lt]
  rfl

end Version

/-- The versions with a comma and a space between them. -/
def joinVersions (versions : List Version) : String :=
  ", ".intercalate (versions.map Version.text)

end ReleaseMatrix
