import ReleaseMatrix.Collection.SortedSet
import ReleaseMatrix.Text.DecimalDigit
import ReleaseMatrix.Text.Lines
import ReleaseMatrix.Text.Word
import ReleaseMatrix.Version.Text

/-!
# Version declarations

A source file declares its versions as constants, one on a line:

    public static final Version V_1_3_2 = new Version(1030299);

A declaration line is a run of characters that are no word characters, the words of the declaration
with the constant's name, whose three numbers are the version, and a space with the rest of the
line. The constants of the older line have the type `LegacyESVersion`, and a pre-release constant
has a qualifier behind its numbers, which is not part of the version. Every other line declares
nothing.
-/

namespace ReleaseMatrix.Declaration

open Text

/-- The qualifiers that the name of a pre-release constant may have before their number. -/
def qualifiers : List String := ["_alpha", "_beta", "_rc", "_ee"]

/-- A non-empty run of decimal digits of any script at the beginning of a text, and the rest. -/
def digitRun? (s : List Char) : Option (List Char × List Char) :=
  match s.takeWhile isDecimalDigit with
  | [] => none
  | digits => some (digits, s.dropWhile isDecimalDigit)

/-- The text behind the qualifier at the beginning of a text, or the whole text if it has none. -/
def behindQualifier (s : List Char) : List Char :=
  (qualifiers.findSome? fun qualifier => do
    let number ← behind? qualifier.toList s
    let (_, rest) ← digitRun? number
    return rest).getD s

/-- The version that a line declares, if it is a declaration. -/
def ofLine (line : List Char) : Option Version := do
  let _ ← (line.takeWhile (! isWord ·)).head?
  let s ← behind? "public static final ".toList (line.dropWhile (! isWord ·))
  let s := (behind? "LegacyES".toList s).getD s
  let s ← behind? "Version V_".toList s
  let (first, s) ← digitRun? s
  let s ← behind? ['_'] s
  let (second, s) ← digitRun? s
  let s ← behind? ['_'] s
  let (third, s) ← digitRun? s
  let rest ← behind? [' '] (behindQualifier s)
  guard (¬ '\n' ∈ rest)
  let ⟨major, major_lt⟩ ← number32? first
  let ⟨minor, minor_lt⟩ ← number32? second
  let ⟨revision, revision_lt⟩ ← number32? third
  return { major, minor, revision, major_lt, minor_lt, revision_lt }

/-- The versions that the lines declare. -/
def ofLines (lines : List String) : SortedSet Version :=
  .ofList (lines.filterMap fun line => ofLine line.toList)

/-- The versions that a source text declares. -/
def ofSource (source : String) : SortedSet Version := ofLines (linesOf source)

/-- A version is declared by some lines exactly if one of them declares it. -/
theorem mem_ofLines {lines : List String} {v : Version} :
    v ∈ ofLines lines ↔ ∃ line ∈ lines, ofLine line.toList = some v := by
  simp [ofLines, SortedSet.mem_ofList]

end ReleaseMatrix.Declaration
