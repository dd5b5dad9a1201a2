import ReleaseMatrix.EnvironmentFile.Value
import ReleaseMatrix.Script

/-!
# Environment files

An environment file sets variables, one in a statement: `NAME=value`, with `export` before the name
if one likes. A byte order mark may stand in front of all. Reading ends at the first statement that
is none of this; the statements before it count. Of several values for a variable the first counts,
and one that the environment has already is kept; so a reference in a value stands for the value in
the environment if there is one, and else for the value that a statement before gives.

The file has the name `.env`. It is looked for in the working directory first and then in the
directories above it, one after another up to the root.
-/

namespace ReleaseMatrix.EnvironmentFile

open Text

/-- Whether a character may begin a name. -/
def beginsName (c : Char) : Bool := c.isAlpha || c = '_'

/-- Whether a character may stand in a name. -/
def isNameChar (c : Char) : Bool := c.isAlphanum || c = '_' || c = '.'

/-- The name at the beginning of a text, and what is behind it and the white space that follows. -/
def readName (s : List Char) : Option (List Char × List Char) :=
  match s with
  | c :: _ =>
    if beginsName c then some (s.takeWhile isNameChar, trimStart (s.dropWhile isNameChar)) else none
  | [] => none

/-- A name and the pieces of the value that a statement gives to it. -/
abbrev Assignment := List Char × List Piece

/-- What a statement without white space around it sets. -/
def readAssignment (statement : List Char) : Option Assignment := do
  let (first, rest) ← readName statement
  let (name, rest) ←
    if first = "export".toList ∧ rest.head? ≠ some '=' then readName rest else some (first, rest)
  let written := trimStart (← behind? ['='] rest)
  return (name, ←
    if written.head? = some '#' then some [] else readValue (.within .plain) written)

/-- What some statements set, up to the first that is wrong. -/
def assignments : List (List Char) → List Assignment
  | [] => []
  | statement :: rest =>
    let statement := trim statement
    if statement = [] ∨ statement.head? = some '#' then assignments rest
    else match readAssignment statement with
      | some assignment => assignment :: assignments rest
      | none => []

/-- The text without the byte order mark in front of it. -/
def dropMark (text : List Char) : List Char :=
  match text with
  | c :: rest => if c.toNat = 0xFEFF then rest else text
  | [] => []

/-- A name and the value that it is given. -/
abbrev Setting := List Char × List Char

/-- The value that some pieces make up, where some variables are set. -/
def expand {ε : Type} (known : List Setting) : List Piece → Script ε (List Char)
  | [] => .done []
  | .character c :: rest => do return c :: (← expand known rest)
  | .reference name :: rest =>
    .lookUp (String.ofList name) fun value? => do
      let value := value?.elim ((known.lookup name).getD []) String.toList
      return value ++ (← expand known rest)

/-- The variables that are set behind some assignments, where some are set before them. -/
def settings {ε : Type} (known : List Setting) : List Assignment → Script ε (List Setting)
  | [] => .done known
  | (name, pieces) :: rest => do settings (known ++ [(name, ← expand known pieces)]) rest

/-- The value that a file gives to a variable which the environment does not have: the first that
it sets. -/
def value? {ε : Type} (text name : String) : Script ε (Option String) := do
  let known ← settings [] (assignments (statements (dropMark text.toList)))
  return (known.lookup name.toList).map String.ofList

/-! ### Where the file is looked for -/

/-- The paths where the file is looked for in a number of directories: the working directory, the one
above it, and so on. -/
def paths (directories : Nat) : List String :=
  (List.range directories).map fun above => String.join (List.replicate above "../") ++ ".env"

/-- The text of the first file that is found at some paths. A directory is passed over, and any
other error ends the search. Of a file that is no text the lines before the first that is none
count. -/
def findText {ε : Type} : List String → Script ε (Option String)
  | [] => .done none
  | path :: rest => .read path fun
    | .ok text | .error (.notText text) => .done (some text)
    | .error .notFound | .error .isDirectory => findText rest
    | .error _ => .done none

section Search

variable {ε : Type} {around : Surroundings}

theorem run_findText_cons (path : String) (rest : List String) :
    (findText (path :: rest) : Script ε (Option String)).run around =
      match around.files path with
      | .ok text | .error (.notText text) => ("", .ok (some text))
      | .error .notFound | .error .isDirectory => (findText rest).run around
      | .error _ => ("", .ok none) := by
  rw [findText, Script.run]
  split <;> rfl

theorem run_findText_of_notFound {paths : List String}
    (h : ∀ path ∈ paths, around.files path = .error .notFound) :
    (findText paths : Script ε (Option String)).run around = ("", .ok none) := by
  induction paths with
  | nil => rfl
  | cons path rest ih =>
    obtain ⟨hpath, hrest⟩ := List.forall_mem_cons.1 h
    rw [run_findText_cons, hpath]
    exact ih hrest

/-- Behind all others, paths that lead to nothing do not matter. -/
theorem run_findText_append {before behind : List String}
    (h : ∀ path ∈ behind, around.files path = .error .notFound) :
    (findText (before ++ behind) : Script ε (Option String)).run around =
      (findText before).run around := by
  induction before with
  | nil => exact run_findText_of_notFound h
  | cons path before ih => rw [List.cons_append, run_findText_cons, run_findText_cons, ih]

end Search

end ReleaseMatrix.EnvironmentFile
