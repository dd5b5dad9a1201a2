import ReleaseMatrix.Text.Cut

/-!
# Files

What reading a file gives, and a tree of files below a working directory in which paths are looked
up. A path is followed component by component: every component before the last has to lead to a
directory, empty components and single points lead nowhere, and two points lead to the directory
above. Nothing is known of what lies outside of the tree but that the directories above it are
there.
-/

namespace ReleaseMatrix

open Text

/-- Why a file cannot be read. -/
inductive ReadError where
  /-- There is no such file. -/
  | notFound
  /-- The path leads to a directory. -/
  | isDirectory
  /-- The path leads through a file. -/
  | notDirectory
  /-- A name on the path, or the path as a whole, is longer than the system allows. -/
  | nameTooLong
  /-- The path has a NUL, which no name has. -/
  | invalidName
  /-- The file is no text in UTF-8; `start` are its lines before the first that is none. -/
  | notText (start : String)
  /-- The system gives another reason. -/
  | other (wording : String)
deriving DecidableEq

/-- The wording of the error. -/
def ReadError.message : ReadError → String
  | .notFound => "No such file or directory (os error 2)"
  | .isDirectory => "Is a directory (os error 21)"
  | .notDirectory => "Not a directory (os error 20)"
  | .nameTooLong => "File name too long (os error 36)"
  | .invalidName => "file name contained an unexpected NUL byte"
  | .notText _ => "stream did not contain valid UTF-8"
  | .other wording => wording

/-! ### The text of a file -/

/-- The lines of some bytes with the newlines at their ends. -/
def byteLines : List UInt8 → List (List UInt8)
  | [] => []
  | b :: rest =>
    if b.toNat = 10 then [b] :: byteLines rest
    else match byteLines rest with
      | [] => [[b]]
      | line :: more => (b :: line) :: more

/-- The text of some lines before the first that is none in UTF-8. -/
def textStart : List (List UInt8) → String
  | [] => ""
  | line :: rest =>
    match String.fromUTF8? ⟨line.toArray⟩ with
    | some text => text ++ textStart rest
    | none => ""

/-- The text that the bytes of a file write in UTF-8. -/
def textOf (bytes : ByteArray) : Except ReadError String :=
  match String.fromUTF8? bytes with
  | some text => .ok text
  | none => .error (.notText (textStart (byteLines bytes.data.toList)))

/-- The text of the file at each path. -/
abbrev Files := String → Except ReadError String

/-- A file or directory in a tree. -/
inductive FileEntry where
  /-- A file with its bytes. -/
  | file (bytes : ByteArray)
  /-- A directory. -/
  | directory

/-- Files and directories with the components of their paths from the working directory; the
directories above them are there too. -/
structure FileTree where
  /-- The files and directories. -/
  entries : List (List String × FileEntry)

namespace FileTree

/-- Where following a path has led. -/
inductive Place where
  /-- A directory of the tree, its components in reverse order. -/
  | inside (components : List String)
  /-- A directory outside of the tree. -/
  | outside
  /-- A file with its bytes. -/
  | file (bytes : ByteArray)

/-- The components of a path. -/
def components (path : String) : List String := (pieces '/' path.toList).map String.ofList

/-- What is at a place of the tree: the entry there, or a directory if an entry lies below. -/
def entry? (tree : FileTree) (place : List String) : Option FileEntry :=
  match tree.entries.lookup place with
  | some entry => some entry
  | none => if tree.entries.any (place.isPrefixOf ·.1) then some .directory else none

/-- How many bytes a component of a path may have. -/
def maxComponentSize : Nat := 255

/-- How many bytes a path may have. -/
def maxPathSize : Nat := 4095

/-- Follows one component of a path. -/
def step (tree : FileTree) (place : Place) (component : String) : Except ReadError Place :=
  match place with
  | .file _ => .error .notDirectory
  | .outside =>
    if component = "" ∨ component = "." ∨ component = ".." then .ok .outside
    else if maxComponentSize < component.utf8ByteSize then .error .nameTooLong
    else .error .notFound
  | .inside above =>
    if component = "" ∨ component = "." then .ok place
    else if maxComponentSize < component.utf8ByteSize then .error .nameTooLong
    else if component = ".." then
      match above with
      | [] => .ok .outside
      | _ :: above => .ok (.inside above)
    else match tree.entry? (component :: above).reverse with
      | some (.file bytes) => .ok (.file bytes)
      | some .directory => .ok (.inside (component :: above))
      | none => .error .notFound

/-- Follows a path from the working directory, or from outside if it is absolute. -/
def follow (tree : FileTree) (path : String) : Except ReadError Place :=
  if '\x00' ∈ path.toList then .error .invalidName
  else if maxPathSize < path.utf8ByteSize then .error .nameTooLong
  else match components path with
    | "" :: rest => if rest = [] then .error .notFound else rest.foldlM tree.step .outside
    | parts => parts.foldlM tree.step (.inside [])

/-- The text of the file at a path. -/
def files (tree : FileTree) : Files := fun path => do
  match ← tree.follow path with
  | .file bytes => textOf bytes
  | _ => throw .isDirectory

end FileTree

end ReleaseMatrix
