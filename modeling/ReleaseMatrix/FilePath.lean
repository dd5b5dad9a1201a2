/-!
# File paths

A path is text with slashes between its components. Joining puts a relative path behind a directory
and leaves an absolute one alone; the parent of a path is what is left without its last component.
Empty components and single points inside a path count for nothing when the last component is looked
for.
-/

namespace ReleaseMatrix.FilePath

/-- Whether a path begins at the root. -/
def isAbsolute (path : String) : Bool := path.toList.head? = some '/'

/-- The path as it is seen from a directory. An empty path leads to the directory itself, which is
then written with a slash behind it. -/
def join (directory path : String) : String :=
  if isAbsolute path ∨ directory = "" then path
  else if directory.toList.getLast? = some '/' then directory ++ path
  else directory ++ "/" ++ path

/-- The path, last character first, without the empty components and single points at its end; its
first character is kept. -/
def dropEmptyComponents : List Char → List Char
  | [] => []
  | [c] => [c]
  | c :: d :: rest =>
    if c = '/' then dropEmptyComponents (d :: rest)
    else if c = '.' ∧ d = '/' then if rest = [] then ['/'] else dropEmptyComponents rest
    else c :: d :: rest

/-- The path without its last component; empty for a bare name, and for the root and the empty path,
which have no parent. -/
def parent (path : String) : String :=
  let named := dropEmptyComponents path.toList.reverse
  let behind := named.dropWhile (· ≠ '/')
  String.ofList (dropEmptyComponents behind).reverse

end ReleaseMatrix.FilePath
