import ReleaseMatrix.Yaml.Scalar

/-!
# YAML nodes

The tree that a YAML text writes, and the document that it stands for. In the tree an alias refers
to a node with an anchor, known by its number; of several nodes whose anchors have the same number
the last one is meant. In the document that node stands in the place of the alias.

A node may contain an alias to itself, or to a node behind it that contains the alias in turn. The
document would then have no end; it is unfolded only so deep as a document may be nested.
-/

namespace ReleaseMatrix.Yaml

/-- A node of a YAML text. -/
inductive Node where
  /-- A single value. -/
  | scalar (value : Scalar)
  /-- A list. -/
  | list (items : List Node)
  /-- Values by their keys. -/
  | record (entries : List (Node × Node))
  /-- A node with an anchor. -/
  | anchored (number : Nat) (node : Node)
  /-- Stands for the node with an anchor. -/
  | alias (number : Nat)

namespace Node

/-- A document that can be read as nothing at all. -/
def unreadable : Document :=
  .scalar { text? := none, natural? := none, presence := .present, isEmpty := false }

mutual

/-- The document that a node stands for, with what the aliases stand for. -/
def document (known : List (Nat × Document)) : Node → Document
  | .scalar value => .scalar value
  | .list items => .list false (itemDocuments known items)
  | .record entries => .record (entryDocuments known entries)
  | .anchored _ node => node.document known
  | .alias number => (known.lookup number).getD unreadable

/-- The documents that some nodes stand for. -/
def itemDocuments (known : List (Nat × Document)) : List Node → List Document
  | [] => []
  | item :: items => item.document known :: itemDocuments known items

/-- The documents that some keys and values stand for. -/
def entryDocuments (known : List (Nat × Document)) :
    List (Node × Node) → List (Document × Document)
  | [] => []
  | (key, value) :: entries =>
    (key.document known, value.document known) :: entryDocuments known entries

end

mutual

/-- The nodes with anchors in a node, in the order of the text. -/
def anchors : Node → List (Nat × Node)
  | .scalar _ | .alias _ => []
  | .list items => itemAnchors items
  | .record entries => entryAnchors entries
  | .anchored number node => (number, node) :: node.anchors

/-- The nodes with anchors in some nodes. -/
def itemAnchors : List Node → List (Nat × Node)
  | [] => []
  | item :: items => item.anchors ++ itemAnchors items

/-- The nodes with anchors in some keys and values. -/
def entryAnchors : List (Node × Node) → List (Nat × Node)
  | [] => []
  | (key, value) :: entries => key.anchors ++ value.anchors ++ entryAnchors entries

end

/-- How deep a document may be nested. -/
def maxDepth : Nat := 128

/-- What aliases stand for in a text with some anchored nodes, if aliases in these nodes are
followed `depth` times. -/
def unfolded (anchored : List (Nat × Node)) : Nat → List (Nat × Document)
  | 0 => []
  | depth + 1 =>
    let known := unfolded anchored depth
    anchored.map fun (number, node) => (number, node.document known)

/-- The document that the node of a whole text stands for. -/
def toDocument (node : Node) : Document :=
  node.document (unfolded node.anchors.reverse maxDepth)

end Node

end ReleaseMatrix.Yaml
