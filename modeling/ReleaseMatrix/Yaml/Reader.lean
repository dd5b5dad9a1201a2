import ReleaseMatrix.Yaml.Node
import ReleaseMatrix.Yaml.Token

/-!
# Reading YAML text

The nodes that the tokens of a text describe. Where an entry, a key or a value is left out, an empty
plain scalar stands for it. A text holds one document, which has to have contents or to be marked.
-/

namespace ReleaseMatrix.Yaml

/-- What stands where nothing is written but perhaps a tag. -/
def nothing (tag : Option (List Char)) : Node := .scalar (scalarOf tag .plain [])

/-- What may stand before the contents of a node. -/
structure NodeProperties where
  /-- The number of the anchor. -/
  anchor? : Option Nat
  /-- The tag as it is written. -/
  tag? : Option WrittenTag

namespace NodeProperties

/-- The anchor and the tag at the beginning of some tokens, in any order, and the tokens behind
them. -/
def read : List Token → NodeProperties × List Token
  | .anchor number :: .tag tag :: rest => ({ anchor? := some number, tag? := some tag }, rest)
  | .tag tag :: .anchor number :: rest => ({ anchor? := some number, tag? := some tag }, rest)
  | .anchor number :: rest => ({ anchor? := some number, tag? := none }, rest)
  | .tag tag :: rest => ({ anchor? := none, tag? := some tag }, rest)
  | tokens => ({ anchor? := none, tag? := none }, tokens)

/-- Whether there are any. -/
def areGiven (p : NodeProperties) : Bool := p.anchor?.isSome || p.tag?.isSome

/-- The whole tag, if there is one; fails if its handle is not set. -/
def wholeTag? (p : NodeProperties) (handles : List (List Char × List Char)) :
    Option (Option (List Char)) :=
  match p.tag? with
  | none => some none
  | some tag => (tag.whole? handles).map some

/-- The node with the anchor. -/
def mark (p : NodeProperties) (node : Node) : Node :=
  match p.anchor? with
  | some number => .anchored number node
  | none => node

end NodeProperties

variable (handles : List (List Char × List Char))

mutual

/-- The node at the beginning of some tokens, and the tokens behind it. Block collections may stand
only where `block` is set, and lists that are not indented only where `indentless` is; `fuel` bounds
the number of nested readings. -/
def readNode (block indentless : Bool) : Nat → List Token → Option (Node × List Token)
  | 0, _ => none
  | _, .alias number :: rest => some (.alias number, rest)
  | fuel + 1, tokens => do
    let (properties, tokens) := NodeProperties.read tokens
    let tag? ← properties.wholeTag? handles
    let (node, rest) ← readContents block indentless tag? properties.areGiven fuel tokens
    return (properties.mark node, rest)

/-- The contents of a node, which may be left out only if something stands before them. Before a
scalar that is written, a tag of an exclamation mark alone counts for nothing. -/
def readContents (block indentless : Bool) (tag? : Option (List Char)) (optional : Bool) :
    Nat → List Token → Option (Node × List Token)
  | 0, _ => none
  | fuel + 1, tokens =>
    match tokens with
    | .scalar style value :: rest =>
      some (.scalar (scalarOf (tag?.filter (· ≠ ['!'])) style value), rest)
    | .flowSequence :: rest =>
      (readFlowItems true fuel rest).map fun (items, rest) => (.list items, rest)
    | .flowMapping :: rest =>
      (readFlowEntries true fuel rest).map fun (entries, rest) => (.record entries, rest)
    | token :: rest =>
      if token = .blockSequence ∧ block then
        (readItems fuel rest).map fun (items, rest) => (.list items, rest)
      else if token = .blockMapping ∧ block then
        (readEntries fuel rest).map fun (entries, rest) => (.record entries, rest)
      else if token = .entry ∧ indentless then
        (readIndentless fuel tokens).map fun (items, rest) => (.list items, rest)
      else if optional then some (nothing tag?, tokens) else none
    | [] => if optional then some (nothing tag?, []) else none

/-- The node at the beginning of some tokens, or nothing if one of the tokens of `closers` stands
there. -/
def readOptional (block indentless : Bool) (closers : List Token) :
    Nat → List Token → Option (Node × List Token)
  | 0, _ => none
  | fuel + 1, tokens =>
    match tokens with
    | t :: _ =>
      if t ∈ closers then some (nothing none, tokens) else readNode block indentless fuel tokens
    | [] => none

/-- The entries of a block list up to its end. -/
def readItems : Nat → List Token → Option (List Node × List Token)
  | 0, _ => none
  | fuel + 1, tokens =>
    match tokens with
    | .entry :: rest => do
      let (item, rest) ← readOptional true false [.entry, .blockEnd] fuel rest
      let (items, rest) ← readItems fuel rest
      return (item :: items, rest)
    | .blockEnd :: rest => some ([], rest)
    | _ => none

/-- The entries of a block list that is not indented, which ends where no entry follows. -/
def readIndentless : Nat → List Token → Option (List Node × List Token)
  | 0, _ => none
  | fuel + 1, tokens =>
    match tokens with
    | .entry :: rest => do
      let (item, rest) ← readOptional true false [.entry, .key, .value, .blockEnd] fuel rest
      let (items, rest) ← readIndentless fuel rest
      return (item :: items, rest)
    | _ => some ([], tokens)

/-- The entries of a block table up to its end. -/
def readEntries : Nat → List Token → Option (List (Node × Node) × List Token)
  | 0, _ => none
  | fuel + 1, tokens =>
    match tokens with
    | .key :: rest => do
      let (key, rest) ← readOptional true true [.key, .value, .blockEnd] fuel rest
      let (value, rest) ← match rest with
        | .value :: rest => readOptional true true [.key, .value, .blockEnd] fuel rest
        | _ => some (nothing none, rest)
      let (entries, rest) ← readEntries fuel rest
      return ((key, value) :: entries, rest)
    | .blockEnd :: rest => some ([], rest)
    | _ => none

/-- The items of a flow list up to its closing bracket; a key makes an item a table of one entry. -/
def readFlowItems (first : Bool) : Nat → List Token → Option (List Node × List Token)
  | 0, _ => none
  | fuel + 1, tokens =>
    match tokens with
    | .flowSequenceEnd :: rest => some ([], rest)
    | _ => do
      let tokens ← if first then some tokens else match tokens with
        | .separator :: rest => some rest
        | _ => none
      match tokens with
      | .flowSequenceEnd :: rest => return ([], rest)
      | .key :: rest =>
        let (key, rest) ← match rest with
          | t :: behind =>
            if t ∈ [.value, .separator, .flowSequenceEnd] then some (nothing none, behind)
            else readNode false false fuel rest
          | [] => none
        let (value, rest) ← match rest with
          | .value :: rest => readOptional false false [.separator, .flowSequenceEnd] fuel rest
          | _ => some (nothing none, rest)
        let (items, rest) ← readFlowItems false fuel rest
        return (.record [(key, value)] :: items, rest)
      | _ =>
        let (item, rest) ← readNode false false fuel tokens
        let (items, rest) ← readFlowItems false fuel rest
        return (item :: items, rest)

/-- The entries of a flow table up to its closing brace; a key without a colon has no value. -/
def readFlowEntries (first : Bool) : Nat → List Token →
    Option (List (Node × Node) × List Token)
  | 0, _ => none
  | fuel + 1, tokens =>
    match tokens with
    | .flowMappingEnd :: rest => some ([], rest)
    | _ => do
      let tokens ← if first then some tokens else match tokens with
        | .separator :: rest => some rest
        | _ => none
      match tokens with
      | .flowMappingEnd :: rest => return ([], rest)
      | .key :: rest =>
        let (key, rest) ←
          readOptional false false [.value, .separator, .flowMappingEnd] fuel rest
        let (value, rest) ← match rest with
          | .value :: rest => readOptional false false [.separator, .flowMappingEnd] fuel rest
          | _ => some (nothing none, rest)
        let (entries, rest) ← readFlowEntries false fuel rest
        return ((key, value) :: entries, rest)
      | _ =>
        let (key, rest) ← readNode false false fuel tokens
        let (entries, rest) ← readFlowEntries false fuel rest
        return ((key, nothing none) :: entries, rest)

end

/-- What handles stand for by the directives at the beginning of some tokens, and the tokens behind
them. Nothing may be told twice, and the version of the notation has to be 1.1 or 1.2. -/
def readDirectives (versionTold : Bool) (handles : List (List Char × List Char)) :
    List Token → Option (List (List Char × List Char) × List Token)
  | .directive (.version major minor) :: rest => do
    guard (¬ versionTold ∧ major = 1 ∧ (minor = 1 ∨ minor = 2))
    readDirectives true handles rest
  | .directive (.handle name start) :: rest => do
    guard (handles.lookup name).isNone
    readDirectives versionTold ((name, start) :: handles) rest
  | rest => some (handles, rest)

/-- The node of the document that some tokens describe: with a mark before it the document may be
empty, and nothing but end marks may follow it. Behind directives there has to be a mark. -/
def ofTokens (tokens : List Token) : Option Node := do
  let fuel := 4 * tokens.length + 4
  let (handles, behind) ← readDirectives false [] tokens
  let (node, rest) ← match behind with
    | .documentStart :: rest =>
      match rest with
      | [] => some (nothing none, [])
      | _ => readOptional handles true false [.documentStart, .documentEnd] fuel rest
    | _ => do
      guard (behind.length = tokens.length)
      readNode handles true false fuel tokens
  guard (rest.all (· = .documentEnd))
  return node

/-- The document that a text writes. -/
def read? (text : String) : Option Document := do
  return (← ofTokens (← tokens? text)).toDocument

end ReleaseMatrix.Yaml
