/-
Nodes: the tree that a sequence of tokens describes.

An anchor is known by the number of distinct names before it, so an alias refers to the
latest anchor of that number in the document.
-/
import SwaggerClient.Yaml.Token

namespace SwaggerClient.Yaml

/-- A node of the tree; an anchor is given by its number. -/
inductive Node where
  | aliasOf (anchor : Nat)
  | scalar (anchor : Option Nat) (tag : Option String) (style : Style) (text : String)
  | sequence (anchor : Option Nat) (tag : Option String) (items : List Node)
  | mapping (anchor : Option Nat) (tag : Option String) (entries : List (Node × Node))
deriving Repr, Inhabited

namespace Node

/-- What stands for a node that the text leaves out. -/
def absent : Node := scalar none none .plain ""

/-! ### Measures -/

mutual

/-- The number of marks that describe the node: one for a scalar or an alias, and for a
collection two besides those of its parts. -/
def weight : Node → Nat
  | aliasOf _ | scalar .. => 1
  | sequence _ _ items => weightItems items + 2
  | mapping _ _ entries => weightEntries entries + 2

/-- The weight of items together. -/
def weightItems : List Node → Nat
  | [] => 0
  | n :: rest => n.weight + weightItems rest

/-- The weight of entries together. -/
def weightEntries : List (Node × Node) → Nat
  | [] => 0
  | (k, v) :: rest => k.weight + v.weight + weightEntries rest

end

mutual

/-- The anchored nodes with their numbers, in the order in which they begin. -/
def anchored : Node → List (Nat × Node)
  | aliasOf _ => []
  | scalar anchor tag style text => anchor.toList.map fun n => (n, scalar anchor tag style text)
  | sequence anchor tag items =>
    (anchor.toList.map fun n => (n, sequence anchor tag items)) ++ anchoredItems items
  | mapping anchor tag entries =>
    (anchor.toList.map fun n => (n, mapping anchor tag entries)) ++ anchoredEntries entries

/-- The anchored nodes among items. -/
def anchoredItems : List Node → List (Nat × Node)
  | [] => []
  | n :: rest => n.anchored ++ anchoredItems rest

/-- The anchored nodes among entries. -/
def anchoredEntries : List (Node × Node) → List (Nat × Node)
  | [] => []
  | (k, v) :: rest => k.anchored ++ v.anchored ++ anchoredEntries rest

end

end Node

/-! ### Reading tokens -/

/-- The tokens that are left, and the numbers of the anchor names so far. -/
structure Source where
  tokens : List Token
  anchors : List (String × Nat) := []

/-- A step that reads tokens and may fail. -/
abbrev TokenReader := StateT Source Option

namespace TokenReader

/-- The next token, left where it is. -/
def peek : TokenReader (Option Token) := return (← get).tokens.head?

/-- Passes over one token. -/
def skip : TokenReader Unit := modify fun s => { s with tokens := s.tokens.tail }

/-- Whether the next token is one of a few. -/
def nextIn (marks : List Token) : TokenReader Bool :=
  return (← peek).any marks.contains

/-- Gives an anchor name its number. -/
def number (name : String) : TokenReader Nat := do
  let s ← get
  let n := s.anchors.length
  let anchors :=
    if s.anchors.any fun a => a.1 == name then
      s.anchors.map fun a => if a.1 == name then (name, n) else a
    else s.anchors ++ [(name, n)]
  set { s with anchors := anchors }
  return n

/-- The number that an anchor name has at the moment. -/
def numberOf (name : String) : TokenReader Nat := do
  match (← get).anchors.lookup name with
  | some n => return n
  | none => failure

/-- An anchor and a tag in either order, each if it is there. -/
def properties (handles : List (String × String)) : TokenReader (Option Nat × Option String) := do
  let expand (t : TagName) : TokenReader String :=
    match t.expand? handles with
    | some tag => return tag
    | none => failure
  match ← peek with
  | some (.anchor name) =>
    skip
    match ← peek with
    | some (.tag t) => skip; return (some (← number name), some (← expand t))
    | _ => return (some (← number name), none)
  | some (.tag t) =>
    skip
    match ← peek with
    | some (.anchor name) => skip; return (some (← number name), some (← expand t))
    | _ => return (none, some (← expand t))
  | _ => return (none, none)

variable (handles : List (String × String))

mutual

/-- A node.  Block collections are possible only if `block`, and entries without a collection
around them only if `indentless`.  `fuel` bounds the nesting of calls. -/
def node : Nat → (block indentless : Bool) → TokenReader Node
  | 0, _, _ => failure
  | fuel + 1, block, indentless => do
    if let some (.aliasOf name) ← peek then
      skip
      return .aliasOf (← numberOf name)
    let (anchor, tag) ← properties handles
    let bare : TokenReader Node :=
      if anchor.isSome || tag.isSome then return .scalar anchor tag .plain "" else failure
    match ← peek with
    | some (.scalar style text) =>
      skip
      return .scalar anchor (tag.filter (· ≠ "!")) style text
    | some .flowSequence =>
      skip
      return .sequence anchor tag (← flowItems fuel true)
    | some .flowMapping =>
      skip
      return .mapping anchor tag (← flowEntries fuel true)
    | some .blockSequence =>
      if block then
        skip
        return .sequence anchor tag (← blockItems fuel)
      else bare
    | some .blockMapping =>
      if block then
        skip
        return .mapping anchor tag (← blockEntries fuel)
      else bare
    | some .blockEntry =>
      if indentless then return .sequence anchor tag (← looseItems fuel) else bare
    | _ => bare

/-- The items of a block sequence. -/
def blockItems : Nat → TokenReader (List Node)
  | 0 => failure
  | fuel + 1 => do
    match ← peek with
    | some .blockEntry =>
      skip
      let item ←
        if ← nextIn [.blockEntry, .blockEnd] then pure Node.absent else node fuel true false
      return item :: (← blockItems fuel)
    | some .blockEnd => skip; return []
    | _ => failure

/-- The items of a sequence that is indented no deeper than the key before it. -/
def looseItems : Nat → TokenReader (List Node)
  | 0 => failure
  | fuel + 1 => do
    match ← peek with
    | some .blockEntry =>
      skip
      let item ←
        if ← nextIn [.blockEntry, .key, .value, .blockEnd] then pure Node.absent
        else node fuel true false
      return item :: (← looseItems fuel)
    | _ => return []

/-- The entries of a block mapping. -/
def blockEntries : Nat → TokenReader (List (Node × Node))
  | 0 => failure
  | fuel + 1 => do
    match ← peek with
    | some .key =>
      skip
      let key ←
        if ← nextIn [.key, .value, .blockEnd] then pure Node.absent else node fuel true true
      let value ←
        if ← nextIn [.value] then do
          skip
          if ← nextIn [.key, .value, .blockEnd] then pure Node.absent else node fuel true true
        else pure Node.absent
      return (key, value) :: (← blockEntries fuel)
    | some .blockEnd => skip; return []
    | _ => failure

/-- The items of a flow sequence.  An item with a key is a mapping of its own. -/
def flowItems : Nat → (first : Bool) → TokenReader (List Node)
  | 0, _ => failure
  | fuel + 1, first => do
    if ← nextIn [.flowSequenceEnd] then
      skip
      return []
    if !first then
      if ← nextIn [.flowEntry] then skip else failure
    match ← peek with
    | some .flowSequenceEnd => skip; return []
    | some .key =>
      skip
      let key ←
        if ← nextIn [.value, .flowEntry, .flowSequenceEnd] then do
          -- the mark behind a missing key is passed over with it
          skip
          pure Node.absent
        else node fuel false false
      let value ←
        if ← nextIn [.value] then do
          skip
          if ← nextIn [.flowEntry, .flowSequenceEnd] then pure Node.absent
          else node fuel false false
        else pure Node.absent
      return .mapping none none [(key, value)] :: (← flowItems fuel false)
    | _ =>
      let item ← node fuel false false
      return item :: (← flowItems fuel false)

/-- The entries of a flow mapping.  An entry without a key mark has no value. -/
def flowEntries : Nat → (first : Bool) → TokenReader (List (Node × Node))
  | 0, _ => failure
  | fuel + 1, first => do
    if ← nextIn [.flowMappingEnd] then
      skip
      return []
    if !first then
      if ← nextIn [.flowEntry] then skip else failure
    match ← peek with
    | some .flowMappingEnd => skip; return []
    | some .key =>
      skip
      let key ←
        if ← nextIn [.value, .flowEntry, .flowMappingEnd] then pure Node.absent
        else node fuel false false
      let value ←
        if ← nextIn [.value] then do
          skip
          if ← nextIn [.flowEntry, .flowMappingEnd] then pure Node.absent
          else node fuel false false
        else pure Node.absent
      return (key, value) :: (← flowEntries fuel false)
    | _ =>
      let key ← node fuel false false
      return (key, Node.absent) :: (← flowEntries fuel false)

end

end TokenReader

/-! ### Documents -/

/-- The directives at the front: at most one version, which has to be 1.1 or 1.2, and no
handle twice.  Yields the handles and the tokens behind. -/
def directives? (versioned : Bool) (handles : List (String × String)) :
    List Token → Option (List (String × String) × List Token)
  | .version major minor :: rest =>
    if versioned || major != 1 || (minor != 1 && minor != 2) then none
    else directives? true handles rest
  | .handle name start :: rest =>
    if handles.any fun h => h.1 == name then none
    else directives? versioned (handles ++ [(name, start)]) rest
  | tokens => some (handles ++ coreHandles, tokens)

/-- Whether a token cannot be part of the content of a document. -/
def Token.isDocumentMark : Token → Bool
  | version .. | handle .. | documentStart | documentEnd => true
  | _ => false

/-- The root of the only document; no root if the text is empty. -/
def Node.document? (tokens : List Token) : Option (Option Node) :=
  let root (handles : List (String × String)) (tokens : List Token) : Option (Option Node) := do
    let (node, s) ←
      (TokenReader.node handles (2 * tokens.length + 2) true false).run { tokens := tokens }
    if s.tokens.all (· == .documentEnd) then return some node else none
  let explicit : Option (Option Node) := do
    let (handles, tokens) ← directives? false [] tokens
    match tokens with
    | .documentStart :: rest =>
      if rest.head?.all Token.isDocumentMark then
        if rest.all (· == .documentEnd) then return some Node.absent else none
      else root handles rest
    | _ => none
  match tokens with
  | [] => some none
  | .version .. :: _ | .handle .. :: _ | .documentStart :: _ => explicit
  | _ => root coreHandles tokens

end SwaggerClient.Yaml
