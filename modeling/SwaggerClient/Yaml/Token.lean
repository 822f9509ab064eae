/-
Tokens: the marks and scalars of a YAML text, with its indentation made explicit.

A block collection opens where a line is indented deeper than the block around it and closes
where a line is indented less.  Whether a scalar is a key shows only at the colon behind it,
so the scanner remembers for every level of flow nesting the latest place where a key could
have begun, and marks it when the colon comes.  A key without a question mark has to be on
one line and within 1024 characters.
-/
import SwaggerClient.Yaml.Folding
import SwaggerClient.Yaml.Tag

namespace SwaggerClient.Yaml

/-- How a scalar is written. -/
inductive Style where
  | plain
  | quoted
  | literal
  | folded
deriving DecidableEq, Repr

/-- A mark, a property of a node, a scalar or a directive. -/
inductive Token where
  | version (major minor : Nat)
  | handle (name start : String)
  | documentStart
  | documentEnd
  | blockSequence
  | blockMapping
  | blockEnd
  | flowSequence
  | flowSequenceEnd
  | flowMapping
  | flowMappingEnd
  | blockEntry
  | flowEntry
  | key
  | value
  | aliasOf (name : String)
  | anchor (name : String)
  | tag (name : TagName)
  | scalar (style : Style) (text : String)
deriving DecidableEq, Repr

/-- A place where a key may have begun. -/
structure Candidate where
  /-- The number of tokens before it. -/
  tokensBefore : Nat
  line : Nat
  column : Nat
  /-- Nothing but a key may stand there. -/
  required : Bool
deriving Repr

/-- The state of scanning. -/
structure Scanner where
  rest : List Glyph
  tokens : Array Token := #[]
  /-- The column of the innermost block collection, or -1. -/
  indent : Int := -1
  /-- The columns of the block collections around it. -/
  outer : List Int := []
  /-- Whether a key may begin at the next token. -/
  keyAllowed : Bool := true
  /-- The candidates for a key, one for each level of flow nesting, innermost first. -/
  candidate : Option Candidate := none
  outerCandidates : List (Option Candidate) := []

namespace Scanner

/-- Whether the scanner is inside brackets or braces. -/
def inFlow (s : Scanner) : Bool := !s.outerCandidates.isEmpty

/-- Adds a token and goes on behind it. -/
def emit (s : Scanner) (token : Token) (rest : List Glyph) : Scanner :=
  { s with tokens := s.tokens.push token, rest := rest }

/-! ### Indentation -/

/-- Closes the block collections that are indented deeper than `column`. -/
def closeBlocks (column indent : Int) (tokens : Array Token) :
    List Int → Int × List Int × Array Token
  | [] => (indent, [], tokens)
  | outer :: more =>
    if column < indent then closeBlocks column outer (tokens.push .blockEnd) more
    else (indent, outer :: more, tokens)

/-- Adapts the block structure to a token at `column`.  Inside flow indentation is free. -/
def unroll (s : Scanner) (column : Int) : Scanner :=
  if s.inFlow then s
  else
    let (indent, outer, tokens) := closeBlocks column s.indent s.tokens s.outer
    { s with indent := indent, outer := outer, tokens := tokens }

/-- Opens a block collection at `column`, its token inserted after `before` others, unless one
is open there or further right. -/
def openBlock (s : Scanner) (column before : Nat) (token : Token) : Scanner :=
  if s.inFlow || (column : Int) ≤ s.indent then s
  else
    { s with
      indent := column
      outer := s.indent :: s.outer
      tokens := s.tokens.insertIdxIfInBounds before token }

/-! ### Keys without a question mark -/

/-- Whether the candidate cannot become a key any more at a place. -/
def Candidate.isStale (c : Candidate) (g : Glyph) : Bool :=
  c.line < g.line || c.column + 1024 < g.column

/-- Drops a candidate that went stale; one that was required is a fault. -/
def dropStale? (g : Glyph) : Option Candidate → Option (Option Candidate)
  | none => some none
  | some c =>
    if !Candidate.isStale c g then some (some c)
    else if c.required then none
    else some none

/-- Forgets the innermost candidate; one that was required is a fault. -/
def forget? (s : Scanner) : Option Scanner :=
  if s.candidate.any Candidate.required then none else some { s with candidate := none }

/-- Notes that a key may begin here, where one is allowed. -/
def note? (s : Scanner) (g : Glyph) : Option Scanner :=
  if s.keyAllowed then do
    let required := !s.inFlow && s.indent == g.column
    let s ← s.forget?
    return { s with candidate := some ⟨s.tokens.size, g.line, g.column, required⟩ }
  else some s

/-! ### Between tokens -/

/-- Skips blanks, comments and line breaks.  A line break outside of flow allows a key, and
where a key is allowed outside of flow a tab is no blank.  A byte order mark at the beginning
of a line is skipped too, but it takes a column. -/
def skip (inFlow : Bool) : (keyAllowed inComment : Bool) → List Glyph → Bool × List Glyph
  | allowed, _, [] => (allowed, [])
  | allowed, inComment, g :: rest =>
    if g.isBreak then skip inFlow (allowed || !inFlow) false rest
    else if inComment then skip inFlow allowed true rest
    else if g.column == 0 && g.char == '\uFEFF' then skip inFlow allowed false rest
    else if g.char == ' ' || (g.char == '\t' && (inFlow || !allowed)) then
      skip inFlow allowed false rest
    else if g.char == '#' then skip inFlow allowed true rest
    else (allowed, g :: rest)

/-! ### Directives -/

/-- A version number of at most nine digits. -/
def versionPart? (gs : List Glyph) : Option (Nat × List Glyph) :=
  let ds := chars (gs.takeWhile fun g => g.char.isDigit)
  if ds.isEmpty || 9 < ds.length then none
  else some (ds.foldl (fun n c => 10 * n + (c.toNat - '0'.toNat)) 0,
    gs.dropWhile fun g => g.char.isDigit)

/-- The two parts of a version behind `%YAML`. -/
def version? (gs : List Glyph) : Option (Token × List Glyph) := do
  let (major, gs) ← versionPart? (gs.dropWhile Glyph.isBlank)
  match gs with
  | ⟨'.', _, _⟩ :: gs =>
    let (minor, gs) ← versionPart? gs
    return (.version major minor, gs)
  | _ => none

/-- A handle and what it stands for, behind `%TAG`. -/
def handle? (gs : List Glyph) : Option (Token × List Glyph) := do
  match gs.dropWhile Glyph.isBlank with
  | ⟨'!', _, _⟩ :: gs =>
    let (name, closed, gs) := handleTail gs
    let handle := '!' :: name ++ if closed then ['!'] else []
    if !closed && !name.isEmpty then none
    else
      match gs with
      | [] => none
      | g :: _ =>
        if !g.isBlank then none
        else
          let (start, gs) ← tagChars? true (gs.dropWhile Glyph.isBlank)
          if start.isEmpty || !atGap gs then none
          else return (.handle (String.ofList handle) (String.ofList start), gs)
  | _ => none

/-- A directive behind its percent sign, with the line break that ends it. -/
def directive? (gs : List Glyph) : Option (Token × List Glyph) := do
  let name := chars (gs.takeWhile fun g => isNameChar g.char)
  let gs := gs.dropWhile fun g => isNameChar g.char
  if !atGap gs then none
  else
    let (token, gs) ←
      if name = "YAML".toList then version? gs
      else if name = "TAG".toList then handle? gs
      else none
    let gs ← endLine? gs
    return (token, gs)

/-! ### Names -/

/-- The name of an anchor or an alias, and the text behind it. -/
def name? (gs : List Glyph) : Option (String × List Glyph) :=
  let name := chars (gs.takeWhile fun g => isNameChar g.char)
  let rest := gs.dropWhile fun g => isNameChar g.char
  let ended := atGap rest || rest.head?.any fun g => "?:,]\x7d%@`".toList.contains g.char
  if name.isEmpty || !ended then none else some (String.ofList name, rest)

/-! ### One token -/

/-- The opening mark of a flow collection. -/
def openFlow? (s : Scanner) (g : Glyph) (token : Token) (rest : List Glyph) : Option Scanner := do
  let s ← s.note? g
  let s := s.emit token rest
  return { s with
    outerCandidates := s.candidate :: s.outerCandidates
    candidate := none
    keyAllowed := true }

/-- The closing mark of a flow collection. -/
def closeFlow? (s : Scanner) (token : Token) (rest : List Glyph) : Option Scanner := do
  let s ← s.forget?
  let s := { s.emit token rest with keyAllowed := false }
  return match s.outerCandidates with
    | [] => s
    | candidate :: more => { s with candidate := candidate, outerCandidates := more }

/-- The mark of an entry or a key that opens a block where it stands. -/
def blockMark? (s : Scanner) (g : Glyph) (collection token : Token) (rest : List Glyph) :
    Option Scanner :=
  if !s.inFlow && !s.keyAllowed then none
  else
    (s.openBlock g.column s.tokens.size collection).forget?.map fun s => s.emit token rest

/-- A colon: the candidate, if there is one, turns out to be a key. -/
def colon? (s : Scanner) (g : Glyph) (rest : List Glyph) : Option Scanner :=
  match s.candidate with
  | some c =>
    let s := { s with
      tokens := s.tokens.insertIdxIfInBounds c.tokensBefore .key
      candidate := none
      keyAllowed := false }
    some ((s.openBlock c.column c.tokensBefore .blockMapping).emit .value rest)
  | none =>
    if !s.inFlow && !s.keyAllowed then none
    else
      let s := s.openBlock g.column s.tokens.size .blockMapping
      some { s.emit .value rest with keyAllowed := !s.inFlow }

/-- A token that may begin a key and that no key may follow at once. -/
def keyLike? (s : Scanner) (g : Glyph) (read : Option (Token × List Glyph)) : Option Scanner := do
  let s ← s.note? g
  let (token, rest) ← read
  return { s.emit token rest with keyAllowed := false }

/-- A mark at the beginning of a line that lies outside of every collection. -/
def documentMark? (s : Scanner) (read : Option (Token × List Glyph)) : Option Scanner := do
  let s ← (s.unroll (-1)).forget?
  let (token, rest) ← read
  return { s.emit token rest with keyAllowed := false }

/-- A block scalar, behind its indicator. -/
def block? (s : Scanner) (style : Style) (rest : List Glyph) : Option Scanner := do
  let s ← s.forget?
  let (text, rest) ← blockScalar? (style == .literal) (s.indent + 1).toNat rest
  return { s.emit (.scalar style (String.ofList text)) rest with keyAllowed := true }

/-- A plain scalar.  A key may follow if the scalar ends with a line. -/
def plain? (s : Scanner) (g : Glyph) (gs : List Glyph) : Option Scanner := do
  let s ← s.note? g
  let (text, gap, rest) ← plain s.inFlow (s.indent + 1).toNat .none gs
  return { s.emit (.scalar .plain (String.ofList text)) rest with keyAllowed := gap.isBroken }

/-- Whether a plain scalar may begin with a character, given the text behind it.  A tab may
not, where it is no blank. -/
def beginsPlain (inFlow : Bool) (c : Char) (rest : List Glyph) : Bool :=
  if "\t-?:,[]\x7b\x7d#&*!|>'\"%@`".toList.contains c then
    (c == '-' && !(rest.head?.any Glyph.isBlank)) ||
      (!inFlow && (c == '?' || c == ':') && !atGap rest)
  else true

/-- The token that begins at `g`. -/
def token? (s : Scanner) (g : Glyph) (rest : List Glyph) : Option Scanner :=
  let gs := g :: rest
  if g.column = 0 ∧ g.char = '%' then s.documentMark? (directive? rest)
  else if atDocumentMark gs then
    s.documentMark? (some (if g.char = '-' then .documentStart else .documentEnd, rest.drop 2))
  else
    match g.char with
    | '[' => s.openFlow? g .flowSequence rest
    | '\x7b' => s.openFlow? g .flowMapping rest
    | ']' => s.closeFlow? .flowSequenceEnd rest
    | '\x7d' => s.closeFlow? .flowMappingEnd rest
    | ',' => s.forget?.map fun s => { s.emit .flowEntry rest with keyAllowed := true }
    | '*' => s.keyLike? g ((name? rest).map fun (n, rest) => (.aliasOf n, rest))
    | '&' => s.keyLike? g ((name? rest).map fun (n, rest) => (.anchor n, rest))
    | '!' => s.keyLike? g ((tag? s.inFlow rest).map fun (t, rest) => (.tag t, rest))
    | '\'' => s.keyLike? g
        ((singleQuoted .none rest).map fun (t, rest) => (.scalar .quoted (String.ofList t), rest))
    | '"' => s.keyLike? g
        ((doubleQuoted .none rest).map fun (t, rest) => (.scalar .quoted (String.ofList t), rest))
    | c =>
      if c = '-' ∧ atGap rest then
        (s.blockMark? g .blockSequence .blockEntry rest).map fun s => { s with keyAllowed := true }
      else if c = '?' ∧ (s.inFlow ∨ atGap rest) then
        (s.blockMark? g .blockMapping .key rest).map fun s => { s with keyAllowed := !s.inFlow }
      else if c = ':' ∧ (s.inFlow ∨ atGap rest) then s.colon? g rest
      else if c = '|' ∧ !s.inFlow then s.block? .literal rest
      else if c = '>' ∧ !s.inFlow then s.block? .folded rest
      else if beginsPlain s.inFlow c rest then s.plain? g gs
      else none

/-- Scans on to the end of the text.  Every token takes at least a character. -/
def run? : Nat → Scanner → Option (List Token)
  | 0, _ => none
  | fuel + 1, s =>
    let (allowed, rest) := skip s.inFlow s.keyAllowed false s.rest
    let s := { s with keyAllowed := allowed, rest := rest }
    match rest with
    | [] => (s.unroll (-1)).forget?.map fun s => s.tokens.toList
    | g :: rest => do
      let candidate ← dropStale? g s.candidate
      let outerCandidates ← s.outerCandidates.mapM (dropStale? g)
      let s := { s with candidate := candidate, outerCandidates := outerCandidates }
      run? fuel (← (s.unroll g.column).token? g rest)

end Scanner

/-- The tokens of a text. -/
def Token.scan? (text : String) : Option (List Token) := do
  let gs ← glyphs? text.toList
  Scanner.run? (gs.length + 1) { rest := gs }

end SwaggerClient.Yaml
