/-
The text of scalars, in all five styles.

Between two words of a quoted or plain scalar lies a gap of blanks and line breaks.  Blanks
on one line are kept.  A gap with line breaks is folded: the blanks around the breaks go, a
single break becomes a blank, and of several the first goes.  Block scalars are read line by
line instead.
-/
import SwaggerClient.Yaml.Glyph
import SwaggerClient.Text.Hexadecimal

namespace SwaggerClient.Yaml

/-! ### Gaps -/

/-- What lies between two words. -/
inductive Gap where
  /-- Blanks on one line. -/
  | blanks (cs : List Char)
  /-- Line breaks: the first, if it counts, and the others. -/
  | breaks (first : Option Char) (more : List Char)
deriving Repr

namespace Gap

/-- No gap. -/
def none : Gap := blanks []

/-- Whether the gap reaches into another line. -/
def isBroken : Gap → Bool
  | blanks _ => false
  | breaks _ _ => true

/-- Whether there is no gap. -/
def isNone : Gap → Bool
  | blanks [] => true
  | _ => false

/-- The gap with one more blank, which does not matter behind a line break. -/
def addBlank (gap : Gap) (c : Char) : Gap :=
  match gap with
  | blanks cs => blanks (cs ++ [c])
  | broken => broken

/-- The gap with one more line break.  The first one drops the blanks before it. -/
def addBreak (gap : Gap) (c : Char) : Gap :=
  match gap with
  | blanks _ => breaks (some c) []
  | breaks first more => breaks first (more ++ [c])

/-- What the gap contributes to the text. -/
def text : Gap → List Char
  | blanks cs => cs
  | breaks (some '\n') [] => [' ']
  | breaks (some '\n') more => more
  | breaks first more => first.toList ++ more

end Gap

/-- Puts characters in front of the text that was read. -/
def prepend (cs : List Char) (read : List Char × α) : List Char × α := (cs ++ read.1, read.2)

/-! ### Quoted scalars -/

/-- The text behind an opening single quote.  Two single quotes stand for one. -/
def singleQuoted (gap : Gap) : List Glyph → Option (List Char × List Glyph)
  | [] => none
  | g :: rest =>
    if g.isBlank then singleQuoted (gap.addBlank g.char) rest
    else if g.isBreak then singleQuoted (gap.addBreak g.char) rest
    else if atDocumentMark (g :: rest) then none
    else if g.char = '\'' then
      match rest with
      | ⟨'\'', _, _⟩ :: rest => (singleQuoted .none rest).map (prepend (gap.text ++ ['\'']))
      | rest => some (gap.text, rest)
    else (singleQuoted .none rest).map (prepend (gap.text ++ [g.char]))

/-- What a letter behind a backslash stands for. -/
inductive Escape where
  | char (c : Char)
  /-- A code point in that many hexadecimal digits. -/
  | code (digits : Nat)

/-- The meaning of the letter behind a backslash. -/
def escape? : Char → Option Escape
  | '0' => some (.char '\x00')
  | 'a' => some (.char '\x07')
  | 'b' => some (.char '\x08')
  | 't' | '\t' => some (.char '\t')
  | 'n' => some (.char '\n')
  | 'v' => some (.char '\x0b')
  | 'f' => some (.char '\x0c')
  | 'r' => some (.char '\r')
  | 'e' => some (.char '\x1b')
  | ' ' => some (.char ' ')
  | '"' => some (.char '"')
  | '/' => some (.char '/')
  | '\\' => some (.char '\\')
  | 'N' => some (.char '\u0085')
  | '_' => some (.char '\u00a0')
  | 'L' => some (.char '\u2028')
  | 'P' => some (.char '\u2029')
  | 'x' => some (.code 2)
  | 'u' => some (.code 4)
  | 'U' => some (.code 8)
  | _ => none

/-- The character whose code point the hexadecimal digits give. -/
def codePoint? (digits : List Char) : Option Char := do
  let n ← Text.hexNumber? digits
  if h : n.isValidChar then some (Char.ofNatAux n h) else none

/-- The text behind an opening double quote.  A backslash at the end of a line joins the next
line without a blank. -/
def doubleQuoted (gap : Gap) (gs : List Glyph) : Option (List Char × List Glyph) :=
  match gs with
  | [] => none
  | g :: rest =>
    if g.isBlank then doubleQuoted (gap.addBlank g.char) rest
    else if g.isBreak then doubleQuoted (gap.addBreak g.char) rest
    else if atDocumentMark (g :: rest) then none
    else if g.char = '"' then some (gap.text, rest)
    else if g.char = '\\' then
      match rest with
      | [] => none
      | e :: rest =>
        if e.isBreak then (doubleQuoted (.breaks none []) rest).map (prepend gap.text)
        else
          match escape? e.char with
          | none => none
          | some (.char c) => (doubleQuoted .none rest).map (prepend (gap.text ++ [c]))
          | some (.code n) =>
            if rest.length < n then none
            else
              match codePoint? (chars (rest.take n)) with
              | none => none
              | some c => (doubleQuoted .none (rest.drop n)).map (prepend (gap.text ++ [c]))
    else (doubleQuoted .none rest).map (prepend (gap.text ++ [g.char]))
termination_by gs.length
decreasing_by all_goals (simp only [List.length_cons, List.length_drop]; omega)

/-! ### Plain scalars -/

/-- Whether a character ends plain text inside brackets or braces. -/
def isFlowMark (c : Char) : Bool :=
  c == ',' || c == '[' || c == ']' || c == '\x7b' || c == '\x7d'

/-- A plain scalar: its text, the gap behind it and what follows.  It ends at a comment, at
a colon before a gap, at a flow mark if `inFlow`, and outside of flow at a line that is
indented less than `minColumn`. -/
def plain (inFlow : Bool) (minColumn : Nat) (gap : Gap) :
    List Glyph → Option (List Char × Gap × List Glyph)
  | [] => some ([], gap, [])
  | g :: rest =>
    if g.isBlank then
      if gap.isBroken && g.char == '\t' && g.column < minColumn then none
      else plain inFlow minColumn (gap.addBlank g.char) rest
    else if g.isBreak then plain inFlow minColumn (gap.addBreak g.char) rest
    else
      let lineOver := !inFlow && g.column < minColumn
      if !gap.isNone && (lineOver || atDocumentMark (g :: rest) || g.char == '#') then
        some ([], gap, g :: rest)
      else
        let flowNext := match rest with
          | [] => false
          | next :: _ => isFlowMark next.char || next.char == '?'
        if inFlow && g.char == ':' && flowNext then none
        else if (g.char == ':' && atGap rest) || (inFlow && isFlowMark g.char) then
          some ([], gap, g :: rest)
        else (plain inFlow minColumn .none rest).map (prepend (gap.text ++ [g.char]))

/-! ### Block scalars -/

/-- What happens to the line breaks at the end of a block scalar. -/
inductive Chomp where
  | strip
  | clip
  | keep
deriving DecidableEq, Repr

/-- The indicator of a chomping other than the usual one. -/
def chompOf? : Char → Option Chomp
  | '-' => some .strip
  | '+' => some .keep
  | _ => none

/-- An indentation indicator: a digit from one to nine. -/
def indentOf? (c : Char) : Option Nat :=
  if c.isDigit && c != '0' then some (c.toNat - '0'.toNat) else none

/-- A chomping indicator at the front, if there is one. -/
def takeChomp : List Glyph → Option Chomp × List Glyph
  | [] => (none, [])
  | g :: rest =>
    match chompOf? g.char with
    | some chomp => (some chomp, rest)
    | none => (none, g :: rest)

/-- An indentation indicator at the front, if there is one. -/
def takeIndent : List Glyph → Option Nat × List Glyph
  | [] => (none, [])
  | g :: rest =>
    match indentOf? g.char with
    | some n => (some n, rest)
    | none => (none, g :: rest)

/-- The indicators behind `|` or `>`, in either order, and the text from the next line on. -/
def blockHeader? (gs : List Glyph) : Option (Chomp × Option Nat × List Glyph) :=
  let (before, gs) := takeChomp gs
  let (indent, gs) := takeIndent gs
  let (after, gs) := if before.isNone && indent.isSome then takeChomp gs else (none, gs)
  (endLine? gs).map fun gs => ((before.or after).getD .clip, indent, gs)

/-- The empty lines at the front: their line breaks, the greatest column that was reached, and
the text from the first line with content on.  A line is empty if it holds nothing but spaces
before column `indent`; while that is unknown, nothing but spaces at all. -/
def emptyLines (indent : Option Nat) (deepest : Nat) :
    List Glyph → Option (List Char × Nat × List Glyph)
  | [] => some ([], deepest, [])
  | g :: rest =>
    let inIndent := indent.all (g.column < ·)
    if inIndent && g.char == ' ' then emptyLines indent deepest rest
    else if inIndent && g.char == '\t' then none
    else if g.isBreak then
      (emptyLines indent (max deepest g.column) rest).map (prepend [g.char])
    else some ([], max deepest g.column, g :: rest)

/-- Skipping empty lines adds nothing to the text. -/
theorem length_emptyLines {indent : Option Nat} {deepest : Nat} {gs : List Glyph}
    {read : List Char × Nat × List Glyph} (h : emptyLines indent deepest gs = some read) :
    read.2.2.length ≤ gs.length := by
  induction gs generalizing deepest read with
  | nil => simp only [emptyLines, Option.some.injEq] at h; subst h; simp
  | cons g rest ih =>
    simp only [emptyLines] at h
    split at h
    · have := ih h
      simp only [List.length_cons]
      omega
    · split at h
      · cases h
      · split at h
        · obtain ⟨r, hr, rfl⟩ := Option.map_eq_some_iff.mp h
          have := ih hr
          simp only [prepend, List.length_cons]
          omega
        · simp only [Option.some.injEq] at h
          subst h
          simp

/-- The lines of a block scalar that are indented by `indent`, each preceded by the breaks
before it.  `lead` is the break that ended the line before, `more` the empty lines since then,
and `blankLine` says whether that line began with a blank.  Yields the text, the last break,
the empty lines at the end, and what follows. -/
def blockLines (literal : Bool) (indent : Nat) (lead : Option Char) (more : List Char)
    (blankLine : Bool) (gs : List Glyph) :
    Option (List Char × Option Char × List Char × List Glyph) :=
  match gs with
  | [] => some ([], lead, more, [])
  | g :: rest =>
    if g.column ≠ indent then some ([], lead, more, g :: rest)
    else
      let joined :=
        if !literal && lead == some '\n' && !blankLine && !g.isBlank then
          if more.isEmpty then [' '] else more
        else lead.toList ++ more
      let line := g.char :: chars (rest.takeWhile fun x => !x.isBreak)
      let after := rest.dropWhile fun x => !x.isBreak
      match hl : emptyLines (some indent) 0 (after.drop 1) with
      | none => none
      | some (breaks, _, next) =>
        have : next.length ≤ rest.length := by
          have h1 := length_emptyLines hl
          have h2 : after.length ≤ rest.length :=
            List.Sublist.length_le (List.dropWhile_sublist _)
          simp only [List.length_drop] at h1
          omega
        (blockLines literal indent (after.head?.map Glyph.char) breaks g.isBlank next).map
          (prepend (joined ++ line))
termination_by gs.length
decreasing_by simp only [List.length_cons]; omega

/-- A block scalar behind its `|` or `>`, where `outer` is the indentation of the block around
it, one more than the parent's column. -/
def blockScalar? (literal : Bool) (outer : Nat) (gs : List Glyph) :
    Option (List Char × List Glyph) := do
  let (chomp, increment, gs) ← blockHeader? gs
  let (breaks, deepest, gs) ← emptyLines (increment.map (outer - 1 + ·)) 0 gs
  let indent := match increment with
    | some n => outer - 1 + n
    | none => max deepest (max outer 1)
  let (text, lead, more, rest) ← blockLines literal indent none breaks false gs
  return match chomp with
    | .strip => (text, rest)
    | .clip => (text ++ lead.toList, rest)
    | .keep => (text ++ lead.toList ++ more, rest)

end SwaggerClient.Yaml
