/-
Characters with their place in the text.

Indentation decides the structure of a YAML text, so every character carries its line and
column.  Line breaks are unified here: a carriage return, a line feed, both in a row and the
next-line character all become one line feed.
-/
namespace SwaggerClient.Yaml

/-- A character at its place. -/
structure Glyph where
  char : Char
  line : Nat
  column : Nat
deriving Repr, Inhabited

/-- The characters that end a line. -/
def isBreakChar (c : Char) : Bool :=
  c == '\n' || c == '\r' || c == '\u0085' || c == '\u2028' || c == '\u2029'

/-- The line break as it counts in a text: the two Unicode separators stay what they are. -/
def unifyBreak (c : Char) : Char :=
  if c == '\u2028' || c == '\u2029' then c else '\n'

/-- Places characters, starting at a line and a column. -/
def placeFrom (line column : Nat) : List Char → List Glyph
  | [] => []
  | '\r' :: '\n' :: rest => ⟨'\n', line, column⟩ :: placeFrom (line + 1) 0 rest
  | c :: rest =>
    if isBreakChar c then ⟨unifyBreak c, line, column⟩ :: placeFrom (line + 1) 0 rest
    else ⟨c, line, column⟩ :: placeFrom line (column + 1) rest

/-- The characters that a YAML text may hold: the printable ones, tabs and line breaks. -/
def isAllowed (c : Char) : Bool :=
  let n := c.toNat
  n == 9 || n == 0xA || n == 0xD || (0x20 ≤ n && n ≤ 0x7E) || n == 0x85 ||
    (0xA0 ≤ n && n ≤ 0xFFFD) || 0x10000 ≤ n

/-- The placed characters of a text. -/
def glyphs? (text : List Char) : Option (List Glyph) :=
  if text.all isAllowed then some (placeFrom 0 0 text) else none

namespace Glyph

/-- Whether the character ends a line. -/
def isBreak (g : Glyph) : Bool := isBreakChar g.char

/-- A space or a tab. -/
def isBlank (g : Glyph) : Bool := g.char == ' ' || g.char == '\t'

end Glyph

/-- Whether the text stops here: at a blank, a line break or the end. -/
def atGap : List Glyph → Bool
  | [] => true
  | g :: _ => g.isBlank || g.isBreak

/-- Whether a line begins here with the mark of a document start (`---`) or end (`...`). -/
def atDocumentMark : List Glyph → Bool
  | a :: b :: c :: rest =>
    a.column == 0 && a.char == b.char && b.char == c.char &&
      (a.char == '-' || a.char == '.') && atGap rest
  | _ => false

/-- The letters of names: ASCII letters and digits, the hyphen and the underscore. -/
def isNameChar (c : Char) : Bool := c.isAlphanum || c == '-' || c == '_'

/-- The characters of a piece of text. -/
def chars (gs : List Glyph) : List Char := gs.map Glyph.char

/-- What is left of a line after a value: blanks and a comment, then the line break.  Yields
the text from the next line on. -/
def endLine? (gs : List Glyph) : Option (List Glyph) :=
  let gs := gs.dropWhile Glyph.isBlank
  let gs :=
    match gs with
    | ⟨'#', _, _⟩ :: _ => gs.dropWhile fun (g : Glyph) => !g.isBreak
    | _ => gs
  match gs with
  | [] => some []
  | g :: rest => if g.isBreak then some rest else none

end SwaggerClient.Yaml
