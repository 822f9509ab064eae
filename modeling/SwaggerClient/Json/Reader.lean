/-
Reading JSON text.

The grammar is RFC 8259 to the letter.  Depth, the range of numbers and unpaired surrogates
are no matter of grammar: the reader accepts them, and the shape of what is being read
decides whether they hurt.
-/
import SwaggerClient.Json.Number
import SwaggerClient.Datum.Shape
import SwaggerClient.Text.Hexadecimal

namespace SwaggerClient.Json

/-- The blanks between tokens. -/
def isBlank (c : Char) : Bool := c == ' ' || c == '\t' || c == '\n' || c == '\r'

/-- Skips white space. -/
def skipBlanks (cs : List Char) : List Char := cs.dropWhile isBlank

/-! ### Strings -/

/-- One step of a string: a character, or a UTF-16 unit given by its number. -/
inductive Piece where
  | char (c : Char)
  | unit (n : Nat)

/-- The character that a backslash and a letter stand for. -/
def simpleEscape? : Char → Option Char
  | '"' => some '"'
  | '\\' => some '\\'
  | '/' => some '/'
  | 'b' => some '\x08'
  | 'f' => some '\x0c'
  | 'n' => some '\n'
  | 'r' => some '\r'
  | 't' => some '\t'
  | _ => none

/-- The pieces of a string up to its closing quote, and the text behind it. -/
def pieces? : List Char → Option (List Piece × List Char)
  | [] => none
  | '"' :: rest => some ([], rest)
  | '\\' :: 'u' :: a :: b :: c :: d :: rest => do
    let n ← Text.hexNumber? [a, b, c, d]
    let (more, rest) ← pieces? rest
    return (.unit n :: more, rest)
  | '\\' :: e :: rest => do
    let c ← simpleEscape? e
    let (more, rest) ← pieces? rest
    return (.char c :: more, rest)
  | c :: rest =>
    if c.toNat < 0x20 ∨ c = '\\' then none
    else (pieces? rest).map fun (more, rest) => (.char c :: more, rest)

/-- The characters of a string.  A high surrogate needs a low one right behind it. -/
def joinPieces? : List Piece → Option (List Char)
  | [] => some []
  | .char c :: rest => (joinPieces? rest).map (c :: ·)
  | .unit high :: .unit low :: rest =>
    if 0xD800 ≤ high ∧ high < 0xDC00 then
      if 0xDC00 ≤ low ∧ low < 0xE000 then
        let n := 0x10000 + (high - 0xD800) * 0x400 + (low - 0xDC00)
        (joinPieces? rest).map (Char.ofNat n :: ·)
      else none
    else if 0xDC00 ≤ high ∧ high < 0xE000 then none
    else (joinPieces? (.unit low :: rest)).map (Char.ofNat high :: ·)
  | .unit n :: rest =>
    if 0xD800 ≤ n ∧ n < 0xE000 then none
    else (joinPieces? rest).map (Char.ofNat n :: ·)

/-- A string behind its opening quote; no value if its surrogates do not pair up. -/
def string? (cs : List Char) : Option (Option String × List Char) := do
  let (pieces, rest) ← pieces? cs
  return ((joinPieces? pieces).map String.ofList, rest)

/-! ### Values -/

/-- A table with readable keys; one broken key makes the whole table unreadable. -/
def tableOf (members : List (Option String × Datum)) : Datum :=
  match members.mapM fun (key, d) => key.map fun s => (Key.name s, d) with
  | some entries => .table entries
  | none => .unreadable

mutual

/-- A value at the front of the text.  `fuel` bounds the nesting of calls. -/
def value? : Nat → List Char → Option (Datum × List Char)
  | 0, _ => none
  | fuel + 1, cs =>
    match skipBlanks cs with
    | 'n' :: 'u' :: 'l' :: 'l' :: rest => some (.null, rest)
    | 't' :: 'r' :: 'u' :: 'e' :: rest => some (.bool true, rest)
    | 'f' :: 'a' :: 'l' :: 's' :: 'e' :: rest => some (.bool false, rest)
    | '"' :: rest => do
      let (s, rest) ← string? rest
      return (s.elim .unreadable .text, rest)
    | '[' :: rest =>
      match skipBlanks rest with
      | ']' :: rest => some (.list [], rest)
      | rest => do
        let (items, rest) ← items? fuel rest
        return (.list items, rest)
    | '\x7b' :: rest =>
      match skipBlanks rest with
      | '\x7d' :: rest => some (.table [], rest)
      | rest => do
        let (members, rest) ← members? fuel rest
        return (tableOf members, rest)
    | rest => do
      let (lit, rest) ← number? rest
      return (lit.datum, rest)

/-- The items of a list up to its closing bracket. -/
def items? : Nat → List Char → Option (List Datum × List Char)
  | 0, _ => none
  | fuel + 1, cs => do
    let (item, rest) ← value? fuel cs
    match skipBlanks rest with
    | ']' :: rest => return ([item], rest)
    | ',' :: rest =>
      let (more, rest) ← items? fuel rest
      return (item :: more, rest)
    | _ => none

/-- The members of a table up to its closing brace. -/
def members? : Nat → List Char → Option (List (Option String × Datum) × List Char)
  | 0, _ => none
  | fuel + 1, cs =>
    match skipBlanks cs with
    | '"' :: rest => do
      let (key, rest) ← string? rest
      match skipBlanks rest with
      | ':' :: rest =>
        let (d, rest) ← value? fuel rest
        match skipBlanks rest with
        | '\x7d' :: rest => return ([(key, d)], rest)
        | ',' :: rest =>
          let (more, rest) ← members? fuel rest
          return ((key, d) :: more, rest)
        | _ => none
      | _ => none
    | _ => none

end

/-- The data of a JSON text.  Every second call at least takes a character, so twice the length
is fuel enough. -/
def parse? (text : String) : Option Datum := do
  let cs := text.toList
  let (d, rest) ← value? (2 * cs.length + 2) cs
  if skipBlanks rest = [] then return d else none

/-- Containers may be nested this deep where they matter. -/
def maxDepth : Nat := 127

/-- The data of a JSON text that is expected to have a shape. -/
def read? (shape : Shape) (text : String) : Option Datum :=
  (parse? text).filter (shape.admits maxDepth)

end SwaggerClient.Json
