/-
Writing JSON, on one line or indented by two blanks a level.

Strings are raw except for the quote, the backslash and the control characters below the
blank.  A double is written with the fewest digits that read back: positionally from 1e-5 up
to 1e16, in scientific notation outside, and as `null` if it is infinite or no number.
-/
import SwaggerClient.Json
import SwaggerClient.Decimal.Shortest

namespace SwaggerClient.Json

/-! ### Strings -/

/-- A lower-case hexadecimal digit. -/
def hexDigit (n : Nat) : Char := Nat.digitChar n

/-- The written form of one character inside a string. -/
def escapeChar (c : Char) : String :=
  if c = '"' then "\\\""
  else if c = '\\' then "\\\\"
  else if c = '\n' then "\\n"
  else if c = '\r' then "\\r"
  else if c = '\t' then "\\t"
  else if c = '\x08' then "\\b"
  else if c = '\x0c' then "\\f"
  else if c.toNat < 0x20 then
    String.ofList ['\\', 'u', '0', '0', hexDigit (c.toNat / 16), hexDigit (c.toNat % 16)]
  else c.toString

/-- A string in quotes. -/
def quote (s : String) : String :=
  s.foldl (fun out c => out ++ escapeChar c) "\"" ++ "\""

/-! ### Numbers -/

/-- The digits `0.d₁d₂… * 10 ^ point` in positional notation, with at least one digit on
either side of the decimal point. -/
def positional (digits : List Char) (point : Int) : List Char :=
  if point ≤ 0 then '0' :: '.' :: (List.replicate (-point).toNat '0' ++ digits)
  else
    let n := point.toNat
    if digits.length ≤ n then digits ++ List.replicate (n - digits.length) '0' ++ ['.', '0']
    else digits.take n ++ '.' :: digits.drop n

/-- The digits `0.d₁d₂… * 10 ^ point` in scientific notation. -/
def scientific (digits : List Char) (point : Int) : List Char :=
  let mantissa :=
    match digits with
    | [] => []
    | [d] => [d]
    | d :: rest => d :: '.' :: rest
  let exponent := point - 1
  mantissa ++ 'e' :: (if exponent < 0 then '-' else '+') :: Nat.toDigits 10 exponent.natAbs

/-- Magnitudes from `10 ^ -5` up to `10 ^ 16` are written positionally. -/
def isPositional (point : Int) : Bool := -5 < point && point ≤ 16

/-- A double as JSON text. -/
def doubleText (x : Double) : String :=
  if !x.isFinite then "null"
  else
    let sign := if x.isNegative then ['-'] else []
    if x.significand = 0 then String.ofList (sign ++ ['0', '.', '0'])
    else
      let short := Decimal.shortest x
      let digits := Nat.toDigits 10 short.digits
      let point := short.exponent + digits.length
      let layout := if isPositional point then positional else scientific
      String.ofList (sign ++ layout digits point)

/-- An integer in decimal. -/
def intText (n : Int) : String :=
  if n < 0 then "-" ++ String.ofList (Nat.toDigits 10 n.natAbs)
  else String.ofList (Nat.toDigits 10 n.natAbs)

/-- A value that holds no other value. -/
def leafText : Json → String
  | null => "null"
  | bool true => "true"
  | bool false => "false"
  | int n => intText n
  | float x => doubleText x
  | string s => quote s
  | array _ => "[]"
  | object _ => "\x7b\x7d"

/-! ### Without white space -/

mutual

/-- The value on one line, without a blank. -/
def compact : Json → String
  | array (x :: xs) => "[" ++ compact x ++ compactItems xs ++ "]"
  | object ((key, x) :: rest) =>
    "\x7b" ++ quote key ++ ":" ++ compact x ++ compactMembers rest ++ "\x7d"
  | leaf => leafText leaf

/-- The items after the first one. -/
def compactItems : List Json → String
  | [] => ""
  | x :: xs => "," ++ compact x ++ compactItems xs

/-- The members after the first one. -/
def compactMembers : List (String × Json) → String
  | [] => ""
  | (key, x) :: rest => "," ++ quote key ++ ":" ++ compact x ++ compactMembers rest

end

/-! ### Indented -/

/-- A line break followed by the indentation of a level. -/
def newLine (level : Nat) : String := "\n" ++ String.ofList (List.replicate (2 * level) ' ')

mutual

/-- The value over several lines, where `level` counts the containers around it. -/
def prettyAt (level : Nat) : Json → String
  | array (x :: xs) =>
    "[" ++ newLine (level + 1) ++ prettyAt (level + 1) x ++ prettyItems (level + 1) xs ++
      newLine level ++ "]"
  | object ((key, x) :: rest) =>
    "\x7b" ++ newLine (level + 1) ++ quote key ++ ": " ++ prettyAt (level + 1) x ++
      prettyMembers (level + 1) rest ++ newLine level ++ "\x7d"
  | leaf => leafText leaf

/-- The items after the first one, each on a line of its own. -/
def prettyItems (level : Nat) : List Json → String
  | [] => ""
  | x :: xs => "," ++ newLine level ++ prettyAt level x ++ prettyItems level xs

/-- The members after the first one, each on a line of its own. -/
def prettyMembers (level : Nat) : List (String × Json) → String
  | [] => ""
  | (key, x) :: rest =>
    "," ++ newLine level ++ quote key ++ ": " ++ prettyAt level x ++ prettyMembers level rest

end

/-- The value over several lines, two blanks a level and no line break at the end. -/
def pretty (value : Json) : String := prettyAt 0 value

end SwaggerClient.Json
