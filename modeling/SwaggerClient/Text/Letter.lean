/-
Characters: which are letters or digits, which are blank, and their two case forms.

ASCII is decided directly and the rest of Unicode through the tables, so that every
statement about ASCII text can be settled without opening a table.
-/
import SwaggerClient.Text.Stretch
import SwaggerClient.Text.CasePairs
import SwaggerClient.Text.Cased

namespace SwaggerClient.Text

/-! ### Classes -/

/-- The ASCII half of the code space. -/
def isAscii (c : Char) : Bool := c.toNat < 128

/-- Letters, letter-like marks and numbers of every script: `é`, `日`, `²` and `Ⅷ` all count. -/
def isAlphanumeric (c : Char) : Bool :=
  if isAscii c then c.isAlphanum else onStretch c.toNat alphanumericStretches

/-- Capital letters and the signs that behave like them. -/
def isUppercase (c : Char) : Bool :=
  if isAscii c then c.isUpper else onStretch c.toNat uppercaseStretches

/-- Small letters and the signs that behave like them. -/
def isLowercase (c : Char) : Bool :=
  if isAscii c then c.isLower else onStretch c.toNat lowercaseStretches

/-- White space in the Unicode sense, which includes the no-break and the ideographic space. -/
def isWhiteSpace (c : Char) : Bool :=
  let n := c.toNat
  (9 ≤ n && n ≤ 13) || n == 0x20 || n == 0x85 || n == 0xA0 || n == 0x1680 ||
    (0x2000 ≤ n && n ≤ 0x200A) || n == 0x2028 || n == 0x2029 || n == 0x202F ||
    n == 0x205F || n == 0x3000

/-! ### Case forms -/

/-- The upper-case form, which may be longer than one character: `ß` becomes `SS`. -/
def upper (c : Char) : List Char :=
  if isAscii c then [c.toUpper]
  else match counterpart? c.toNat upperRuns with
    | some n => [Char.ofNat n]
    | none => (upperSequences.lookup c.toNat).getD [c]

/-- The lower-case form.  Only the dotted capital `İ` has a longer one. -/
def lower (c : Char) : List Char :=
  if isAscii c then [c.toLower]
  else if c == 'İ' then ['i', '\u0307']
  else match counterpart? c.toNat lowerRuns with
    | some n => [Char.ofNat n]
    | none => [c]

/-- All characters in upper case. -/
def upperText (s : List Char) : List Char := s.flatMap upper

/-- Whether the nearest character that is not case-ignorable is cased. -/
def startsCased (s : List Char) : Bool :=
  match s.dropWhile isCaseIgnorable with
  | [] => false
  | c :: _ => isCased c

/-- All characters in lower case, where `before` holds the ones already passed, nearest first.
A capital sigma that ends a word becomes the final `ς`. -/
def lowerTextAfter (before : List Char) : List Char → List Char
  | [] => []
  | c :: rest =>
    let lowered :=
      if c == 'Σ' then [if startsCased before && !startsCased rest then 'ς' else 'σ']
      else lower c
    lowered ++ lowerTextAfter (c :: before) rest

/-- All characters in lower case. -/
def lowerText (s : List Char) : List Char := lowerTextAfter [] s

end SwaggerClient.Text
