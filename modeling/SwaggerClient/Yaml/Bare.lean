/-
What a bare word means where any value may stand.

A word without quotes is null, a truth value or a number if it is spelled like one, and text
otherwise.  Integers may be decimal, hexadecimal, octal or binary, but a decimal with a
leading zero is text.
-/
import SwaggerClient.Datum
import SwaggerClient.Text.Affix
import SwaggerClient.Yaml.Tag

namespace SwaggerClient.Yaml

/-! ### Null and truth values -/

/-- The four spellings of null, besides no text at all. -/
def isNullWord (s : String) : Bool := ["~", "null", "Null", "NULL"].contains s

/-- The six spellings of the truth values. -/
def boolWord? (s : String) : Option Bool :=
  if ["true", "True", "TRUE"].contains s then some true
  else if ["false", "False", "FALSE"].contains s then some false
  else none

/-! ### Integers -/

/-- The number that the digits of a radix spell, if all characters are such digits. -/
def digitsInRadix? (radix : Nat) (cs : List Char) : Option Nat :=
  if cs.isEmpty then none
  else cs.foldlM (fun n c => do
    let d ← Text.hexValue? c
    if d < radix then some (radix * n + d) else none) 0

/-- A digit string of more than one digit with a leading zero, with or without a sign. -/
def isZeroPadded (cs : List Char) : Bool :=
  let unsigned := match cs with
    | '-' :: rest | '+' :: rest => rest
    | cs => cs
  match unsigned with
  | '0' :: c :: rest => (c :: rest).all Char.isDigit
  | _ => false

/-- A natural number without a sign: in radix 16, 8 or 2 behind its mark, or decimal. -/
def magnitude? : List Char → Option Nat
  | '0' :: 'x' :: rest => digitsInRadix? 16 rest
  | '0' :: 'o' :: rest => digitsInRadix? 8 rest
  | '0' :: 'b' :: rest => digitsInRadix? 2 rest
  | cs => if isZeroPadded cs then none else digitsInRadix? 10 cs

/-- An integer of at most 128 bits, with an optional sign. -/
def integer? (cs : List Char) : Option Int :=
  match cs with
  | '-' :: rest => (magnitude? rest).bind fun n => if n ≤ 1 <<< 127 then some (-n) else none
  | '+' :: rest | rest => (magnitude? rest).bind fun n => if n < 1 <<< 128 then some n else none

/-- An integer as data.  Beyond 64 bits nothing can hold it. -/
def integerDatum (n : Int) : Datum :=
  if -(1 <<< 63) ≤ n ∧ n < 1 <<< 64 then .int n else .unreadable

/-! ### Doubles -/

/-- The digits at the front, and the rest. -/
def takeDigits (cs : List Char) : List Char × List Char :=
  (cs.takeWhile Char.isDigit, cs.dropWhile Char.isDigit)

/-- An exponent that takes the whole text, or no text at all. -/
def exponent? : List Char → Option Int
  | [] => some 0
  | e :: rest =>
    if e = 'e' ∨ e = 'E' then
      match rest with
      | '-' :: ds => (digitsInRadix? 10 ds).map fun n => -(n : Int)
      | '+' :: ds | ds => (digitsInRadix? 10 ds).map fun n => (n : Int)
    else none

/-- A decimal number without a sign: digits with an optional point among or around them, and
an optional exponent. -/
def unsignedDecimal? (negative : Bool) (cs : List Char) : Option Double := do
  let (whole, rest) := takeDigits cs
  let (fraction, rest) := match rest with
    | '.' :: rest => takeDigits rest
    | rest => ([], rest)
  let digits ← digitsInRadix? 10 (whole ++ fraction)
  let exponent ← exponent? rest
  let x := Double.ofDecimal negative digits (exponent - fraction.length)
  if x.isFinite then some x else none

/-- Infinity and the absence of a number, which no document can keep. -/
def isNonFiniteWord (s : String) : Bool :=
  [".inf", ".Inf", ".INF", "+.inf", "+.Inf", "+.INF", "-.inf", "-.Inf", "-.INF",
    ".nan", ".NaN", ".NAN"].contains s

/-- A double; words for infinity and for no number count as infinite. -/
def double? (s : String) : Option Double :=
  if isNonFiniteWord s then some (Double.ofMagnitude false Double.infinityMagnitude)
  else
    match s.toList with
    | '-' :: cs => unsignedDecimal? true cs
    | '+' :: cs | cs => unsignedDecimal? false cs

/-! ### Any scalar -/

/-- The meaning of a bare word. -/
def bareDatum (s : String) : Datum :=
  if s = "" ∨ isNullWord s then .null
  else
    match boolWord? s with
    | some b => .bool b
    | none =>
      match integer? s.toList with
      | some n => integerDatum n
      | none =>
        if isZeroPadded s.toList then .text s
        else
          match double? s with
          | some x => .float x
          | none => .text s

/-- Whether a tag is of the document's own making. -/
def isLocalTag (tag : String) : Bool := tag.startsWith "!"

/-- The meaning of a scalar with a tag.  A well-known tag has to fit its text, a local tag
means nothing here, and any other makes the scalar a text. -/
def taggedDatum? (tag s : String) : Option Datum :=
  if tag = boolTag then (boolWord? s).map .bool
  else if tag = intTag then (integer? s.toList).map integerDatum
  else if tag = floatTag then (double? s).map .float
  else if tag = nullTag then (if isNullWord s then some .null else none)
  else if isLocalTag tag then none
  else some (.text s)

end SwaggerClient.Yaml
