/-
Reading a JSON number.

Integers that fit into 64 bits are exact.  Everything else is a double, computed from as many
leading digits as fit into an unsigned 64-bit word and the power of ten that is left: the
double of those digits times or divided by the double of the power.
-/
import SwaggerClient.Datum

namespace SwaggerClient.Json

/-! ### The value of a literal -/

/-- The greatest unsigned 64-bit number. -/
def wordMax : Nat := 0xFFFFFFFFFFFFFFFF

/-- Appends digits to a number as long as it stays a 64-bit word, and counts them. -/
def absorb (n : Nat) : List Nat → Nat × Nat
  | [] => (n, 0)
  | d :: rest =>
    if wordMax < n * 10 + d then (n, 0)
    else
      let (m, count) := absorb (n * 10 + d) rest
      (m, count + 1)

/-- `digits * 10 ^ exponent` in two roundings, or nothing if that overflows.  Powers below the
range are divided out in two steps. -/
def scale? (negative : Bool) (digits : Nat) (exponent : Int) : Option Double :=
  let base := Double.ofNat negative digits
  if 308 < exponent then
    if digits = 0 then some base else none
  else if 0 ≤ exponent then
    let x := base.mul (Double.tenPower exponent.toNat)
    if x.isFinite then some x else none
  else if -308 ≤ exponent then
    some (base.div (Double.tenPower (-exponent).toNat))
  else if -616 ≤ exponent then
    some ((base.div (Double.tenPower 308)).div (Double.tenPower (-exponent - 308).toNat))
  else some (Double.ofNat negative 0)

/-- A number as the text spells it. -/
structure NumberLiteral where
  negative : Bool
  whole : List Nat
  /-- The digits behind the decimal point, if there is one. -/
  fraction : Option (List Nat)
  exponent : Option Int

/-- What a number literal denotes. -/
def NumberLiteral.datum (lit : NumberLiteral) : Datum :=
  let (n, taken) := absorb 0 lit.whole
  let exact := taken = lit.whole.length ∧ lit.fraction = none ∧ lit.exponent = none
  if exact ∧ !lit.negative then .int n
  else if exact ∧ 0 < n ∧ n ≤ wordMax / 2 + 1 then .int (-n)
  else
    let (digits, placed) := absorb n (lit.fraction.getD [])
    let left : Int := lit.whole.length - taken - placed
    match scale? lit.negative digits (left + lit.exponent.getD 0) with
    | some x => .float x
    | none => .unreadable

/-! ### The grammar -/

/-- The values of the leading digits, and the rest. -/
def digits (cs : List Char) : List Nat × List Char :=
  ((cs.takeWhile Char.isDigit).map fun c => c.toNat - '0'.toNat, cs.dropWhile Char.isDigit)

/-- A natural number from its digits. -/
def ofDigits (ds : List Nat) : Nat := ds.foldl (fun n d => 10 * n + d) 0

/-- The digits before the decimal point: at least one, and no leading zero. -/
def wholePart? (cs : List Char) : Option (List Nat × List Char) :=
  match digits cs with
  | ([], _) => none
  | (0 :: _ :: _, _) => none
  | (ds, rest) => some (ds, rest)

/-- The digits behind a decimal point, if there is one. -/
def fractionPart? : List Char → Option (Option (List Nat) × List Char)
  | '.' :: cs =>
    match digits cs with
    | ([], _) => none
    | (ds, rest) => some (some ds, rest)
  | cs => some (none, cs)

/-- The number behind the letter of an exponent. -/
def exponentValue? (sign : Int) (cs : List Char) : Option (Option Int × List Char) :=
  match digits cs with
  | ([], _) => none
  | (ds, rest) => some (some (sign * ofDigits ds), rest)

/-- The exponent, if there is one. -/
def exponentPart? : List Char → Option (Option Int × List Char)
  | 'e' :: '-' :: cs | 'E' :: '-' :: cs => exponentValue? (-1) cs
  | 'e' :: '+' :: cs | 'E' :: '+' :: cs => exponentValue? 1 cs
  | 'e' :: cs | 'E' :: cs => exponentValue? 1 cs
  | cs => some (none, cs)

/-- A number without its sign. -/
def unsignedNumber? (negative : Bool) (cs : List Char) : Option (NumberLiteral × List Char) := do
  let (whole, cs) ← wholePart? cs
  let (fraction, cs) ← fractionPart? cs
  let (exponent, cs) ← exponentPart? cs
  return (⟨negative, whole, fraction, exponent⟩, cs)

/-- A number at the front of the text. -/
def number? : List Char → Option (NumberLiteral × List Char)
  | '-' :: cs => unsignedNumber? true cs
  | cs => unsignedNumber? false cs

end SwaggerClient.Json
