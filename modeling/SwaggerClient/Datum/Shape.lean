/-
What a reader expects at each place of a text.

A shape says which parts of a text are needed and how a bare scalar is to be understood
there.  The parts that a record does not know are passed over, so their depth and the range
of their numbers do not matter; inside a `buffered` place every part is needed.
-/
import SwaggerClient.Datum

namespace SwaggerClient

/-- What is expected at one place. -/
inductive Shape where
  /-- A scalar, taken literally. -/
  | text
  /-- True or false. -/
  | flag
  /-- One of a few fixed words. -/
  | choice
  /-- Any value; the keys of its tables are taken literally. -/
  | value
  /-- Anything at all, read without knowing what it will be decoded as. -/
  | buffered
  /-- The inner shape, or null. -/
  | optional (inner : Shape)
  | list (item : Shape)
  | dict (item : Shape)
  | record (fields : List (String × Shape))

namespace Shape

/-- The shape without the permission to be null. -/
def core : Shape → Shape
  | optional inner => inner
  | shape => shape

/-- The shape of a field, if the record knows it. -/
def fieldShape? (fields : List (String × Shape)) : Key → Option Shape
  | .name s => fields.lookup s
  | _ => none

end Shape

namespace Datum

/-- Whether every part is readable and at most `levels` containers are nested. -/
def fits : Nat → Datum → Bool
  | _, unreadable => false
  | 0, list _ | 0, table _ => false
  | n + 1, list items => items.all (fits n)
  | n + 1, table entries => entries.all fun e => fits n e.2
  | _, _ => true

end Datum

namespace Shape

/-- Whether the parts of a datum that the shape needs are readable and nested at most `levels`
deep.  A part of the wrong kind is left to the decoder. -/
def admits : Nat → Shape → Datum → Bool
  | 0, _, .list _ | 0, _, .table _ => false
  | n + 1, shape, d =>
    match shape.core, d with
    | .value, d | .buffered, d => d.fits (n + 1)
    | .list item, .list xs => xs.all (item.admits n)
    | .dict item, .table entries => entries.all fun e => item.admits n e.2
    | .record fields, .table entries =>
      entries.all fun e =>
        match fieldShape? fields e.1 with
        | none => true
        | some shape => shape.admits n e.2
    | .record fields, .list xs => (fields.zip xs).all fun (f, x) => f.2.admits n x
    | _, _ => true
  | _, _, _ => true

end Shape

end SwaggerClient
