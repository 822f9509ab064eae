/-
JSON values.

Integers and doubles are kept apart, as the document wrote them.  An object is the list of
its members in order.
-/
import SwaggerClient.Decimal.Double

namespace SwaggerClient

/-- A JSON value.  The members of an object keep their order. -/
inductive Json where
  | null
  | bool (value : Bool)
  | int (value : Int)
  | float (value : Double)
  | string (value : String)
  | array (items : List Json)
  | object (members : List (String × Json))
deriving Repr, Inhabited, BEq

namespace Json

/-! ### Building objects with optional members -/

/-- A member that is always written. -/
def member (name : String) (value : Json) : List (String × Json) := [(name, value)]

/-- A member that is left out when there is no value. -/
def optionalMember (name : String) (encode : α → Json) : Option α → List (String × Json)
  | none => []
  | some x => [(name, encode x)]

/-- A list member that is left out when the list is empty. -/
def listMember (name : String) (encode : α → Json) : List α → List (String × Json)
  | [] => []
  | x :: xs => [(name, .array ((x :: xs).map encode))]

/-- An object member, one field per entry, that is left out when there is no entry. -/
def tableMember (name : String) (encode : α → Json) : List (String × α) → List (String × Json)
  | [] => []
  | e :: es => [(name, .object ((e :: es).map fun (key, x) => (key, encode x)))]

/-- The strings of a list as an array. -/
def strings (xs : List String) : Json := .array (xs.map .string)

end Json

end SwaggerClient
