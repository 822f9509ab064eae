/-
The name of an operation that has none: a verb for the method and the resources of the path.

Placeholders such as `{petId}` are no resources.  If the path ends with one, a single thing is
meant, so the last resource is put into the singular and `GET` reads `get` instead of `list`.
-/
import SwaggerClient.Swagger.Operation
import SwaggerClient.Text.Words
import SwaggerClient.Text.Affix

namespace SwaggerClient.Route

/-! ### Paths -/

/-- The segments of a path that are not empty. -/
def segments (path : List Char) : List (List Char) := Text.runs (· ≠ '/') path

/-- Whether a segment stands for a value: it is in braces. -/
def isPlaceholder (segment : List Char) : Bool :=
  segment.head? == some '\x7b' && segment.getLast? == some '\x7d'

/-- The segments that name things. -/
def resources (path : List Char) : List (List Char) :=
  (segments path).filter fun s => !isPlaceholder s

/-- Whether the last segment stands for a value. -/
def endsWithPlaceholder (path : List Char) : Bool :=
  (segments path).getLast?.any isPlaceholder

/-! ### Words -/

/-- The singular of an English plural in a path: `categories` becomes `category`, `boxes`
`box` and `pets` `pet`. -/
def singular (word : List Char) : List Char :=
  match Text.beforeEnd? ['i', 'e', 's'] word with
  | some (c :: stem) => c :: stem ++ ['y']
  | _ =>
    if [['s', 'e', 's'], ['x', 'e', 's'], ['z', 'e', 's']].any (·.isSuffixOf word) then
      word.dropLast.dropLast
    else
      match Text.beforeEnd? ['s'] word with
      | some stem => if stem = [] ∨ stem.getLast? = some 's' then word else stem
      | none => word

/-- The resources, the last one in the singular if a single thing is meant. -/
def spoken (single : Bool) : List (List Char) → List (List Char)
  | [] => []
  | [word] => [if single then singular word else word]
  | word :: rest => word :: spoken single rest

/-- The verb of a method. -/
def verb (single : Bool) : Method → List Char
  | .get => if single then "get".toList else "list".toList
  | .post => "create".toList
  | .put => "update".toList
  | .delete => "delete".toList
  | .patch => "patch".toList
  | .options => "options".toList
  | .head => "head".toList

/-- The method that a text names, in whatever case. -/
def methodOf? (method : List Char) : Option Method :=
  Method.all.find? fun m => m.name.toList == Text.upperText method

/-- The name of an operation, characterwise.  An unknown method is all there is to say. -/
def nameChars (method path : List Char) : List Char :=
  match methodOf? method with
  | none => Text.lowerText method
  | some m =>
    let single := endsWithPlaceholder path
    verb single m ++ (spoken single (resources path)).flatMap Text.pascalChars

/-- The name of an operation by its method and its path. -/
def operationName (method path : String) : String :=
  String.ofList (nameChars method.toList path.toList)

end SwaggerClient.Route
