/-
Reading YAML text as data, guided by the shape that is expected.

The same scalar means different things in different places: where a text is expected, `2.0`
is a text.  An alias stands for the node at its anchor wherever a value is needed; to keep
the effort bounded, no more than a hundred aliases per mark of the text are followed.
-/
import SwaggerClient.Yaml.Node
import SwaggerClient.Yaml.Bare
import SwaggerClient.Datum.Shape

namespace SwaggerClient.Yaml

/-- What the reading of one document refers to. -/
structure Anchorage where
  /-- The anchored nodes, the latest first. -/
  anchored : List (Nat × Node)
  /-- How many aliases may be followed. -/
  maxFollowed : Nat

/-- A step that counts the aliases it follows and may fail. -/
abbrev Walk := StateT Nat Option

namespace Walk

/-- A result that is known already. -/
def ofOption (x : Option α) : Walk α := fun n => x.map fun value => (value, n)

end Walk

/-- The node itself, or the one that an alias stands for. -/
def Anchorage.follow (env : Anchorage) : Node → Walk Node
  | .aliasOf target => do
    let followed ← get
    set (followed + 1)
    if env.maxFollowed < followed + 1 then failure
    Walk.ofOption (env.anchored.lookup target)
  | node => return node

/-! ### Scalars -/

/-- Whether a node is null where null is permitted; nothing if it claims to be and is not. -/
def isNull? : Node → Option Bool
  | .scalar _ tag style text =>
    if style ≠ .plain then some false
    else
      match tag with
      | none => some (text = "" || isNullWord text)
      | some tag =>
        if tag ≠ nullTag then some false
        else if isNullWord text then some true
        else none
  | _ => some false

/-- A scalar as what the shape expects.  A collection may be given by no text at all. -/
def scalarDatum? (shape : Shape) (tag : Option String) (style : Style) (text : String) :
    Option Datum :=
  let isBlank := style = .plain ∧ text = ""
  match shape with
  | .text => some (.text text)
  | .flag =>
    if style = .plain ∨ (style = .literal ∧ tag = some boolTag) then (boolWord? text).map .bool
    else none
  | .choice =>
    match tag.filter isLocalTag with
    | none => some (.text text)
    | some tag =>
      if style = .plain ∧ (text = "" ∨ isNullWord text) then
        some (.text (String.ofList (tag.toList.drop 1)))
      else none
  | .list _ => if isBlank then some (.list []) else none
  | .dict _ | .record _ => if isBlank then some (.table []) else none
  | .value | .buffered | .optional _ =>
    match tag with
    | some tag => taggedDatum? tag text
    | none => some (if style = .plain then bareDatum text else .text text)

/-- The literal text of a node, which a name has to have. -/
def Anchorage.name (env : Anchorage) (node : Node) : Walk String := do
  match ← env.follow node with
  | .scalar _ _ _ text => return text
  | _ => failure

/-- A key of a table that was read without knowing what it is for. -/
def keyOf : Datum → Key
  | .text s => .name s
  | .int n => if n < 0 then .other else .position n.toNat
  | _ => .other

/-! ### Nodes -/

/-- The data of a node, with at most `depth` collections inside each other. -/
def Anchorage.read (env : Anchorage) : Nat → Shape → Node → Walk Datum
  | depth, shape, node => do
    let node ← env.follow node
    if shape matches .optional _ then
      if ← Walk.ofOption (isNull? node) then
        return .null
    match depth, node with
    | _, .scalar _ tag style text => Walk.ofOption (scalarDatum? shape.core tag style text)
    | depth + 1, .sequence _ tag items =>
      match shape.core with
      | .list item => return .list (← items.mapM (env.read depth item))
      | .value => any tag (return .list (← items.mapM (env.read depth .value)))
      | .buffered => any tag (return .list (← items.mapM (env.read depth .buffered)))
      | _ => failure
    | depth + 1, .mapping _ tag entries =>
      match shape.core with
      | .dict item => return .table (← entries.mapM (named (env.read depth item)))
      | .value => any tag (return .table (← entries.mapM (named (env.read depth .value))))
      | .buffered => any tag do
          return .table (← entries.mapM fun (k, v) => do
            let key ← env.read depth .buffered k
            return (keyOf key, ← env.read depth .buffered v))
      | .record fields => do
          let entries ← entries.filterMapM fun (k, v) => do
            let name ← env.name k
            match fields.lookup name with
            | none => return none
            | some shape => return some (Key.name name, ← env.read depth shape v)
          return .table entries
      | _ => failure
    | _, _ => failure
where
  /-- A collection that may be anything may have no local tag. -/
  any (tag : Option String) (inner : Walk Datum) : Walk Datum :=
    if tag.any isLocalTag then failure else inner
  /-- An entry whose key is taken literally. -/
  named (inner : Node → Walk Datum) (entry : Node × Node) : Walk (Key × Datum) := do
    let name ← env.name entry.1
    return (.name name, ← inner entry.2)

/-- What a text without any content stands for. -/
def emptyDatum? : Shape → Option Datum
  | .list _ => some (.list [])
  | .dict _ | .record _ => some (.table [])
  | .value | .buffered | .optional _ => some .null
  | .text | .flag | .choice => none

/-- Collections may be nested this deep where they matter. -/
def maxDepth : Nat := 128

/-- The data of a YAML text that is expected to have a shape. -/
def read? (shape : Shape) (text : String) : Option Datum := do
  let tokens ← Token.scan? text
  match ← Node.document? tokens with
  | none => emptyDatum? shape
  | some root =>
    let env : Anchorage := ⟨root.anchored.reverse, 100 * root.weight⟩
    let (d, _) ← (env.read maxDepth shape root).run 0
    return d

end SwaggerClient.Yaml
