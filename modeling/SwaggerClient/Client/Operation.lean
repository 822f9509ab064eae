/-
Operations as the generated client sees them.

An operation inherits the parameters of its path, except those that it overrides by one of
the same name in the same location.  What it returns is decided by one response: the first
whose status begins with `2`, or else `default`.
-/
import SwaggerClient.Client.TypeExpr
import SwaggerClient.Naming.Route

namespace SwaggerClient

/-! ### Parts -/

/-- How the generated client encodes a request body. -/
inductive BodyKind where
  | json
  | form
deriving DecidableEq, Repr, Inhabited

/-- A media type that an operation takes. -/
structure ConsumeEntry where
  mediaType : String
  /-- Not known until the operation is normalized. -/
  bodyKind : Option BodyKind := none
deriving DecidableEq, Repr, Inhabited

/-- A parameter of an operation, with its type resolved. -/
structure OperationParameter where
  /-- The variable. -/
  name : String
  /-- The name in the document. -/
  baseName : String
  location : Location
  dataType : TypeExpr
  required : Bool
  description : Option String
deriving DecidableEq, Repr, Inhabited

/-- An operation as the generated client offers it. -/
structure ClientOperation where
  nickname : String
  method : Method
  path : String
  summary : Option String
  notes : Option String
  tags : List String
  deprecated : Bool
  parameters : List OperationParameter
  bodyParam : Option OperationParameter
  returnType : Option TypeExpr
  /-- Whether the document declares any media type for the request. -/
  hasConsumes : Bool
  consumes : List ConsumeEntry
  produces : List String
deriving DecidableEq, Repr, Inhabited

/-! ### Choices -/

/-- The inherited parameters that are not overridden, then the operation's own. -/
def mergeParameters (inherited own : List Parameter) : List Parameter :=
  inherited.filter (fun p => !own.any fun o => o.name == p.name && o.location == p.location) ++ own

/-- The response that decides what an operation returns. -/
def Operation.successResponse? (op : Operation) : Option (OrRef Response) :=
  match op.responses.entries.find? fun e => e.1.toList.head? == some '2' with
  | some e => some e.2
  | none => op.responses.find? "default"

/-- The operation's own list, or else the one of the document. -/
def ownOrShared (own shared : List String) : List String := if own.isEmpty then shared else own

namespace Naming

variable (naming : Naming)

/-- A parameter with its type.  Parameters in the path are always required. -/
def operationParameter (p : Parameter) : Except ResolveError OperationParameter :=
  match naming.typeOf p.property with
  | .error e => .error e
  | .ok dataType => .ok {
      name := naming.variableName p.name
      baseName := p.name
      location := p.location
      dataType := dataType
      required := p.required || p.location == .path
      description := p.description }

/-- What the response that decides says about the return type. -/
def returnType (doc : Document) (op : Operation) : Except ResolveError (Option TypeExpr) :=
  match op.successResponse? with
  | none => .ok none
  | some response =>
    match doc.resolveResponse response with
    | .error e => .error e
    | .ok response =>
      match response.schema with
      | none => .ok none
      | some schema =>
        match naming.typeOf schema with
        | .error e => .error e
        | .ok type => .ok (some type)

end Naming

/-! ### Routes -/

/-- An operation of a document together with its place. -/
structure Route where
  path : String
  item : PathItem
  method : Method
  operation : Operation

/-- All operations in the order of the document: by path, then by method. -/
def Document.routes (doc : Document) : List Route :=
  doc.paths.entries.flatMap fun (path, item) =>
    item.operations.map fun (method, op) => ⟨path, item, method, op⟩

/-- The tag of operations that have none. -/
def defaultTag : String := "default"

/-- The tags under which an operation is listed. -/
def Operation.listedTags (op : Operation) : List String :=
  if op.tags.isEmpty then [defaultTag] else op.tags

/-- The models that an operation refers to: by its parameters in order, then by what it
returns. -/
def ClientOperation.models (op : ClientOperation) : List String :=
  op.parameters.flatMap (fun p => p.dataType.models) ++
    op.returnType.toList.flatMap TypeExpr.models

/-- The imports of the models that an operation refers to, each once. -/
def Naming.operationImports (naming : Naming) (op : ClientOperation) : List String :=
  Text.firstOccurrences (op.models.map naming.modelImport)

/-- The operation at a route, faults told without its place. -/
def Naming.operation? (naming : Naming) (doc : Document) (route : Route) :
    Except ResolveError ClientOperation := do
  let op := route.operation
  let inherited ← route.item.parameters.mapM doc.resolveParameter
  let own ← op.parameters.mapM doc.resolveParameter
  let parameters ← (mergeParameters inherited own).mapM naming.operationParameter
  let returnType ← naming.returnType doc op
  let consumes := ownOrShared op.consumes doc.consumes
  return {
    nickname := op.operationId.getD (Route.operationName route.method.name route.path)
    method := route.method
    path := route.path
    summary := op.summary
    notes := op.description
    tags := op.tags
    deprecated := op.deprecated.getD false
    parameters := parameters
    bodyParam := parameters.find? fun p => p.location == .body
    returnType := returnType
    hasConsumes := !consumes.isEmpty
    consumes := consumes.map fun mediaType => { mediaType := mediaType }
    produces := ownOrShared op.produces doc.produces }

/-- The operation at a route, faults told with its method and path. -/
def Naming.operation (naming : Naming) (doc : Document) (route : Route) :
    Except GenerateError ClientOperation :=
  (naming.operation? doc route).mapError (.operation route.method.name route.path)

end SwaggerClient
