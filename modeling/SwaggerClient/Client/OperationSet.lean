/-
Operation sets: the operations of one tag, which go into one API file.

Operations are collected tag by tag and the sets come out in the order of their tags.  An
operation with several tags is in the set of each.  Normalizing a set names its file,
classifies what its operations consume and resolves its imports.
-/
import SwaggerClient.Client.Operation
import SwaggerClient.Client.Imports

namespace SwaggerClient

/-- The operations of one API file. -/
structure OperationSet where
  classname : String
  /-- Not known until the set is normalized. -/
  apiFilename : Option String := none
  operations : List ClientOperation
  /-- The import paths of the models that the operations refer to. -/
  imports : List String
  /-- The resolved imports, in the same order. -/
  importEntries : List ImportEntry := []
deriving Repr, Inhabited, DecidableEq

/-! ### Collecting by tag -/

/-- What was collected for a tag. -/
structure TagGroup where
  operations : List ClientOperation
  imports : List String
deriving Repr, Inhabited, DecidableEq

namespace TagGroup

/-- The group with one more operation, and those of its imports that are new. -/
def add (group : TagGroup) (op : ClientOperation) (imports : List String) : TagGroup where
  operations := group.operations ++ [op]
  imports := group.imports ++ imports.filter fun path => !group.imports.contains path

end TagGroup

/-- Adds an operation to the group of a tag, in groups that are sorted by tag. -/
def addToTag (op : ClientOperation) (imports : List String) (tag : String) :
    List (String × TagGroup) → List (String × TagGroup)
  | [] => [(tag, ⟨[op], imports⟩)]
  | g :: rest =>
    if tag < g.1 then (tag, ⟨[op], imports⟩) :: g :: rest
    else if tag = g.1 then (tag, g.2.add op imports) :: rest
    else g :: addToTag op imports tag rest

/-- Adds an operation to the group of each of its tags. -/
def addToTags (op : ClientOperation) (imports : List String) (tags : List String)
    (groups : List (String × TagGroup)) : List (String × TagGroup) :=
  tags.foldl (fun groups tag => addToTag op imports tag groups) groups

namespace Naming

variable (naming : Naming)

/-- The operations of routes, added one after the other to groups. -/
def groupRoutes (doc : Document) :
    List (String × TagGroup) → List Route → Except GenerateError (List (String × TagGroup))
  | groups, [] => .ok groups
  | groups, route :: rest =>
    match naming.operation doc route with
    | .error e => .error e
    | .ok op =>
      groupRoutes doc
        (addToTags op (naming.operationImports op) route.operation.listedTags groups) rest

/-- All operations of a document by tag, sorted by tag. -/
def tagGroups (doc : Document) : Except GenerateError (List (String × TagGroup)) :=
  naming.groupRoutes doc [] doc.routes

end Naming

/-- The set of a group, not yet normalized. -/
def OperationSet.ofGroup (group : String × TagGroup) : OperationSet where
  classname := Naming.apiName group.1
  operations := group.2.operations
  imports := group.2.imports

/-- The operation sets of a document, not yet normalized. -/
def Naming.operationSets (naming : Naming) (doc : Document) :
    Except GenerateError (List OperationSet) :=
  match naming.tagGroups doc with
  | .error e => .error e
  | .ok groups => .ok (groups.map OperationSet.ofGroup)

/-- What is told about a group. -/
def groupNotice (group : String × TagGroup) : Notice :=
  .tagGrouped group.1 group.2.operations.length

/-! ### Body kinds -/

/-- What is assumed to be consumed where nothing is declared. -/
def jsonMediaType : String := "application/json"

/-- The only media type that is sent as a form. -/
def formMediaType : String := "multipart/form-data"

/-- The characters without the white space around them. -/
def trim (s : List Char) : List Char :=
  ((s.dropWhile Text.isWhiteSpace).reverse.dropWhile Text.isWhiteSpace).reverse

/-- A media type without its parameters. -/
def mediaEssence (mediaType : String) : List Char :=
  trim (mediaType.toList.takeWhile (· ≠ ';'))

/-- Whether a media type is JSON or built on it. -/
def isJsonLike (mediaType : String) : Bool :=
  mediaEssence mediaType == jsonMediaType.toList ||
    "+json".toList.isSuffixOf (mediaEssence mediaType)

/-- Forms are sent as forms; everything else, text included, is sent as JSON. -/
def BodyKind.ofMediaType (mediaType : String) : BodyKind :=
  if mediaType = formMediaType then .form else .json

/-- What is told about a media type that is sent as JSON without being any. -/
def bodyKindNotice? (mediaType : String) : Option Notice :=
  if mediaType = formMediaType ∨ isJsonLike mediaType then none
  else some (.bodyKindAssumed mediaType)

/-! ### Normalizing -/

/-- An entry with its body kind. -/
def ConsumeEntry.classify (entry : ConsumeEntry) : ConsumeEntry :=
  { entry with bodyKind := some (.ofMediaType entry.mediaType) }

/-- What is consumed, or JSON where nothing is declared. -/
def consumedOrJson (entries : List ConsumeEntry) : List ConsumeEntry :=
  if entries.isEmpty then [{ mediaType := jsonMediaType }] else entries

/-- An operation with everything that it consumes classified. -/
def ClientOperation.normalize (op : ClientOperation) : ClientOperation :=
  { op with consumes := (consumedOrJson op.consumes).map .classify }

/-- What one normalization leaves behind. -/
structure Normalized where
  set : OperationSet
  refs : ImportRefs
  fault : Option GenerateError

namespace OperationSet

/-- The part of normalizing that cannot fail. -/
def prepare (set : OperationSet) : OperationSet :=
  { set with
    apiFilename := some (Naming.apiFilename set.classname)
    operations := set.operations.map .normalize }

/-- Normalizes a set and records its imports.  If an import is malformed, the set keeps its
name and its classified operations, and neither its entries nor the recorded ones change. -/
def normalize (package : String) (set : OperationSet) (refs : ImportRefs) : Normalized :=
  match ImportEntry.resolveAll package set.imports with
  | .error e => ⟨set.prepare, refs, some (.operationSet set.classname e)⟩
  | .ok entries => ⟨{ set.prepare with importEntries := entries }, refs.extend entries, none⟩

/-- What is told while a set is normalized. -/
def notices (package : String) (set : OperationSet) : List Notice :=
  let assumed := set.operations.flatMap fun op =>
    op.consumes.filterMap fun entry => bodyKindNotice? entry.mediaType
  match ImportEntry.resolveAll package set.imports with
  | .error _ => assumed
  | .ok entries => assumed ++ [.setNormalized set.classname set.operations.length entries.length]

/-- Normalizes sets in order, up to the first fault. -/
def normalizeAll (package : String) :
    List OperationSet → ImportRefs → Except GenerateError (List OperationSet × ImportRefs)
  | [], refs => .ok ([], refs)
  | set :: rest, refs =>
    match set.normalize package refs with
    | ⟨_, _, some e⟩ => .error e
    | ⟨set, refs, none⟩ =>
      match normalizeAll package rest refs with
      | .error e => .error e
      | .ok (sets, refs) => .ok (set :: sets, refs)

end OperationSet

end SwaggerClient
