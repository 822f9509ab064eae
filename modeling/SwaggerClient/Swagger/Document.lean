/-
Documents: a whole Swagger 2.0 description, its shared sections, and references into them.
-/
import SwaggerClient.Swagger.Operation
import SwaggerClient.Text.Affix
import SwaggerClient.Error

namespace SwaggerClient

/-- What a document says about the API as a whole. -/
structure Info where
  title : String
  description : Option String := none
  version : String
deriving Repr, Inhabited, DecidableEq

namespace Info

/-- The fields of the title section in declared order. -/
def fieldShapes : List (String × Shape) := [
  ("title", .text),
  ("description", .optional .text),
  ("version", .text)]

/-- What the title section looks like in a text. -/
def shape : Shape := .record fieldShapes

/-- The fields of the title section as a record. -/
def form : Datum.RecordForm where
  names := fieldShapes.map Prod.fst

/-- Decodes the title section; unknown fields are ignored. -/
def ofDatum? (d : Datum) : Option Info := do
  let fields ← d.fields? form
  return {
    title := ← Datum.required? fields "title" Datum.text?
    description := ← Datum.optional? fields "description" Datum.text?
    version := ← Datum.required? fields "version" Datum.text? }

/-- Encodes the title section: fields in declared order, absent and empty ones left out. -/
def toJson (info : Info) : Json := .object <|
  Json.member "title" (.string info.title) ++
  Json.optionalMember "description" .string info.description ++
  Json.member "version" (.string info.version)

end Info

/-- A tag that operations can be listed under. -/
structure Tag where
  name : String
  description : Option String := none
deriving Repr, Inhabited, DecidableEq

namespace Tag

/-- The fields of a tag in declared order. -/
def fieldShapes : List (String × Shape) := [
  ("name", .text),
  ("description", .optional .text)]

/-- What a tag looks like in a text. -/
def shape : Shape := .record fieldShapes

/-- The fields of a tag as a record. -/
def form : Datum.RecordForm where
  names := fieldShapes.map Prod.fst

/-- Decodes a tag; unknown fields are ignored. -/
def ofDatum? (d : Datum) : Option Tag := do
  let fields ← d.fields? form
  return {
    name := ← Datum.required? fields "name" Datum.text?
    description := ← Datum.optional? fields "description" Datum.text? }

/-- Encodes a tag: fields in declared order, absent and empty ones left out. -/
def toJson (tag : Tag) : Json := .object <|
  Json.member "name" (.string tag.name) ++
  Json.optionalMember "description" .string tag.description

end Tag

/-- A whole API description. -/
structure Document where
  swagger : String
  info : Info
  host : Option String := none
  basePath : Option String := none
  /-- Media types of requests, for operations that declare none. -/
  consumes : List String := []
  produces : List String := []
  paths : Dict PathItem := Dict.empty
  definitions : Dict Schema := Dict.empty
  /-- Parameters that operations share, by name. -/
  parameters : Dict Parameter := Dict.empty
  /-- Responses that operations share, by name. -/
  responses : Dict Response := Dict.empty
  tags : List Tag := []
deriving Inhabited

namespace Document

/-- The fields of a document in declared order. -/
def fieldShapes : List (String × Shape) := [
  ("swagger", .text),
  ("info", Info.shape),
  ("host", .optional .text),
  ("basePath", .optional .text),
  ("consumes", .list .text),
  ("produces", .list .text),
  ("paths", .dict PathItem.shape),
  ("definitions", .dict Schema.shape),
  ("parameters", .dict Parameter.shape),
  ("responses", .dict Response.shape),
  ("tags", .list Tag.shape)]

/-- What a document looks like in a text. -/
def shape : Shape := .record fieldShapes

/-- All fields from `consumes` on have a value of their own, so a list may end before them. -/
def form : Datum.RecordForm where
  names := fieldShapes.map Prod.fst
  atLeast := 4

/-! ### Decoding and encoding -/

/-- Decodes a document; unknown fields are ignored. -/
def ofDatum? (d : Datum) : Option Document := do
  let fields ← d.fields? form
  return {
    swagger := ← Datum.required? fields "swagger" Datum.text?
    info := ← Datum.required? fields "info" Info.ofDatum?
    host := ← Datum.optional? fields "host" Datum.text?
    basePath := ← Datum.optional? fields "basePath" Datum.text?
    consumes := ← Datum.defaulted? fields "consumes" [] (Datum.listOf? Datum.text?)
    produces := ← Datum.defaulted? fields "produces" [] (Datum.listOf? Datum.text?)
    paths := ← Datum.defaulted? fields "paths" Dict.empty (Datum.dictOf? PathItem.ofDatum?)
    definitions :=
      ← Datum.defaulted? fields "definitions" Dict.empty (Datum.dictOf? Schema.ofDatum?)
    parameters :=
      ← Datum.defaulted? fields "parameters" Dict.empty (Datum.dictOf? Parameter.ofDatum?)
    responses :=
      ← Datum.defaulted? fields "responses" Dict.empty (Datum.dictOf? Response.ofDatum?)
    tags := ← Datum.defaulted? fields "tags" [] (Datum.listOf? Tag.ofDatum?) }

/-- Encodes a document: fields in declared order, absent and empty ones left out. -/
def toJson (doc : Document) : Json := .object <|
  Json.member "swagger" (.string doc.swagger) ++
  Json.member "info" doc.info.toJson ++
  Json.optionalMember "host" .string doc.host ++
  Json.optionalMember "basePath" .string doc.basePath ++
  Json.listMember "consumes" .string doc.consumes ++
  Json.listMember "produces" .string doc.produces ++
  Json.tableMember "paths" PathItem.toJson doc.paths.entries ++
  Json.tableMember "definitions" Schema.toJson doc.definitions.entries ++
  Json.tableMember "parameters" Parameter.toJson doc.parameters.entries ++
  Json.tableMember "responses" Response.toJson doc.responses.entries ++
  Json.listMember "tags" Tag.toJson doc.tags

/-- The version that this library understands. -/
def supportedVersion : String := "2.0"

/-- A document of the supported version. -/
def checkVersion (doc : Document) : Except ParseError Document :=
  if doc.swagger = supportedVersion then .ok doc
  else .error (.unsupportedVersion doc.swagger)

/-! ### References into the shared sections -/

/-- The entry that `path` names behind `start`. -/
def lookupShared (shared : Dict α) (start path : String) : Except ResolveError α :=
  match Text.stripStart? start path with
  | none => .error (.malformedReference path)
  | some name =>
    if name = "" then .error (.malformedReference path)
    else
      match shared.find? name with
      | some value => .ok value
      | none => .error (.targetNotFound path)

/-- Follows a reference to a shared parameter; a parameter in place stands for itself. -/
def resolveParameter (doc : Document) : OrRef Parameter → Except ResolveError Parameter
  | .inline p => .ok p
  | .ref path => lookupShared doc.parameters "#/parameters/" path

/-- Follows a reference to a shared response; a response in place stands for itself. -/
def resolveResponse (doc : Document) : OrRef Response → Except ResolveError Response
  | .inline r => .ok r
  | .ref path => lookupShared doc.responses "#/responses/" path

end Document

end SwaggerClient
