/-
The two formats that documents come in.
-/
import SwaggerClient.Json.Reader
import SwaggerClient.Yaml.Reader
import SwaggerClient.Swagger.Document

namespace SwaggerClient

/-- How a text is written. -/
inductive Format where
  | json
  | yaml
deriving DecidableEq, Repr

namespace Format

/-- The fault of a text that is not well formed, or holds something else than expected. -/
def fault : Format → ParseError
  | json => .json
  | yaml => .yaml

/-- The data of a text that is expected to have a shape. -/
def read? : Format → Shape → String → Option Datum
  | json => Json.read?
  | yaml => Yaml.read?

/-- Reads and decodes a text. -/
def decode (format : Format) (shape : Shape) (decoder : Datum → Option α) (text : String) :
    Except ParseError α :=
  match (format.read? shape text).bind decoder with
  | some value => .ok value
  | none => .error format.fault

/-- Reads a property descriptor. -/
def property (format : Format) (text : String) : Except ParseError Property :=
  format.decode Property.shape Property.ofDatum? text

/-- Reads a schema. -/
def schema (format : Format) (text : String) : Except ParseError Schema :=
  format.decode Schema.shape Schema.ofDatum? text

/-- Reads a parameter. -/
def parameter (format : Format) (text : String) : Except ParseError Parameter :=
  format.decode Parameter.shape Parameter.ofDatum? text

/-- Reads a document.  The version is looked at only once everything else is in order. -/
def document (format : Format) (text : String) : Except ParseError Document := do
  let doc ← format.decode Document.shape Document.ofDatum? text
  doc.checkVersion

end Format

end SwaggerClient
