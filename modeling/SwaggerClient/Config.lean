/-
The settings of the generator, and where the generated files go.
-/
import SwaggerClient.Yaml.Reader
import SwaggerClient.Error
import SwaggerClient.Text.Order

namespace SwaggerClient

/-- The words that cannot be used as identifiers in generated TypeScript, sorted. -/
def typeScriptReservedWords : List String := [
  "abstract", "await", "boolean", "break", "byte", "case", "catch", "char", "class", "const",
  "continue", "debugger", "default", "delete", "do", "double", "else", "enum", "export",
  "extends", "false", "final", "finally", "float", "for", "formParams", "function", "goto",
  "headerParams", "if", "implements", "import", "in", "instanceof", "int", "interface", "let",
  "long", "native", "new", "null", "package", "private", "protected", "public",
  "queryParameters", "requestOptions", "return", "short", "static", "super", "switch",
  "synchronized", "this", "throw", "transient", "true", "try", "typeof", "useFormData", "var",
  "varLocalDeferred", "varLocalPath", "void", "volatile", "while", "with", "yield"]

/-- The settings, each with the value that it has unless it is given. -/
structure Config where
  outputFolder : String := "generated-code/rule"
  sourceFolder : String := "src"
  apiPackage : String := "validator"
  modelPackage : String := "model"
  apiVersion : String := "1.0.0"
  /-- Where the renderer looks up templates. -/
  templateDir : String := "rule"
  /-- For each template of a model, the extension of its output files. -/
  modelTemplates : Dict String := Dict.ofList [("model.mustache", ".ts")]
  /-- For each template of an operation set, the extension of its output files. -/
  apiTemplates : Dict String := Dict.ofList [("api.mustache", ".ts")]
  /-- Sorted, each word once. -/
  reservedWords : List String := typeScriptReservedWords
  /-- Further values for every template. -/
  additionalProperties : Dict Json := Dict.empty

namespace Config

/-- The settings where none are given. -/
def standard : Config := {}

instance : Inhabited Config := ⟨standard⟩

/-! ### Reading -/

/-- The settings in declared order. -/
def fieldShapes : List (String × Shape) := [
  ("outputFolder", .text),
  ("sourceFolder", .text),
  ("apiPackage", .text),
  ("modelPackage", .text),
  ("apiVersion", .text),
  ("templateDir", .text),
  ("modelTemplates", .dict .text),
  ("apiTemplates", .dict .text),
  ("reservedWords", .list .text),
  ("additionalProperties", .dict .value)]

/-- What settings look like in a text. -/
def shape : Shape := .record fieldShapes

/-- All settings have to be there in a list. -/
def form : Datum.RecordForm where
  names := fieldShapes.map Prod.fst

/-- A setting that is missing has its standard value. -/
def ofDatum? (d : Datum) : Option Config := do
  let fields ← d.fields? form
  let text? (name : String) (absent : String) := Datum.defaulted? fields name absent Datum.text?
  return {
    outputFolder := ← text? "outputFolder" standard.outputFolder
    sourceFolder := ← text? "sourceFolder" standard.sourceFolder
    apiPackage := ← text? "apiPackage" standard.apiPackage
    modelPackage := ← text? "modelPackage" standard.modelPackage
    apiVersion := ← text? "apiVersion" standard.apiVersion
    templateDir := ← text? "templateDir" standard.templateDir
    modelTemplates := ← Datum.defaulted? fields "modelTemplates" standard.modelTemplates
      (Datum.dictOf? Datum.text?)
    apiTemplates := ← Datum.defaulted? fields "apiTemplates" standard.apiTemplates
      (Datum.dictOf? Datum.text?)
    reservedWords := ← Datum.defaulted? fields "reservedWords" standard.reservedWords
      fun d => (d.listOf? Datum.text?).map Text.sortedSet
    additionalProperties := ← Datum.defaulted? fields "additionalProperties"
      standard.additionalProperties (Datum.dictOf? Json.ofDatum?) }

/-- Reads settings from a YAML text. -/
def ofYaml (text : String) : Except ParseError Config :=
  match (Yaml.read? shape text).bind ofDatum? with
  | some config => .ok config
  | none => .error .yaml

/-! ### Places of files -/

/-- A package name as a path: every dot separates folders. -/
def packagePath (package : String) : String :=
  String.ofList (package.toList.map fun c => if c = '.' then '/' else c)

/-- The folder of a package inside the source folder. -/
def packageFolder (config : Config) (package : String) : String :=
  config.outputFolder ++ "/" ++ config.sourceFolder ++ "/" ++ packagePath package

/-- The folder of model files. -/
def modelFolder (config : Config) : String := config.packageFolder config.modelPackage

/-- The folder of API files. -/
def apiFolder (config : Config) : String := config.packageFolder config.apiPackage

/-- Where a model file goes. -/
def modelFilePath (config : Config) (filename extension : String) : String :=
  config.modelFolder ++ "/" ++ filename ++ extension

/-- Where an API file goes. -/
def apiFilePath (config : Config) (filename extension : String) : String :=
  config.apiFolder ++ "/" ++ filename ++ extension

end Config

end SwaggerClient
