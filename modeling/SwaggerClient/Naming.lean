/-
Names: from what a document calls things to what generated code may call them.

A name is first reduced to its runs of letters and digits, so separators carry no
information.  Variables are in `lowerCamelCase`, with an underscore in front of a reserved
word.  Types are in `PascalCase`; a name that is reserved or begins with a digit gets the
word `model` in front.
-/
import SwaggerClient.Config
import SwaggerClient.Text.Words
import SwaggerClient.Notice

namespace SwaggerClient

/-- What naming depends on. -/
structure Naming where
  modelPackage : String
  apiPackage : String
  reservedWords : List String
deriving Repr

/-- The naming that the settings ask for. -/
def Config.naming (config : Config) : Naming where
  modelPackage := config.modelPackage
  apiPackage := config.apiPackage
  reservedWords := config.reservedWords

namespace Naming

/-! ### Identifiers -/

/-- What stands for a name without a letter or digit. -/
def unnamed : List Char := "unnamed".toList

/-- The runs of letters and digits, joined by single underscores. -/
def identifierChars (name : List Char) : List Char :=
  match Text.alphanumericRuns name with
  | [] => unnamed
  | runs => ['_'].intercalate runs

/-- The name reduced to its runs of letters and digits. -/
def identifier (name : String) : String := String.ofList (identifierChars name.toList)

/-- Equality up to the case of ASCII letters. -/
def sameIgnoringCase (s t : String) : Bool :=
  s.toList.map Char.toLower == t.toList.map Char.toLower

variable (naming : Naming)

/-- Whether a word is reserved, in whatever case. -/
def isReserved (name : String) : Bool := naming.reservedWords.any fun w => sameIgnoringCase w name

/-- Marks a reserved word by an underscore in front. -/
def escape (name : String) : String :=
  if naming.isReserved name then "_" ++ name else name

/-- The variable of a property or a parameter. -/
def variableName (name : String) : String := naming.escape (Text.camelCase (identifier name))

/-! ### Models -/

/-- Whether a text begins with an ASCII digit. -/
def startsWithDigit (s : String) : Bool := s.toList.head?.any Char.isDigit

/-- Whether a model cannot keep its name. -/
def needsRenaming (name : String) : Bool :=
  naming.isReserved (identifier name) || startsWithDigit (identifier name)

/-- The type of a model. -/
def modelName (name : String) : String :=
  if naming.needsRenaming name then Text.pascalCase ("model_" ++ identifier name)
  else Text.pascalCase (identifier name)

/-- What is told when a model is renamed. -/
def renamingNotice? (name : String) : Option Notice :=
  if naming.needsRenaming name then some (.modelRenamed name (naming.modelName name)) else none

/-- The file of a model, without extension. -/
def modelFilename (name : String) : String := Text.camelCase (naming.modelName name)

/-- The path under which the file of a model is imported. -/
def modelImport (name : String) : String :=
  naming.modelPackage ++ "/" ++ naming.modelFilename name

/-! ### APIs -/

/-- The type of the operation set of a tag.  It gets the ending `Api` where it has none. -/
def apiName (name : String) : String :=
  if name = "" then "DefaultApi"
  else
    let pascal := Text.pascalCase (identifier name)
    if "Api".toList.isSuffixOf pascal.toList then pascal else pascal ++ "Api"

/-- The file of an operation set, without extension. -/
def apiFilename (name : String) : String := Text.camelCase (apiName name)

/-- The path under which the file of an operation set is imported. -/
def apiImport (name : String) : String := naming.apiPackage ++ "/" ++ apiFilename name

end Naming

end SwaggerClient
