/-
A generation pass: everything that the templates of a client library are rendered from.

Models come first, one per definition, and the first faulty one ends the pass.  Then the
operations are grouped and each set is normalized.
-/
import SwaggerClient.Client.Model
import SwaggerClient.Client.OperationSet
import SwaggerClient.Format

namespace SwaggerClient

/-! ### Results -/

/-- What a rendered file holds. -/
inductive Artifact where
  | model
  | api
deriving DecidableEq, Repr

/-- A file to render. -/
structure RenderTarget where
  kind : Artifact
  /-- The model or the type of the operation set. -/
  name : String
  template : String
  path : String
deriving DecidableEq, Repr

/-- Everything that one generation yields. -/
structure Pass where
  models : List Model
  operationSets : List OperationSet
  /-- The imports of all operation sets. -/
  refs : List ImportEntry
  targets : List RenderTarget
  additionalProperties : Dict Json

namespace Pass

/-- The key under which templates find the imports of the pass. -/
def refsKey : String := "refs"

/-- The key under which templates find the version of the API. -/
def versionKey : String := "apiVersion"

/-- The values that templates see: the additional properties and the imports of the pass. -/
def templateProperties (pass : Pass) : Dict Json :=
  pass.additionalProperties.insert refsKey (.array (pass.refs.map ImportEntry.toJson))

/-- The model of a definition. -/
def model? (pass : Pass) (name : String) : Option Model :=
  pass.models.find? fun m => m.name == name

/-- The first operation set of a type. -/
def operationSet? (pass : Pass) (classname : String) : Option OperationSet :=
  pass.operationSets.find? fun s => s.classname == classname

end Pass

/-! ### Rendering -/

namespace Config

/-- The files of a model, one for each template. -/
def modelTargets (config : Config) (model : Model) : List RenderTarget :=
  config.modelTemplates.entries.map fun (template, extension) =>
    ⟨.model, model.name, template, config.modelFilePath model.classFilename extension⟩

/-- The files of an operation set, one for each template.  A set without a file name has
none. -/
def apiTargets (config : Config) (set : OperationSet) : List RenderTarget :=
  match set.apiFilename with
  | none => []
  | some filename =>
    config.apiTemplates.entries.map fun (template, extension) =>
      ⟨.api, set.classname, template, config.apiFilePath filename extension⟩

/-- All files of a pass: those of the models, then those of the operation sets. -/
def targets (config : Config) (models : List Model) (sets : List OperationSet) :
    List RenderTarget :=
  models.flatMap config.modelTargets ++ sets.flatMap config.apiTargets

end Config

/-! ### Generating -/

/-- The models of all definitions. -/
def Naming.allModels (naming : Naming) (doc : Document) : Except GenerateError (List Model) :=
  doc.definitions.entries.mapM fun (name, schema) => naming.model doc.definitions name schema

/-- Generates a pass for a document. -/
def generate (config : Config) (doc : Document) : Except GenerateError Pass := do
  let naming := config.naming
  let models ← naming.allModels doc
  let sets ← naming.operationSets doc
  let (sets, refs) ← OperationSet.normalizeAll config.modelPackage sets {}
  return {
    models := models
    operationSets := sets
    refs := refs.entries
    targets := config.targets models sets
    additionalProperties :=
      config.additionalProperties.insert Pass.versionKey (.string config.apiVersion) }

/-- Generates a pass for the text of a document. -/
def generateFrom (config : Config) (format : Format) (text : String) : Except GenerateError Pass :=
  match format.document text with
  | .error e => .error (.parse e)
  | .ok doc => generate config doc

/-- What is told while a pass is generated, in order: about the models, the groups, and each
set as it is normalized. -/
def notices (config : Config) (doc : Document) : Except GenerateError (List Notice) := do
  let pass ← generate config doc
  let groups ← config.naming.tagGroups doc
  return pass.models.map Model.notice ++ groups.map groupNotice ++
    (groups.map OperationSet.ofGroup).flatMap (OperationSet.notices config.modelPackage) ++
    [.passDone pass.models.length pass.operationSets.length pass.refs.length]

/-! ### The generator itself -/

/-- How a generator presents itself. -/
structure GeneratorInfo where
  name : String
  tag : String
  help : String
deriving DecidableEq, Repr

/-- This generator. -/
def generatorInfo : GeneratorInfo where
  name := "rule"
  tag := "client"
  help := "Generates a rule client library."

end SwaggerClient
