/-
What the generator tells along the way.  A notice never changes a result.
-/
namespace SwaggerClient

/-- Something told, by occasion. -/
inductive Notice where
  /-- A model got another name, because its own cannot name a type. -/
  | modelRenamed (name renamed : String)
  /-- The outline of a model is ready. -/
  | modelOutlined (classname : String) (properties imports : Nat)
  /-- The operations of a tag were collected. -/
  | tagGrouped (tag : String) (operations : Nat)
  /-- A media type has no body kind of its own. -/
  | bodyKindAssumed (mediaType : String)
  /-- An operation set is in its final form. -/
  | setNormalized (classname : String) (operations imports : Nat)
  /-- A whole pass is done. -/
  | passDone (models operationSets refs : Nat)
deriving DecidableEq, Repr

/-- The wording. -/
def Notice.message : Notice → String
  | modelRenamed name renamed =>
    "model name `" ++ name ++ "` cannot be used as a type name, renamed to `" ++ renamed ++ "`"
  | modelOutlined classname properties imports =>
    "model shell `" ++ classname ++ "`: " ++ toString properties ++ " properties, " ++
      toString imports ++ " imports"
  | tagGrouped tag operations =>
    "operation set for tag `" ++ tag ++ "`: " ++ toString operations ++ " operations"
  | bodyKindAssumed mediaType =>
    "no body kind for `" ++ mediaType ++ "`, falling back to json"
  | setNormalized classname operations imports =>
    "normalized `" ++ classname ++ "`: " ++ toString operations ++ " operations, " ++
      toString imports ++ " imports"
  | passDone models operationSets refs =>
    "rule pass: " ++ toString models ++ " models, " ++ toString operationSets ++
      " operation sets, " ++ toString refs ++ " refs"

end SwaggerClient
