/-
References from definitions and routes, and what models and operations make of them.

A definition refers to its parent and to the leaves of its properties, a route to the
leaves of its parameters and of what it returns.  Which descriptor of a parameter counts, and
which response, is said apart from the functions that choose them
(`Document.mem_referencesAt_iff`).  Resolving types keeps the order: the models that a type, a
model or an operation mentions are the types of the definitions referred to, one for each
reference (`Naming.models_typeOf`, `Naming.models_operation`).
`ModelOf` collects what the rest of the theory needs to know about the model of a
definition, and every model that is built satisfies it (`Naming.modelOf_model`).

What each step of making a model yields is said here once, for a field, for an outline and for
a model (`Naming.modelProperty_eq_ok`, `Naming.outline_eq_ok`, `Naming.model_eq_ok`), and so it
is for an operation (`Naming.operationParameter_eq_ok`, `Naming.operation_eq_ok`).
-/
import SwaggerClient.Client.Model
import SwaggerClient.Client.Operation
import SwaggerClient.Proofs.Reference.Leaves
import SwaggerClient.Proofs.Reference.Paths
import SwaggerClient.Proofs.Swagger.Shared

namespace SwaggerClient

/-! ### References -/

/-- The name that a path leads to, if it is a reference. -/
def referenceNames (path : String) : List String := (definitionName path).toOption.toList

/-- The definition at the leaf of a descriptor, if there is one. -/
def Property.references (p : Property) : List String := p.leafRef?.toList.flatMap referenceNames

/-- The definitions that a definition refers to: its parent, and those of its properties. -/
def Schema.references (schema : Schema) : List String :=
  schema.partRefs.head?.toList.flatMap referenceNames ++
    schema.allProperties.flatMap fun e => e.2.references

/-- The parameters at a route, with references to shared ones followed. -/
def Document.parametersAt (doc : Document) (route : Route) : List Parameter :=
  mergeParameters
    (route.item.parameters.filterMap fun p => (doc.resolveParameter p).toOption)
    (route.operation.parameters.filterMap fun p => (doc.resolveParameter p).toOption)

theorem Document.parametersAt_eq {doc : Document} {route : Route} {inherited own : List Parameter}
    (hinherited : route.item.parameters.mapM doc.resolveParameter = .ok inherited)
    (hown : route.operation.parameters.mapM doc.resolveParameter = .ok own) :
    doc.parametersAt route = mergeParameters inherited own := by
  unfold parametersAt
  rw [filterMap_of_mapM hinherited, filterMap_of_mapM hown]

/-- What an operation returns, if its response says so. -/
def Document.returned? (doc : Document) (op : Operation) : Option Property :=
  (op.successResponse?.bind fun response => (doc.resolveResponse response).toOption).bind
    Response.schema

/-- The definitions that a route refers to: by its parameters, then by what it returns. -/
def Document.referencesAt (doc : Document) (route : Route) : List String :=
  (doc.parametersAt route).flatMap (fun p => p.property.references) ++
    (doc.returned? route.operation).toList.flatMap Property.references

theorem referenceNames_of_ok {path name : String} (h : definitionName path = .ok name) :
    referenceNames path = [name] := by
  unfold referenceNames
  rw [h]
  rfl

/-! ### What a route refers to -/

/-- The descriptor that decides what a parameter refers to: its schema if it has one, or else
the items of an array in place. -/
inductive Parameter.DescribedBy (p : Parameter) : Property → Prop
  | schema {schema : Property} (hschema : p.schema = some schema) : DescribedBy p schema
  | items {items : Property} (hschema : p.schema = none) (htype : p.type = some "array")
      (hitems : p.items = some items) : DescribedBy p items

/-- **The type of a parameter has the leaf of what describes it.** -/
theorem Parameter.leafRef?_property_eq_some_iff {p : Parameter} {path : String} :
    p.property.leafRef? = some path ↔
      ∃ descriptor, p.DescribedBy descriptor ∧ descriptor.leafRef? = some path := by
  constructor
  · intro h
    cases hschema : p.schema with
    | some schema =>
        rw [property_of_schema hschema] at h
        exact ⟨schema, .schema hschema, h⟩
    | none =>
        by_cases hinPlace : p.type ≠ some "array" ∨ p.items = none
        · rw [property_of_inPlace hschema hinPlace] at h
          cases h
        · obtain ⟨htype, hitems⟩ := not_or.mp hinPlace
          obtain ⟨items, hitems⟩ := Option.ne_none_iff_exists'.mp hitems
          rw [property_of_items hschema (not_not.mp htype) hitems] at h
          exact ⟨items, .items hschema (not_not.mp htype) hitems, h⟩
  · rintro ⟨descriptor, hschema | ⟨hschema, htype, hitems⟩, h⟩
    · rw [property_of_schema hschema]
      exact h
    · rw [property_of_items hschema htype hitems]
      exact h

theorem Parameter.mem_leaves_property_iff {p : Parameter} {path : String} :
    path ∈ p.property.leaves ↔
      ∃ descriptor, p.DescribedBy descriptor ∧ path ∈ descriptor.leaves := by
  simp only [Property.leaves, Option.mem_toList]
  exact leafRef?_property_eq_some_iff

theorem Parameter.mem_references_property_iff {p : Parameter} {name : String} :
    name ∈ p.property.references ↔
      ∃ descriptor, p.DescribedBy descriptor ∧ name ∈ descriptor.references := by
  have hreferences : ∀ q : Property, name ∈ q.references ↔
      ∃ path ∈ q.leaves, name ∈ referenceNames path := fun q => List.mem_flatMap
  simp only [hreferences, mem_leaves_property_iff]
  constructor
  · rintro ⟨path, ⟨descriptor, hdescriptor, hpath⟩, hname⟩
    exact ⟨descriptor, hdescriptor, path, hpath, hname⟩
  · rintro ⟨descriptor, hdescriptor, path, hpath, hname⟩
    exact ⟨path, ⟨descriptor, hdescriptor, hpath⟩, hname⟩

/-- **An operation returns what the response says that decides.** -/
theorem Document.returned?_eq_some_iff {doc : Document} {op : Operation} {schema : Property} :
    doc.returned? op = some schema ↔
      ∃ entry response, op.successResponse? = some entry ∧
        entry.StandsFor doc.responses "#/responses/" response ∧ response.schema = some schema := by
  simp only [returned?, Option.bind_eq_some_iff, toOption_eq_some_iff, resolveResponse_eq_ok_iff]
  constructor
  · rintro ⟨response, ⟨entry, hentry, hresponse⟩, hschema⟩
    exact ⟨entry, response, hentry, hresponse, hschema⟩
  · rintro ⟨entry, response, hentry, hresponse, hschema⟩
    exact ⟨response, ⟨entry, hentry, hresponse⟩, hschema⟩

/-- A definition at a leaf of what describes a parameter, or of what is returned. -/
inductive Document.RefersTo (doc : Document) (route : Route) (name : String) : Prop
  | parameter {p : Parameter} {descriptor : Property} (hp : p ∈ doc.parametersAt route)
      (hdescriptor : p.DescribedBy descriptor) (hname : name ∈ descriptor.references)
  | returned {entry : OrRef Response} {response : Response} {schema : Property}
      (hentry : route.operation.successResponse? = some entry)
      (hresponse : entry.StandsFor doc.responses "#/responses/" response)
      (hschema : response.schema = some schema) (hname : name ∈ schema.references)

/-- **What a route refers to** is listed, and nothing else. -/
theorem Document.mem_referencesAt_iff {doc : Document} {route : Route} {name : String} :
    name ∈ doc.referencesAt route ↔ doc.RefersTo route name := by
  simp only [referencesAt, List.mem_append, List.mem_flatMap, Option.mem_toList,
    Parameter.mem_references_property_iff, returned?_eq_some_iff]
  constructor
  · rintro (⟨p, hp, descriptor, hdescriptor, hname⟩ |
      ⟨schema, ⟨entry, response, hentry, hresponse, hschema⟩, hname⟩)
    · exact .parameter hp hdescriptor hname
    · exact .returned hentry hresponse hschema hname
  · rintro (⟨hp, hdescriptor, hname⟩ | ⟨hentry, hresponse, hschema, hname⟩)
    · exact .inl ⟨_, hp, _, hdescriptor, hname⟩
    · exact .inr ⟨_, ⟨_, _, hentry, hresponse, hschema⟩, hname⟩

/-! ### Models of definitions -/

/-- What the model of a definition is called, where it is rendered to and what it imports. -/
structure ModelOf (naming : Naming) (name : String) (schema : Schema) (m : Model) : Prop where
  name_eq : m.name = name
  classname_eq : m.classname = naming.modelName name
  classFilename_eq : m.classFilename = naming.modelFilename name
  imports_eq : m.imports =
    naming.modelImports m.classname (schema.references.map naming.modelName)

/-! ### Types -/

theorem TypeExpr.models_ofPrimitive (p : Primitive) : (TypeExpr.ofPrimitive p).models = [] := by
  unfold ofPrimitive
  split
  · split <;> rfl
  all_goals rfl

namespace Naming

variable {naming : Naming}

/-- **A type mentions the model of the definition at its leaf.** -/
theorem models_typeOf {p : Property} {t : TypeExpr} (h : naming.typeOf p = .ok t) :
    t.models = p.references.map naming.modelName := by
  induction p generalizing t with
  | ref path =>
      rw [typeOf] at h
      split at h
      · rename_i name hname
        rw [← Except.ok.inj h]
        show [naming.modelName name] = (referenceNames path ++ []).map naming.modelName
        rw [referenceNames_of_ok hname]
        rfl
      · cases h
  | array items facets ih =>
      rw [typeOf] at h
      split at h
      · rename_i item hitem
        have hmodels := ih hitem
        rw [← Except.ok.inj h]
        exact hmodels
      · cases h
  | primitive facets =>
      rw [typeOf] at h
      rw [← Except.ok.inj h, TypeExpr.models_ofPrimitive]
      rfl

/-! ### Models -/

/-- What a reference among the parts leads to is there. -/
theorem existingDefinition_eq_ok {definitions : Dict Schema} {path name : String}
    (h : existingDefinition definitions path = .ok name) :
    definitionName path = .ok name ∧ name ∈ definitions.keys := by
  unfold existingDefinition at h
  split at h
  · cases h
  · rename_i name' hname
    split at h
    · rename_i hcontains
      rw [← Except.ok.inj h]
      exact ⟨hname, List.contains_iff_mem.mp hcontains⟩
    · cases h

/-- The parent is the first definition referred to among the parts. -/
theorem parent_eq {definitions : Dict Schema} {paths parents : List String}
    (h : paths.mapM (existingDefinition definitions) = .ok parents) :
    parents.head?.toList = paths.head?.toList.flatMap referenceNames := by
  cases mapM_eq_ok_iff.mp h with
  | nil => rfl
  | cons hfirst _ =>
      show [_] = referenceNames _ ++ []
      rw [referenceNames_of_ok (existingDefinition_eq_ok hfirst).1]
      rfl

/-- What a step of the outline makes of a property. -/
theorem modelProperty_eq_ok {required : List String} {entry : String × Property}
    {p : ModelProperty} (h : naming.modelProperty required entry = .ok p) :
    ∃ t, naming.typeOf entry.2 = .ok t ∧ p = {
      name := naming.variableName entry.1
      baseName := entry.1
      dataType := t
      required := required.contains entry.1
      description := entry.2.description?
      descriptor := entry.2 } := by
  unfold modelProperty at h
  split at h
  · cases h
  · rename_i t ht
    exact ⟨t, ht, (Except.ok.inj h).symm⟩

theorem models_modelProperty {required : List String} {e : String × Property}
    {p : ModelProperty} (h : naming.modelProperty required e = .ok p) :
    p.dataType.models = e.2.references.map naming.modelName := by
  obtain ⟨t, ht, rfl⟩ := modelProperty_eq_ok h
  exact models_typeOf ht

section Models

variable {definitions : Dict Schema} {name : String} {schema : Schema} {m : Model}

/-- What an outline is made of. -/
theorem outline_eq_ok (h : naming.outline? definitions name schema = .ok m) :
    ∃ parents properties,
      schema.partRefs.mapM (existingDefinition definitions) = .ok parents ∧
      schema.allProperties.mapM (naming.modelProperty schema.allRequired) = .ok properties ∧
      m = {
        name := name
        classname := naming.modelName name
        classFilename := naming.modelFilename name
        description := schema.description
        parent := parents.head?.map naming.modelName
        properties := properties
        imports := naming.modelImports (naming.modelName name)
          ((parents.head?.map naming.modelName).toList ++
            properties.flatMap fun p => p.dataType.models)
        modelJson := none } := by
  unfold outline? at h
  obtain ⟨parents, hparents, h⟩ := bind_eq_ok_iff.mp h
  obtain ⟨properties, hproperties, h⟩ := bind_eq_ok_iff.mp h
  exact ⟨parents, properties, hparents, hproperties, (Except.ok.inj h).symm⟩

/-- What a model is made of: its outline, with everything localized. -/
theorem model_eq_ok (h : naming.model definitions name schema = .ok m) :
    ∃ outline properties s,
      naming.outline? definitions name schema = .ok outline ∧
      outline.properties.mapM localizeProperty = .ok properties ∧
      schema.localize = (s, none) ∧
      m = { outline with properties := properties, modelJson := some s.toJson.pretty } := by
  unfold model at h
  rw [mapError_eq_ok_iff] at h
  unfold model? at h
  obtain ⟨outline, houtline, h⟩ := bind_eq_ok_iff.mp h
  obtain ⟨properties, hproperties, h⟩ := bind_eq_ok_iff.mp h
  split at h
  · cases h
  · rename_i s hs
    exact ⟨outline, properties, s, houtline, hproperties, hs, (Except.ok.inj h).symm⟩

/-- The models that an outline mentions are those of the definitions referred to, in order. -/
theorem mentioned_outline (h : naming.outline? definitions name schema = .ok m) :
    m.parent.toList ++ m.properties.flatMap (fun p => p.dataType.models) =
      schema.references.map naming.modelName := by
  obtain ⟨parents, properties, hparents, hproperties, rfl⟩ := outline_eq_ok h
  have hparent : (parents.head?.map naming.modelName).toList =
      (schema.partRefs.head?.toList.flatMap referenceNames).map naming.modelName := by
    rw [← parent_eq hparents, Option.toList_map]
  have hmodels : properties.flatMap (fun p => p.dataType.models) =
      (schema.allProperties.flatMap fun e => e.2.references).map naming.modelName := by
    rw [List.map_flatMap]
    exact flatMap_of_mapM (fun _ _ => models_modelProperty) hproperties
  rw [Schema.references, List.map_append, ← hparent, ← hmodels]

theorem modelOf_outline (h : naming.outline? definitions name schema = .ok m) :
    ModelOf naming name schema m := by
  have hmentioned := mentioned_outline h
  obtain ⟨parents, properties, -, -, rfl⟩ := outline_eq_ok h
  exact ⟨rfl, rfl, rfl, congrArg (naming.modelImports _) hmentioned⟩

/-- **Every model that is built is the model of its definition.** -/
theorem modelOf_model (h : naming.model definitions name schema = .ok m) :
    ModelOf naming name schema m := by
  obtain ⟨outline, properties, s, houtline, -, -, rfl⟩ := model_eq_ok h
  have hof := modelOf_outline houtline
  exact ⟨hof.name_eq, hof.classname_eq, hof.classFilename_eq, hof.imports_eq⟩

end Models

/-! ### Operations -/

/-- What a parameter of an operation is made of. -/
theorem operationParameter_eq_ok {p : Parameter} {q : OperationParameter}
    (h : naming.operationParameter p = .ok q) :
    ∃ t, naming.typeOf p.property = .ok t ∧ q = {
      name := naming.variableName p.name
      baseName := p.name
      location := p.location
      dataType := t
      required := p.required || p.location == .path
      description := p.description } := by
  unfold operationParameter at h
  split at h
  · cases h
  · rename_i t ht
    exact ⟨t, ht, (Except.ok.inj h).symm⟩

theorem models_operationParameter {p : Parameter} {q : OperationParameter}
    (h : naming.operationParameter p = .ok q) :
    q.dataType.models = p.property.references.map naming.modelName := by
  obtain ⟨t, ht, rfl⟩ := operationParameter_eq_ok h
  exact models_typeOf ht

theorem models_returnType {doc : Document} {op : Operation} {t : Option TypeExpr}
    (h : naming.returnType doc op = .ok t) :
    t.toList.flatMap TypeExpr.models =
      ((doc.returned? op).toList.flatMap Property.references).map naming.modelName := by
  unfold returnType at h
  unfold Document.returned?
  split at h
  · rename_i hnone
    rw [← Except.ok.inj h, hnone]
    rfl
  · rename_i response hsome
    split at h
    · cases h
    · rename_i r hr
      have hreturned : (op.successResponse?.bind fun response =>
          (doc.resolveResponse response).toOption).bind Response.schema = r.schema := by
        rw [hsome, Option.bind_some, hr]
        rfl
      rw [hreturned]
      split at h
      · rename_i hschema
        rw [← Except.ok.inj h, hschema]
        rfl
      · rename_i schema hschema
        split at h
        · cases h
        · rename_i type htype
          rw [← Except.ok.inj h, hschema]
          show type.models ++ [] = (schema.references ++ []).map naming.modelName
          rw [List.append_nil, List.append_nil, models_typeOf htype]

/-- What an operation is made of. -/
theorem operation_eq_ok {doc : Document} {route : Route} {op : ClientOperation}
    (h : naming.operation doc route = .ok op) :
    ∃ inherited own parameters returnType,
      route.item.parameters.mapM doc.resolveParameter = .ok inherited ∧
      route.operation.parameters.mapM doc.resolveParameter = .ok own ∧
      (mergeParameters inherited own).mapM naming.operationParameter = .ok parameters ∧
      naming.returnType doc route.operation = .ok returnType ∧
      op = {
        nickname := route.operation.operationId.getD
          (Route.operationName route.method.name route.path)
        method := route.method
        path := route.path
        summary := route.operation.summary
        notes := route.operation.description
        tags := route.operation.tags
        deprecated := route.operation.deprecated.getD false
        parameters := parameters
        bodyParam := parameters.find? fun p => p.location == .body
        returnType := returnType
        hasConsumes := !(ownOrShared route.operation.consumes doc.consumes).isEmpty
        consumes := (ownOrShared route.operation.consumes doc.consumes).map fun mediaType =>
          { mediaType := mediaType }
        produces := ownOrShared route.operation.produces doc.produces } := by
  unfold operation at h
  rw [mapError_eq_ok_iff] at h
  unfold operation? at h
  obtain ⟨inherited, hinherited, h⟩ := bind_eq_ok_iff.mp h
  obtain ⟨own, hown, h⟩ := bind_eq_ok_iff.mp h
  obtain ⟨parameters, hparameters, h⟩ := bind_eq_ok_iff.mp h
  obtain ⟨returnType, hreturn, h⟩ := bind_eq_ok_iff.mp h
  exact ⟨inherited, own, parameters, returnType, hinherited, hown, hparameters, hreturn,
    (Except.ok.inj h).symm⟩

/-- An operation stays at the place of its route, and names the same tags. -/
theorem place_of_operation {doc : Document} {route : Route} {op : ClientOperation}
    (h : naming.operation doc route = .ok op) :
    op.method = route.method ∧ op.path = route.path ∧ op.tags = route.operation.tags := by
  obtain ⟨_, _, _, _, -, -, -, -, rfl⟩ := operation_eq_ok h
  exact ⟨rfl, rfl, rfl⟩

/-- **An operation mentions the models of the definitions that its route refers to.** -/
theorem models_operation {doc : Document} {route : Route} {op : ClientOperation}
    (h : naming.operation doc route = .ok op) :
    op.models = (doc.referencesAt route).map naming.modelName := by
  obtain ⟨inherited, own, parameters, returnType, hinherited, hown, hparameters, hreturn, rfl⟩ :=
    operation_eq_ok h
  have hmodels : parameters.flatMap (fun p => p.dataType.models) =
      ((doc.parametersAt route).flatMap fun p => p.property.references).map naming.modelName := by
    rw [Document.parametersAt_eq hinherited hown, List.map_flatMap]
    exact flatMap_of_mapM (fun _ _ => models_operationParameter) hparameters
  show parameters.flatMap (fun p => p.dataType.models) ++ _ = _
  rw [hmodels, models_returnType hreturn, Document.referencesAt, List.map_append]

end Naming

end SwaggerClient
