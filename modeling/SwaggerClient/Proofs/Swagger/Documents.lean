/-
Documents that were written and are read again.

The records of a document are read and written field by field.  For each of them the slots
say what is written, so the fields come back one by one, and whatever was read carries
settled values only.  The parts of an operation are references or values in place, and none
of the records that can stand in place knows a field `$ref`.

In sum a document that was read is read as itself once it is written
(`Document.ofDatum?_toJson` with `Document.yields_settled`).
-/
import SwaggerClient.Proofs.Swagger.Schemas

namespace SwaggerClient

open Datum

variable {α : Type}

/-! ### Values in place -/

/-- **A reference or a record in place is read as itself,** if the record has no field for a
reference. -/
theorem OrRef.ofDatum?_toJson_of_writes {decode : Datum → Option α} {encode : α → Json}
    {form : RecordForm} {slots : α → List (String × Option Json)}
    (hwrites : ∀ value, Writes form (slots value) (encode value)) (hname : "$ref" ∉ form.names)
    {x : OrRef α} (h : x.Inline fun value => decode (encode value).toDatum = some value) :
    OrRef.ofDatum? decode (x.toJson encode).toDatum = some x :=
  x.ofDatum?_toJson fun value hvalue =>
    ⟨Property.refPath?_of_writes (hwrites value) hname, h value hvalue⟩

/-! ### Titles and tags -/

namespace Info

/-- The slots of a title section. -/
def slots (info : Info) : List (String × Option Json) := [
  ("title", some (.string info.title)),
  ("description", info.description.map .string),
  ("version", some (.string info.version))]

theorem writes (info : Info) : Writes form info.slots info.toJson where
  value_eq := by simp [toJson, slots, written, member_eq_slot, optionalMember_eq_slot]
  names_eq := rfl
  nodup := by decide

theorem ofDatum?_toJson (info : Info) : ofDatum? info.toJson.toDatum = some info := by
  obtain ⟨fields, hfields, hcarries⟩ := info.writes.exists_fields
  have htitle : required? fields "title" text? = some info.title :=
    hcarries.required (.string info.title) (by simp [slots]) rfl
  have hdescription : optional? fields "description" text? = some info.description :=
    hcarries.text (by simp [slots])
  have hversion : required? fields "version" text? = some info.version :=
    hcarries.required (.string info.version) (by simp [slots]) rfl
  simp only [ofDatum?, hfields, htitle, hdescription, hversion, Option.bind_eq_bind,
    Option.bind_some, pure]

end Info

namespace Tag

/-- The slots of a tag. -/
def slots (tag : Tag) : List (String × Option Json) := [
  ("name", some (.string tag.name)),
  ("description", tag.description.map .string)]

theorem writes (tag : Tag) : Writes form tag.slots tag.toJson where
  value_eq := by simp [toJson, slots, written, member_eq_slot, optionalMember_eq_slot]
  names_eq := rfl
  nodup := by decide

theorem ofDatum?_toJson (tag : Tag) : ofDatum? tag.toJson.toDatum = some tag := by
  obtain ⟨fields, hfields, hcarries⟩ := tag.writes.exists_fields
  have hname : required? fields "name" text? = some tag.name :=
    hcarries.required (.string tag.name) (by simp [slots]) rfl
  have hdescription : optional? fields "description" text? = some tag.description :=
    hcarries.text (by simp [slots])
  simp only [ofDatum?, hfields, hname, hdescription, Option.bind_eq_bind, Option.bind_some, pure]

end Tag

/-! ### Parameters -/

/-- A descriptor in a field that may be left out. -/
theorem optional_property {slots : List (String × Option Json)} {fields : List (String × Datum)}
    {name : String} {x : Option Property} (h : Carries slots fields)
    (hslot : (name, x.map Property.toJson) ∈ slots) (hx : ∀ p ∈ x, p.Settled) :
    optional? fields name Property.ofDatum? = some x :=
  h.optional Property.toJson hslot fun p hp =>
    ⟨Property.ofDatum?_toJson (hx p hp), p.toJson_ne_null⟩

theorem Location.ofDatum?_name (l : Location) : ofDatum? (.text l.name) = some l := by
  cases l <;> decide

namespace Parameter

/-- The slots of a parameter. -/
def slots (p : Parameter) : List (String × Option Json) := [
  ("name", some (.string p.name)),
  ("in", some (.string p.location.name)),
  ("description", p.description.map .string),
  ("required", some (.bool p.required)),
  ("schema", p.schema.map Property.toJson),
  ("type", p.type.map .string),
  ("format", p.format.map .string),
  ("items", p.items.map Property.toJson)]

/-- The descriptors of a parameter are settled. -/
structure Settled (p : Parameter) : Prop where
  schema : ∀ q ∈ p.schema, q.Settled
  items : ∀ q ∈ p.items, q.Settled

theorem writes (p : Parameter) : Writes form p.slots p.toJson where
  value_eq := by simp [toJson, slots, written, member_eq_slot, optionalMember_eq_slot]
  names_eq := rfl
  nodup := by decide

theorem ofDatum?_toJson {p : Parameter} (h : p.Settled) :
    ofDatum? p.toJson.toDatum = some p := by
  obtain ⟨fields, hfields, hcarries⟩ := p.writes.exists_fields
  have hname : required? fields "name" text? = some p.name :=
    hcarries.required (.string p.name) (by simp [slots]) rfl
  have hlocation : required? fields "in" Location.ofDatum? = some p.location :=
    hcarries.required (.string p.location.name) (by simp [slots]) p.location.ofDatum?_name
  have hdescription : optional? fields "description" text? = some p.description :=
    hcarries.text (by simp [slots])
  have hrequired : defaulted? fields "required" false flag? = some p.required :=
    hcarries.written (.bool p.required) (by simp [slots]) rfl
  have hschema : optional? fields "schema" Property.ofDatum? = some p.schema :=
    optional_property hcarries (by simp [slots]) h.schema
  have htype : optional? fields "type" text? = some p.type :=
    hcarries.text (by simp [slots])
  have hformat : optional? fields "format" text? = some p.format :=
    hcarries.text (by simp [slots])
  have hitems : optional? fields "items" Property.ofDatum? = some p.items :=
    optional_property hcarries (by simp [slots]) h.items
  simp only [ofDatum?, hfields, hname, hlocation, hdescription, hrequired, hschema, htype, hformat,
    hitems, Option.bind_eq_bind, Option.bind_some, pure]

theorem yields_settled : Yields Plain ofDatum? Settled := by
  intro d p hd h
  unfold ofDatum? at h
  simp only [Option.bind_eq_bind, Option.bind_eq_some_iff] at h
  obtain ⟨fields, hfields, _, -, _, -, _, -, _, -, schema, hschema, _, -, _, -, items, hitems, h⟩ :=
    h
  have hplain := hd.fields hfields
  rw [← Option.some.inj h]
  exact ⟨Property.yields_settled.optionalField hplain hschema,
    Property.yields_settled.optionalField hplain hitems⟩

end Parameter

/-! ### Responses -/

namespace Response

/-- The slots of a response. -/
def slots (r : Response) : List (String × Option Json) := [
  ("description", some (.string r.description)),
  ("schema", r.schema.map Property.toJson)]

/-- The descriptor of a response is settled. -/
def Settled (r : Response) : Prop := ∀ q ∈ r.schema, q.Settled

theorem writes (r : Response) : Writes form r.slots r.toJson where
  value_eq := by simp [toJson, slots, written, member_eq_slot, optionalMember_eq_slot]
  names_eq := rfl
  nodup := by decide

theorem ofDatum?_toJson {r : Response} (h : r.Settled) : ofDatum? r.toJson.toDatum = some r := by
  obtain ⟨fields, hfields, hcarries⟩ := r.writes.exists_fields
  have hdescription : defaulted? fields "description" "" text? = some r.description :=
    hcarries.written (.string r.description) (by simp [slots]) rfl
  have hschema : optional? fields "schema" Property.ofDatum? = some r.schema :=
    optional_property hcarries (by simp [slots]) h
  simp only [ofDatum?, hfields, hdescription, hschema, Option.bind_eq_bind, Option.bind_some, pure]

theorem yields_settled : Yields Plain ofDatum? Settled := by
  intro d r hd h
  unfold ofDatum? at h
  simp only [Option.bind_eq_bind, Option.bind_eq_some_iff] at h
  obtain ⟨fields, hfields, _, -, schema, hschema, h⟩ := h
  rw [← Option.some.inj h]
  exact Property.yields_settled.optionalField (hd.fields hfields) hschema

end Response

/-! ### Operations -/

/-- Parameters, references among them, in a field that is left out when there are none. -/
theorem list_parameters {slots : List (String × Option Json)} {fields : List (String × Datum)}
    {name : String} {l : List (OrRef Parameter)} (h : Carries slots fields)
    (hslot : (name, listSlot (OrRef.toJson Parameter.toJson) l) ∈ slots)
    (hl : ∀ x ∈ l, x.Inline Parameter.Settled) :
    defaulted? fields name [] (listOf? (OrRef.ofDatum? Parameter.ofDatum?)) = some l :=
  h.list (OrRef.toJson Parameter.toJson) hslot fun x hx =>
    OrRef.ofDatum?_toJson_of_writes Parameter.writes (by decide) fun value hvalue =>
      Parameter.ofDatum?_toJson (hl x hx value hvalue)

namespace Operation

/-- The slots of an operation. -/
def slots (op : Operation) : List (String × Option Json) := [
  ("operationId", op.operationId.map .string),
  ("summary", op.summary.map .string),
  ("description", op.description.map .string),
  ("tags", listSlot .string op.tags),
  ("consumes", listSlot .string op.consumes),
  ("produces", listSlot .string op.produces),
  ("parameters", listSlot (OrRef.toJson Parameter.toJson) op.parameters),
  ("responses", tableSlot (OrRef.toJson Response.toJson) op.responses.entries),
  ("deprecated", op.deprecated.map .bool)]

/-- The parameters and responses in place are settled. -/
structure Settled (op : Operation) : Prop where
  parameters : ∀ x ∈ op.parameters, x.Inline Parameter.Settled
  responses : ∀ e ∈ op.responses.entries, e.2.Inline Response.Settled

theorem writes (op : Operation) : Writes form op.slots op.toJson where
  value_eq := by
    simp [toJson, slots, written, optionalMember_eq_slot, listMember_eq_slot, tableMember_eq_slot]
  names_eq := rfl
  nodup := by decide

theorem ofDatum?_toJson {op : Operation} (h : op.Settled) :
    ofDatum? op.toJson.toDatum = some op := by
  obtain ⟨fields, hfields, hcarries⟩ := op.writes.exists_fields
  have hoperationId : optional? fields "operationId" text? = some op.operationId :=
    hcarries.text (by simp [slots])
  have hsummary : optional? fields "summary" text? = some op.summary :=
    hcarries.text (by simp [slots])
  have hdescription : optional? fields "description" text? = some op.description :=
    hcarries.text (by simp [slots])
  have htags : defaulted? fields "tags" [] (listOf? text?) = some op.tags :=
    hcarries.list .string (by simp [slots]) fun _ _ => rfl
  have hconsumes : defaulted? fields "consumes" [] (listOf? text?) = some op.consumes :=
    hcarries.list .string (by simp [slots]) fun _ _ => rfl
  have hproduces : defaulted? fields "produces" [] (listOf? text?) = some op.produces :=
    hcarries.list .string (by simp [slots]) fun _ _ => rfl
  have hparameters : defaulted? fields "parameters" []
      (listOf? (OrRef.ofDatum? Parameter.ofDatum?)) = some op.parameters :=
    list_parameters hcarries (by simp [slots]) h.parameters
  have hresponses : defaulted? fields "responses" Dict.empty
      (dictOf? (OrRef.ofDatum? Response.ofDatum?)) = some op.responses :=
    hcarries.table (OrRef.toJson Response.toJson) (by simp [slots]) fun e he =>
      OrRef.ofDatum?_toJson_of_writes Response.writes (by decide) fun value hvalue =>
        Response.ofDatum?_toJson (h.responses e he value hvalue)
  have hdeprecated : optional? fields "deprecated" flag? = some op.deprecated :=
    hcarries.flag (by simp [slots])
  simp only [ofDatum?, hfields, hoperationId, hsummary, hdescription, htags, hconsumes, hproduces,
    hparameters, hresponses, hdeprecated, Option.bind_eq_bind, Option.bind_some, pure]

theorem yields_settled : Yields Plain ofDatum? Settled := by
  intro d op hd h
  unfold ofDatum? at h
  simp only [Option.bind_eq_bind, Option.bind_eq_some_iff] at h
  obtain ⟨fields, hfields, _, -, _, -, _, -, _, -, _, -, _, -, parameters, hparameters, responses,
    hresponses, _, -, h⟩ := h
  have hplain := hd.fields hfields
  rw [← Option.some.inj h]
  exact ⟨Parameter.yields_settled.orRef.listField hplain hparameters,
    Response.yields_settled.orRef.tableField hplain hresponses⟩

end Operation

/-! ### Path items -/

namespace PathItem

/-- The slots of a path item: the shared parameters, then one for each method. -/
def slots (item : PathItem) : List (String × Option Json) :=
  ("parameters", listSlot (OrRef.toJson Parameter.toJson) item.parameters) ::
    Method.all.map fun m => (m.key, (item.operation? m).map Operation.toJson)

/-- The shared parameters in place and the operations are settled. -/
structure Settled (item : PathItem) : Prop where
  parameters : ∀ x ∈ item.parameters, x.Inline Parameter.Settled
  operations : ∀ m, ∀ op ∈ item.operation? m, op.Settled

theorem writes (item : PathItem) : Writes form item.slots item.toJson where
  value_eq := by
    simp [toJson, slots, written, optionalMember_eq_slot, listMember_eq_slot, List.flatMap_map]
  names_eq := rfl
  nodup := by decide

theorem operation_of_carries {item : PathItem} {fields : List (String × Datum)}
    (h : Carries item.slots fields) (hitem : item.Settled) (m : Method) :
    optional? fields m.key Operation.ofDatum? = some (item.operation? m) := by
  refine h.optional Operation.toJson ?_ fun op hop => ?_
  · exact List.mem_cons_of_mem _ (List.mem_map_of_mem m.mem_all)
  · exact ⟨Operation.ofDatum?_toJson (hitem.operations m op hop), nofun⟩

theorem ofDatum?_toJson {item : PathItem} (h : item.Settled) :
    ofDatum? item.toJson.toDatum = some item := by
  obtain ⟨fields, hfields, hcarries⟩ := item.writes.exists_fields
  have hparameters : defaulted? fields "parameters" []
      (listOf? (OrRef.ofDatum? Parameter.ofDatum?)) = some item.parameters :=
    list_parameters hcarries List.mem_cons_self h.parameters
  simp only [ofDatum?, hfields, hparameters, operation_of_carries hcarries h, operation?,
    Option.bind_eq_bind, Option.bind_some, pure]

theorem yields_settled : Yields Plain ofDatum? Settled := by
  intro d item hd h
  unfold ofDatum? at h
  simp only [Option.bind_eq_bind, Option.bind_eq_some_iff] at h
  obtain ⟨fields, hfields, parameters, hparameters, get, hget, post, hpost, put, hput, delete,
    hdelete, patch, hpatch, options, hoptions, head, hhead, h⟩ := h
  have hplain := hd.fields hfields
  rw [← Option.some.inj h]
  refine ⟨Parameter.yields_settled.orRef.listField hplain hparameters, fun m => ?_⟩
  cases m with
  | get => exact Operation.yields_settled.optionalField hplain hget
  | post => exact Operation.yields_settled.optionalField hplain hpost
  | put => exact Operation.yields_settled.optionalField hplain hput
  | delete => exact Operation.yields_settled.optionalField hplain hdelete
  | patch => exact Operation.yields_settled.optionalField hplain hpatch
  | options => exact Operation.yields_settled.optionalField hplain hoptions
  | head => exact Operation.yields_settled.optionalField hplain hhead

end PathItem

/-! ### Documents -/

namespace Document

/-- The slots of a document. -/
def slots (doc : Document) : List (String × Option Json) := [
  ("swagger", some (.string doc.swagger)),
  ("info", some doc.info.toJson),
  ("host", doc.host.map .string),
  ("basePath", doc.basePath.map .string),
  ("consumes", listSlot .string doc.consumes),
  ("produces", listSlot .string doc.produces),
  ("paths", tableSlot PathItem.toJson doc.paths.entries),
  ("definitions", tableSlot Schema.toJson doc.definitions.entries),
  ("parameters", tableSlot Parameter.toJson doc.parameters.entries),
  ("responses", tableSlot Response.toJson doc.responses.entries),
  ("tags", listSlot Tag.toJson doc.tags)]

/-- All that a document holds is settled. -/
structure Settled (doc : Document) : Prop where
  paths : ∀ e ∈ doc.paths.entries, e.2.Settled
  definitions : ∀ e ∈ doc.definitions.entries, e.2.Settled
  parameters : ∀ e ∈ doc.parameters.entries, e.2.Settled
  responses : ∀ e ∈ doc.responses.entries, e.2.Settled

theorem writes (doc : Document) : Writes form doc.slots doc.toJson where
  value_eq := by
    simp [toJson, slots, written, member_eq_slot, optionalMember_eq_slot, listMember_eq_slot,
      tableMember_eq_slot]
  names_eq := rfl
  nodup := by decide

/-- **A document that was written is read as itself.** -/
theorem ofDatum?_toJson {doc : Document} (h : doc.Settled) :
    ofDatum? doc.toJson.toDatum = some doc := by
  obtain ⟨fields, hfields, hcarries⟩ := doc.writes.exists_fields
  have hswagger : required? fields "swagger" text? = some doc.swagger :=
    hcarries.required (.string doc.swagger) (by simp [slots]) rfl
  have hinfo : required? fields "info" Info.ofDatum? = some doc.info :=
    hcarries.required doc.info.toJson (by simp [slots]) doc.info.ofDatum?_toJson
  have hhost : optional? fields "host" text? = some doc.host :=
    hcarries.text (by simp [slots])
  have hbasePath : optional? fields "basePath" text? = some doc.basePath :=
    hcarries.text (by simp [slots])
  have hconsumes : defaulted? fields "consumes" [] (listOf? text?) = some doc.consumes :=
    hcarries.list .string (by simp [slots]) fun _ _ => rfl
  have hproduces : defaulted? fields "produces" [] (listOf? text?) = some doc.produces :=
    hcarries.list .string (by simp [slots]) fun _ _ => rfl
  have hpaths : defaulted? fields "paths" Dict.empty (dictOf? PathItem.ofDatum?) = some doc.paths :=
    hcarries.table PathItem.toJson (by simp [slots]) fun e he =>
      PathItem.ofDatum?_toJson (h.paths e he)
  have hdefinitions : defaulted? fields "definitions" Dict.empty (dictOf? Schema.ofDatum?) =
      some doc.definitions :=
    hcarries.table Schema.toJson (by simp [slots]) fun e he =>
      Schema.ofDatum?_toJson (h.definitions e he)
  have hparameters : defaulted? fields "parameters" Dict.empty (dictOf? Parameter.ofDatum?) =
      some doc.parameters :=
    hcarries.table Parameter.toJson (by simp [slots]) fun e he =>
      Parameter.ofDatum?_toJson (h.parameters e he)
  have hresponses : defaulted? fields "responses" Dict.empty (dictOf? Response.ofDatum?) =
      some doc.responses :=
    hcarries.table Response.toJson (by simp [slots]) fun e he =>
      Response.ofDatum?_toJson (h.responses e he)
  have htags : defaulted? fields "tags" [] (listOf? Tag.ofDatum?) = some doc.tags :=
    hcarries.list Tag.toJson (by simp [slots]) fun tag _ => tag.ofDatum?_toJson
  simp only [ofDatum?, hfields, hswagger, hinfo, hhost, hbasePath, hconsumes, hproduces, hpaths,
    hdefinitions, hparameters, hresponses, htags, Option.bind_eq_bind, Option.bind_some, pure]

/-- **A document that was read is settled.** -/
theorem yields_settled : Yields Plain ofDatum? Settled := by
  intro d doc hd h
  unfold ofDatum? at h
  simp only [Option.bind_eq_bind, Option.bind_eq_some_iff] at h
  obtain ⟨fields, hfields, _, -, _, -, _, -, _, -, _, -, _, -, paths, hpaths, definitions,
    hdefinitions, parameters, hparameters, responses, hresponses, _, -, h⟩ := h
  have hplain := hd.fields hfields
  rw [← Option.some.inj h]
  exact ⟨PathItem.yields_settled.tableField hplain hpaths,
    Schema.yields_settled.tableField hplain hdefinitions,
    Parameter.yields_settled.tableField hplain hparameters,
    Response.yields_settled.tableField hplain hresponses⟩

end Document

end SwaggerClient
