/-
Parameters of an operation: those of its path, unless it declares them itself.

A parameter is told from others by its name and its location, which is its key.  Keys are
compared once references are followed, so a reference overrides whatever leads to a parameter
of the same key, also under another path (`mergeParameters_eq`).  Overriding never brings two
parameters of one key together: what is left of the path's has no key in common with the
operation's own (`nodup_keys_mergeParameters`).
-/
import SwaggerClient.Config
import SwaggerClient.Proofs.Client.References
import SwaggerClient.Proofs.Swagger.Shared

namespace SwaggerClient

/-! ### Keys -/

/-- What a parameter is told from others by. -/
def Parameter.key (p : Parameter) : String × Location := (p.name, p.location)

/-- The key of the parameter in the document. -/
def OperationParameter.key (p : OperationParameter) : String × Location := (p.baseName, p.location)

theorem mergeParameters_eq (inherited own : List Parameter) :
    mergeParameters inherited own =
      inherited.filter (fun p => p.key ∉ own.map Parameter.key) ++ own := by
  unfold mergeParameters
  congr 1
  refine List.filter_congr fun p _ => ?_
  rw [Bool.eq_iff_iff]
  simp [Parameter.key]

/-- **Overriding keeps keys apart.** -/
theorem nodup_keys_mergeParameters {inherited own : List Parameter}
    (hinherited : (inherited.map Parameter.key).Nodup) (hown : (own.map Parameter.key).Nodup) :
    ((mergeParameters inherited own).map Parameter.key).Nodup := by
  rw [mergeParameters_eq, List.map_append]
  refine List.nodup_append.mpr ⟨hinherited.sublist (List.filter_sublist.map _), hown, ?_⟩
  rintro key hkey key' hkey' rfl
  obtain ⟨p, hp, rfl⟩ := List.mem_map.mp hkey
  exact of_decide_eq_true (List.mem_filter.mp hp).2 hkey'

/-! ### One parameter -/

/-- What becomes of a parameter of the document. -/
structure ParameterOf (naming : Naming) (p : Parameter) (q : OperationParameter) : Prop where
  name_eq : q.name = naming.variableName p.name
  baseName_eq : q.baseName = p.name
  location_eq : q.location = p.location
  typeOf_eq : naming.typeOf p.property = .ok q.dataType
  required_iff : q.required = true ↔ p.required = true ∨ p.location = .path
  description_eq : q.description = p.description

namespace ParameterOf

variable {naming : Naming} {p : Parameter} {q : OperationParameter}

theorem of_operationParameter (h : naming.operationParameter p = .ok q) :
    ParameterOf naming p q := by
  obtain ⟨t, ht, rfl⟩ := Naming.operationParameter_eq_ok h
  refine ⟨rfl, rfl, rfl, ht, ?_, rfl⟩
  rw [Bool.or_eq_true, beq_iff_eq]

theorem key_eq (h : ParameterOf naming p q) : q.key = p.key :=
  Prod.ext h.baseName_eq h.location_eq

theorem required_of_path (h : ParameterOf naming p q) (hpath : q.location = .path) :
    q.required = true :=
  h.required_iff.mpr (Or.inr (h.location_eq.symm.trans hpath))

end ParameterOf

/-! ### All parameters -/

/-- The parameters of an operation, from those that the entries of its path and its own
entries stand for. -/
structure Overriding (naming : Naming) (doc : Document) (route : Route) (op : ClientOperation)
    (inherited own : List Parameter) : Prop where
  inherited_stand : List.Forall₂ (OrRef.StandsFor doc.parameters "#/parameters/")
    route.item.parameters inherited
  own_stand : List.Forall₂ (OrRef.StandsFor doc.parameters "#/parameters/")
    route.operation.parameters own
  parameters_of : List.Forall₂ (ParameterOf naming)
    (inherited.filter (fun p => p.key ∉ own.map Parameter.key) ++ own) op.parameters
  nodup_keys : (inherited.map Parameter.key).Nodup → (own.map Parameter.key).Nodup →
    (op.parameters.map OperationParameter.key).Nodup
  required_of_path : ∀ q ∈ op.parameters, q.location = .path → q.required = true
  bodyParam_eq_some_iff : ∀ q, op.bodyParam = some q ↔
    ∃ before behind, op.parameters = before ++ q :: behind ∧ q.location = .body ∧
      ∀ p ∈ before, p.location ≠ .body
  bodyParam_eq_none_iff : op.bodyParam = none ↔ ∀ q ∈ op.parameters, q.location ≠ .body

/-- **An operation has its own parameters, and those of its path that it does not override.** -/
theorem overriding_of_operation (naming : Naming) (doc : Document) (route : Route)
    (op : ClientOperation) (h : naming.operation doc route = .ok op) :
    ∃ inherited own, Overriding naming doc route op inherited own := by
  obtain ⟨inherited, own, parameters, returnType, hinherited, hown, hparameters, -, rfl⟩ :=
    Naming.operation_eq_ok h
  have hof : List.Forall₂ (ParameterOf naming) (mergeParameters inherited own) parameters :=
    (mapM_eq_ok_iff.mp hparameters).imp fun _ _ => ParameterOf.of_operationParameter
  refine ⟨inherited, own, Document.mapM_resolveParameter_eq_ok_iff.mp hinherited,
    Document.mapM_resolveParameter_eq_ok_iff.mp hown, ?_, ?_, ?_, ?_, ?_⟩
  · rw [← mergeParameters_eq]
    exact hof
  · intro hinherited hown
    show (parameters.map _).Nodup
    rw [map_eq_of_forall₂ (fun _ _ hq => hq.key_eq) hof]
    exact nodup_keys_mergeParameters hinherited hown
  · intro q hq
    obtain ⟨p, -, hpq⟩ := exists_of_mem_right hof hq
    exact hpq.required_of_path
  · intro q
    show parameters.find? _ = some q ↔ _
    rw [List.find?_eq_some_iff_append]
    simp only [beq_iff_eq, Bool.not_eq_true', beq_eq_false_iff_ne]
    constructor
    · rintro ⟨hbody, before, behind, hsplit, hbefore⟩
      exact ⟨before, behind, hsplit, hbody, hbefore⟩
    · rintro ⟨before, behind, hsplit, hbody, hbefore⟩
      exact ⟨hbody, before, behind, hsplit, hbefore⟩
  · show parameters.find? _ = none ↔ _
    simp only [List.find?_eq_none, beq_iff_eq, ne_eq]

/-- Shared parameters: two of them have one key, and one in a path does not ask to be there. -/
def traceDocument : Document where
  swagger := "2.0"
  info := { title := "Traces", version := "1" }
  parameters := ⟨[
    ("Id", { name := "id", location := .path, type := some "integer" }),
    ("Trace", { name := "trace", location := .header, type := some "string" }),
    ("TraceNumber", {
      name := "trace", location := .header, required := true, type := some "integer" })], by simp⟩

/-- A path and its operation, which name the header by different references. -/
def traceRoute : Route where
  path := "/pets/{id}"
  item := { parameters := [
    .ref "#/parameters/Id",
    .ref "#/parameters/Trace",
    .inline { name := "trace", location := .query, type := some "boolean" },
    .inline { name := "draft", location := .body }] }
  method := .put
  operation := { parameters := [
    .inline { name := "pet", location := .body },
    .ref "#/parameters/TraceNumber"] }

theorem overriding_trace :
    ∃ op, Config.standard.naming.operation traceDocument traceRoute = .ok op ∧
      op.parameters.map (fun q => (q.key, q.dataType, q.required)) = [
        (("id", .path), .integer, true),
        (("trace", .query), .boolean, false),
        (("draft", .body), .any, false),
        (("pet", .body), .any, false),
        (("trace", .header), .integer, true)] ∧
      op.bodyParam.map (·.key) = some ("draft", .body) ∧
      ∃ inherited own,
        Overriding Config.standard.naming traceDocument traceRoute op inherited own := by
  have hview : (Config.standard.naming.operation traceDocument traceRoute).toOption.map
      (fun op => (op.parameters.map (fun q => (q.key, q.dataType, q.required)),
        op.bodyParam.map (·.key))) = some ([
          (("id", .path), .integer, true),
          (("trace", .query), .boolean, false),
          (("draft", .body), .any, false),
          (("pet", .body), .any, false),
          (("trace", .header), .integer, true)], some ("draft", .body)) := by
    decide +kernel
  obtain ⟨op, hop, hseen⟩ := exists_ok_of_map hview
  obtain ⟨hparameters, hbody⟩ := Prod.mk.inj hseen
  exact ⟨op, hop, hparameters, hbody,
    overriding_of_operation Config.standard.naming traceDocument traceRoute op hop⟩

end SwaggerClient
