/-
When the operations of a document are grouped, and what is told if they are not.

An operation is made in five steps that can fail: following the references of its path,
following its own, typing the parameters that are left, following the response that decides
and typing its schema.  Their faults in a row are the faults at the route
(`Document.faultsAt`), and the first of them is told (`Naming.fault?_operation`).  Grouping
goes through the routes in order and tells the first fault of the first route that has any
(`Naming.fault?_operationSets`).

The steps do not see everything.  What they never see is said with two documents
(`SameToGrouping`).
-/
import SwaggerClient.Proofs.Client.ModelFaults
import SwaggerClient.Proofs.Client.Overlooked

namespace SwaggerClient

/-! ### The response that decides -/

/-- A status of success. -/
def IsSuccess (status : String) : Prop := ∃ rest, status = "2" ++ rest

theorem isSuccess_iff {status : String} :
    (status.toList.head? == some '2') = true ↔ IsSuccess status := by
  rw [beq_iff_eq, List.head?_eq_some_iff]
  constructor
  · rintro ⟨rest, hrest⟩
    refine ⟨String.ofList rest, ?_⟩
    rw [← String.toList_inj, hrest, String.toList_append]
    exact congrArg ('2' :: ·) String.toList_ofList.symm
  · rintro ⟨rest, rfl⟩
    exact ⟨rest.toList, String.toList_append⟩

/-- **The first status of success decides, or else the default.** -/
theorem Operation.successResponse?_eq_some_iff {op : Operation} {response : OrRef Response} :
    op.successResponse? = some response ↔
      (∃ before status behind, op.responses.entries = before ++ (status, response) :: behind ∧
        IsSuccess status ∧ ∀ e ∈ before, ¬IsSuccess e.1) ∨
      (∀ e ∈ op.responses.entries, ¬IsSuccess e.1) ∧
        ("default", response) ∈ op.responses.entries := by
  unfold successResponse?
  constructor
  · intro h
    split at h
    · rename_i e hfind
      obtain ⟨hsuccess, before, behind, hsplit, hbefore⟩ := List.find?_eq_some_iff_append.mp hfind
      refine .inl ⟨before, e.1, behind, ?_, isSuccess_iff.mp hsuccess, fun e' he' hs => ?_⟩
      · rw [hsplit, ← Option.some.inj h]
      · have hno := hbefore e' he'
        rw [isSuccess_iff.mpr hs] at hno
        cases hno
    · rename_i hfind
      refine .inr ⟨fun e he hs => ?_, Dict.find?_eq_some_iff.mp h⟩
      exact List.find?_eq_none.mp hfind e he (isSuccess_iff.mpr hs)
  · rintro (⟨before, status, behind, hsplit, hsuccess, hbefore⟩ | ⟨hnone, hdefault⟩)
    · have hfind : op.responses.entries.find? (fun e => e.1.toList.head? == some '2') =
          some (status, response) := by
        refine List.find?_eq_some_iff_append.mpr
          ⟨isSuccess_iff.mpr hsuccess, before, behind, hsplit, fun e he => ?_⟩
        rw [Bool.not_eq_true', ← Bool.not_eq_true, isSuccess_iff]
        exact hbefore e he
      rw [hfind]
    · have hfind : op.responses.entries.find? (fun e => e.1.toList.head? == some '2') = none :=
        List.find?_eq_none.mpr fun e he => isSuccess_iff.not.mpr (hnone e he)
      rw [hfind]
      exact Dict.find?_eq_some_iff.mpr hdefault

/-! ### Faults in order -/

namespace Document

variable (doc : Document)

/-- The leaves of the parameters at a route and of what it returns. -/
def leavesAt (route : Route) : List String :=
  (doc.parametersAt route).flatMap (fun p => p.property.leaves) ++
    (doc.returned? route.operation).toList.flatMap Property.leaves

/-- What a route takes from the shared sections is there. -/
def FindsShared (route : Route) : Prop :=
  (∀ p ∈ route.item.parameters ++ route.operation.parameters,
      p.LeadsInto doc.parameters "#/parameters/") ∧
    ∀ response ∈ route.operation.successResponse?,
      response.LeadsInto doc.responses "#/responses/"

/-- The faults of references to shared parameters. -/
def parameterFaults (entries : List (OrRef Parameter)) : List ResolveError :=
  entries.filterMap (OrRef.fault? doc.parameters "#/parameters/")

/-- The faults of the response that decides, in its reference or else in its schema. -/
def responseFaults (op : Operation) : List ResolveError :=
  op.successResponse?.toList.filterMap (OrRef.fault? doc.responses "#/responses/") ++
    ((doc.returned? op).toList.flatMap Property.leaves).filterMap malformed?

/-- All faults of the operation at a route, in the order in which they are looked for. -/
def faultsAt (route : Route) : List ResolveError :=
  doc.parameterFaults route.item.parameters ++ (doc.parameterFaults route.operation.parameters ++
    (((doc.parametersAt route).flatMap fun p => p.property.leaves).filterMap malformed? ++
      doc.responseFaults route.operation))

theorem fault?_resolveParameters (entries : List (OrRef Parameter)) :
    fault? (entries.mapM doc.resolveParameter) = (doc.parameterFaults entries).head? := by
  rw [fault?_mapM, parameterFaults, List.head?_filterMap]
  exact congrArg (entries.findSome? ·) (funext doc.fault?_resolveParameter)

/-- At a route without faults, what is shared is there and all leaves are references. -/
theorem faultsAt_eq_nil_iff {route : Route} :
    doc.faultsAt route = [] ↔
      doc.FindsShared route ∧ ∀ path ∈ doc.leavesAt route, IsReference path := by
  unfold faultsAt parameterFaults responseFaults FindsShared leavesAt
  simp only [List.append_eq_nil_iff, List.filterMap_eq_nil_iff, OrRef.fault?_eq_none_iff,
    malformed?_eq_none_iff, List.forall_mem_append, Option.mem_toList, Option.mem_def]
  constructor
  · rintro ⟨hinherited, hown, hparameters, hresponse, hschema⟩
    exact ⟨⟨⟨hinherited, hown⟩, hresponse⟩, hparameters, hschema⟩
  · rintro ⟨⟨⟨hinherited, hown⟩, hresponse⟩, hparameters, hschema⟩
    exact ⟨hinherited, hown, hparameters, hresponse, hschema⟩

/-- **What makes a route faulty.** -/
theorem faultsAt_ne_nil_iff {route : Route} :
    doc.faultsAt route ≠ [] ↔
      (∃ entry ∈ route.item.parameters ++ route.operation.parameters,
        ¬entry.LeadsInto doc.parameters "#/parameters/") ∨
      (∃ p ∈ doc.parametersAt route, ∃ path ∈ p.property.leaves, ¬IsReference path) ∨
      (∃ response ∈ route.operation.successResponse?,
        ¬response.LeadsInto doc.responses "#/responses/") ∨
      ∃ schema ∈ doc.returned? route.operation, ∃ path ∈ schema.leaves, ¬IsReference path := by
  have hshared : ¬doc.FindsShared route ↔
      (∃ entry ∈ route.item.parameters ++ route.operation.parameters,
        ¬entry.LeadsInto doc.parameters "#/parameters/") ∨
      ∃ response ∈ route.operation.successResponse?,
        ¬response.LeadsInto doc.responses "#/responses/" := by
    unfold FindsShared
    simp only [not_and_or, not_forall, exists_prop]
  have hleaves : (¬∀ path ∈ doc.leavesAt route, IsReference path) ↔
      (∃ p ∈ doc.parametersAt route, ∃ path ∈ p.property.leaves, ¬IsReference path) ∨
      ∃ schema ∈ doc.returned? route.operation, ∃ path ∈ schema.leaves, ¬IsReference path := by
    unfold leavesAt
    simp only [List.forall_mem_append, List.forall_mem_flatMap, Option.mem_toList,
      Option.mem_def, not_and_or, not_forall, exists_prop]
  rw [Ne, faultsAt_eq_nil_iff, not_and_or, hshared, hleaves, or_or_or_comm, or_assoc]

end Document

namespace Naming

variable (naming : Naming) (doc : Document)

theorem fault?_operationParameter (p : Parameter) :
    fault? (naming.operationParameter p) = p.property.leaves.findSome? malformed? := by
  rw [operationParameter, ← naming.fault?_typeOf]
  cases naming.typeOf p.property with
  | error e => rfl
  | ok t => rfl

/-- Typing parameters has the first fault of a leaf. -/
theorem fault?_operationParameters (ps : List Parameter) :
    fault? (ps.mapM naming.operationParameter) =
      ((ps.flatMap fun p => p.property.leaves).filterMap malformed?).head? := by
  rw [fault?_mapM, List.head?_filterMap, findSome?_flatMap]
  exact congrArg (ps.findSome? ·) (funext naming.fault?_operationParameter)

theorem fault?_returnType (op : Operation) :
    fault? (naming.returnType doc op) = (doc.responseFaults op).head? := by
  unfold returnType Document.responseFaults Document.returned?
  cases op.successResponse? with
  | none => rfl
  | some response =>
      rw [List.head?_append, List.head?_filterMap, List.head?_filterMap, Option.toList_some,
        List.findSome?_singleton, ← doc.fault?_resolveResponse, Option.bind_some]
      dsimp only
      cases doc.resolveResponse response with
      | error e => rfl
      | ok r =>
          show _ = (r.schema.toList.flatMap Property.leaves).findSome? malformed?
          cases hschema : r.schema with
          | none =>
              simp only [hschema]
              rfl
          | some schema =>
              simp only [hschema]
              rw [Option.toList_some, List.flatMap_singleton, ← naming.fault?_typeOf]
              cases naming.typeOf schema with
              | error e => rfl
              | ok t => rfl

/-- **The first of the faults at a route is told.** -/
theorem fault?_operation? (route : Route) :
    fault? (naming.operation? doc route) = (doc.faultsAt route).head? := by
  rw [Document.faultsAt, List.head?_append, List.head?_append, List.head?_append,
    ← doc.fault?_resolveParameters, ← doc.fault?_resolveParameters, operation?]
  cases hinherited : route.item.parameters.mapM doc.resolveParameter with
  | error e => rfl
  | ok inherited =>
      cases hown : route.operation.parameters.mapM doc.resolveParameter with
      | error e => rfl
      | ok own =>
          rw [Document.parametersAt_eq hinherited hown, ← naming.fault?_operationParameters,
            ← naming.fault?_returnType]
          simp only [bind, Except.bind]
          cases (mergeParameters inherited own).mapM naming.operationParameter with
          | error e => rfl
          | ok parameters =>
              cases naming.returnType doc route.operation with
              | error e => rfl
              | ok t => rfl

theorem fault?_operation (route : Route) :
    fault? (naming.operation doc route) =
      (doc.faultsAt route).head?.map (.operation route.method.name route.path) := by
  rw [operation, fault?_mapError, fault?_operation?]

end Naming

/-! ### What decides -/

/-- When the operations of a document are grouped, and what is told if not. -/
structure GroupingDecided (naming : Naming) (doc : Document) : Prop where
  /-- The operations are visited path by path, and within a path in the order of the methods. -/
  routes_eq : doc.routes = doc.paths.entries.flatMap fun (path, item) =>
    [.get, .post, .put, .delete, .patch, .options, .head].filterMap fun method =>
      (item.operation? method).map fun op => ⟨path, item, method, op⟩
  /-- One response decides: the first with a status of success, or else the default. -/
  response_iff : ∀ route ∈ doc.routes, ∀ response,
    route.operation.successResponse? = some response ↔
      (∃ before status behind,
        route.operation.responses.entries = before ++ (status, response) :: behind ∧
          IsSuccess status ∧ ∀ e ∈ before, ¬IsSuccess e.1) ∨
      (∀ e ∈ route.operation.responses.entries, ¬IsSuccess e.1) ∧
        ("default", response) ∈ route.operation.responses.entries
  /-- It is followed if it is a reference, and its schema is what is returned. -/
  returned_iff : ∀ route ∈ doc.routes, ∀ schema,
    doc.returned? route.operation = some schema ↔
      ∃ entry response, route.operation.successResponse? = some entry ∧
        entry.StandsFor doc.responses "#/responses/" response ∧ response.schema = some schema
  /-- The parameters of the path count unless the operation has one of the same key. -/
  parameters_eq : ∀ route ∈ doc.routes, ∀ inherited own,
    List.Forall₂ (OrRef.StandsFor doc.parameters "#/parameters/")
      route.item.parameters inherited →
    List.Forall₂ (OrRef.StandsFor doc.parameters "#/parameters/")
      route.operation.parameters own →
    doc.parametersAt route = inherited.filter (fun p => p.key ∉ own.map Parameter.key) ++ own
  /-- The type of a parameter has the leaf of its schema, or else of the items of an array. -/
  parameterLeaf_iff : ∀ (p : Parameter) (path : String), path ∈ p.property.leaves ↔
    ∃ descriptor, p.DescribedBy descriptor ∧ path ∈ descriptor.leaves
  fails_iff : (∃ e, naming.operationSets doc = .error e) ↔
    ∃ route ∈ doc.routes,
      (∃ entry ∈ route.item.parameters ++ route.operation.parameters,
        ¬entry.LeadsInto doc.parameters "#/parameters/") ∨
      (∃ p ∈ doc.parametersAt route, ∃ path ∈ p.property.leaves, ¬IsReference path) ∨
      (∃ response ∈ route.operation.successResponse?,
        ¬response.LeadsInto doc.responses "#/responses/") ∨
      ∃ schema ∈ doc.returned? route.operation, ∃ path ∈ schema.leaves, ¬IsReference path
  /-- The first fault of the first faulty operation is told, with the place of the operation. -/
  error_iff : ∀ e, naming.operationSets doc = .error e ↔
    ∃ before route behind cause, doc.routes = before ++ route :: behind ∧
      (∀ r ∈ before, doc.faultsAt r = []) ∧ (doc.faultsAt route).head? = some cause ∧
        e = .operation route.method.name route.path cause
  /-- Nothing else counts, neither for the operations nor for the fault: not the parameters of
  a path without operations, nothing but the key of a parameter that is overridden, and no
  response that does not decide. -/
  overlooked : ∀ doc', SameToGrouping doc doc' →
    naming.operationSets doc' = naming.operationSets doc

/-- **When the operations of a document are grouped, and which fault is told if not.** -/
theorem groupingDecided (naming : Naming) (doc : Document) : GroupingDecided naming doc where
  routes_eq := doc.routes_eq
  response_iff := fun _ _ _ => Operation.successResponse?_eq_some_iff
  returned_iff := fun _ _ _ => Document.returned?_eq_some_iff
  parameters_eq := by
    intro route _ inherited own hinherited hown
    rw [← Document.mapM_resolveParameter_eq_ok_iff] at hinherited hown
    rw [Document.parametersAt_eq hinherited hown, mergeParameters_eq]
  parameterLeaf_iff := fun _ _ => Parameter.mem_leaves_property_iff
  fails_iff := by
    simp only [← doc.faultsAt_ne_nil_iff, ← fault?_eq_some_iff]
    rw [← Option.ne_none_iff_exists', naming.fault?_operationSets, Ne,
      List.findSome?_eq_none_iff]
    simp only [naming.fault?_operation, Option.map_eq_none_iff, List.head?_eq_none_iff,
      not_forall, exists_prop, ne_eq]
  error_iff := by
    intro e
    rw [← fault?_eq_some_iff, naming.fault?_operationSets, List.findSome?_eq_some_iff]
    simp only [naming.fault?_operation, Option.map_eq_none_iff, List.head?_eq_none_iff,
      Option.map_eq_some_iff]
    constructor
    · rintro ⟨before, route, behind, hsplit, ⟨cause, hcause, rfl⟩, hbefore⟩
      exact ⟨before, route, behind, cause, hsplit, hbefore, hcause, rfl⟩
    · rintro ⟨before, route, behind, cause, hsplit, hbefore, hcause, rfl⟩
      exact ⟨before, route, behind, hsplit, ⟨cause, hcause, rfl⟩, hbefore⟩
  overlooked := fun _ h => h.operationSets_eq naming

/-- A path without operations, and one with an operation that overrides the parameter of the
path, declares another one and answers in two ways. -/
def shopDocument (declared : Property) (idle : List (OrRef Parameter)) (hidden : Property)
    (other : OrRef Response) : Document where
  swagger := "2.0"
  info := { title := "Shop", version := "1" }
  paths := ⟨[
    ("/closed", { parameters := idle }),
    ("/pets/{id}", {
      parameters := [.inline { name := "id", location := .path, schema := some hidden }]
      get := some {
        parameters := [.inline { name := "id", location := .path, type := some "string" },
          .inline { name := "filter", location := .query, schema := some declared }]
        responses := ⟨[("404", other), ("200", .inline {})], by simp⟩ } })], by simp⟩

/-- Whatever is put into the three places, grouping does not notice. -/
theorem sameToGrouping_shop (declared : Property) (idle idle' : List (OrRef Parameter))
    (hidden hidden' : Property) (other other' : OrRef Response) :
    SameToGrouping (shopDocument declared idle hidden other)
      (shopDocument declared idle' hidden' other') where
  consumes_eq := rfl
  produces_eq := rfl
  paths := by
    refine .cons ⟨rfl, fun method => ?_⟩ (.cons ⟨rfl, fun method => ?_⟩ .nil)
    · cases method <;> exact .none
    · cases method with
      | get =>
          refine .some ⟨rfl, rfl, rfl, .cons rfl (.cons rfl .nil),
            .cons (.ok (.inr ⟨rfl, ?_⟩)) .nil, ?_⟩
          · exact List.mem_cons_self
          · simp [Operation.successResponse?, Document.resolveResponse]
      | _ => exact .none

theorem groupingDecided_shop :
    (∃ sets, plainNaming.operationSets (shopDocument (.primitive {}) [.ref "Gone"] (.ref "Gone")
      (.ref "Gone")) = .ok sets ∧ sets.map (·.classname) = ["DefaultApi"]) ∧
    plainNaming.operationSets
        (shopDocument (.primitive {}) [.ref "Gone"] (.ref "Gone") (.ref "Gone")) =
      plainNaming.operationSets (shopDocument (.primitive {}) [] (.primitive {}) (.inline {})) ∧
    plainNaming.operationSets
        (shopDocument (.array (.ref "Lost") {}) [.ref "Gone"] (.ref "Gone") (.ref "Gone")) =
      .error (.operation "GET" "/pets/{id}" (.malformedReference "Lost")) := by
  refine ⟨exists_ok_of_map ?_, ?_, ?_⟩
  · decide +kernel
  · exact (groupingDecided plainNaming _).overlooked _ (sameToGrouping_shop (.primitive {})
      [] [.ref "Gone"] (.primitive {}) (.ref "Gone") (.inline {}) (.ref "Gone"))
  · -- the parameter that is overridden has a fault as well, but it is not there any more
    refine ((groupingDecided plainNaming _).error_iff _).mpr
      ⟨[], _, [], .malformedReference "Lost", rfl, List.forall_mem_nil _, ?_, rfl⟩
    decide +kernel

-- every step of the first operation that has faults fails but the first one
example : fault? (plainNaming.operationSets {
    swagger := "2.0"
    info := { title := "Shop", version := "1" }
    paths := ⟨[
      ("/open", { get := some {} }),
      ("/pets", {
        parameters := [.inline { name := "id", location := .query, schema := some (.ref "Pet") }]
        put := some { responses := ⟨[("default", .ref "Gone")], by simp⟩ }
        post := some {
          parameters := [.ref "#/parameters/Gone", .ref "Gone"]
          responses := ⟨[("200", .ref "Gone")], by simp⟩ } })], by simp⟩ }) =
    some (.operation "POST" "/pets" (.targetNotFound "#/parameters/Gone")) := by
  decide +kernel

end SwaggerClient
