/-
What grouping overlooks.

An operation is not read off all of its path and its document.  A parameter of the path that
is overridden counts only by its key, a response that does not decide does not count at all,
and a path without operations is never entered.  So two documents may differ in all of this
and still be grouped alike, also if grouping fails (`SameToGrouping.operationSets_eq`).

`SameAt` is what two routes must have in common.  References need not be the same and shared
sections need not either: compared is what following the references yields, in either
document, and that may be a fault.
-/
import SwaggerClient.Proofs.Client.Parameters
import SwaggerClient.Proofs.Client.Grouping

namespace SwaggerClient

/-! ### Overridden parameters -/

/-- Parameters that are one and the same, or else have one key that is overridden. -/
def Interchangeable (own : List Parameter) (p q : Parameter) : Prop :=
  p = q ∨ p.key = q.key ∧ p.key ∈ own.map Parameter.key

/-- **It does not matter what is overridden.** -/
theorem mergeParameters_congr {own inherited inherited' : List Parameter}
    (h : List.Forall₂ (Interchangeable own) inherited inherited') :
    mergeParameters inherited' own = mergeParameters inherited own := by
  rw [mergeParameters_eq, mergeParameters_eq]
  congr 1
  induction h with
  | nil => rfl
  | @cons p q inherited inherited' hpq _ ih =>
      rw [List.filter_cons, List.filter_cons, ih]
      rcases hpq with rfl | ⟨hkey, hown⟩
      · rfl
      · rw [← hkey, if_neg (by simpa using hown), if_neg (by simpa using hown)]

/-! ### Routes -/

/-- The operation's own parameters, as far as their references can be followed. -/
def Document.ownAt (doc : Document) (route : Route) : List Parameter :=
  route.operation.parameters.filterMap fun entry => (doc.resolveParameter entry).toOption

/-- What two documents have in common where one has one route and the other another. -/
structure SameAt (doc doc' : Document) (route route' : Route) : Prop where
  path_eq : route'.path = route.path
  method_eq : route'.method = route.method
  rest_eq : route'.operation = { route.operation with
    parameters := route'.operation.parameters
    responses := route'.operation.responses }
  own : List.Forall₂
    (fun entry entry' => doc'.resolveParameter entry' = doc.resolveParameter entry)
    route.operation.parameters route'.operation.parameters
  inherited : List.Forall₂
    (fun entry entry' => SameOutcome (Interchangeable (doc.ownAt route))
      (doc.resolveParameter entry) (doc'.resolveParameter entry'))
    route.item.parameters route'.item.parameters
  response : route'.operation.successResponse?.map doc'.resolveResponse =
    route.operation.successResponse?.map doc.resolveResponse

namespace Naming

variable {naming : Naming} {doc doc' : Document}

theorem returnType_congr {op op' : Operation}
    (h : op'.successResponse?.map doc'.resolveResponse =
      op.successResponse?.map doc.resolveResponse) :
    naming.returnType doc' op' = naming.returnType doc op := by
  unfold returnType
  cases hop : op.successResponse? with
  | none =>
      rw [hop, Option.map_none, Option.map_eq_none_iff] at h
      rw [h]
  | some response =>
      rw [hop, Option.map_some, Option.map_eq_some_iff] at h
      obtain ⟨response', hop', hresolve⟩ := h
      rw [hop']
      dsimp only
      rw [hresolve]

/-- **One step:** where documents have in common what counts, they have one operation, or
one fault. -/
theorem operation?_congr {route route' : Route} (h : SameAt doc doc' route route')
    (hconsumes : doc'.consumes = doc.consumes) (hproduces : doc'.produces = doc.produces) :
    naming.operation? doc' route' = naming.operation? doc route := by
  have hown := mapM_eq_of_forall₂ h.own
  have hreturn : naming.returnType doc' route'.operation = naming.returnType doc route.operation :=
    returnType_congr h.response
  have hinherited := sameOutcome_mapM h.inherited
  unfold operation?
  dsimp only
  rw [hown, hreturn, hconsumes, hproduces, h.path_eq, h.method_eq, h.rest_eq]
  generalize route.item.parameters.mapM doc.resolveParameter = inherited?,
    route'.item.parameters.mapM doc'.resolveParameter = inherited?' at hinherited ⊢
  cases hinherited with
  | error e => rfl
  | ok hsame =>
      cases hok : route.operation.parameters.mapM doc.resolveParameter with
      | error e => rfl
      | ok own =>
          have hownAt : doc.ownAt route = own := filterMap_of_mapM hok
          rw [hownAt] at hsame
          simp only [bind, Except.bind, mergeParameters_congr hsame]

theorem operation_congr {route route' : Route} (h : SameAt doc doc' route route')
    (hconsumes : doc'.consumes = doc.consumes) (hproduces : doc'.produces = doc.produces) :
    naming.operation doc' route' = naming.operation doc route := by
  rw [operation, operation, operation?_congr h hconsumes hproduces, h.path_eq, h.method_eq]

/-- **The run:** routes that have in common what counts are grouped alike. -/
theorem groupRoutes_congr {routes routes' : List Route}
    (h : List.Forall₂ (SameAt doc doc') routes routes')
    (hconsumes : doc'.consumes = doc.consumes) (hproduces : doc'.produces = doc.produces)
    (groups : List (String × TagGroup)) :
    naming.groupRoutes doc' groups routes' = naming.groupRoutes doc groups routes := by
  induction h generalizing groups with
  | nil => rfl
  | @cons route route' routes routes' hroute _ ih =>
      have htags : route'.operation.listedTags = route.operation.listedTags := by
        rw [hroute.rest_eq]
        rfl
      rw [groupRoutes, groupRoutes, operation_congr hroute hconsumes hproduces, htags]
      cases naming.operation doc route with
      | error e => rfl
      | ok op => exact ih _

end Naming

/-! ### Documents -/

/-- What two documents have in common if they are the same to grouping. -/
structure SameToGrouping (doc doc' : Document) : Prop where
  consumes_eq : doc'.consumes = doc.consumes
  produces_eq : doc'.produces = doc.produces
  /-- Whatever operations a path has, the other document has at the same path. -/
  paths : List.Forall₂
    (fun e e' => e'.1 = e.1 ∧ ∀ method, Option.Rel
      (fun op op' => SameAt doc doc' ⟨e.1, e.2, method, op⟩ ⟨e'.1, e'.2, method, op'⟩)
      (e.2.operation? method) (e'.2.operation? method))
    doc.paths.entries doc'.paths.entries

namespace SameToGrouping

variable {doc doc' : Document}

theorem routes (h : SameToGrouping doc doc') :
    List.Forall₂ (SameAt doc doc') doc.routes doc'.routes := by
  rw [doc.routes_eq, doc'.routes_eq]
  refine List.rel_flatMap h.paths ?_
  rintro ⟨path, item⟩ ⟨path', item'⟩ ⟨-, hmethods⟩
  refine List.rel_filterMap ?_ (List.forall₂_same.mpr fun method _ => rfl)
  rintro method _ rfl
  have hmethod := hmethods method
  dsimp only at hmethod ⊢
  generalize item.operation? method = op?, item'.operation? method = op?' at hmethod
  cases hmethod with
  | none => exact .none
  | some hop => exact .some hop

/-- **Documents that are the same to grouping are grouped alike.** -/
theorem operationSets_eq (h : SameToGrouping doc doc') (naming : Naming) :
    naming.operationSets doc' = naming.operationSets doc := by
  unfold Naming.operationSets Naming.tagGroups
  rw [Naming.groupRoutes_congr h.routes h.consumes_eq h.produces_eq]

end SameToGrouping

end SwaggerClient
