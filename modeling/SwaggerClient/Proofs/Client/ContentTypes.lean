/-
What an operation takes and gives, from the document to the pass.

The fall-back of media types is spread over two steps.  An operation that declares none
takes those of the document when it is built (`Naming.media_operation`), and JSON when it is
normalized.  Normalizing comes second and looks at the list alone, so the JSON that it puts
in has to leave `hasConsumes` as it was.  Together the steps say the same of every copy of
an operation: the first list that is not empty counts, in its order and with its repetitions
(`Document.consumedAt`), every entry has its body kind, and nothing else about the operation
is touched (`contentTypes_of_generate`).
-/
import SwaggerClient.Proofs.Client.Grouping
import SwaggerClient.Proofs.Client.Pass

namespace SwaggerClient

/-! ### The specification -/

/-- The media types that are consumed at a route: the operation's own, or else those of the
document, or else JSON. -/
def Document.consumedAt (doc : Document) (route : Route) : List String :=
  if route.operation.consumes ≠ [] then route.operation.consumes
  else if doc.consumes ≠ [] then doc.consumes
  else ["application/json"]

/-- The media types that are produced at a route: the operation's own, or else those of the
document. -/
def Document.producedAt (doc : Document) (route : Route) : List String :=
  if route.operation.produces ≠ [] then route.operation.produces else doc.produces

/-- What a pass makes of the operation that was built at a route. -/
structure Served (doc : Document) (route : Route) (built op : ClientOperation) : Prop where
  mediaTypes_eq : op.consumes.map (·.mediaType) = doc.consumedAt route
  /-- JSON that nobody declared does not count. -/
  hasConsumes_iff : op.hasConsumes = true ↔ route.operation.consumes ≠ [] ∨ doc.consumes ≠ []
  bodyKind_eq : ∀ entry ∈ op.consumes,
    entry.bodyKind = some (if entry.mediaType = "multipart/form-data" then .form else .json)
  produces_eq : op.produces = doc.producedAt route
  rest_eq : { op with consumes := built.consumes } = built

/-! ### Building -/

theorem ownOrShared_eq (own shared : List String) :
    ownOrShared own shared = if own ≠ [] then own else shared := by
  unfold ownOrShared
  cases own with
  | nil => rfl
  | cons mediaType own => rfl

theorem ownOrShared_ne_nil_iff {own shared : List String} :
    ownOrShared own shared ≠ [] ↔ own ≠ [] ∨ shared ≠ [] := by
  rw [ownOrShared_eq]
  by_cases hown : own ≠ []
  · rw [if_pos hown]
    exact iff_of_true hown (Or.inl hown)
  · rw [if_neg hown]
    exact (or_iff_right hown).symm

/-- What an operation that is built consumes and produces. -/
theorem Naming.media_operation {naming : Naming} {doc : Document} {route : Route}
    {op : ClientOperation} (h : naming.operation doc route = .ok op) :
    op.consumes.map (·.mediaType) = ownOrShared route.operation.consumes doc.consumes ∧
      op.hasConsumes = !(ownOrShared route.operation.consumes doc.consumes).isEmpty ∧
      op.produces = ownOrShared route.operation.produces doc.produces := by
  obtain ⟨_, _, _, _, -, -, -, -, rfl⟩ := operation_eq_ok h
  refine ⟨?_, rfl, rfl⟩
  rw [List.map_map]
  exact List.map_id _

/-! ### Normalizing -/

/-- Nothing but an empty list is filled with JSON. -/
theorem mediaTypes_consumedOrJson (entries : List ConsumeEntry) :
    (consumedOrJson entries).map (·.mediaType) =
      if entries.map (·.mediaType) ≠ [] then entries.map (·.mediaType)
      else ["application/json"] := by
  cases entries with
  | nil => rfl
  | cons entry entries => rfl

namespace ClientOperation

theorem mediaTypes_normalize (op : ClientOperation) :
    op.normalize.consumes.map (·.mediaType) = (consumedOrJson op.consumes).map (·.mediaType) := by
  have hclassify : ConsumeEntry.mediaType ∘ ConsumeEntry.classify = ConsumeEntry.mediaType := rfl
  rw [normalize, List.map_map, hclassify]

/-- Every entry is classified by its media type. -/
theorem bodyKind_normalize (op : ClientOperation) {entry : ConsumeEntry}
    (h : entry ∈ op.normalize.consumes) :
    entry.bodyKind = some (if entry.mediaType = "multipart/form-data" then .form else .json) := by
  obtain ⟨declared, -, rfl⟩ := List.mem_map.mp h
  rfl

end ClientOperation

/-- **What is built at a route and then normalized is served** as the document says. -/
theorem served_normalize {naming : Naming} {doc : Document} {route : Route}
    {op : ClientOperation} (h : naming.operation doc route = .ok op) :
    Served doc route op op.normalize := by
  obtain ⟨hmedia, hhas, hproduces⟩ := Naming.media_operation h
  refine ⟨?_, ?_, fun _ => op.bodyKind_normalize, ?_, rfl⟩
  · rw [op.mediaTypes_normalize, mediaTypes_consumedOrJson, hmedia, ownOrShared_eq]
    unfold Document.consumedAt
    by_cases hown : route.operation.consumes ≠ []
    · simp only [if_pos hown]
    · simp only [if_neg hown]
  · -- normalizing leaves the flag alone
    show op.hasConsumes = true ↔ _
    rw [hhas, ← ownOrShared_ne_nil_iff, Bool.not_eq_true', List.isEmpty_eq_false_iff]
  · exact hproduces.trans (ownOrShared_eq _ _)

/-! ### The pass -/

/-- How a pass comes by its operations: what is built at a route is grouped under its tags,
and what is served at the route stands in the same places. -/
structure ServesRoutes (config : Config) (doc : Document) (pass : Pass)
    (build serve : Route → ClientOperation) : Prop where
  built : ∀ route ∈ doc.routes, config.naming.operation doc route = .ok (build route)
  grouped : ∃ sets, config.naming.operationSets doc = .ok sets ∧
    sets.map (·.operations) = doc.usedTags.map fun tag => (doc.routesUnder tag).map build
  listed : pass.operationSets.map (·.operations) =
    doc.usedTags.map fun tag => (doc.routesUnder tag).map serve
  served : ∀ route ∈ doc.routes, Served doc route (build route) (serve route)

/-- **Content types, end to end.**  At every route a pass serves what the document says, in
each set that lists the route, and it has the operations that grouping builds in the places
where grouping puts them. -/
theorem contentTypes_of_generate (config : Config) (doc : Document) (pass : Pass)
    (h : generate config doc = .ok pass) :
    ∃ build serve : Route → ClientOperation, ServesRoutes config doc pass build serve := by
  obtain ⟨sets, hsets, hnormal⟩ := generate_sets h
  obtain ⟨build, hbuild, hgrouped⟩ := Naming.sets_of_operationSets hsets
  have hoperations : sets.map (·.operations) = doc.usedTags.map fun tag =>
      (doc.routesUnder tag).map build := by
    rw [hgrouped, List.map_map]
    rfl
  refine ⟨build, fun route => (build route).normalize, hbuild, ⟨sets, hsets, hoperations⟩, ?_,
    fun route hroute => served_normalize (hbuild route hroute)⟩
  have hstep : ∀ set set' : OperationSet, Normal config.modelPackage set set' →
      set'.operations = set.operations.map .normalize := fun _ _ hset => hset.operations_eq
  have hall : sets.map (fun set => set.operations.map ClientOperation.normalize) =
      (sets.map (·.operations)).map (List.map ClientOperation.normalize) := by
    rw [List.map_map]
    rfl
  rw [map_eq_of_forall₂ hstep hnormal, hall, hoperations, List.map_map]
  exact List.map_congr_left fun tag _ => List.map_map

/-- Uploads under two tags with lists of their own, and a note without any. -/
def uploadDocument (shared : List String) : Document where
  swagger := "2.0"
  info := { title := "Uploads", version := "1" }
  consumes := shared
  produces := ["application/json"]
  paths := ⟨[
    ("/photos", {
      post := some {
        operationId := some "upload"
        tags := ["photo", "admin"]
        consumes := ["multipart/form-data", "text/plain", "multipart/form-data"]
        produces := ["image/png"] } }),
    ("/notes", { put := some { operationId := some "note", tags := ["admin"] } })], by simp⟩

/-- What is seen of the operations of a pass: their names, their entries, whether these count
as declared, and what is produced. -/
def servedMedia (pass : Pass) : List (String × List ConsumeEntry × Bool × List String) :=
  pass.operationSets.flatMap fun set => set.operations.map fun op =>
    (op.nickname, op.consumes, op.hasConsumes, op.produces)

theorem contentTypes_uploads :
    ∃ pass, generate .standard (uploadDocument []) = .ok pass ∧
      servedMedia pass = [
        ("upload", [⟨"multipart/form-data", some .form⟩, ⟨"text/plain", some .json⟩,
          ⟨"multipart/form-data", some .form⟩], true, ["image/png"]),
        ("note", [⟨"application/json", some .json⟩], false, ["application/json"]),
        ("upload", [⟨"multipart/form-data", some .form⟩, ⟨"text/plain", some .json⟩,
          ⟨"multipart/form-data", some .form⟩], true, ["image/png"])] ∧
      ∃ build serve, ServesRoutes .standard (uploadDocument []) pass build serve := by
  have hview : (generate .standard (uploadDocument [])).toOption.map servedMedia = some [
      ("upload", [⟨"multipart/form-data", some .form⟩, ⟨"text/plain", some .json⟩,
        ⟨"multipart/form-data", some .form⟩], true, ["image/png"]),
      ("note", [⟨"application/json", some .json⟩], false, ["application/json"]),
      ("upload", [⟨"multipart/form-data", some .form⟩, ⟨"text/plain", some .json⟩,
        ⟨"multipart/form-data", some .form⟩], true, ["image/png"])] := by decide +kernel
  obtain ⟨pass, hpass, hserved⟩ := exists_ok_of_map hview
  exact ⟨pass, hpass, hserved, contentTypes_of_generate .standard (uploadDocument []) pass hpass⟩

-- where the document takes something, the note takes that
example : (generate .standard (uploadDocument ["text/csv"])).toOption.map (fun pass =>
    (servedMedia pass).filter (·.1 == "note")) =
      some [("note", [⟨"text/csv", some .json⟩], true, ["application/json"])] := by
  decide +kernel

end SwaggerClient
