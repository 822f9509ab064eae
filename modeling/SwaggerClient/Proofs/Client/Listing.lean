/-
How often an operation is listed.

No two routes of a document have one place (`Document.nodup_places`), so the places of a set
tell how often each route was collected.  Collecting goes through the tags of an operation as
they are written, and a tag that is written twice takes the operation in twice: a set lists
it as often as the operation names the tag (`count_routesNaming`).  Imports are not repeated
that way, because these are compared with what is there.  So every operation is listed at
most once in every set exactly if no operation repeats a tag (`listed_of_operationSets`).
-/
import SwaggerClient.Proofs.Client.Grouping

namespace SwaggerClient

/-! ### Places -/

/-- Where an operation is served. -/
def Route.place (route : Route) : Method × String := (route.method, route.path)

/-- Where an operation is served. -/
def ClientOperation.place (op : ClientOperation) : Method × String := (op.method, op.path)

theorem Naming.place_operation {naming : Naming} {doc : Document} {route : Route}
    {op : ClientOperation} (h : naming.operation doc route = .ok op) : op.place = route.place := by
  obtain ⟨hmethod, hpath, -⟩ := place_of_operation h
  exact Prod.ext hmethod hpath

/-- **No two routes of a document have one place.** -/
theorem Document.nodup_places (doc : Document) : (doc.routes.map Route.place).Nodup := by
  rw [routes_eq, List.map_flatMap]
  refine List.nodup_flatMap.mpr ⟨fun ⟨path, item⟩ _ => ?_, ?_⟩
  · -- within a path the methods differ
    dsimp only
    rw [List.map_filterMap]
    refine List.Nodup.filterMap (fun method method' place hplace hplace' => ?_) (by decide)
    rw [Option.mem_def, Option.map_map, Option.map_eq_some_iff] at hplace hplace'
    obtain ⟨op, -, rfl⟩ := hplace
    obtain ⟨op', -, heq⟩ := hplace'
    exact (congrArg Prod.fst heq).symm
  · -- and from path to path the paths do
    refine (List.pairwise_map.mp doc.paths.nodup_keys).imp fun hne place hplace hplace' => hne ?_
    obtain ⟨route, hroute, rfl⟩ := List.mem_map.mp hplace
    obtain ⟨route', hroute', heq⟩ := List.mem_map.mp hplace'
    obtain ⟨method, -, hmethod⟩ := List.mem_filterMap.mp hroute
    obtain ⟨method', -, hmethod'⟩ := List.mem_filterMap.mp hroute'
    obtain ⟨op, -, rfl⟩ := Option.map_eq_some_iff.mp hmethod
    obtain ⟨op', -, rfl⟩ := Option.map_eq_some_iff.mp hmethod'
    exact (congrArg Prod.snd heq).symm

/-! ### One tag -/

section OneTag

variable {tag : String} {routes : List Route} {route : Route}

/-- **A route is listed under a tag as often as it names the tag.** -/
theorem count_routesNaming (hnodup : (routes.map Route.place).Nodup) (hroute : route ∈ routes) :
    ((routesNaming tag routes).map Route.place).count route.place =
      route.operation.listedTags.count tag := by
  induction routes with
  | nil => exact absurd hroute List.not_mem_nil
  | cons first routes ih =>
      obtain ⟨hnew, hnodup⟩ := List.nodup_cons.mp hnodup
      have hcons : (routesNaming tag (first :: routes)).map Route.place =
          List.replicate (first.operation.listedTags.count tag) first.place ++
            (routesNaming tag routes).map Route.place := by
        unfold routesNaming
        rw [List.flatMap_cons, List.map_append, List.map_replicate]
      rw [hcons, List.count_append]
      rcases List.mem_cons.mp hroute with rfl | hroute
      · have hrest : ((routesNaming tag routes).map Route.place).count route.place = 0 := by
          refine List.count_eq_zero.mpr fun hmem => hnew ?_
          obtain ⟨r, hr, hplace⟩ := List.mem_map.mp hmem
          exact List.mem_map.mpr ⟨r, (mem_routesNaming.mp hr).1, hplace⟩
        rw [List.count_replicate_self, hrest, Nat.add_zero]
      · have hfirst : first.place ≠ route.place :=
          fun hplace => hnew (hplace ▸ List.mem_map_of_mem hroute)
        rw [List.count_replicate, if_neg (by simpa using hfirst), Nat.zero_add, ih hnodup hroute]

end OneTag

/-! ### Sets -/

/-- How often a set lists the operations of a document. -/
structure Listed (naming : Naming) (doc : Document) (tag : String) (set : OperationSet) :
    Prop where
  classname_eq : set.classname = Naming.apiName tag
  /-- The operations are those of routes that name the tag. -/
  built : ∀ op ∈ set.operations, ∃ route ∈ doc.routes,
    tag ∈ route.operation.listedTags ∧ naming.operation doc route = .ok op
  /-- A route is there as often as it names the tag. -/
  count_eq : ∀ route ∈ doc.routes,
    (set.operations.map ClientOperation.place).count route.place =
      route.operation.listedTags.count tag
  /-- What is there twice is the same twice. -/
  eq_of_place : ∀ op ∈ set.operations, ∀ op' ∈ set.operations, op.place = op'.place → op = op'
  nodup_iff : (set.operations.map ClientOperation.place).Nodup ↔
    ∀ route ∈ doc.routes, route.operation.listedTags.count tag ≤ 1

/-- **A set lists an operation as often as it names the tag.** -/
theorem listed_ofGroup {naming : Naming} {doc : Document} {build : Route → ClientOperation}
    (hbuild : ∀ route ∈ doc.routes, naming.operation doc route = .ok (build route))
    (tag : String) :
    Listed naming doc tag (.ofGroup (tag, naming.groupOf ((doc.routesUnder tag).map build))) := by
  have hplaces : ((doc.routesUnder tag).map build).map ClientOperation.place =
      (routesNaming tag doc.routes).map Route.place := by
    rw [List.map_map, doc.routesUnder_eq]
    exact List.map_congr_left fun route hroute =>
      Naming.place_operation (hbuild route (mem_routesNaming.mp hroute).1)
  have hcount : ∀ route ∈ doc.routes,
      (((doc.routesUnder tag).map build).map ClientOperation.place).count route.place =
        route.operation.listedTags.count tag := by
    intro route hroute
    rw [hplaces, count_routesNaming doc.nodup_places hroute]
  have hbuilt : ∀ op ∈ (doc.routesUnder tag).map build, ∃ route ∈ doc.routes,
      tag ∈ route.operation.listedTags ∧ naming.operation doc route = .ok op := by
    intro op hop
    obtain ⟨route, hroute, rfl⟩ := List.mem_map.mp hop
    rw [doc.routesUnder_eq, mem_routesNaming] at hroute
    exact ⟨route, hroute.1, hroute.2, hbuild route hroute.1⟩
  refine ⟨rfl, hbuilt, hcount, fun op hop op' hop' hplace => ?_, ?_⟩
  · obtain ⟨route, hroute, -, hok⟩ := hbuilt op hop
    obtain ⟨route', hroute', -, hok'⟩ := hbuilt op' hop'
    rw [Naming.place_operation hok, Naming.place_operation hok'] at hplace
    rw [List.inj_on_of_nodup_map doc.nodup_places hroute hroute' hplace, hok'] at hok
    exact (Except.ok.inj hok).symm
  · show (((doc.routesUnder tag).map build).map ClientOperation.place).Nodup ↔ _
    rw [List.nodup_iff_count_le_one]
    constructor
    · intro h route hroute
      rw [← hcount route hroute]
      exact h route.place
    · intro h place
      by_cases hplace : place ∈ ((doc.routesUnder tag).map build).map ClientOperation.place
      · obtain ⟨op, hop, rfl⟩ := List.mem_map.mp hplace
        obtain ⟨route, hroute, -, hok⟩ := hbuilt op hop
        rw [Naming.place_operation hok, hcount route hroute]
        exact h route hroute
      · rw [List.count_eq_zero.mpr hplace]
        exact Nat.zero_le 1

/-- Tags are repeated where an operation is listed exactly if they are where it is written. -/
theorem Operation.nodup_listedTags_iff {op : Operation} : op.listedTags.Nodup ↔ op.tags.Nodup := by
  unfold listedTags
  cases op.tags with
  | nil => exact iff_of_true (List.nodup_singleton _) List.nodup_nil
  | cons tag tags => exact Iff.rfl

/-- **Every set lists its operations once exactly if no operation repeats a tag.**  An
operation that does is in the set of that tag as often as it names it. -/
theorem listed_of_operationSets (naming : Naming) (doc : Document) (sets : List OperationSet)
    (h : naming.operationSets doc = .ok sets) :
    List.Forall₂ (Listed naming doc) doc.usedTags sets ∧
      ((∀ set ∈ sets, (set.operations.map ClientOperation.place).Nodup) ↔
        ∀ route ∈ doc.routes, route.operation.tags.Nodup) := by
  obtain ⟨build, hbuild, rfl⟩ := Naming.sets_of_operationSets h
  have hlisted : ∀ tag, Listed naming doc tag _ := listed_ofGroup hbuild
  refine ⟨List.forall₂_map_right_iff.mpr (List.forall₂_same.mpr fun tag _ => hlisted tag), ?_⟩
  have htags : (∀ route ∈ doc.routes, route.operation.tags.Nodup) ↔
      ∀ route ∈ doc.routes, ∀ tag, route.operation.listedTags.count tag ≤ 1 :=
    forall₂_congr fun _ _ => Operation.nodup_listedTags_iff.symm.trans List.nodup_iff_count_le_one
  rw [htags, List.forall_mem_map]
  constructor
  · intro hsets route hroute tag
    by_cases htag : tag ∈ route.operation.listedTags
    · have hused := Document.mem_usedTags.mpr ⟨route, hroute, htag⟩
      exact (hlisted tag).nodup_iff.mp (hsets tag hused) route hroute
    · rw [List.count_eq_zero.mpr htag]
      exact Nat.zero_le 1
  · exact fun hroutes tag _ =>
      (hlisted tag).nodup_iff.mpr fun route hroute => hroutes route hroute tag

theorem listed_tagged :
    ∃ sets, plainNaming.operationSets taggedDocument = .ok sets ∧
      sets.map (fun set => (set.classname, set.operations.map ClientOperation.place)) = [
        ("AdminApi", [(.post, "/pets")]),
        ("DefaultApi", [(.get, "/pets")]),
        ("PetApi", [(.post, "/pets"), (.post, "/pets")])] ∧
      List.Forall₂ (Listed plainNaming taggedDocument) taggedDocument.usedTags sets ∧
      ((∀ set ∈ sets, (set.operations.map ClientOperation.place).Nodup) ↔
        ∀ route ∈ taggedDocument.routes, route.operation.tags.Nodup) := by
  have hview : (plainNaming.operationSets taggedDocument).toOption.map (fun sets =>
      sets.map fun set => (set.classname, set.operations.map ClientOperation.place)) = some [
        ("AdminApi", [(.post, "/pets")]),
        ("DefaultApi", [(.get, "/pets")]),
        ("PetApi", [(.post, "/pets"), (.post, "/pets")])] := by
    decide +kernel
  obtain ⟨sets, hsets, hplaces⟩ := exists_ok_of_map hview
  exact ⟨sets, hsets, hplaces, listed_of_operationSets plainNaming taggedDocument sets hsets⟩

end SwaggerClient
