/-
Operations by tag: the groups are a view of the whole document.

Grouping walks the document once and keeps a sorted list of groups.  What comes out can
be said without the walk: there is one set for each tag in use, and it lists the
operations under this tag in the order of the document, an operation as often as it
names the tag.

`Grouped` is the invariant of the walk.  It says of the groups so far that they are what
a table of operations by tag prescribes, the imports of a group included.  Adding an
operation to a tag appends it in one row of the table (`Grouped.addToTag`), so adding it
to all of its tags appends it in every row as often as the tag is named
(`Grouped.addToTags`), and a run over the routes appends their operations in order
(`Grouped.groupRoutes`).  The walk stops at the first operation that cannot be made, and at
nothing else (`Naming.fault?_operationSets`).
-/
import SwaggerClient.Client.OperationSet
import SwaggerClient.Proofs.Client.References
import SwaggerClient.Proofs.Text.Order

namespace SwaggerClient

/-! ### The specification -/

/-- The tags in use, sorted. -/
def Document.usedTags (doc : Document) : List String :=
  Text.sortedSet (doc.routes.flatMap fun route => route.operation.listedTags)

/-- The routes among some that are listed under a tag, each as often as it names the tag. -/
def routesNaming (tag : String) (routes : List Route) : List Route :=
  routes.flatMap fun route => List.replicate (route.operation.listedTags.count tag) route

/-- The routes that a document lists under a tag: path by path, and within a path in the
order of the methods. -/
def Document.routesUnder (doc : Document) (tag : String) : List Route :=
  doc.paths.entries.flatMap fun (path, item) =>
    [.get, .post, .put, .delete, .patch, .options, .head].flatMap fun method =>
      (item.operation? method).toList.flatMap fun op =>
        List.replicate (op.listedTags.count tag) ⟨path, item, method, op⟩

/-- The routes of a document: path by path, and within a path in the order of the methods. -/
theorem Document.routes_eq (doc : Document) :
    doc.routes = doc.paths.entries.flatMap fun (path, item) =>
      [.get, .post, .put, .delete, .patch, .options, .head].filterMap fun method =>
        (item.operation? method).map fun op => ⟨path, item, method, op⟩ := by
  unfold routes PathItem.operations
  refine List.flatMap_congr fun ⟨path, item⟩ _ => ?_
  dsimp only
  rw [List.map_filterMap]
  refine List.filterMap_congr fun method _ => ?_
  rw [Option.map_map]
  rfl

theorem Document.routesUnder_eq (doc : Document) (tag : String) :
    doc.routesUnder tag = routesNaming tag doc.routes := by
  unfold routesUnder routesNaming
  rw [routes_eq, List.flatMap_assoc]
  refine List.flatMap_congr fun ⟨path, item⟩ _ => ?_
  dsimp only
  rw [List.filterMap_eq_flatMap_toList, List.flatMap_assoc]
  refine List.flatMap_congr fun method _ => ?_
  cases item.operation? method with
  | none => rfl
  | some op => rfl

theorem mem_routesNaming {tag : String} {routes : List Route} {route : Route} :
    route ∈ routesNaming tag routes ↔ route ∈ routes ∧ tag ∈ route.operation.listedTags := by
  unfold routesNaming
  simp only [List.mem_flatMap, List.mem_replicate, Ne, List.count_eq_zero, not_not]
  constructor
  · rintro ⟨r, hr, htag, rfl⟩
    exact ⟨hr, htag⟩
  · rintro ⟨hroute, htag⟩
    exact ⟨route, hroute, htag, rfl⟩

/-- What is listed under a tag is a route of the document. -/
theorem Document.mem_routes (doc : Document) {tag : String} {route : Route}
    (h : route ∈ doc.routesUnder tag) : route ∈ doc.routes :=
  (mem_routesNaming.mp (doc.routesUnder_eq tag ▸ h)).1

/-- What is collected for operations that are listed in this order. -/
def Naming.groupOf (naming : Naming) (ops : List ClientOperation) : TagGroup where
  operations := ops
  imports := Text.firstOccurrences (ops.flatMap fun op => op.models.map naming.modelImport)

theorem Document.mem_usedTags {doc : Document} {tag : String} :
    tag ∈ doc.usedTags ↔ ∃ route ∈ doc.routes, tag ∈ route.operation.listedTags := by
  unfold usedTags
  rw [Text.mem_sortedSet, List.mem_flatMap]

/-- A tag is in use exactly if a route is listed under it. -/
theorem routesNaming_ne_nil_iff {tag : String} {routes : List Route} :
    routesNaming tag routes ≠ [] ↔ ∃ route ∈ routes, tag ∈ route.operation.listedTags := by
  rw [Ne, List.eq_nil_iff_forall_not_mem]
  simp only [mem_routesNaming, not_forall, not_not]

/-! ### One tag -/

section OneTag

variable (op : ClientOperation) (imports : List String) (tag : String)

/-- Adding to a tag inserts the tag. -/
theorem tags_addToTag (groups : List (String × TagGroup)) :
    (addToTag op imports tag groups).map Prod.fst =
      Text.insertSorted tag (groups.map Prod.fst) := by
  induction groups with
  | nil => rfl
  | cons g rest ih =>
      rw [addToTag, List.map_cons, Text.insertSorted]
      split
      · rfl
      · split
        · rename_i heq
          rw [List.map_cons, heq]
        · rw [List.map_cons, ih]

/-- The group of the tag is new or has one more operation, and the other groups are as
before. -/
theorem mem_addToTag {groups : List (String × TagGroup)}
    (hs : (groups.map Prod.fst).Pairwise (· < ·)) {g : String × TagGroup}
    (hg : g ∈ addToTag op imports tag groups) :
    (g.1 ≠ tag ∧ g ∈ groups) ∨ (tag ∉ groups.map Prod.fst ∧ g = (tag, ⟨[op], imports⟩)) ∨
      ∃ old, (tag, old) ∈ groups ∧ g = (tag, old.add op imports) := by
  induction groups with
  | nil => 
      right; left
      exact ⟨List.not_mem_nil, List.mem_singleton.mp hg⟩
  | cons first rest ih =>
      obtain ⟨hfirst, hrest⟩ := List.pairwise_cons.mp hs
      rw [addToTag] at hg
      split at hg
      · rename_i hlt
        have hnew : ∀ t ∈ (first :: rest).map Prod.fst, tag < t := by
          intro t ht
          rcases List.mem_cons.mp ht with rfl | ht
          · exact hlt
          · exact lt_trans hlt (hfirst t ht)
        rcases List.mem_cons.mp hg with rfl | hg
        · exact .inr (.inl ⟨fun h => lt_irrefl _ (hnew tag h), rfl⟩)
        · exact .inl ⟨(ne_of_lt (hnew g.1 (List.mem_map_of_mem hg))).symm, hg⟩
      · split at hg
        · rename_i heq
          rcases List.mem_cons.mp hg with rfl | hg
          · exact .inr (.inr ⟨first.2, by rw [heq]; exact List.mem_cons_self, rfl⟩)
          · refine .inl ⟨?_, List.mem_cons_of_mem _ hg⟩
            rw [heq]
            exact (ne_of_lt (hfirst g.1 (List.mem_map_of_mem hg))).symm
        · rename_i hne
          rcases List.mem_cons.mp hg with rfl | hg
          · exact .inl ⟨fun h => hne h.symm, List.mem_cons_self⟩
          · rcases ih hrest hg with ⟨hg, hmem⟩ | ⟨hno, rfl⟩ | ⟨old, hold, rfl⟩
            · exact .inl ⟨hg, List.mem_cons_of_mem _ hmem⟩
            · refine .inr (.inl ⟨fun h => ?_, rfl⟩)
              rcases List.mem_cons.mp h with h | h
              · exact hne h
              · exact hno h
            · exact .inr (.inr ⟨old, List.mem_cons_of_mem _ hold, rfl⟩)

end OneTag

/-! ### The invariant -/

/-- The groups are what a table of operations by tag prescribes. -/
structure Grouped (naming : Naming) (listed : String → List ClientOperation)
    (groups : List (String × TagGroup)) : Prop where
  sorted : (groups.map Prod.fst).Pairwise (· < ·)
  mem_tags : ∀ tag, tag ∈ groups.map Prod.fst ↔ listed tag ≠ []
  collected : ∀ g ∈ groups, g.2 = naming.groupOf (listed g.1)

/-- One more operation in the group of some is the group of one more operation. -/
theorem Naming.add_groupOf (naming : Naming) (ops : List ClientOperation)
    (op : ClientOperation) :
    (naming.groupOf ops).add op (naming.operationImports op) = naming.groupOf (ops ++ [op]) := by
  unfold groupOf TagGroup.add operationImports
  rw [List.flatMap_append, List.flatMap_singleton, Text.firstOccurrences_append]

theorem Naming.groupOf_singleton (naming : Naming) (op : ClientOperation) :
    naming.groupOf [op] = ⟨[op], naming.operationImports op⟩ := by
  unfold groupOf operationImports
  rw [List.flatMap_singleton]

namespace Grouped

variable {naming : Naming} {listed : String → List ClientOperation}
  {groups : List (String × TagGroup)}

/-- The groups are decided by the table. -/
theorem eq_map (h : Grouped naming listed groups) :
    groups = (groups.map Prod.fst).map fun tag => (tag, naming.groupOf (listed tag)) := by
  rw [List.map_map]
  refine (List.map_id'' (fun _ => rfl) groups).symm.trans (List.map_congr_left fun g hg => ?_)
  exact Prod.ext rfl (h.collected g hg)

/-- Adding an operation to a tag appends it in one row. -/
theorem addToTag (h : Grouped naming listed groups) (op : ClientOperation) (tag : String) :
    Grouped naming (fun t => if t = tag then listed t ++ [op] else listed t)
      (addToTag op (naming.operationImports op) tag groups) where
  sorted := by
    rw [tags_addToTag]
    exact Text.pairwise_insertSorted tag h.sorted
  mem_tags := by
    intro t
    rw [tags_addToTag, Text.mem_insertSorted, h.mem_tags]
    by_cases ht : t = tag
    · simp [ht]
    · simp [ht]
  collected := by
    intro g hg
    rcases mem_addToTag op _ tag h.sorted hg with ⟨hne, hmem⟩ | ⟨hnew, rfl⟩ | ⟨old, hold, rfl⟩
    · rw [if_neg hne]
      exact h.collected g hmem
    · have hnil : listed tag = [] := not_not.mp fun hne => hnew ((h.mem_tags tag).mpr hne)
      rw [if_pos rfl, hnil, List.nil_append, naming.groupOf_singleton]
    · have hrow : old = naming.groupOf (listed tag) := h.collected _ hold
      rw [if_pos rfl, ← naming.add_groupOf, hrow]

/-- Adding an operation to tags appends it in every row as often as the tag is among them. -/
theorem addToTags (h : Grouped naming listed groups) (op : ClientOperation)
    (tags : List String) :
    Grouped naming (fun t => listed t ++ List.replicate (tags.count t) op)
      (addToTags op (naming.operationImports op) tags groups) := by
  induction tags generalizing listed groups with
  | nil =>
      show Grouped naming (fun t => listed t ++ []) groups
      simp only [List.append_nil]
      exact h
  | cons tag tags ih =>
      have hrow : (fun t => (if t = tag then listed t ++ [op] else listed t) ++
          List.replicate (tags.count t) op) =
          fun t => listed t ++ List.replicate ((tag :: tags).count t) op := by
        funext t
        by_cases ht : t = tag
        · rw [if_pos ht, ht, List.count_cons_self, List.replicate_succ, List.append_assoc,
            List.singleton_append]
        · rw [if_neg ht, List.count_cons_of_ne (Ne.symm ht)]
      rw [← hrow]
      exact ih (h.addToTag op tag)

/-- **A run over routes appends their operations in order,** each in the rows of its tags. -/
theorem groupRoutes (h : Grouped naming listed groups) {doc : Document}
    {build : Route → ClientOperation} {routes : List Route}
    (hbuild : ∀ route ∈ routes, naming.operation doc route = .ok (build route))
    {groups' : List (String × TagGroup)}
    (hrun : naming.groupRoutes doc groups routes = .ok groups') :
    Grouped naming (fun t => listed t ++ (routesNaming t routes).map build) groups' := by
  induction routes generalizing listed groups with
  | nil =>
      rw [Naming.groupRoutes, Except.ok.injEq] at hrun
      rw [← hrun]
      show Grouped naming (fun t => listed t ++ []) groups
      simp only [List.append_nil]
      exact h
  | cons route routes ih =>
      have hop := hbuild route List.mem_cons_self
      rw [Naming.groupRoutes, hop] at hrun
      have hrow : (fun t => listed t ++
          List.replicate (route.operation.listedTags.count t) (build route) ++
          (routesNaming t routes).map build) =
          fun t => listed t ++ (routesNaming t (route :: routes)).map build := by
        funext t
        unfold routesNaming
        rw [List.flatMap_cons, List.map_append, List.map_replicate, List.append_assoc]
      rw [← hrow]
      exact ih (h.addToTags (build route) _)
        (fun r hr => hbuild r (List.mem_cons_of_mem _ hr)) hrun

end Grouped

/-! ### Whole documents -/

namespace Naming

variable {naming : Naming} {doc : Document}

/-- **A run over routes has the first fault of an operation.** -/
theorem fault?_groupRoutes (naming : Naming) (doc : Document) (groups : List (String × TagGroup))
    (routes : List Route) :
    fault? (naming.groupRoutes doc groups routes) =
      routes.findSome? fun route => fault? (naming.operation doc route) := by
  induction routes generalizing groups with
  | nil => rfl
  | cons route routes ih =>
      rw [groupRoutes, List.findSome?_cons]
      cases naming.operation doc route with
      | error e => rfl
      | ok op => exact ih _

/-- **Grouping tells the first fault of an operation.** -/
theorem fault?_operationSets (naming : Naming) (doc : Document) :
    fault? (naming.operationSets doc) =
      doc.routes.findSome? fun route => fault? (naming.operation doc route) := by
  rw [← naming.fault?_groupRoutes doc [], operationSets, tagGroups]
  cases naming.groupRoutes doc [] doc.routes with
  | error e => rfl
  | ok groups => rfl

/-- A run over routes succeeds only if every operation can be built. -/
theorem exists_build {groups groups' : List (String × TagGroup)} {routes : List Route}
    (hrun : naming.groupRoutes doc groups routes = .ok groups') :
    ∀ route ∈ routes, ∃ op, naming.operation doc route = .ok op := by
  have hfault := naming.fault?_groupRoutes doc groups routes
  rw [fault?_eq_none_iff.mpr ⟨groups', hrun⟩, eq_comm, List.findSome?_eq_none_iff] at hfault
  exact fun route hroute => fault?_eq_none_iff.mp (hfault route hroute)

/-- The sets of a document are those of its tags. -/
theorem sets_of_operationSets {sets : List OperationSet} (h : naming.operationSets doc = .ok sets) :
    ∃ build : Route → ClientOperation,
      (∀ route ∈ doc.routes, naming.operation doc route = .ok (build route)) ∧
        sets = doc.usedTags.map fun tag =>
          .ofGroup (tag, naming.groupOf ((doc.routesUnder tag).map build)) := by
  unfold operationSets at h
  split at h
  · cases h
  · rename_i groups hrun
    let build : Route → ClientOperation := fun route =>
      (naming.operation doc route).toOption.getD default
    have hbuild : ∀ route ∈ doc.routes, naming.operation doc route = .ok (build route) := by
      intro route hr
      obtain ⟨op, hop⟩ := exists_build hrun route hr
      show _ = Except.ok ((naming.operation doc route).toOption.getD default)
      rw [hop]
      rfl
    have hstart : Grouped naming (fun _ => []) [] :=
      ⟨List.Pairwise.nil, fun _ => by simp, fun _ hg => absurd hg List.not_mem_nil⟩
    have hgroups := hstart.groupRoutes hbuild hrun
    have htags : groups.map Prod.fst = doc.usedTags := by
      refine Text.eq_of_sorted hgroups.sorted (Text.pairwise_sortedSet _) fun tag => ?_
      rw [hgroups.mem_tags, List.nil_append, Ne, List.map_eq_nil_iff]
      exact routesNaming_ne_nil_iff.trans Document.mem_usedTags.symm
    refine ⟨build, hbuild, ?_⟩
    rw [← Except.ok.inj h, hgroups.eq_map, List.map_map, htags]
    refine List.map_congr_left fun tag _ => ?_
    rw [Document.routesUnder_eq]
    rfl

end Naming

/-- **Grouping loses nothing, invents nothing and keeps order.**  There is one set for each
tag in use, in ascending order of the tags, and it lists the operations under its tag in
the order of the document.  What an operation becomes does not depend on the set, and it
keeps the method, the path and the tags of its route. -/
theorem operationSets_eq_byTag (naming : Naming) (doc : Document) (sets : List OperationSet)
    (h : naming.operationSets doc = .ok sets) :
    ∃ build : Route → ClientOperation,
      (∀ route ∈ doc.routes, naming.operation doc route = .ok (build route)) ∧
        (∀ route ∈ doc.routes, (build route).method = route.method ∧
          (build route).path = route.path ∧ (build route).tags = route.operation.tags) ∧
        doc.usedTags.Pairwise (· < ·) ∧
        (∀ tag, tag ∈ doc.usedTags ↔ ∃ route ∈ doc.routes, tag ∈ route.operation.listedTags) ∧
        sets.map (fun set => (set.classname, set.operations)) =
          doc.usedTags.map fun tag => (Naming.apiName tag, (doc.routesUnder tag).map build) := by
  obtain ⟨build, hbuild, hsets⟩ := Naming.sets_of_operationSets h
  refine ⟨build, hbuild, fun route hroute => Naming.place_of_operation (hbuild route hroute),
    Text.pairwise_sortedSet _, fun _ => Document.mem_usedTags, ?_⟩
  rw [hsets, List.map_map]
  rfl

/-- A path with an operation without tags and one that names a tag twice. -/
def taggedDocument : Document where
  swagger := "2.0"
  info := { title := "Pets", version := "1" }
  paths := ⟨[("/pets", {
    get := some { operationId := some "listPets" }
    post := some { operationId := some "addPet", tags := ["pet", "admin", "pet"] } })], by simp⟩

/-- The naming that `taggedDocument` is read with. -/
def plainNaming : Naming := ⟨"src/models", "src/apis", []⟩

theorem operationSets_eq_byTag_tagged :
    ∃ sets, plainNaming.operationSets taggedDocument = .ok sets ∧
      sets.map (fun set => (set.classname, set.operations.map fun op => (op.method, op.path))) = [
        ("AdminApi", [(.post, "/pets")]),
        ("DefaultApi", [(.get, "/pets")]),
        ("PetApi", [(.post, "/pets"), (.post, "/pets")])] ∧
      ∃ build : Route → ClientOperation,
        (∀ route ∈ taggedDocument.routes,
          plainNaming.operation taggedDocument route = .ok (build route)) ∧
          (∀ route ∈ taggedDocument.routes, (build route).method = route.method ∧
            (build route).path = route.path ∧ (build route).tags = route.operation.tags) ∧
          taggedDocument.usedTags.Pairwise (· < ·) ∧
          (∀ tag, tag ∈ taggedDocument.usedTags ↔
            ∃ route ∈ taggedDocument.routes, tag ∈ route.operation.listedTags) ∧
          sets.map (fun set => (set.classname, set.operations)) =
            taggedDocument.usedTags.map fun tag =>
              (Naming.apiName tag, (taggedDocument.routesUnder tag).map build) :=
  have hsets : plainNaming.operationSets taggedDocument =
      .ok ((plainNaming.operationSets taggedDocument).toOption.getD []) := by decide +kernel
  ⟨_, hsets, by decide +kernel, operationSets_eq_byTag plainNaming taggedDocument _ hsets⟩

end SwaggerClient
