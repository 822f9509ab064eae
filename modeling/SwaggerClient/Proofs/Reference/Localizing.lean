/-
Localizing a schema in place, and how far it gets.

Localizing walks over a tree and may stop anywhere in it.  The walk is taken apart into
what it does to the list of the leaves, which is the list walk `localPaths`, and what it
does to the rest, which is nothing (`Schema.leaves_localize`, `Schema.skeleton_localize`).
Both hold level by level: for a descriptor, for entries, for items, and then for schemas
and their parts together.

Since a schema is decided by its skeleton and its leaves, this says what localizing yields
in every case, the one included in which it stops half way (`Schema.localize_frontier`).  It
also says what happens the next time: local paths are no references, so localizing a schema
again stops at its first leaf and does nothing (`Schema.localizedOnce`).
-/
import SwaggerClient.Proofs.Reference.Leaves
import SwaggerClient.Proofs.Reference.Paths

namespace SwaggerClient

/-! ### Descriptors -/

namespace Property

theorem leaves_localize_ok {p q : Property} (h : p.localize = .ok q) :
    localPaths p.leaves = (q.leaves, none) := by
  induction p generalizing q with
  | ref path =>
      rw [localize] at h
      split at h
      · rename_i hpath
        rw [← Except.ok.inj h]
        exact localPaths_cons_ok hpath []
      · cases h
  | array items facets ih =>
      rw [localize] at h
      split at h
      · rename_i hitems
        have hwalk := ih hitems
        rw [← Except.ok.inj h]
        exact hwalk
      · cases h
  | primitive facets =>
      rw [localize] at h
      rw [← Except.ok.inj h]
      rfl

theorem leaves_localize_error {p : Property} {e : ResolveError} (h : p.localize = .error e) :
    localPaths p.leaves = (p.leaves, some e) := by
  induction p with
  | ref path =>
      rw [localize] at h
      split at h
      · cases h
      · rename_i hpath
        rw [← Except.error.inj h]
        exact localPaths_cons_error hpath []
  | array items facets ih =>
      rw [localize] at h
      split at h
      · cases h
      · rename_i hitems
        rw [Except.error.inj h] at hitems
        exact ih hitems
  | primitive facets => cases h

theorem skeleton_localize {p q : Property} (h : p.localize = .ok q) :
    q.mapLeaves blank = p.mapLeaves blank := by
  induction p generalizing q with
  | ref path =>
      rw [localize] at h
      split at h
      · rw [← Except.ok.inj h]
        rfl
      · cases h
  | array items facets ih =>
      rw [localize] at h
      split at h
      · rename_i hitems
        rw [← Except.ok.inj h]
        exact congrArg (array · facets) (ih hitems)
      · cases h
  | primitive facets =>
      rw [localize] at h
      rw [← Except.ok.inj h]

end Property

/-! ### Entries and items -/

theorem leaves_localizeEntries (entries : List (String × Property)) :
    localPaths (leavesOfEntries entries) =
      (leavesOfEntries (localizeEntries entries).1, (localizeEntries entries).2) := by
  induction entries with
  | nil => rfl
  | cons e rest ih =>
      rw [localizeEntries]
      split
      · rename_i q hq
        show localPaths (e.2.leaves ++ leavesOfEntries rest) = _
        rw [localPaths_append (Property.leaves_localize_ok hq), ih]
        rfl
      · rename_i hq
        exact localPaths_append_fault (Property.leaves_localize_error hq) _

theorem skeleton_localizeEntries (entries : List (String × Property)) :
    mapEntryLeaves blank (localizeEntries entries).1 = mapEntryLeaves blank entries := by
  induction entries with
  | nil => rfl
  | cons e rest ih =>
      rw [localizeEntries]
      split
      · rename_i q hq
        show (e.1, q.mapLeaves blank) :: _ = (e.1, e.2.mapLeaves blank) :: _
        rw [Property.skeleton_localize hq]
        exact congrArg _ ih
      · rfl

theorem leaves_localizeItems (items : Option Property) :
    localPaths (leavesOfItems items) =
      (leavesOfItems (localizeItems items).1, (localizeItems items).2) := by
  cases items with
  | none => rfl
  | some p =>
      rw [localizeItems]
      split
      · rename_i q hq
        exact localPaths_append (Property.leaves_localize_ok hq) []
      · rename_i hq
        exact localPaths_append_fault (Property.leaves_localize_error hq) []

theorem skeleton_localizeItems (items : Option Property) :
    (localizeItems items).1.map (Property.mapLeaves blank) =
      items.map (Property.mapLeaves blank) := by
  cases items with
  | none => rfl
  | some p =>
      rw [localizeItems]
      split
      · rename_i q hq
        exact congrArg some (Property.skeleton_localize hq)
      · rfl

/-! ### Schemas -/

namespace Schema

mutual

/-- **Localizing a schema walks over its leaves.** -/
theorem leaves_localize :
    ∀ s : Schema, localPaths s.leaves = (s.localize.1.leaves, s.localize.2)
  | ⟨_, _, _, properties, _, allOf, _, _, items, _⟩ => by
      have hproperties : localPaths (leavesOfEntries properties.entries) =
          (leavesOfEntries properties.localize.1.entries, properties.localize.2) :=
        leaves_localizeEntries properties.entries
      have hitems := leaves_localizeItems items
      rw [leaves, localize]
      split
      · rename_i q e hq
        rw [hq] at hproperties
        rw [localPaths_append_fault hproperties, leaves]
      · rename_i q hq
        rw [hq] at hproperties
        rw [localPaths_append hproperties]
        split
        · rename_i i e hi
          rw [hi] at hitems
          rw [localPaths_append_fault hitems, leaves]
        · rename_i i hi
          rw [hi] at hitems
          rw [localPaths_append hitems, leaves_localizeParts allOf, leaves]

theorem leaves_localizeParts :
    ∀ parts : List (OrRef Schema),
      localPaths (leavesOfParts parts) =
        (leavesOfParts (localizeParts parts).1, (localizeParts parts).2)
  | [] => rfl
  | .ref _ :: rest => by
      rw [localizeParts, leavesOfParts, leaves_localizeParts rest, leavesOfParts]
  | .inline schema :: rest => by
      have hschema := leaves_localize schema
      rw [leavesOfParts, localizeParts]
      split
      · rename_i s e hs
        rw [hs] at hschema
        rw [localPaths_append_fault hschema, leavesOfParts]
      · rename_i s hs
        rw [hs] at hschema
        rw [localPaths_append hschema, leaves_localizeParts rest, leavesOfParts]

end

mutual

/-- **Localizing keeps everything but the leaves.** -/
theorem skeleton_localize : ∀ s : Schema, s.localize.1.skeleton = s.skeleton
  | ⟨_, _, _, properties, _, allOf, _, _, items, _⟩ => by
      have hproperties : properties.localize.1.mapValues (Property.mapLeaves blank) =
          properties.mapValues (Property.mapLeaves blank) :=
        Dict.ext (skeleton_localizeEntries properties.entries)
      have hitems := skeleton_localizeItems items
      rw [localize]
      split
      · rename_i q e hq
        rw [hq] at hproperties
        rw [skeleton, mapLeaves, hproperties, skeleton, mapLeaves]
      · rename_i q hq
        rw [hq] at hproperties
        split
        · rename_i i e hi
          rw [hi] at hitems
          rw [skeleton, mapLeaves, hproperties, hitems, skeleton, mapLeaves]
        · rename_i i hi
          rw [hi] at hitems
          rw [skeleton, mapLeaves, hproperties, hitems, skeleton_localizeParts allOf, skeleton,
            mapLeaves]

theorem skeleton_localizeParts :
    ∀ parts : List (OrRef Schema),
      mapPartLeaves blank (localizeParts parts).1 = mapPartLeaves blank parts
  | [] => rfl
  | .ref _ :: rest => by
      rw [localizeParts, mapPartLeaves, skeleton_localizeParts rest, mapPartLeaves]
  | .inline schema :: rest => by
      have hschema := skeleton_localize schema
      rw [localizeParts]
      split
      · rename_i s e hs
        rw [hs] at hschema
        rw [mapPartLeaves, mapPartLeaves]
        exact congrArg (OrRef.inline · :: _) hschema
      · rename_i s hs
        rw [hs] at hschema
        rw [mapPartLeaves, mapPartLeaves, skeleton_localizeParts rest]
        exact congrArg (OrRef.inline · :: _) hschema

end

/-- Putting `#/definitions` back in front of a local path restores the path. -/
theorem restored_path (name : String) :
    "#/definitions" ++ ("/" ++ name) = definitionsStart ++ name := by
  rw [← String.append_assoc]
  rfl

/-- **What localizing yields.**  The leaves, in the order of the walk, are references up to
a frontier.  Those before it lose the prefix, the first one behind it is the fault, and
the result is the one schema that has these leaves and is like the original everywhere
else.  Where nothing is left behind the frontier, putting the prefix back restores the
original. -/
theorem localize_frontier (s : Schema) :
    ∃ names rest : List String,
      s.leaves = names.map (definitionsStart ++ ·) ++ rest ∧ (∀ name ∈ names, name ≠ "") ∧
        (∀ path ∈ rest.head?, ¬IsReference path) ∧
        (rest = [] ↔ ∀ path ∈ s.leaves, IsReference path) ∧
        s.localize.2 = rest.head?.map .malformedReference ∧
        (∀ t : Schema, t = s.localize.1 ↔
          t.skeleton = s.skeleton ∧ t.leaves = names.map ("/" ++ ·) ++ rest) ∧
        (rest = [] → s.localize.1.mapLeaves ("#/definitions" ++ ·) = s) := by
  obtain ⟨names, rest, hleaves, hnames, hrest, hwalk⟩ := localPaths_frontier s.leaves
  rw [s.leaves_localize, Prod.mk.injEq] at hwalk
  obtain ⟨hlocal, hfault⟩ := hwalk
  refine ⟨names, rest, hleaves, hnames, hrest, ?_, hfault, ?_, ?_⟩
  · constructor
    · rintro rfl path hpath
      rw [hleaves, List.append_nil] at hpath
      obtain ⟨name, hname, rfl⟩ := List.mem_map.mp hpath
      exact ⟨name, hnames name hname, rfl⟩
    · intro hall
      cases rest with
      | nil => rfl
      | cons bad rest =>
          have hbad : bad ∈ s.leaves := by
            rw [hleaves]
            exact List.mem_append_right _ List.mem_cons_self
          exact absurd (hall bad hbad) (hrest bad rfl)
  · intro t
    constructor
    · rintro rfl
      exact ⟨s.skeleton_localize, hlocal⟩
    · rintro ⟨hskeleton, ht⟩
      exact eq_of_leaves (hskeleton.trans s.skeleton_localize.symm) (ht.trans hlocal.symm)
  · rintro rfl
    refine eq_of_leaves ((skeleton_mapLeaves _ _).trans s.skeleton_localize) ?_
    rw [leaves_mapLeaves, hlocal, hleaves, List.append_nil, List.append_nil, List.map_map]
    exact List.map_congr_left fun name _ => restored_path name

/-! ### A second time -/

/-- A schema that is localized has the names behind the prefix at its leaves. -/
theorem exists_names_of_localize {s s' : Schema} (h : s.localize = (s', none)) :
    ∃ names : List String, (∀ name ∈ names, name ≠ "") ∧
      s.leaves = names.map (definitionsStart ++ ·) ∧ s'.leaves = names.map ("/" ++ ·) := by
  refine exists_names_of_localPaths ?_
  rw [s.leaves_localize, h]

/-- **A schema with local paths stays as it is,** and the first of them is the fault. -/
theorem localize_of_local {s : Schema} {names : List String}
    (h : s.leaves = names.map ("/" ++ ·)) :
    s.localize = (s, names.head?.map fun name => .malformedReference ("/" ++ name)) := by
  have hwalk := s.leaves_localize
  rw [h, localPaths_local, Prod.mk.injEq] at hwalk
  obtain ⟨hleaves, hfault⟩ := hwalk
  have hsame : s.localize.1 = s := eq_of_leaves s.skeleton_localize (hleaves.symm.trans h.symm)
  exact Prod.ext hsame hfault.symm

/-- **A schema is localized once.**  Localizing it again changes nothing.  That succeeds only
where no leaf is a reference.  Otherwise the fault is the first leaf, with the path that it has
by then. -/
theorem localizedOnce (s s' : Schema) (h : s.localize = (s', none)) :
    s'.localize.1 = s' ∧ (s'.localize.2 = none ↔ s.leaves = []) ∧
      ∀ path rest, s.leaves = path :: rest → ∃ name, name ≠ "" ∧
        path = "#/definitions/" ++ name ∧
        s'.localize.2 = some (.malformedReference ("/" ++ name)) := by
  obtain ⟨names, hnames, hleaves, hlocal⟩ := exists_names_of_localize h
  rw [localize_of_local hlocal, hleaves]
  refine ⟨rfl, ?_, ?_⟩
  · rw [Option.map_eq_none_iff, List.head?_eq_none_iff, List.map_eq_nil_iff]
  · intro path rest hfirst
    obtain ⟨name, behind, rfl, rfl, -⟩ := List.map_eq_cons_iff.mp hfirst
    exact ⟨name, hnames name List.mem_cons_self, rfl, rfl⟩

/-- A composition whose only leaf is deep down and refers to a definition with the prefix in its
name. -/
def echoSchema : Schema where
  allOf := [.ref "#/definitions/Animal", .inline {
    allOf := [.inline { items := some (.array (.ref "#/definitions/#/definitions/x") {}) }] }]

theorem localizedOnce_echo :
    ∃ echo, echoSchema.localize = (echo, none) ∧
      echo.localize.2 = some (.malformedReference "/#/definitions/x") ∧ echo.localize.1 = echo := by
  have h : echoSchema.localize = (echoSchema.localize.1, none) := by
    refine Prod.ext rfl ?_
    decide +kernel
  obtain ⟨hsame, -, hfault⟩ := localizedOnce echoSchema _ h
  obtain ⟨name, -, hpath, hagain⟩ :=
    hfault ("#/definitions/" ++ "#/definitions/x") [] (by decide +kernel)
  rw [← (String.append_right_inj _).mp hpath] at hagain
  exact ⟨_, h, hagain, hsame⟩

end Schema

end SwaggerClient
