/-
The leaves of a schema: which references a localization visits, and what else there is.

`leaves` lists the visited paths in order, and `mapLeaves` changes them and nothing else.
A schema is decided by the two together (`Schema.eq_of_leaves`): the skeleton, which is
the schema with its leaves blanked, and the list of the paths.  So to say what a change of
the leaves does to a schema, it is enough to say what it does to the list and that it
keeps the skeleton.

References among the parts of a composition are no leaves.  They belong to the skeleton,
with their paths.
-/
import SwaggerClient.Reference
import Mathlib.Data.List.Basic

namespace SwaggerClient

/-- No path at all. -/
def blank (_ : String) : String := ""

/-! ### Descriptors -/

namespace Property

/-- The paths of the references at the leaf: at most one. -/
def leaves (p : Property) : List String := p.leafRef?.toList

/-- The descriptor with the path at its leaf changed. -/
def mapLeaves (f : String → String) : Property → Property
  | ref path => ref (f path)
  | array items facets => array (items.mapLeaves f) facets
  | primitive facets => primitive facets

theorem leaves_mapLeaves (f : String → String) (p : Property) :
    (p.mapLeaves f).leaves = p.leaves.map f := by
  induction p with
  | ref path => rfl
  | array items facets ih => exact ih
  | primitive facets => rfl

theorem mapLeaves_mapLeaves (f g : String → String) (p : Property) :
    (p.mapLeaves g).mapLeaves f = p.mapLeaves (f ∘ g) := by
  induction p with
  | ref path => rfl
  | array items facets ih => exact congrArg (array · facets) ih
  | primitive facets => rfl

theorem leaf_mapLeaves (f : String → String) (p : Property) :
    (p.mapLeaves f).leaf = p.leaf.mapLeaves f := by
  induction p with
  | ref path => rfl
  | array items facets ih => exact ih
  | primitive facets => rfl

theorem arrayDepth_mapLeaves (f : String → String) (p : Property) :
    (p.mapLeaves f).arrayDepth = p.arrayDepth := by
  induction p with
  | ref path => rfl
  | array items facets ih => exact congrArg (· + 1) ih
  | primitive facets => rfl

/-- A descriptor is decided by its skeleton and its leaf. -/
theorem eq_of_leaves {f : String → String} {p q : Property}
    (hs : p.mapLeaves f = q.mapLeaves f) (hl : p.leaves = q.leaves) : p = q := by
  induction p generalizing q with
  | ref path =>
      cases q with
      | ref path' => exact congrArg ref (List.cons.inj hl).1
      | array items facets => cases hs
      | primitive facets => cases hs
  | array items facets ih =>
      cases q with
      | ref path => cases hs
      | array items' facets' =>
          obtain ⟨hitems, hfacets⟩ := Property.array.inj hs
          rw [ih hitems hl, hfacets]
      | primitive facets' => cases hs
  | primitive facets =>
      cases q with
      | ref path => cases hs
      | array items facets' => cases hs
      | primitive facets' => exact hs

end Property

/-! ### Entries and items -/

/-- The leaves of entries in order. -/
def leavesOfEntries (entries : List (String × Property)) : List String :=
  entries.flatMap fun e => e.2.leaves

/-- Entries with their leaves changed. -/
def mapEntryLeaves (f : String → String) (entries : List (String × Property)) :
    List (String × Property) :=
  entries.map fun e => (e.1, e.2.mapLeaves f)

theorem leavesOfEntries_map (f : String → String) (entries : List (String × Property)) :
    leavesOfEntries (mapEntryLeaves f entries) = (leavesOfEntries entries).map f := by
  unfold leavesOfEntries mapEntryLeaves
  rw [List.flatMap_map, List.map_flatMap]
  exact List.flatMap_congr fun e _ => e.2.leaves_mapLeaves f

theorem mapEntryLeaves_map (f g : String → String) (entries : List (String × Property)) :
    mapEntryLeaves f (mapEntryLeaves g entries) = mapEntryLeaves (f ∘ g) entries := by
  unfold mapEntryLeaves
  rw [List.map_map]
  exact List.map_congr_left fun e _ => Prod.ext rfl (e.2.mapLeaves_mapLeaves f g)

/-- Two lists of leaves in a row are told apart by the skeletons, which fix their lengths. -/
theorem append_leaves_inj {f : String → String} {l l' m m' : List String}
    (hlen : l.map f = l'.map f) (h : l ++ m = l' ++ m') : l = l' ∧ m = m' := by
  refine List.append_inj h ?_
  rw [← List.length_map f, hlen, List.length_map]

theorem entries_eq_of_leaves {f : String → String} {es es' : List (String × Property)}
    (hs : mapEntryLeaves f es = mapEntryLeaves f es')
    (hl : leavesOfEntries es = leavesOfEntries es') : es = es' := by
  induction es generalizing es' with
  | nil =>
      cases es' with
      | nil => rfl
      | cons e' es' => cases hs
  | cons e es ih =>
      cases es' with
      | nil => cases hs
      | cons e' es' =>
          obtain ⟨he, hes⟩ := List.cons.inj hs
          obtain ⟨hkey, hp⟩ := Prod.mk.inj he
          have hlen := congrArg Property.leaves hp
          rw [Property.leaves_mapLeaves, Property.leaves_mapLeaves] at hlen
          obtain ⟨hhead, htail⟩ := append_leaves_inj hlen hl
          rw [Prod.ext hkey (Property.eq_of_leaves hp hhead), ih hes htail]

/-- The leaves of a descriptor that may be missing. -/
def leavesOfItems (items : Option Property) : List String := items.toList.flatMap Property.leaves

theorem leavesOfItems_map (f : String → String) (items : Option Property) :
    leavesOfItems (items.map (Property.mapLeaves f)) = (leavesOfItems items).map f := by
  cases items with
  | none => rfl
  | some p =>
      show (p.mapLeaves f).leaves ++ [] = (p.leaves ++ []).map f
      rw [List.append_nil, List.append_nil, p.leaves_mapLeaves]

theorem items_eq_of_leaves {f : String → String} {items items' : Option Property}
    (hs : items.map (Property.mapLeaves f) = items'.map (Property.mapLeaves f))
    (hl : leavesOfItems items = leavesOfItems items') : items = items' := by
  cases items with
  | none =>
      cases items' with
      | none => rfl
      | some p' => cases hs
  | some p =>
      cases items' with
      | none => cases hs
      | some p' =>
          have hleaf : p.leaves = p'.leaves := by
            rw [← List.append_nil p.leaves, ← List.append_nil p'.leaves]
            exact hl
          rw [Property.eq_of_leaves (Option.some.inj hs) hleaf]

/-! ### Schemas -/

namespace Schema

mutual

/-- The paths of all leaves: of the properties, then of the items, then of the parts in
place. -/
def leaves : Schema → List String
  | ⟨_, _, _, properties, _, allOf, _, _, items, _⟩ =>
    leavesOfEntries properties.entries ++ (leavesOfItems items ++ leavesOfParts allOf)

/-- The paths of the leaves of the parts in place. -/
def leavesOfParts : List (OrRef Schema) → List String
  | [] => []
  | .ref _ :: rest => leavesOfParts rest
  | .inline schema :: rest => schema.leaves ++ leavesOfParts rest

end

mutual

/-- The schema with the paths at its leaves changed. -/
def mapLeaves (f : String → String) : Schema → Schema
  | ⟨type, title, description, properties, required, allOf, discriminator, enumeration, items,
      sample⟩ =>
    ⟨type, title, description, properties.mapValues (Property.mapLeaves f), required,
      mapPartLeaves f allOf, discriminator, enumeration, items.map (Property.mapLeaves f), sample⟩

/-- Parts with the paths at their leaves changed. -/
def mapPartLeaves (f : String → String) : List (OrRef Schema) → List (OrRef Schema)
  | [] => []
  | .ref path :: rest => .ref path :: mapPartLeaves f rest
  | .inline schema :: rest => .inline (schema.mapLeaves f) :: mapPartLeaves f rest

end

/-- The schema with its leaves blanked: everything that localizing leaves alone. -/
def skeleton (schema : Schema) : Schema := schema.mapLeaves blank

mutual

theorem leaves_mapLeaves (f : String → String) :
    ∀ s : Schema, (s.mapLeaves f).leaves = s.leaves.map f
  | ⟨_, _, _, properties, _, allOf, _, _, items, _⟩ => by
      rw [mapLeaves, leaves, leaves, List.map_append, List.map_append]
      rw [leavesOfParts_map f allOf, leavesOfItems_map]
      exact congrArg (· ++ _) (leavesOfEntries_map f properties.entries)

theorem leavesOfParts_map (f : String → String) :
    ∀ parts : List (OrRef Schema),
      leavesOfParts (mapPartLeaves f parts) = (leavesOfParts parts).map f
  | [] => rfl
  | .ref _ :: rest => by
      rw [mapPartLeaves, leavesOfParts, leavesOfParts, leavesOfParts_map f rest]
  | .inline schema :: rest => by
      rw [mapPartLeaves, leavesOfParts, leavesOfParts, List.map_append,
        leaves_mapLeaves f schema, leavesOfParts_map f rest]

end

mutual

theorem mapLeaves_mapLeaves (f g : String → String) :
    ∀ s : Schema, (s.mapLeaves g).mapLeaves f = s.mapLeaves (f ∘ g)
  | ⟨_, _, _, properties, _, allOf, _, _, items, _⟩ => by
      have hproperties : (properties.mapValues (Property.mapLeaves g)).mapValues
          (Property.mapLeaves f) = properties.mapValues (Property.mapLeaves (f ∘ g)) :=
        Dict.ext (mapEntryLeaves_map f g properties.entries)
      have hitems : (items.map (Property.mapLeaves g)).map (Property.mapLeaves f) =
          items.map (Property.mapLeaves (f ∘ g)) := by
        rw [Option.map_map]
        exact congrFun (congrArg _ (funext fun p => p.mapLeaves_mapLeaves f g)) items
      rw [mapLeaves, mapLeaves, mapLeaves, hproperties, hitems, mapPartLeaves_map f g allOf]

theorem mapPartLeaves_map (f g : String → String) :
    ∀ parts : List (OrRef Schema),
      mapPartLeaves f (mapPartLeaves g parts) = mapPartLeaves (f ∘ g) parts
  | [] => rfl
  | .ref _ :: rest => by
      rw [mapPartLeaves, mapPartLeaves, mapPartLeaves, mapPartLeaves_map f g rest]
  | .inline schema :: rest => by
      rw [mapPartLeaves, mapPartLeaves, mapPartLeaves, mapLeaves_mapLeaves f g schema,
        mapPartLeaves_map f g rest]

end

mutual

/-- **A schema is decided by its skeleton and its leaves.** -/
theorem eq_of_leaves {f : String → String} :
    ∀ {s t : Schema}, s.mapLeaves f = t.mapLeaves f → s.leaves = t.leaves → s = t
  | ⟨_, _, _, properties, _, allOf, _, _, items, _⟩,
    ⟨_, _, _, properties', _, allOf', _, _, items', _⟩, hs, hl => by
      rw [mapLeaves, mapLeaves, Schema.mk.injEq] at hs
      obtain ⟨htype, htitle, hdescription, hproperties, hrequired, hallOf, hdiscriminator,
        henumeration, hitems, hsample⟩ := hs
      have hentries : mapEntryLeaves f properties.entries = mapEntryLeaves f properties'.entries :=
        congrArg Dict.entries hproperties
      have hlenEntries := congrArg leavesOfEntries hentries
      rw [leavesOfEntries_map, leavesOfEntries_map] at hlenEntries
      have hlenItems := congrArg leavesOfItems hitems
      rw [leavesOfItems_map, leavesOfItems_map] at hlenItems
      rw [leaves, leaves] at hl
      obtain ⟨hlEntries, hl⟩ := append_leaves_inj hlenEntries hl
      obtain ⟨hlItems, hlParts⟩ := append_leaves_inj hlenItems hl
      rw [htype, htitle, hdescription, Dict.ext (entries_eq_of_leaves hentries hlEntries),
        hrequired, parts_eq_of_leaves hallOf hlParts, hdiscriminator, henumeration,
        items_eq_of_leaves hitems hlItems, hsample]

theorem parts_eq_of_leaves {f : String → String} :
    ∀ {parts parts' : List (OrRef Schema)}, mapPartLeaves f parts = mapPartLeaves f parts' →
      leavesOfParts parts = leavesOfParts parts' → parts = parts'
  | [], [], _, _ => rfl
  | [], .ref _ :: _, hs, _ => by cases hs
  | [], .inline _ :: _, hs, _ => by cases hs
  | .ref _ :: _, [], hs, _ => by cases hs
  | .inline _ :: _, [], hs, _ => by cases hs
  | .ref _ :: _, .inline _ :: _, hs, _ => by cases hs
  | .inline _ :: _, .ref _ :: _, hs, _ => by cases hs
  | .ref _ :: rest, .ref _ :: rest', hs, hl => by
      rw [mapPartLeaves, mapPartLeaves] at hs
      obtain ⟨hpart, hrest⟩ := List.cons.inj hs
      rw [OrRef.ref.inj hpart, parts_eq_of_leaves hrest hl]
  | .inline s :: rest, .inline s' :: rest', hs, hl => by
      rw [mapPartLeaves, mapPartLeaves] at hs
      obtain ⟨hpart, hrest⟩ := List.cons.inj hs
      have hskel := OrRef.inline.inj hpart
      have hlen := congrArg leaves hskel
      rw [leaves_mapLeaves, leaves_mapLeaves] at hlen
      rw [leavesOfParts, leavesOfParts] at hl
      obtain ⟨hls, hlrest⟩ := append_leaves_inj hlen hl
      rw [eq_of_leaves hskel hls, parts_eq_of_leaves hrest hlrest]

end

/-- Changing leaves keeps the skeleton. -/
theorem skeleton_mapLeaves (f : String → String) (s : Schema) :
    (s.mapLeaves f).skeleton = s.skeleton :=
  s.mapLeaves_mapLeaves _ f

end Schema

end SwaggerClient
