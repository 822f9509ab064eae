/-
References to definitions, and localizing them to paths of the generated library.

`#/definitions/Pet` becomes `/Pet`.  Any other form is malformed, a path that is local
already included.  Localizing a schema goes through its properties, its items and its parts
in place, in this order, and stops at the first malformed reference: what was localized
before stays localized.  References among the parts of a composition keep their full path.
-/
import SwaggerClient.Swagger.Document

namespace SwaggerClient

/-- What every reference to a definition begins with. -/
def definitionsStart : String := "#/definitions/"

/-- The name of the definition that a path refers to. -/
def definitionName (path : String) : Except ResolveError String :=
  match Text.stripStart? definitionsStart path with
  | none => .error (.malformedReference path)
  | some name => if name = "" then .error (.malformedReference path) else .ok name

/-- The path of a reference inside the generated library. -/
def localPath (path : String) : Except ResolveError String :=
  match definitionName path with
  | .ok name => .ok ("/" ++ name)
  | .error e => .error e

/-- Localizes the reference at the leaf of a descriptor. -/
def Property.localize : Property → Except ResolveError Property
  | ref path =>
    match localPath path with
    | .ok path => .ok (ref path)
    | .error e => .error e
  | array items facets =>
    match items.localize with
    | .ok items => .ok (array items facets)
    | .error e => .error e
  | primitive facets => .ok (primitive facets)

/-! ### Localizing in place

Every function yields the new value together with the fault that ended it early.
-/

/-- Localizes the reference at the leaf of a descriptor where it stands. -/
def Property.localizeInPlace : Property → Property × Option ResolveError
  | ref path =>
    match localPath path with
    | .ok path => (ref path, none)
    | .error e => (ref path, some e)
  | array items facets => (array items.localizeInPlace.1 facets, items.localizeInPlace.2)
  | primitive facets => (primitive facets, none)

/-- **In place, a descriptor is localized or stays as it is.** -/
theorem Property.localizeInPlace_eq (p : Property) :
    p.localizeInPlace = match p.localize with
      | .ok q => (q, none)
      | .error e => (p, some e) := by
  induction p with
  | ref path =>
    rw [localizeInPlace, localize]
    cases localPath path with
    | error e => rfl
    | ok path => rfl
  | array items facets ih =>
    rw [localizeInPlace, ih, localize]
    cases items.localize with
    | error e => rfl
    | ok q => rfl
  | primitive facets => rfl

/-- Localizes the values of entries up to the first fault. -/
def localizeEntries : List (String × Property) → List (String × Property) × Option ResolveError
  | [] => ([], none)
  | (key, p) :: rest =>
    match p.localize with
    | .ok q => ((key, q) :: (localizeEntries rest).1, (localizeEntries rest).2)
    | .error e => ((key, p) :: rest, some e)

/-- Localizing changes no key. -/
theorem keys_localizeEntries (entries : List (String × Property)) :
    (localizeEntries entries).1.map Prod.fst = entries.map Prod.fst := by
  induction entries with
  | nil => rfl
  | cons e rest ih =>
    rw [localizeEntries]
    split <;> simp [ih]

/-- Localizes the values of a dictionary up to the first fault. -/
def Dict.localize (d : Dict Property) : Dict Property × Option ResolveError :=
  (⟨(localizeEntries d.entries).1, by rw [keys_localizeEntries]; exact d.nodup_keys⟩,
    (localizeEntries d.entries).2)

/-- Localizes a descriptor that may be missing. -/
def localizeItems : Option Property → Option Property × Option ResolveError
  | none => (none, none)
  | some p =>
    match p.localize with
    | .ok q => (some q, none)
    | .error e => (some p, some e)

namespace Schema

mutual

/-- Localizes a schema up to the first fault. -/
def localize : Schema → Schema × Option ResolveError
  | ⟨type, title, description, properties, required, allOf, discriminator, enumeration, items,
      sample⟩ =>
    match properties.localize with
    | (properties, some e) =>
      (⟨type, title, description, properties, required, allOf, discriminator, enumeration, items,
        sample⟩, some e)
    | (properties, none) =>
      match localizeItems items with
      | (items, some e) =>
        (⟨type, title, description, properties, required, allOf, discriminator, enumeration,
          items, sample⟩, some e)
      | (items, none) =>
        (⟨type, title, description, properties, required, (localizeParts allOf).1, discriminator,
          enumeration, items, sample⟩, (localizeParts allOf).2)

/-- Localizes the parts in place up to the first fault. -/
def localizeParts : List (OrRef Schema) → List (OrRef Schema) × Option ResolveError
  | [] => ([], none)
  | .ref path :: rest => (.ref path :: (localizeParts rest).1, (localizeParts rest).2)
  | .inline schema :: rest =>
    match schema.localize with
    | (schema, some e) => (.inline schema :: rest, some e)
    | (schema, none) => (.inline schema :: (localizeParts rest).1, (localizeParts rest).2)

end

end Schema

end SwaggerClient
