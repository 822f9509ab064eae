/-
Documents come back from what is written for them.

Reading sorts the free values of a document and drops what it does not know, so what is
written for a document differs from the text that it was read from.  But reading that once
more gives the document back, and the same goes for each of its schemas once it is
localized, which is what a model keeps of it (`roundTrip_of_document`).

For the data that are written this holds without more ado.  A text holds numbers by their
digits, and the last bit of a double may get lost when these are read.  Where that does not
happen, the texts come back as well.
-/
import SwaggerClient.Format
import SwaggerClient.Client.Model
import SwaggerClient.Proofs.Outcome
import SwaggerClient.Proofs.Json.Numbers
import SwaggerClient.Proofs.Swagger.Nesting

namespace SwaggerClient

variable {α : Type}

/-! ### Reading a document -/

theorem exists_datum_of_decode {shape : Shape} {decoder : Datum → Option α} {text : String} {x : α}
    (h : Format.json.decode shape decoder text = .ok x) :
    ∃ d : Datum, d.Plain ∧ shape.admits Json.maxDepth d = true ∧ decoder d = some x := by
  unfold Format.decode at h
  split at h
  · rename_i value hvalue
    obtain ⟨d, hread, hdatum⟩ := Option.bind_eq_some_iff.mp hvalue
    obtain ⟨hparse, hadmits⟩ := Option.filter_eq_some_iff.mp hread
    exact ⟨d, Json.plain_of_parse hparse, hadmits, Except.ok.inj h ▸ hdatum⟩
  · cases h

/-- The text of a value is read if its data are, and if it is not nested too deep. -/
theorem decode_pretty {shape : Shape} {decoder : Datum → Option α} {v : Json} {x : α}
    (hnested : v.Nested Json.maxDepth) (hlegible : v.Legible)
    (hdatum : decoder v.toDatum = some x) : Format.json.decode shape decoder v.pretty = .ok x := by
  have hspelled := hnested.spelled hlegible
  have hread : Json.read? shape v.pretty = some v.toDatum := by
    rw [Json.read?, Json.parse?_pretty hspelled]
    exact Option.filter_eq_some_iff.mpr ⟨rfl, Shape.admits_of_fits hspelled.fits⟩
  have hbind : (Format.json.read? shape v.pretty).bind decoder = some x := by
    rw [Format.read?, hread]
    exact hdatum
  rw [Format.decode, hbind]

theorem document_eq_ok_iff {text : String} {doc : Document} :
    Format.json.document text = .ok doc ↔
      Format.json.decode Document.shape Document.ofDatum? text = .ok doc ∧
        doc.swagger = Document.supportedVersion := by
  unfold Format.document
  rw [bind_eq_ok_iff]
  constructor
  · rintro ⟨doc', hdecode, hversion⟩
    unfold Document.checkVersion at hversion
    split at hversion
    · rename_i hsupported
      rw [← Except.ok.inj hversion]
      exact ⟨hdecode, hsupported⟩
    · cases hversion
  · rintro ⟨hdecode, hversion⟩
    exact ⟨doc, hdecode, if_pos hversion⟩

/-- A model keeps its schema as it is written once it is localized. -/
theorem Naming.modelJson_of_model {naming : Naming} {definitions : Dict Schema} {name : String}
    {schema : Schema} {m : Model} (h : naming.model definitions name schema = .ok m) :
    ∃ s, schema.localize = (s, none) ∧ m.modelJson = some s.toJson.pretty := by
  obtain ⟨outline, properties, s, -, -, hs, rfl⟩ := model_eq_ok h
  exact ⟨s, hs, rfl⟩

/-! ### Writing and reading again -/

/-- A document comes back from its data, and from its text if the doubles in it do. -/
structure Document.ComesBack (doc : Document) : Prop where
  data : Document.ofDatum? doc.toJson.toDatum = some doc
  text : doc.toJson.Legible → Format.json.document doc.toJson.pretty = .ok doc

/-- A schema comes back from its data, and from its text if the doubles in it do. -/
structure Schema.ComesBack (s : Schema) : Prop where
  data : Schema.ofDatum? s.toJson.toDatum = some s
  text : s.toJson.Legible → Format.json.schema s.toJson.pretty = .ok s

theorem Schema.comesBack_of_settled {s : Schema} (hsettled : s.Settled)
    (hnested : s.toJson.Nested Json.maxDepth) : s.ComesBack where
  data := ofDatum?_toJson hsettled
  text := fun hlegible => decode_pretty hnested hlegible (ofDatum?_toJson hsettled)

/-- What is written for a document, and for what becomes of its schemas, is read again. -/
structure RoundTrip (doc : Document) : Prop where
  document : doc.ComesBack
  /-- The schemas of the definitions and their parts at every depth. -/
  part : ∀ definition ∈ doc.definitions.entries, ∀ part ∈ definition.2.everyPart, part.ComesBack
  /-- The same ones, localized as far as that gets. -/
  localized : ∀ definition ∈ doc.definitions.entries, ∀ part ∈ definition.2.everyPart,
    part.localize.1.ComesBack
  /-- What a model keeps of its schema. -/
  model : ∀ definition ∈ doc.definitions.entries, ∀ (naming : Naming) (m : Model),
    naming.model doc.definitions definition.1 definition.2 = .ok m →
      ∃ s, definition.2.localize = (s, none) ∧ m.modelJson = some s.toJson.pretty ∧ s.ComesBack
  /-- If the doubles of the document come back, so do those of all its schemas. -/
  legible : doc.toJson.Legible → ∀ definition ∈ doc.definitions.entries,
    ∀ part ∈ definition.2.everyPart, part.toJson.Legible ∧ part.localize.1.toJson.Legible

/-- **A document that was read comes back from what is written for it,** and so do its
schemas, localized or not. -/
theorem roundTrip_of_document (text : String) (doc : Document)
    (h : Format.json.document text = .ok doc) : RoundTrip doc := by
  obtain ⟨hdecode, hversion⟩ := document_eq_ok_iff.mp h
  obtain ⟨d, hplain, hadmits, hdatum⟩ := exists_datum_of_decode hdecode
  have hsettled : doc.Settled := Document.yields_settled d doc hplain hdatum
  have hnested : doc.toJson.Nested Json.maxDepth := Document.keeps _ d doc ⟨hplain, hadmits⟩ hdatum
  have hlocalized : ∀ definition ∈ doc.definitions.entries, ∀ part ∈ definition.2.everyPart,
      part.localize.1.ComesBack := fun definition hdefinition part hpart =>
    Schema.comesBack_of_settled ((hsettled.definitions definition hdefinition).part hpart).localize
      (Schema.within_localize (Schema.within_part (Document.within_definition hnested hdefinition)
        hpart))
  refine ⟨⟨Document.ofDatum?_toJson hsettled, fun hlegible => ?_⟩, ?_, hlocalized, ?_, ?_⟩
  · exact document_eq_ok_iff.mpr
      ⟨decode_pretty hnested hlegible (Document.ofDatum?_toJson hsettled), hversion⟩
  · exact fun definition hdefinition part hpart =>
      Schema.comesBack_of_settled ((hsettled.definitions definition hdefinition).part hpart)
        (Schema.within_part (Document.within_definition hnested hdefinition) hpart)
  · intro definition hdefinition naming m hm
    obtain ⟨s, hs, hjson⟩ := Naming.modelJson_of_model hm
    have hself : definition.2 ∈ definition.2.everyPart := by
      rw [Schema.everyPart_eq]
      exact List.mem_cons_self
    have hback := hlocalized definition hdefinition definition.2 hself
    rw [hs] at hback
    exact ⟨s, hs, hjson, hback⟩
  · rintro ⟨n, hlegible⟩ definition hdefinition part hpart
    have hwithin := Schema.within_part (Document.within_definition hlegible hdefinition) hpart
    exact ⟨⟨n, hwithin⟩, ⟨n, Schema.within_localize hwithin⟩⟩

/-- The names in an object, in order. -/
def Json.names : Json → List String
  | object members => members.map Prod.fst
  | _ => []

/-- A document with its fields out of order, one that is not known, and a free value. -/
def crateText : String :=
  "\x7b\"x-note\":[],\"info\":\x7b\"version\":\"1\",\"title\":\"\"\x7d,\"definitions\":" ++
    "\x7b\"B\":\x7b\"items\":\x7b\"$ref\":\"#/definitions/A\"\x7d\x7d,\"A\":" ++
      "\x7b\"example\":\x7b\"b\":2.5,\"a\":1\x7d,\"title\":null\x7d\x7d,\"swagger\":\"2.0\"\x7d"

theorem roundTrip_crate :
    ∃ doc, Format.json.document crateText = .ok doc ∧
      doc.toJson.names = ["swagger", "info", "definitions"] ∧
      doc.definitions.keys = ["B", "A"] ∧
      (doc.definitions.entries.filterMap fun e => e.2.sample.map Json.names) = [["a", "b"]] ∧
      Format.json.document doc.toJson.pretty = .ok doc ∧ RoundTrip doc := by
  have hview : (Format.json.document crateText).toOption.map (fun doc =>
      (doc.toJson.names, doc.definitions.keys,
        (doc.definitions.entries.filterMap fun e => e.2.sample.map Json.names),
        Json.checks Json.spellsDouble 8 doc.toJson)) =
      some (["swagger", "info", "definitions"], ["B", "A"], [["a", "b"]], true) := by
    decide +kernel
  obtain ⟨doc, hdoc, hseen⟩ := exists_ok_of_map hview
  simp only [Prod.mk.injEq] at hseen
  obtain ⟨hnames, hkeys, hsamples, hchecks⟩ := hseen
  have hround := roundTrip_of_document crateText doc hdoc
  exact ⟨doc, hdoc, hnames, hkeys, hsamples,
    hround.document.text (Json.legible_of_checks hchecks), hround⟩

end SwaggerClient
