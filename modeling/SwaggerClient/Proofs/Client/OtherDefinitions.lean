/-
What a model owes to the other definitions.

The only place where the definitions of a document are looked into is the look-up of what a
reference among the parts leads to, and it asks whether the name is there and for nothing
else (`existingDefinition_mono`, `existingDefinition_congr`).  So a model depends on the other
definitions through their names.  With the same names, in any order and with any bodies, it is
the same, and so is the fault if there is none; with more names a model stays what it was
(`Naming.model_congr`, `Naming.model_mono`).

A document can therefore be changed definition by definition.  Grouping does not look into
the definitions at all (`Naming.operationSets_define`), so all that a new definition needs to
keep a pass going is a model of its own, and whatever it is, no other model notices
(`namesOnly`).
-/
import SwaggerClient.Proofs.Client.Overlooked
import SwaggerClient.Proofs.Client.Stages

namespace SwaggerClient

/-! ### Models -/

section Models

variable {definitions definitions' : Dict Schema}

theorem existingDefinition_mono (hkeys : definitions.keys ⊆ definitions'.keys)
    {path name : String} (h : existingDefinition definitions path = .ok name) :
    existingDefinition definitions' path = .ok name := by
  obtain ⟨hname, hmem⟩ := Naming.existingDefinition_eq_ok h
  unfold existingDefinition
  rw [hname]
  exact if_pos (Dict.contains_iff.mpr (hkeys hmem))

theorem existingDefinition_congr (hkeys : ∀ key, key ∈ definitions'.keys ↔ key ∈ definitions.keys) :
    existingDefinition definitions' = existingDefinition definitions := by
  have hcontains : ∀ key, definitions'.contains key = definitions.contains key := by
    intro key
    rw [Bool.eq_iff_iff, Dict.contains_iff, Dict.contains_iff]
    exact hkeys key
  funext path
  unfold existingDefinition
  cases definitionName path with
  | error e => rfl
  | ok name =>
      dsimp only
      rw [hcontains]

namespace Naming

variable {naming : Naming} {name : String} {schema : Schema} {m : Model}

theorem outline_mono (hkeys : definitions.keys ⊆ definitions'.keys)
    (h : naming.outline? definitions name schema = .ok m) :
    naming.outline? definitions' name schema = .ok m := by
  obtain ⟨parents, properties, hparents, hproperties, rfl⟩ := outline_eq_ok h
  have hparents' : schema.partRefs.mapM (existingDefinition definitions') = .ok parents :=
    mapM_mono (fun _ _ => existingDefinition_mono hkeys) hparents
  simp only [outline?, hparents', hproperties, bind, Except.bind, pure, Except.pure]

/-- **More definitions change no model.** -/
theorem model_mono (hkeys : definitions.keys ⊆ definitions'.keys)
    (h : naming.model definitions name schema = .ok m) :
    naming.model definitions' name schema = .ok m := by
  obtain ⟨outline, properties, s, houtline, hproperties, hs, rfl⟩ := model_eq_ok h
  have houtline' := outline_mono hkeys houtline
  rw [model, mapError_eq_ok_iff, model?]
  simp only [houtline', hproperties, hs, bind, Except.bind, pure, Except.pure]

/-- **Other bodies and another order change nothing,** neither the model nor the fault. -/
theorem model_congr (hkeys : ∀ key, key ∈ definitions'.keys ↔ key ∈ definitions.keys) :
    naming.model definitions' name schema = naming.model definitions name schema := by
  simp only [model, model?, outline?, existingDefinition_congr hkeys]

end Naming

end Models

/-! ### Documents -/

/-- The document with a definition written into it: one more, or another body for one that it
has. -/
def Document.define (doc : Document) (key : String) (body : Schema) : Document :=
  { doc with definitions := doc.definitions.insert key body }

section Documents

variable {doc : Document} {key : String} {body : Schema}

theorem Document.keys_subset_define :
    doc.definitions.keys ⊆ (doc.define key body).definitions.keys := by
  intro name hname
  show name ∈ (doc.definitions.insert key body).keys
  rw [Dict.keys_insert]
  exact List.mem_append_left _ hname

theorem Document.find?_define {name : String} (h : name ≠ key) :
    (doc.define key body).definitions.find? name = doc.definitions.find? name := by
  show (doc.definitions.insert key body).find? name = _
  rw [Dict.find?_insert, if_neg h]

/-- Grouping does not notice definitions. -/
theorem sameToGrouping_define : SameToGrouping doc (doc.define key body) where
  consumes_eq := rfl
  produces_eq := rfl
  paths := by
    refine List.forall₂_same.mpr ?_
    intro e _
    refine ⟨rfl, ?_⟩
    intro method
    cases e.2.operation? method with
    | none => exact .none
    | some op =>
        refine .some ⟨rfl, rfl, rfl, List.forall₂_same.mpr fun _ _ => rfl, ?_, rfl⟩
        refine List.forall₂_same.mpr ?_
        intro entry _
        show SameOutcome _ (doc.resolveParameter entry) (doc.resolveParameter entry)
        cases doc.resolveParameter entry with
        | error e => exact .error e
        | ok p => exact .ok (Or.inl rfl)

theorem Naming.operationSets_define (naming : Naming) :
    naming.operationSets (doc.define key body) = naming.operationSets doc :=
  sameToGrouping_define.operationSets_eq naming

/-- A definition that two documents share has one model in both, if one of them has at least
the names of the other. -/
theorem model?_eq_of_shared {config : Config} {doc' : Document} {pass pass' : Pass}
    (hkeys : doc.definitions.keys ⊆ doc'.definitions.keys) (h : generate config doc = .ok pass)
    (h' : generate config doc' = .ok pass') {name : String}
    (hshared : doc'.definitions.find? name = doc.definitions.find? name) :
    pass'.model? name = pass.model? name := by
  rw [model?_eq h', hshared]
  cases hfind : doc.definitions.find? name with
  | none => rw [model?_eq h, hfind, Option.bind_none, Option.bind_none]
  | some schema =>
      obtain ⟨m, hm, hmodel⟩ := model?_definition h (Dict.find?_eq_some_iff.mp hfind)
      rw [hm, Option.bind_some, Naming.model_mono hkeys hmodel]
      rfl

/-- **A pass survives a definition that has a model.** -/
theorem exists_generate_define {config : Config} {pass : Pass} {m : Model}
    (h : generate config doc = .ok pass)
    (hm : config.naming.model (doc.define key body).definitions key body = .ok m) :
    ∃ pass', generate config (doc.define key body) = .ok pass' := by
  obtain ⟨hmodels, sets, -, hsets, -⟩ := generate_ok h
  have hall : ∀ e ∈ (doc.define key body).definitions.entries,
      ∃ m, config.naming.model (doc.define key body).definitions e.1 e.2 = .ok m := by
    intro e he
    rcases mem_putEntry he with rfl | hold
    · exact ⟨m, hm⟩
    · obtain ⟨m', -, hmodel⟩ := model?_definition h hold
      exact ⟨m', Naming.model_mono Document.keys_subset_define hmodel⟩
  obtain ⟨models, hmodels'⟩ := Naming.exists_allModels hall
  exact exists_generate hmodels' (config.naming.operationSets_define.trans hsets)

end Documents

/-! ### Summary -/

/-- A model depends on the other definitions through their names. -/
structure NamesOnly (naming : Naming) (name : String) (schema : Schema) : Prop where
  congr : ∀ definitions definitions' : Dict Schema,
    (∀ key, key ∈ definitions'.keys ↔ key ∈ definitions.keys) →
      naming.model definitions' name schema = naming.model definitions name schema
  mono : ∀ definitions definitions' : Dict Schema, definitions.keys ⊆ definitions'.keys →
    ∀ m, naming.model definitions name schema = .ok m →
      naming.model definitions' name schema = .ok m

/-- The models of a document do not notice what becomes of the rest of it. -/
structure Undisturbed (config : Config) (doc : Document) : Prop where
  /-- Whatever else a document with at least the same names has, the definitions that are the
  same in both have the same models. -/
  shared : ∀ doc' pass pass', doc.definitions.keys ⊆ doc'.definitions.keys →
    generate config doc = .ok pass → generate config doc' = .ok pass' →
      ∀ name, doc'.definitions.find? name = doc.definitions.find? name →
        pass'.model? name = pass.model? name
  /-- A definition may be added, or get another body, as long as it has a model. -/
  defined : ∀ key body pass m, generate config doc = .ok pass →
    config.naming.model (doc.define key body).definitions key body = .ok m →
      ∃ pass', generate config (doc.define key body) = .ok pass' ∧ pass'.model? key = some m ∧
        ∀ name, name ≠ key → pass'.model? name = pass.model? name

/-- **No definition disturbs the model of another one.** -/
theorem namesOnly (naming : Naming) (name : String) (schema : Schema) :
    NamesOnly naming name schema ∧
      ∀ (config : Config) (doc : Document), Undisturbed config doc := by
  refine ⟨⟨?_, ?_⟩, fun config doc => ⟨?_, ?_⟩⟩
  · intro definitions definitions' hkeys
    exact Naming.model_congr hkeys
  · intro definitions definitions' hkeys m hm
    exact Naming.model_mono hkeys hm
  · intro doc' pass pass' hkeys h h' name hshared
    exact model?_eq_of_shared hkeys h h' hshared
  · intro key body pass m h hm
    obtain ⟨pass', h'⟩ := exists_generate_define h hm
    refine ⟨pass', h', ?_, ?_⟩
    · have hfind : (doc.define key body).definitions.find? key = some body := by
        show (doc.definitions.insert key body).find? key = _
        rw [Dict.find?_insert, if_pos rfl]
      rw [model?_eq h', hfind, Option.bind_some, hm]
      rfl
    · intro name hne
      exact model?_eq_of_shared Document.keys_subset_define h h' (Document.find?_define hne)

/-- A definition composed of two others. -/
def petSchema : Schema where
  allOf := [.ref "#/definitions/Animal", .ref "#/definitions/Tame"]

def farmDocument : Document where
  swagger := "2.0"
  info := { title := "Farm", version := "1" }
  definitions := .ofList [("Animal", {}), ("Pet", petSchema), ("Tame", {})]

/-- The names of the farm in another order, with other bodies. -/
def rebuiltFarm : Dict Schema :=
  .ofList [("Tame", petSchema), ("Pet", {}), ("Animal", { type := some "object" })]

theorem namesOnly_farm :
    ∃ m pass pass',
      Config.standard.naming.model farmDocument.definitions "Pet" petSchema = .ok m ∧
      m.parent = some "Animal" ∧
      Config.standard.naming.model rebuiltFarm "Pet" petSchema = .ok m ∧
      generate Config.standard farmDocument = .ok pass ∧
      generate Config.standard (farmDocument.define "Barn" petSchema) = .ok pass' ∧
      pass'.model? "Pet" = pass.model? "Pet" := by
  obtain ⟨hnames, hdocuments⟩ := namesOnly Config.standard.naming "Pet" petSchema
  have hmodel : (Config.standard.naming.model farmDocument.definitions "Pet"
      petSchema).toOption.map Model.parent = some (some "Animal") := by
    decide +kernel
  have hpass : (generate Config.standard farmDocument).toOption.map (fun _ => ()) = some () := by
    decide +kernel
  have hbarn : (Config.standard.naming.model (farmDocument.define "Barn" petSchema).definitions
      "Barn" petSchema).toOption.map (fun _ => ()) = some () := by
    decide +kernel
  have hkeys : rebuiltFarm.keys.Perm farmDocument.definitions.keys := by
    decide +kernel
  obtain ⟨m, hm, hparent⟩ := exists_ok_of_map hmodel
  obtain ⟨pass, hpass, -⟩ := exists_ok_of_map hpass
  obtain ⟨barn, hbarn, -⟩ := exists_ok_of_map hbarn
  have hrebuilt := hnames.congr farmDocument.definitions rebuiltFarm fun key => hkeys.mem_iff
  obtain ⟨pass', hpass', -, hothers⟩ :=
    (hdocuments Config.standard farmDocument).defined "Barn" petSchema pass barn hpass hbarn
  exact ⟨m, pass, pass', hm, hparent, hrebuilt.trans hm, hpass, hpass', hothers "Pet" (by decide)⟩

/-- With fewer names there may be no model at all. -/
example : Config.standard.naming.model (.ofList [("Animal", {}), ("Pet", petSchema)]) "Pet"
    petSchema = .error (.model "Pet" (.targetNotFound "#/definitions/Tame")) := by
  rfl

end SwaggerClient
