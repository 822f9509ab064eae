/-
Which type names `PascalCase` leaves as they are.

`capitalsApart` is the test on the letters alone: reading from the left, a capital whose
nearest letter to the left is a capital too has to have a small letter right behind it.
`PetStatus`, `S3Bucket` and `ABc` pass; `AB`, `HTTPServer` and `A1B` do not.

The proof cuts a name before each capital, which takes no account of what stands around
it.  Those pieces meet at cuts exactly if the name passes (`capitalsApart_flatten`).  If
it does, the pieces are its words, and they are capitalized already.  If `PascalCase`
changes nothing, the words are such pieces, and words do meet at cuts.

A name that begins with a digit has no such test, since a capital behind the digits alone
does not begin a word.  For every name the words decide: none may have a capital behind its
first character (`CapitalsLead`).
-/
import SwaggerClient.Proofs.Text.Casing

namespace SwaggerClient.Text

/-- Whether a text goes on with a small letter. -/
def startsSmall (s : List Char) : Bool := s.head?.any isLowercase

/-- Whether each capital has a small letter between itself and the capital before it, or one
right behind.  `mode` is the case of the letter before. -/
def capitalsApart : CaseMode → List Char → Bool
  | _, [] => true
  | mode, c :: rest =>
    (!(isUppercase c && mode == .upper) || startsSmall rest) && capitalsApart (mode.after c) rest

/-! ### Cutting before each capital -/

/-- Every text is a stretch without capitals and then pieces that begin with one each. -/
theorem exists_pieces (s : List Char) :
    ∃ (t : List Char) (us : List (List Char)), s = t ++ us.flatten ∧
      (∀ c ∈ t, isUppercase c = false) ∧ ∀ u ∈ us, Tidy u ∧ CapitalLed u := by
  induction s with
  | nil => exact ⟨[], [], rfl, by simp, by simp⟩
  | cons c s ih =>
      obtain ⟨t, us, rfl, ht, hus⟩ := ih
      cases hc : isUppercase c with
      | true =>
          refine ⟨[], (c :: t) :: us, rfl, by simp, ?_⟩
          exact List.forall_mem_cons.mpr ⟨⟨.mk c ht, c, t, rfl, hc⟩, hus⟩
      | false =>
          exact ⟨c :: t, us, rfl, List.forall_mem_cons.mpr ⟨hc, ht⟩, hus⟩

theorem TypeName.eq_flatten_pieces {s : List Char} (h : TypeName s) :
    ∃ us : List (List Char), s = us.flatten ∧ ∀ u ∈ us, Tidy u ∧ CapitalLed u := by
  obtain ⟨c, rest, rfl, hc⟩ := h.capital
  obtain ⟨t, us, rfl, ht, hus⟩ := exists_pieces rest
  exact ⟨(c :: t) :: us, rfl, List.forall_mem_cons.mpr ⟨⟨.mk c ht, c, t, rfl, hc⟩, hus⟩⟩

/-! ### The test on pieces -/

/-- Only capitals are tested. -/
theorem capitalsApart_append {t : List Char} (ht : ∀ c ∈ t, isUppercase c = false)
    (mode : CaseMode) (s : List Char) :
    capitalsApart mode (t ++ s) = capitalsApart (endMode mode t) s := by
  induction t generalizing mode with
  | nil => rfl
  | cons c t ih =>
      obtain ⟨hc, ht⟩ := List.forall_mem_cons.mp ht
      rw [List.cons_append, capitalsApart, hc, ih ht, endMode_cons]
      rfl

theorem startsSmall_flatten {us : List (List Char)} (hs : Ascii us.flatten)
    (h : ∀ u ∈ us, CapitalLed u) : startsSmall us.flatten = false := by
  cases us with
  | nil => rfl
  | cons u rest =>
      obtain ⟨c, t, rfl, hc⟩ := h u List.mem_cons_self
      exact (caseLaws (hs c (by simp))).isLowercase_of_isUppercase hc

/-- Whether a piece goes on with a small letter does not depend on the next piece. -/
theorem startsSmall_append {v : List Char} {us : List (List Char)} (hs : Ascii us.flatten)
    (h : ∀ u ∈ us, CapitalLed u) : startsSmall (v ++ us.flatten) = startsSmall v := by
  cases v with
  | nil => exact startsSmall_flatten hs h
  | cons d v => rfl

/-- The test of a piece: its capital is tested, and the rest is read behind a capital. -/
theorem capitalsApart_piece {V : Char} {v : List Char} {us : List (List Char)}
    (hs : Ascii ((V :: v) :: us).flatten) (hV : isUppercase V = true)
    (h : ∀ u ∈ us, CapitalLed u) (mode : CaseMode) :
    capitalsApart mode ((V :: v) :: us).flatten
      = ((mode != .upper || startsSmall v) && capitalsApart .upper (v ++ us.flatten)) := by
  have hVa : isAscii V = true := hs V (by simp)
  have hus : Ascii us.flatten := fun d hd => hs d (by simp_all)
  rw [List.flatten_cons, List.cons_append, capitalsApart, hV, startsSmall_append hus h,
    after_of_isUppercase hVa hV, Bool.true_and]
  rfl

/-- A capital stands apart from the piece before it exactly if the two meet at a cut. -/
theorem meet_iff {c V : Char} {t v : List Char} (ha : isAscii c = true)
    (hc : isUppercase c = true) (ht : ∀ d ∈ t, isUppercase d = false)
    (hV : isUppercase V = true) :
    Meet .none (c :: t) (V :: v) ↔ endMode .upper t ≠ .upper ∨ startsSmall v = true := by
  have hafter : CaseMode.after .none c = .upper := after_of_isUppercase ha hc
  have hend : endMode .none (c :: t) = endMode .upper t := by rw [endMode_cons, hafter]
  constructor
  · intro h
    cases h with
    | small hlow _ =>
        rw [hend] at hlow
        exact Or.inl (by rw [hlow]; decide)
    | capital _ _ hd => exact Or.inr hd
  · intro h
    have hmode := endMode_of_noCapital ht .upper
    by_cases hup : endMode .upper t = .upper
    · rcases h with h | h
      · exact absurd hup h
      · cases v with
        | nil => exact Bool.noConfusion h
        | cons d v => exact .capital (hend.trans hup) hV h
    · refine .small ?_ hV
      rw [hend, hmode]
      rw [hmode] at hup
      by_cases hany : t.any isLowercase = true
      · rw [if_pos hany]
      · rw [if_neg hany] at hup
        exact absurd rfl hup

/-- **A name passes the test exactly if its pieces meet at cuts.** -/
theorem capitalsApart_flatten {us : List (List Char)} (hs : Ascii us.flatten)
    (h : ∀ u ∈ us, Tidy u ∧ CapitalLed u) :
    capitalsApart .none us.flatten = true ↔ Cuts .none us := by
  induction us with
  | nil => exact iff_of_true rfl trivial
  | cons u rest ih =>
      obtain ⟨hu, hrest⟩ := List.forall_mem_cons.mp h
      obtain ⟨c, t, rfl, hc⟩ := hu.2
      have ht : ∀ d ∈ t, isUppercase d = false := by
        cases hu.1 with
        | mk _ ht => exact ht
      have ha : isAscii c = true := hs c (by simp)
      have hstep : capitalsApart .none ((c :: t) :: rest).flatten
          = capitalsApart (endMode .upper t) rest.flatten := by
        rw [capitalsApart_piece hs hc (fun u hu => (hrest u hu).2), capitalsApart_append ht]
        rfl
      rw [hstep]
      cases rest with
      | nil => exact iff_of_true rfl trivial
      | cons v rest =>
          have hs' : Ascii (v :: rest).flatten := fun d hd => hs d (by simp_all)
          obtain ⟨hv, hlast⟩ := List.forall_mem_cons.mp hrest
          obtain ⟨V, v, rfl, hV⟩ := hv.2
          have htest := capitalsApart_piece hs' hV fun u hu => (hlast u hu).2
          have htail := ih hs' hrest
          rw [htest] at htail
          rw [htest, Bool.and_eq_true, Cuts, meet_iff ha hc ht hV, ← htail, Bool.and_eq_true]
          simp

/-! ### What `PascalCase` leaves alone -/

/-- No word has a capital behind its first character. -/
def CapitalsLead (s : List Char) : Prop :=
  ∀ w ∈ words s, ∀ c ∈ w.tail, isUppercase c = false

instance (s : List Char) : Decidable (CapitalsLead s) :=
  decidable_of_iff ((words s).all fun w => !w.tail.any isUppercase) (by simp [CapitalsLead])

theorem Tidy.tail {w : List Char} (h : Tidy w) : ∀ c ∈ w.tail, isUppercase c = false := by
  cases h with
  | mk c ht => exact ht

theorem capitalize_of_tail {w : List Char} (h : Ascii w) (hw : Upright w)
    (ht : ∀ c ∈ w.tail, isUppercase c = false) : capitalize w = w := by
  obtain ⟨c, t, rfl, hc⟩ := hw
  have hmap : t.map Char.toLower = t.map id :=
    List.map_congr_left fun d hd => (caseLaws (h.tail d hd)).toLower_of_not_isUppercase (ht d hd)
  rw [capitalize_of_ascii h, toUpper_of_not_isLowercase (h c List.mem_cons_self) hc, hmap,
    List.map_id]

theorem capitalsLead_pascalChars {s : List Char} (h : PascalName s) :
    CapitalsLead (pascalChars s) := by
  intro w hw
  rw [words_pascalChars h] at hw
  exact (tidy_map_capitalize h.ascii_words h.upright_words w hw).tail

/-- **`PascalCase` leaves a name alone exactly if capitals stand in front of words only.** -/
theorem pascalChars_eq_self_iff_capitalsLead {s : List Char} (h : PascalName s) :
    pascalChars s = s ↔ CapitalsLead s := by
  constructor
  · intro heq
    rw [← heq]
    exact capitalsLead_pascalChars h
  · intro hlead
    have hwords : (words s).map capitalize = (words s).map id :=
      List.map_congr_left fun w hw =>
        capitalize_of_tail (h.ascii_words w hw) (h.upright_words w hw) (hlead w hw)
    rw [pascalChars_eq_flatten, hwords, List.map_id, h.flatten_words]

example : CapitalsLead "petStoreABc".toList ∧ ¬CapitalsLead "PetSTORE".toList := by decide +kernel

/-- **`PascalCase` leaves a type name alone exactly if its capitals stand apart.** -/
theorem pascalChars_eq_self_iff {s : List Char} (h : TypeName s) :
    pascalChars s = s ↔ capitalsApart .none s = true := by
  have hname := h.pascalName
  constructor
  · intro heq
    have htidy : ∀ w ∈ words s, Tidy w := by
      rw [← heq, words_pascalChars hname]
      exact tidy_map_capitalize hname.ascii_words hname.upright_words
    rw [← hname.flatten_words]
    refine (capitalsApart_flatten ?_ ?_).mpr hname.cuts_words
    · rw [hname.flatten_words]
      exact h.ascii
    · exact fun w hw => ⟨htidy w hw, h.capitalLed_words w hw⟩
  · intro hapart
    obtain ⟨us, rfl, hus⟩ := h.eq_flatten_pieces
    have hcuts := (capitalsApart_flatten h.ascii hus).mp hapart
    have hwords : words us.flatten = us := by
      rw [words_of_all hname.ne_nil h.alphanumeric]
      exact wordsFrom_flatten h.ascii (fun u hu => (hus u hu).1) hcuts
    refine (pascalChars_eq_self_iff_capitalsLead hname).mpr ?_
    unfold CapitalsLead
    rw [hwords]
    exact fun u hu => (hus u hu).1.tail

end SwaggerClient.Text
