/-
The two case conversions on names that are already type names.

`PascalCase` makes of any name letters and digits without a small letter in front
(`pascalName_pascalChars`), and of a name that begins with a letter a type name, a capital
followed by letters and digits.  It is not idempotent on such names, since it regroups
capitals that stand in a row: `ABC` becomes `Abc`.  Its words, however, are the old words
capitalized, neither more nor fewer (`words_pascalChars`), and the words of the
`lowerCamelCase` of a type name are the old ones too (`words_camelChars`).  So
`lowerCamelCase` cannot tell a type name from its `PascalCase` (`camelChars_pascalChars`),
and converting a type name to `lowerCamelCase` and back gives its `PascalCase`
(`pascalChars_camelChars`).

When that is the name itself is a question of capitals alone (`pascalChars_eq_self_iff`):
no capital may follow another one unless a small letter stands between the two or right
behind the second.
-/
import SwaggerClient.Proofs.Text.Runs
import SwaggerClient.Proofs.Text.Cutting

namespace SwaggerClient.Text

/-! ### Type names -/

/-- A capital and then letters and digits, all of ASCII. -/
structure TypeName (s : List Char) : Prop where
  ascii : Ascii s
  alphanumeric : ∀ c ∈ s, isAlphanumeric c = true
  capital : ∃ c t, s = c :: t ∧ isUppercase c = true

/-- A word that begins with a capital. -/
def CapitalLed (w : List Char) : Prop := ∃ c t, w = c :: t ∧ isUppercase c = true

/-- A word that does not begin with a small letter. -/
def Upright (w : List Char) : Prop := ∃ c t, w = c :: t ∧ isLowercase c = false

/-- Letters and digits of ASCII with no small letter in front: a type name, but for digits
that it may begin with. -/
structure PascalName (s : List Char) : Prop where
  ascii : Ascii s
  alphanumeric : ∀ c ∈ s, isAlphanumeric c = true
  upright : Upright s

theorem CapitalLed.upright {w : List Char} (h : CapitalLed w) (hw : Ascii w) : Upright w := by
  obtain ⟨c, t, rfl, hc⟩ := h
  exact ⟨c, t, rfl, (caseLaws (hw c List.mem_cons_self)).isLowercase_of_isUppercase hc⟩

theorem TypeName.pascalName {s : List Char} (h : TypeName s) : PascalName s :=
  ⟨h.ascii, h.alphanumeric, CapitalLed.upright h.capital h.ascii⟩

theorem words_of_all {s : List Char} (hne : s ≠ []) (h : ∀ c ∈ s, isAlphanumeric c = true) :
    words s = wordsFrom .none s := by
  have hrun : IsRun isAlphanumeric s := ⟨hne, h⟩
  rw [words, alphanumericRuns, hrun.runs_eq, List.flatMap_singleton]

theorem PascalName.ne_nil {s : List Char} (h : PascalName s) : s ≠ [] := by
  obtain ⟨c, t, rfl, -⟩ := h.upright
  exact List.cons_ne_nil c t

/-- Such a name is its words in a row. -/
theorem PascalName.flatten_words {s : List Char} (h : PascalName s) : (words s).flatten = s := by
  rw [words_of_all h.ne_nil h.alphanumeric, flatten_wordsFrom]

theorem PascalName.words_ne_nil {s : List Char} (h : PascalName s) : words s ≠ [] := by
  intro hnil
  have hflat := h.flatten_words
  rw [hnil] at hflat
  exact h.ne_nil hflat.symm

theorem ascii_of_mem_flatten {ws : List (List Char)} (h : Ascii ws.flatten) :
    ∀ w ∈ ws, Ascii w :=
  fun w hw c hc => h c (List.mem_flatten.mpr ⟨w, hw, hc⟩)

theorem PascalName.ascii_words {s : List Char} (h : PascalName s) : ∀ w ∈ words s, Ascii w :=
  ascii_of_mem_flatten (by rw [h.flatten_words]; exact h.ascii)

theorem PascalName.cuts_words {s : List Char} (h : PascalName s) : Cuts .none (words s) := by
  rw [words_of_all h.ne_nil h.alphanumeric]
  exact cuts_wordsFrom h.ascii .none

/-- Behind a cut stands a capital. -/
theorem capitalLed_of_cuts {mode : CaseMode} {w : List Char} {ws : List (List Char)}
    (h : Cuts mode (w :: ws)) : ∀ v ∈ ws, CapitalLed v := by
  induction ws generalizing mode w with
  | nil => intro v hv; simp at hv
  | cons u ws ih =>
      intro v hv
      rcases List.mem_cons.mp hv with rfl | hv
      · rcases h.1 with ⟨-, hc⟩ | ⟨-, hc, -⟩
        · exact ⟨_, _, rfl, hc⟩
        · exact ⟨_, _, rfl, hc⟩
      · exact ih h.2 v hv

/-- The words of a name, its first one in front. -/
theorem PascalName.words_eq {c : Char} {t : List Char} (h : PascalName (c :: t)) :
    ∃ w ws, words (c :: t) = (c :: w) :: ws ∧ ∀ v ∈ ws, CapitalLed v := by
  have hcuts := h.cuts_words
  rw [words_of_all h.ne_nil h.alphanumeric] at hcuts ⊢
  obtain ⟨w, ws, hw⟩ := wordsFrom_none_cons c t
  rw [hw] at hcuts ⊢
  exact ⟨w, ws, rfl, capitalLed_of_cuts hcuts⟩

theorem PascalName.upright_words {s : List Char} (h : PascalName s) :
    ∀ w ∈ words s, Upright w := by
  have hascii := h.ascii_words
  obtain ⟨c, t, rfl, hc⟩ := h.upright
  obtain ⟨w, ws, hws, hrest⟩ := h.words_eq
  rw [hws] at hascii ⊢
  obtain ⟨-, hascii⟩ := List.forall_mem_cons.mp hascii
  exact List.forall_mem_cons.mpr
    ⟨⟨c, w, rfl, hc⟩, fun v hv => (hrest v hv).upright (hascii v hv)⟩

theorem TypeName.capitalLed_words {s : List Char} (h : TypeName s) :
    ∀ w ∈ words s, CapitalLed w := by
  have hname := h.pascalName
  obtain ⟨c, t, rfl, hc⟩ := h.capital
  obtain ⟨w, ws, hws, hrest⟩ := hname.words_eq
  rw [hws]
  exact List.forall_mem_cons.mpr ⟨⟨c, w, rfl, hc⟩, hrest⟩

/-! ### Capitalizing words keeps their cuts -/

theorem map_toLower_noCapital {t : List Char} (h : Ascii t) :
    ∀ d ∈ t.map Char.toLower, isUppercase d = false := by
  intro d hd
  obtain ⟨e, he, rfl⟩ := List.mem_map.mp hd
  exact (caseLaws (h e he)).isUppercase_toLower

theorem tidy_capitalize {w : List Char} (h : Ascii w) (hw : Upright w) :
    Tidy (capitalize w) := by
  obtain ⟨c, t, rfl, -⟩ := hw
  rw [capitalize_of_ascii h]
  exact .mk _ (map_toLower_noCapital h.tail)

theorem capitalLed_capitalize {w : List Char} (h : Ascii w) (hw : CapitalLed w) :
    CapitalLed (capitalize w) := by
  obtain ⟨c, t, rfl, hc⟩ := hw
  rw [capitalize_of_ascii h, (caseLaws (h c List.mem_cons_self)).toUpper_of_isUppercase hc]
  exact ⟨c, _, rfl, hc⟩

/-- Whether a text has a letter of either case. -/
def hasLetter (s : List Char) : Bool := s.any fun c => isUppercase c || isLowercase c

theorem hasLetter_cons (c : Char) (s : List Char) :
    hasLetter (c :: s) = (isUppercase c || isLowercase c || hasLetter s) := List.any_cons

theorem noCapital_of_noLetter {s : List Char} (h : hasLetter s = false) :
    ∀ c ∈ s, isUppercase c = false := by
  intro c hc
  have hletter := List.any_eq_false.mp h c hc
  rw [Bool.not_eq_true, Bool.or_eq_false_iff] at hletter
  exact hletter.1

/-- Lowered letters are small letters. -/
theorem any_isLowercase_map_toLower {t : List Char} (h : Ascii t) :
    (t.map Char.toLower).any isLowercase = hasLetter t := by
  induction t with
  | nil => rfl
  | cons d t ih =>
      rw [List.map_cons, List.any_cons, hasLetter_cons, ih h.tail,
        (caseLaws (h d List.mem_cons_self)).isLowercase_toLower]

/-- The mode that a capitalized word ends in: small letters follow iff letters did. -/
theorem endMode_capitalize {c : Char} {t : List Char} (h : Ascii (c :: t))
    (hc : isLowercase c = false) (mode : CaseMode) :
    endMode mode (capitalize (c :: t)) = if hasLetter t then .lower else mode.after c := by
  rw [capitalize_of_ascii h, toUpper_of_not_isLowercase (h c List.mem_cons_self) hc,
    endMode_cons, endMode_of_noCapital (map_toLower_noCapital h.tail),
    any_isLowercase_map_toLower h.tail]

theorem endMode_of_noLetter {t : List Char} (h : hasLetter t = false) (mode : CaseMode) :
    endMode mode t = mode := by
  induction t with
  | nil => rfl
  | cons d t ih =>
      simp only [hasLetter_cons, Bool.or_eq_false_iff] at h
      rw [endMode_cons, after_of_caseless h.1.2 h.1.1, ih h.2]

theorem meet_capitalize {w v : List Char} (hw : Ascii w) (hv : Ascii v) (hup : Upright w)
    (h : Meet .none w v) : Meet .none (capitalize w) (capitalize v) := by
  obtain ⟨c, t, rfl, hc⟩ := hup
  have hend := endMode_capitalize hw hc .none
  cases hletters : hasLetter t with
  | true =>
      have hvled : CapitalLed v := by
        rcases h with ⟨-, hV⟩ | ⟨-, hV, -⟩
        · exact ⟨_, _, rfl, hV⟩
        · exact ⟨_, _, rfl, hV⟩
      obtain ⟨V, v', hveq, hV⟩ := capitalLed_capitalize hv hvled
      rw [hletters] at hend
      rw [hveq]
      exact .small hend hV
  | false =>
      -- Without a letter behind its first character the left word stays as it is, and what
      -- the right one begins with stays a capital, or a capital and a small letter.
      have hsame : endMode .none (capitalize (c :: t)) = endMode .none (c :: t) := by
        rw [hend, hletters, endMode_cons, endMode_of_noLetter hletters]
        rfl
      cases h with
      | @small v V hlow hV =>
          have hVa : isAscii V = true := hv V List.mem_cons_self
          rw [capitalize_of_ascii hv, (caseLaws hVa).toUpper_of_isUppercase hV]
          exact .small (hsame.trans hlow) hV
      | @capital v V d hup hV hd =>
          have hVa : isAscii V = true := hv V List.mem_cons_self
          have hda : isAscii d = true := hv d (by simp)
          have hdl : isLowercase d.toLower = true := by
            rw [(caseLaws hda).isLowercase_toLower, hd, Bool.or_true]
          rw [capitalize_of_ascii hv, (caseLaws hVa).toUpper_of_isUppercase hV, List.map_cons]
          exact .capital (hsame.trans hup) hV hdl

theorem cuts_map_capitalize {ws : List (List Char)} (hs : ∀ w ∈ ws, Ascii w)
    (hup : ∀ w ∈ ws, Upright w) (h : Cuts .none ws) : Cuts .none (ws.map capitalize) := by
  induction ws with
  | nil => trivial
  | cons w ws ih =>
      cases ws with
      | nil => trivial
      | cons v rest =>
          refine ⟨?_, ?_⟩
          · exact meet_capitalize (hs w (by simp)) (hs v (by simp)) (hup w (by simp)) h.1
          · exact ih (fun u hu => hs u (List.mem_cons_of_mem w hu))
              (fun u hu => hup u (List.mem_cons_of_mem w hu)) h.2

theorem ascii_flatten {ws : List (List Char)} (h : ∀ w ∈ ws, Ascii w) : Ascii ws.flatten := by
  intro c hc
  obtain ⟨w, hw, hcw⟩ := List.mem_flatten.mp hc
  exact h w hw c hcw

theorem ascii_map_capitalize {ws : List (List Char)} (h : ∀ w ∈ ws, Ascii w) :
    ∀ w ∈ ws.map capitalize, Ascii w := by
  intro w hw
  obtain ⟨v, hv, rfl⟩ := List.mem_map.mp hw
  exact (h v hv).capitalize

theorem tidy_map_capitalize {ws : List (List Char)} (hs : ∀ w ∈ ws, Ascii w)
    (hup : ∀ w ∈ ws, Upright w) : ∀ w ∈ ws.map capitalize, Tidy w := by
  intro w hw
  obtain ⟨v, hv, rfl⟩ := List.mem_map.mp hw
  exact tidy_capitalize (hs v hv) (hup v hv)

/-! ### The words of any text -/

/-- **The words of a text in a row are its letters and digits.** -/
theorem flatten_words (s : List Char) : (words s).flatten = s.filter isAlphanumeric := by
  have hruns : ∀ rs : List (List Char), (rs.flatMap (wordsFrom .none)).flatten = rs.flatten := by
    intro rs
    induction rs with
    | nil => rfl
    | cons r rs ih =>
        rw [List.flatMap_cons, List.flatten_append, ih, flatten_wordsFrom, List.flatten_cons]
  rw [words, hruns, alphanumericRuns, flatten_runs]

theorem mem_words {s w : List Char} (hw : w ∈ words s) :
    ∀ c ∈ w, isAlphanumeric c = true ∧ c ∈ s := by
  intro c hc
  have hmem : c ∈ (words s).flatten := List.mem_flatten.mpr ⟨w, hw, hc⟩
  rw [flatten_words, List.mem_filter] at hmem
  exact hmem.symm

theorem ascii_words {s : List Char} (h : Ascii s) : ∀ w ∈ words s, Ascii w :=
  fun _ hw c hc => h c (mem_words hw c hc).2

theorem words_cons {c : Char} (hc : isAlphanumeric c = true) (s : List Char) :
    ∃ w ws, words (c :: s) = (c :: w) :: ws := by
  obtain ⟨r, more, hr⟩ := runs_cons hc s
  obtain ⟨w, ws, hw⟩ := wordsFrom_none_cons c r
  refine ⟨w, ws ++ more.flatMap (wordsFrom .none), ?_⟩
  unfold words alphanumericRuns
  rw [hr, List.flatMap_cons, hw, List.cons_append]

/-! ### `PascalCase` makes type names, and keeps the words of one -/

theorem pascalChars_eq_flatten (s : List Char) :
    pascalChars s = ((words s).map capitalize).flatten := List.flatMap_def

theorem isAlphanumeric_capitalize {w : List Char} (h : Ascii w)
    (ha : ∀ c ∈ w, isAlphanumeric c = true) : ∀ c ∈ capitalize w, isAlphanumeric c = true := by
  cases w with
  | nil => exact ha
  | cons c t =>
      rw [capitalize_of_ascii h]
      intro d hd
      rcases List.mem_cons.mp hd with rfl | hd
      · rw [(caseLaws (h c List.mem_cons_self)).isAlphanumeric_toUpper]
        exact ha c List.mem_cons_self
      · obtain ⟨e, he, rfl⟩ := List.mem_map.mp hd
        rw [(caseLaws (h.tail e he)).isAlphanumeric_toLower]
        exact ha e (List.mem_cons_of_mem c he)

/-- What a name in `PascalCase` begins with. -/
theorem pascalChars_cons {c : Char} {s : List Char} (h : Ascii (c :: s))
    (hc : isAlphanumeric c = true) : ∃ t, pascalChars (c :: s) = c.toUpper :: t := by
  obtain ⟨w, ws, hws⟩ := words_cons hc s
  have hw : Ascii (c :: w) := ascii_words h _ (hws ▸ List.mem_cons_self)
  refine ⟨w.map Char.toLower ++ ws.flatMap capitalize, ?_⟩
  rw [pascalChars, hws, List.flatMap_cons, capitalize_of_ascii hw, List.cons_append]

/-- **`PascalCase` makes letters and digits, and no small letter in front.** -/
theorem pascalName_pascalChars {c : Char} {s : List Char} (h : Ascii (c :: s))
    (hc : isAlphanumeric c = true) : PascalName (pascalChars (c :: s)) := by
  have hs := ascii_words h
  refine ⟨?_, ?_, ?_⟩
  · rw [pascalChars_eq_flatten]
    exact ascii_flatten (ascii_map_capitalize hs)
  · intro d hdmem
    obtain ⟨w, hw, hdw⟩ := List.mem_flatMap.mp hdmem
    exact isAlphanumeric_capitalize (hs w hw) (fun e he => (mem_words hw e he).1) d hdw
  · obtain ⟨t, ht⟩ := pascalChars_cons h hc
    exact ⟨c.toUpper, t, ht, isLowercase_toUpper (h c List.mem_cons_self)⟩

/-- **A name that begins with a letter becomes a type name.** -/
theorem typeName_pascalChars {c : Char} {s : List Char} (h : Ascii (c :: s))
    (hc : isAlphanumeric c = true) (hd : c.isDigit = false) : TypeName (pascalChars (c :: s)) := by
  have hname := pascalName_pascalChars h hc
  obtain ⟨t, ht⟩ := pascalChars_cons h hc
  refine ⟨hname.ascii, hname.alphanumeric, c.toUpper, t, ht, ?_⟩
  exact (caseLaws (h c List.mem_cons_self)).isUppercase_toUpper hc hd

/-- Words of letters and digits that are tidy and meet at cuts are the words of their
concatenation. -/
theorem words_flatten {ws : List (List Char)} (hs : ∀ w ∈ ws, Ascii w)
    (ha : ∀ w ∈ ws, ∀ c ∈ w, isAlphanumeric c = true) (htidy : ∀ w ∈ ws, Tidy w)
    (hcuts : Cuts .none ws) : words ws.flatten = ws := by
  by_cases hne : ws.flatten = []
  · -- A tidy word is not empty, so there is none.
    cases ws with
    | nil => rfl
    | cons w rest =>
        obtain ⟨c, -⟩ := htidy w List.mem_cons_self
        simp at hne
  · have hflat : ∀ c ∈ ws.flatten, isAlphanumeric c = true := by
      intro c hc
      obtain ⟨w, hw, hcw⟩ := List.mem_flatten.mp hc
      exact ha w hw c hcw
    rw [words_of_all hne hflat]
    exact wordsFrom_flatten (ascii_flatten hs) htidy hcuts

theorem isAlphanumeric_map_capitalize {ws : List (List Char)} (hs : ∀ w ∈ ws, Ascii w)
    (ha : ∀ w ∈ ws, ∀ c ∈ w, isAlphanumeric c = true) :
    ∀ w ∈ ws.map capitalize, ∀ c ∈ w, isAlphanumeric c = true := by
  intro w hw
  obtain ⟨v, hv, rfl⟩ := List.mem_map.mp hw
  exact isAlphanumeric_capitalize (hs v hv) (ha v hv)

/-- **`PascalCase` capitalizes the words of such a name and regroups none.** -/
theorem words_pascalChars {s : List Char} (h : PascalName s) :
    words (pascalChars s) = (words s).map capitalize := by
  rw [pascalChars_eq_flatten]
  exact words_flatten (ascii_map_capitalize h.ascii_words)
    (isAlphanumeric_map_capitalize h.ascii_words fun w hw c hc => (mem_words hw c hc).1)
    (tidy_map_capitalize h.ascii_words h.upright_words)
    (cuts_map_capitalize h.ascii_words h.upright_words h.cuts_words)

/-! ### `lowerCamelCase` keeps the words of a type name -/

theorem camelChars_of_words {s w : List Char} {ws : List (List Char)} (h : words s = w :: ws) :
    camelChars s = lowerWord w ++ ws.flatMap capitalize := by
  unfold camelChars
  rw [h]

/-- A text in lower case stays as it is. -/
theorem map_toLower_map_toLower {t : List Char} (h : Ascii t) :
    (t.map Char.toLower).map Char.toLower = t.map Char.toLower := by
  rw [List.map_map]
  exact List.map_congr_left fun d hd => toLower_toLower (h d hd)

theorem lowerWord_capitalize {w : List Char} (h : Ascii w) :
    lowerWord (capitalize w) = lowerWord w := by
  cases w with
  | nil => rfl
  | cons c t =>
      rw [lowerWord_of_ascii h.capitalize, lowerWord_of_ascii h, capitalize_of_ascii h,
        List.map_cons, List.map_cons, (caseLaws (h c List.mem_cons_self)).toLower_toUpper,
        map_toLower_map_toLower h.tail]

theorem capitalize_lowerWord {w : List Char} (h : Ascii w) :
    capitalize (lowerWord w) = capitalize w := by
  cases w with
  | nil => rfl
  | cons c t =>
      have hlow : Ascii (c.toLower :: t.map Char.toLower) := h.map_toLower
      rw [lowerWord_of_ascii h, List.map_cons, capitalize_of_ascii hlow, capitalize_of_ascii h,
        map_toLower_map_toLower h.tail, (caseLaws (h c List.mem_cons_self)).toUpper_toLower]

theorem capitalize_capitalize {w : List Char} (h : Ascii w) :
    capitalize (capitalize w) = capitalize w := by
  rw [← capitalize_lowerWord h.capitalize, lowerWord_capitalize h, capitalize_lowerWord h]

theorem map_capitalize_capitalize {ws : List (List Char)} (h : ∀ w ∈ ws, Ascii w) :
    (ws.map capitalize).map capitalize = ws.map capitalize := by
  rw [List.map_map]
  exact List.map_congr_left fun w hw => capitalize_capitalize (h w hw)

/-- **`lowerCamelCase` cannot tell a type name from its `PascalCase`.** -/
theorem camelChars_pascalChars {s : List Char} (h : PascalName s) :
    camelChars (pascalChars s) = camelChars s := by
  obtain ⟨w, ws, hws⟩ := List.exists_cons_of_ne_nil h.words_ne_nil
  have hascii := h.ascii_words
  rw [hws] at hascii
  have hrest : ∀ v ∈ ws, Ascii v := fun v hv => hascii v (List.mem_cons_of_mem w hv)
  have hpascal : words (pascalChars s) = capitalize w :: ws.map capitalize := by
    rw [words_pascalChars h, hws, List.map_cons]
  rw [camelChars_of_words hpascal, camelChars_of_words hws,
    lowerWord_capitalize (hascii w List.mem_cons_self), List.flatMap_def, List.flatMap_def,
    map_capitalize_capitalize hrest]

theorem meet_lowerWord {w v : List Char} (h : Ascii w) (hw : CapitalLed w) (hv : CapitalLed v) :
    Meet .none (lowerWord w) v := by
  obtain ⟨c, t, rfl, hc⟩ := hw
  obtain ⟨V, v, rfl, hV⟩ := hv
  have hany : ((c :: t).map Char.toLower).any isLowercase = true := by
    rw [any_isLowercase_map_toLower h, hasLetter_cons, hc]
    rfl
  refine .small ?_ hV
  rw [lowerWord_of_ascii h, endMode_of_noCapital (map_toLower_noCapital h), if_pos hany]

theorem ascii_lowerWord {w : List Char} (h : Ascii w) : Ascii (lowerWord w) := by
  rw [lowerWord_of_ascii h]
  exact h.map_toLower

theorem isAlphanumeric_lowerWord {w : List Char} (h : Ascii w)
    (ha : ∀ c ∈ w, isAlphanumeric c = true) : ∀ c ∈ lowerWord w, isAlphanumeric c = true := by
  rw [lowerWord_of_ascii h]
  intro c hc
  obtain ⟨d, hd, rfl⟩ := List.mem_map.mp hc
  rw [(caseLaws (h d hd)).isAlphanumeric_toLower]
  exact ha d hd

theorem tidy_lowerWord {w : List Char} (h : Ascii w) (hw : CapitalLed w) : Tidy (lowerWord w) := by
  obtain ⟨c, t, rfl, -⟩ := hw
  rw [lowerWord_of_ascii h]
  exact .mk _ (map_toLower_noCapital h.tail)

/-- **The words of the `lowerCamelCase` are those of the type name.** -/
theorem words_camelChars {s w : List Char} {ws : List (List Char)} (h : TypeName s)
    (hws : words s = w :: ws) : words (camelChars s) = lowerWord w :: ws.map capitalize := by
  have hascii := h.pascalName.ascii_words
  have hled := h.capitalLed_words
  have hcuts := h.pascalName.cuts_words
  have halpha : ∀ v ∈ words s, ∀ c ∈ v, isAlphanumeric c = true :=
    fun v hv c hc => (mem_words hv c hc).1
  rw [hws] at hascii hled hcuts halpha
  obtain ⟨hw, hrest⟩ := List.forall_mem_cons.mp hascii
  obtain ⟨hwled, hrestled⟩ := List.forall_mem_cons.mp hled
  obtain ⟨hwalpha, hrestalpha⟩ := List.forall_mem_cons.mp halpha
  have hrestup : ∀ v ∈ ws, Upright v := fun v hv => (hrestled v hv).upright (hrest v hv)
  have hcamel : camelChars s = (lowerWord w :: ws.map capitalize).flatten := by
    rw [camelChars_of_words hws, List.flatten_cons, List.flatMap_def]
  rw [hcamel]
  refine words_flatten ?_ ?_ ?_ ?_
  · exact List.forall_mem_cons.mpr ⟨ascii_lowerWord hw, ascii_map_capitalize hrest⟩
  · exact List.forall_mem_cons.mpr ⟨isAlphanumeric_lowerWord hw hwalpha,
      isAlphanumeric_map_capitalize hrest hrestalpha⟩
  · exact List.forall_mem_cons.mpr ⟨tidy_lowerWord hw hwled, tidy_map_capitalize hrest hrestup⟩
  · cases ws with
    | nil => trivial
    | cons v rest =>
        have hv : CapitalLed (capitalize v) :=
          capitalLed_capitalize (hrest v List.mem_cons_self) (hrestled v List.mem_cons_self)
        exact ⟨meet_lowerWord hw hwled hv, cuts_map_capitalize hrest hrestup hcuts.2⟩

/-- **From a type name to `lowerCamelCase` and back is its `PascalCase`.** -/
theorem pascalChars_camelChars {s : List Char} (h : TypeName s) :
    pascalChars (camelChars s) = pascalChars s := by
  obtain ⟨w, ws, hws⟩ := List.exists_cons_of_ne_nil h.pascalName.words_ne_nil
  have hascii := h.pascalName.ascii_words
  rw [hws] at hascii
  have hrest : ∀ v ∈ ws, Ascii v := fun v hv => hascii v (List.mem_cons_of_mem w hv)
  rw [pascalChars_eq_flatten, pascalChars_eq_flatten, words_camelChars h hws, hws, List.map_cons,
    List.map_cons, capitalize_lowerWord (hascii w List.mem_cons_self),
    map_capitalize_capitalize hrest]

end SwaggerClient.Text
