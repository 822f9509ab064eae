/-
What can stand in a joined name, and how to tell where it ends.

A case form may lead out of the letters and digits: the small form of `İ` has a combining dot.
It does not lead to the signs of ASCII, though, since no entry of a case table has one as its
counterpart (`counterpart_clean`).  So a name that is joined from words has no sign in it
(`unbroken_camelChars`).  That tells it from an ending, unless one ending is another one
with letters or digits in front (`append_inj_of_unbroken`).
-/
import SwaggerClient.Proofs.Text.Casing

namespace SwaggerClient.Text

/-- The characters of ASCII that are neither letters nor digits. -/
def isSign (c : Char) : Bool := isAscii c && !isAlphanumeric c

/-- A text without signs. -/
def Unbroken (s : List Char) : Prop := ∀ c ∈ s, isSign c = false

instance (s : List Char) : Decidable (Unbroken s) := List.decidableBAll (isSign · = false) s

theorem isSign_of_isAlphanumeric {c : Char} (h : isAlphanumeric c = true) : isSign c = false := by
  simp [isSign, h]

theorem isSign_of_not_isAscii {c : Char} (h : ¬isAscii c = true) : isSign c = false := by
  simp [isSign, h]

theorem unbroken_singleton {c : Char} (h : isSign c = false) : Unbroken [c] := by
  intro d hd
  rw [List.mem_singleton.mp hd]
  exact h

theorem Unbroken.append {s t : List Char} (hs : Unbroken s) (ht : Unbroken t) :
    Unbroken (s ++ t) := by
  intro c hc
  rcases List.mem_append.mp hc with hc | hc
  · exact hs c hc
  · exact ht c hc

theorem unbroken_flatMap {α : Type} {f : α → List Char} {l : List α}
    (h : ∀ x ∈ l, Unbroken (f x)) : Unbroken (l.flatMap f) := by
  intro c hc
  obtain ⟨x, hx, hcx⟩ := List.mem_flatMap.mp hc
  exact h x hx c hcx

/-! ### Case tables -/

/-- A run that leads to no sign: it is one character that becomes a letter, or it stays
outside ASCII, on one side of the surrogates. -/
def CaseRun.Clean (r : CaseRun) : Prop :=
  (r.first = r.last ∧ isSign (Char.ofNat (r.first + r.shift).toNat) = false) ∨
    (128 ≤ r.first + r.shift ∧ r.last + r.shift < 0xD800) ∨
    (0xDFFF < r.first + r.shift ∧ r.last + r.shift < 0x110000)

instance (r : CaseRun) : Decidable r.Clean := by
  unfold CaseRun.Clean
  infer_instance

theorem lowerRuns_clean : ∀ r ∈ lowerRuns, r.Clean := by decide +kernel

theorem upperRuns_clean : ∀ r ∈ upperRuns, r.Clean := by decide +kernel

theorem upperSequences_clean : ∀ e ∈ upperSequences, Unbroken e.2 := by decide +kernel

theorem toNat_ofNat {n : Nat} (h : n < 0xD800 ∨ (0xDFFF < n ∧ n < 0x110000)) :
    (Char.ofNat n).toNat = n := by
  have hvalid : n.isValidChar := h
  rw [Char.ofNat, dif_pos hvalid]
  rfl

theorem isSign_ofNat {n : Nat} (h : n < 0xD800 ∨ (0xDFFF < n ∧ n < 0x110000))
    (hn : 128 ≤ n) : isSign (Char.ofNat n) = false := by
  refine isSign_of_not_isAscii ?_
  simp only [isAscii, decide_eq_true_eq, toNat_ofNat h]
  omega

theorem Stretch.bounds_of_contains {s : Stretch} {n : Nat} (h : s.contains n = true) :
    s.first ≤ n ∧ n ≤ s.last := by
  simp only [Stretch.contains, Bool.and_eq_true, decide_eq_true_eq] at h
  exact h.1

/-- A counterpart is a code point of a run, shifted. -/
theorem exists_run_of_counterpart {runs : List CaseRun} {n m : Nat}
    (h : counterpart? n runs = some m) :
    ∃ r ∈ runs, r.contains n = true ∧ m = (n + r.shift).toNat := by
  induction runs with
  | nil => cases h
  | cons r runs ih =>
      rw [counterpart?] at h
      split at h
      · cases h
      · split at h
        · rename_i hon
          exact ⟨r, List.mem_cons_self, hon, (Option.some.inj h).symm⟩
        · obtain ⟨r', hr', hrun⟩ := ih h
          exact ⟨r', List.mem_cons_of_mem r hr', hrun⟩

/-- **No counterpart is a sign.** -/
theorem counterpart_clean {runs : List CaseRun} (hruns : ∀ r ∈ runs, r.Clean) {n m : Nat}
    (h : counterpart? n runs = some m) : isSign (Char.ofNat m) = false := by
  obtain ⟨r, hr, hon, rfl⟩ := exists_run_of_counterpart h
  obtain ⟨hfirst, hlast⟩ := Stretch.bounds_of_contains hon
  -- the first of a run decides from below, and the last from above
  rcases hruns r hr with ⟨hone, hclean⟩ | hlow | hhigh
  · have hn : n = r.first := by omega
    rw [hn]
    exact hclean
  · exact isSign_ofNat (by omega) (by omega)
  · exact isSign_ofNat (by omega) (by omega)

/-- What a look-up in a list of pairs finds is in the list. -/
theorem mem_of_lookup_eq_some {α β : Type} [BEq α] [LawfulBEq α] {l : List (α × β)} {a : α}
    {b : β} (h : l.lookup a = some b) : (a, b) ∈ l := by
  obtain ⟨before, behind, rfl, -⟩ := List.lookup_eq_some_iff.mp h
  simp

/-! ### Joined names -/

theorem unbroken_lower {c : Char} (h : isSign c = false) : Unbroken (lower c) := by
  unfold lower
  split
  · rename_i hascii
    have halnum : isAlphanumeric c = true := by simpa [isSign, hascii] using h
    refine unbroken_singleton (isSign_of_isAlphanumeric ?_)
    rw [(caseLaws hascii).isAlphanumeric_toLower]
    exact halnum
  · split
    · decide
    · split
      · rename_i n hn
        exact unbroken_singleton (counterpart_clean lowerRuns_clean hn)
      · exact unbroken_singleton h

theorem unbroken_upper {c : Char} (h : isSign c = false) : Unbroken (upper c) := by
  unfold upper
  split
  · rename_i hascii
    have halnum : isAlphanumeric c = true := by simpa [isSign, hascii] using h
    refine unbroken_singleton (isSign_of_isAlphanumeric ?_)
    rw [(caseLaws hascii).isAlphanumeric_toUpper]
    exact halnum
  · split
    · rename_i n hn
      exact unbroken_singleton (counterpart_clean upperRuns_clean hn)
    · cases hseq : upperSequences.lookup c.toNat with
      | none => exact unbroken_singleton h
      | some s =>
          exact upperSequences_clean _ (mem_of_lookup_eq_some hseq)

theorem unbroken_lowerWord {w : List Char} (h : Unbroken w) : Unbroken (lowerWord w) := by
  fun_induction lowerWord w with
  | case1 => exact h
  | case2 => decide
  | case3 c hc => exact unbroken_lower (h c List.mem_cons_self)
  | case4 c rest hrest ih =>
      exact (unbroken_lower (h c List.mem_cons_self)).append
        (ih fun d hd => h d (List.mem_cons_of_mem c hd))

theorem unbroken_capitalize {w : List Char} (h : Unbroken w) : Unbroken (capitalize w) := by
  cases w with
  | nil => exact h
  | cons c w =>
      exact (unbroken_upper (h c List.mem_cons_self)).append
        (unbroken_lowerWord fun d hd => h d (List.mem_cons_of_mem c hd))

/-- **A name joined from words has no sign in it.** -/
theorem unbroken_camelChars (s : List Char) : Unbroken (camelChars s) := by
  have hwords : ∀ w ∈ words s, Unbroken w :=
    fun w hw c hc => isSign_of_isAlphanumeric (mem_words hw c hc).1
  unfold camelChars
  split
  · intro c hc
    cases hc
  · rename_i w more heq
    rw [heq] at hwords
    refine (unbroken_lowerWord (hwords w List.mem_cons_self)).append (unbroken_flatMap ?_)
    exact fun v hv => unbroken_capitalize (hwords v (List.mem_cons_of_mem w hv))

/-! ### Taking apart -/

/-- A name does not reach into an ending that is told from the one behind it. -/
theorem eq_of_overlap {s t d e w : List Char} (ht : Unbroken t)
    (hd : ∀ w, Unbroken w → w ++ e = d → w = []) (htw : t = s ++ w) (hdw : d = w ++ e) :
    s = t ∧ d = e := by
  have hw : Unbroken w := by
    intro c hc
    rw [htw] at ht
    exact ht c (List.mem_append_right s hc)
  have hnil : w = [] := hd w hw hdw.symm
  rw [hnil, List.append_nil] at htw
  rw [hnil, List.nil_append] at hdw
  exact ⟨htw.symm, hdw⟩

/-- **Names with endings can be told apart** if neither ending is the other one with the end of
a name in front. -/
theorem append_inj_of_unbroken {s t d e : List Char} (hs : Unbroken s) (ht : Unbroken t)
    (hd : ∀ w, Unbroken w → w ++ e = d → w = []) (he : ∀ w, Unbroken w → w ++ d = e → w = [])
    (h : s ++ d = t ++ e) : s = t ∧ d = e := by
  rcases List.append_eq_append_iff.mp h with ⟨w, htw, hdw⟩ | ⟨w, hsw, hew⟩
  · exact eq_of_overlap ht hd htw hdw
  · obtain ⟨hts, hed⟩ := eq_of_overlap hs he hsw hew
    exact ⟨hts.symm, hed.symm⟩

/-- A path that is cut at a slash before another one leaves the other one behind the cut. -/
theorem slash_of_overlap {a b x y w : List Char} (hbw : b = a ++ w)
    (hxw : '/' :: x = w ++ '/' :: y) : (a = b ∧ x = y) ∨ (a ++ ['/'] <+: b ∧ '/' ∈ x) := by
  cases w with
  | nil =>
      rw [List.append_nil] at hbw
      exact Or.inl ⟨hbw.symm, (List.cons.inj hxw).2⟩
  | cons c w =>
      obtain ⟨hc, hx⟩ := List.cons.inj hxw
      refine Or.inr ⟨⟨w, ?_⟩, ?_⟩
      · rw [hbw, hc, List.append_assoc, List.singleton_append]
      · rw [hx]
        simp

/-- **Two ways to read a path.**  If they cut it at different slashes, the longer folder lies
inside the shorter one, and what is left behind the shorter one has a slash in it. -/
theorem append_slash_cases {a b x y : List Char} (h : a ++ '/' :: x = b ++ '/' :: y) :
    (a = b ∧ x = y) ∨ (a ++ ['/'] <+: b ∧ '/' ∈ x) ∨ (b ++ ['/'] <+: a ∧ '/' ∈ y) := by
  rcases List.append_eq_append_iff.mp h with ⟨w, hbw, hxw⟩ | ⟨w, haw, hyw⟩
  · rcases slash_of_overlap hbw hxw with hsame | hinside
    · exact Or.inl hsame
    · exact Or.inr (Or.inl hinside)
  · rcases slash_of_overlap haw hyw with ⟨hba, hyx⟩ | hinside
    · exact Or.inl ⟨hba.symm, hyx.symm⟩
    · exact Or.inr (Or.inr hinside)

end SwaggerClient.Text
