/-
Where a run of letters and digits is cut into words.

`wordsFrom` cuts while it reads, with one character of lookahead and the case of the
latest letter as its state.  Two statements say what that amounts to.  Nothing is lost
(`flatten_wordsFrom`), and every cut has a reason that can be read off the two words
that meet there (`cuts_wordsFrom`): the right one begins with a capital, and either
the left one ends in small letters or the right one goes on with one.

The converse is what makes the theory useful.  If words are tidy, with no capital
behind the first character, and neighbours meet at such a reason, then cutting their
concatenation gives them back (`wordsFrom_flatten`).  A case conversion that keeps
words tidy and keeps the reasons therefore keeps the words, which is how the laws of
`PascalCase` are proved.
-/
import SwaggerClient.Proofs.Text.Ascii

namespace SwaggerClient.Text

/-! ### The case a word ends in -/

/-- The mode after a whole word. -/
def endMode (mode : CaseMode) (word : List Char) : CaseMode := word.foldl CaseMode.after mode

@[simp] theorem endMode_cons (mode : CaseMode) (c : Char) (w : List Char) :
    endMode mode (c :: w) = endMode (mode.after c) w := rfl

section After

variable {c : Char} {mode : CaseMode}

theorem after_of_isUppercase (hc : isAscii c = true) (h : isUppercase c = true) :
    mode.after c = .upper := by
  unfold CaseMode.after
  rw [(caseLaws hc).isLowercase_of_isUppercase h, h]
  rfl

theorem after_of_isLowercase (h : isLowercase c = true) : mode.after c = .lower := by
  unfold CaseMode.after
  rw [if_pos h]

theorem after_of_caseless (hl : isLowercase c = false) (hu : isUppercase c = false) :
    mode.after c = mode := by
  unfold CaseMode.after
  rw [hl, hu]
  rfl

end After

/-- Without capitals, a word ends in the mode that its first small letter sets. -/
theorem endMode_of_noCapital {w : List Char} (h : ∀ c ∈ w, isUppercase c = false)
    (mode : CaseMode) :
    endMode mode w = if w.any isLowercase then .lower else mode := by
  induction w generalizing mode with
  | nil => rfl
  | cons c w ih =>
      have hw : ∀ d ∈ w, isUppercase d = false := fun d hd => h d (List.mem_cons_of_mem c hd)
      rw [endMode_cons, ih hw, List.any_cons]
      cases hl : isLowercase c with
      | true =>
          rw [after_of_isLowercase hl]
          simp
      | false =>
          rw [after_of_caseless hl (h c List.mem_cons_self)]
          simp

/-! ### Words that meet at a cut -/

/-- Why a run is cut between two words, where the left one is read from `mode` on: the right
one begins with a capital, and either the left one ends in small letters or it ends in
capitals and the right one goes on with a small letter. -/
inductive Meet : CaseMode → List Char → List Char → Prop
  | small {mode : CaseMode} {w v : List Char} {c : Char}
      (hend : endMode mode w = .lower) (hc : isUppercase c = true) : Meet mode w (c :: v)
  | capital {mode : CaseMode} {w v : List Char} {c d : Char}
      (hend : endMode mode w = .upper) (hc : isUppercase c = true) (hd : isLowercase d = true) :
      Meet mode w (c :: d :: v)

/-- What precedes a word matters only through the mode. -/
theorem meet_cons {mode : CaseMode} {c : Char} {w v : List Char} :
    Meet mode (c :: w) v ↔ Meet (mode.after c) w v := by
  constructor
  · rintro (⟨hend, hc⟩ | ⟨hend, hc, hd⟩)
    · exact .small hend hc
    · exact .capital hend hc hd
  · rintro (⟨hend, hc⟩ | ⟨hend, hc, hd⟩)
    · exact .small hend hc
    · exact .capital hend hc hd

/-- Every two neighbours meet at a cut; the first word is read from `mode` on. -/
def Cuts : CaseMode → List (List Char) → Prop
  | _, [] => True
  | _, [_] => True
  | mode, w :: v :: rest => Meet mode w v ∧ Cuts .none (v :: rest)

theorem cuts_extendFirst {mode : CaseMode} {c : Char} {ws : List (List Char)} :
    Cuts mode (extendFirst c ws) ↔ Cuts (mode.after c) ws := by
  match ws with
  | [] => exact Iff.rfl
  | [_] => exact Iff.rfl
  | w :: v :: rest => exact and_congr_left' meet_cons

/-- A small letter in front makes the mode irrelevant. -/
theorem cuts_of_isLowercase {mode mode' : CaseMode} {c : Char} {w : List Char}
    {ws : List (List Char)} (hc : isLowercase c = true) (h : Cuts mode ((c :: w) :: ws)) :
    Cuts mode' ((c :: w) :: ws) := by
  cases ws with
  | nil => trivial
  | cons v rest =>
      refine ⟨?_, h.2⟩
      have hm := meet_cons.mp h.1
      rw [after_of_isLowercase hc] at hm
      rw [meet_cons, after_of_isLowercase hc]
      exact hm

/-! ### What cutting gives -/

theorem flatten_extendFirst (c : Char) (ws : List (List Char)) :
    (extendFirst c ws).flatten = c :: ws.flatten := by
  cases ws <;> rfl

/-- **Cutting loses nothing.** -/
theorem flatten_wordsFrom (mode : CaseMode) (s : List Char) :
    (wordsFrom mode s).flatten = s := by
  fun_induction wordsFrom mode s with
  | case1 => rfl
  | case2 => rfl
  | case3 mode c next rest _ ih => rw [List.flatten_cons, ih]; rfl
  | case4 mode c next rest _ _ ih => rw [List.flatten_cons, flatten_extendFirst, ih]; rfl
  | case5 mode c next rest _ _ ih => rw [flatten_extendFirst, ih]

/-- The first word holds the first character, unless capitals precede it. -/
theorem wordsFrom_cons {mode : CaseMode} {c : Char} (h : mode ≠ .upper ∨ isUppercase c = false)
    (s : List Char) : ∃ w ws, wordsFrom mode (c :: s) = (c :: w) :: ws := by
  have hextend : ∀ ws : List (List Char), ∃ w ws', extendFirst c ws = (c :: w) :: ws' := by
    intro ws
    cases ws with
    | nil => exact ⟨[], [], rfl⟩
    | cons w ws => exact ⟨w, ws, rfl⟩
  cases s with
  | nil => exact ⟨[], [], rfl⟩
  | cons next rest =>
      rw [wordsFrom]
      split
      · exact ⟨[], _, rfl⟩
      · split
        · rename_i hcut
          rcases h with hm | hc
          · exact absurd hcut.1 hm
          · rw [hcut.2.1] at hc
            exact Bool.noConfusion hc
        · exact hextend _

/-- A word begins at the first character where nothing precedes it. -/
theorem wordsFrom_none_cons (c : Char) (s : List Char) :
    ∃ w ws, wordsFrom .none (c :: s) = (c :: w) :: ws :=
  wordsFrom_cons (Or.inl (by decide)) s

/-- **Every cut has a reason.** -/
theorem cuts_wordsFrom {s : List Char} (hs : Ascii s) (mode : CaseMode) :
    Cuts mode (wordsFrom mode s) := by
  fun_induction wordsFrom mode s with
  | case1 => trivial
  | case2 => trivial
  | case3 mode c next rest hcut ih =>
      obtain ⟨w, ws, hw⟩ := wordsFrom_none_cons next rest
      have hrest := ih hs.tail
      rw [hw] at hrest ⊢
      exact ⟨.small hcut.1 hcut.2, hrest⟩
  | case4 mode c next rest _ hcut ih =>
      obtain ⟨hmode, hc, hnext⟩ := hcut
      obtain ⟨w, ws, hw⟩ := wordsFrom_none_cons next rest
      have hrest := ih hs.tail
      rw [hw] at hrest ⊢
      refine ⟨.capital hmode hc hnext, ?_⟩
      -- The new word begins with the capital, and the small letter behind it resets the mode.
      exact cuts_extendFirst.mpr (cuts_of_isLowercase hnext hrest)
  | case5 mode c next rest _ _ ih => exact cuts_extendFirst.mpr (ih hs.tail)

/-! ### Words that are found again -/

/-- A word with no capital behind its first character. -/
inductive Tidy : List Char → Prop
  | mk (c : Char) {t : List Char} (h : ∀ d ∈ t, isUppercase d = false) : Tidy (c :: t)

/-- A run without capitals behind its first character is one word. -/
theorem wordsFrom_of_noCapital {mode : CaseMode} {c : Char} {t : List Char}
    (hc : mode ≠ .upper ∨ isUppercase c = false) (ht : ∀ d ∈ t, isUppercase d = false) :
    wordsFrom mode (c :: t) = [c :: t] := by
  induction t generalizing mode c with
  | nil => rfl
  | cons d t ih =>
      have hd : isUppercase d = false := ht d List.mem_cons_self
      have ht' : ∀ e ∈ t, isUppercase e = false := fun e he => ht e (List.mem_cons_of_mem d he)
      rw [wordsFrom, if_neg (by simp [hd]), if_neg, ih (Or.inr hd) ht']
      · rfl
      · rintro ⟨hm, hu, -⟩
        rcases hc with hc | hc
        · exact hc hm
        · rw [hu] at hc
          exact Bool.noConfusion hc

/-- A small letter is read the same from every mode. -/
theorem wordsFrom_of_isLowercase {c : Char} (ha : isAscii c = true) (hc : isLowercase c = true)
    (mode mode' : CaseMode) (s : List Char) :
    wordsFrom mode (c :: s) = wordsFrom mode' (c :: s) := by
  cases s with
  | nil => rfl
  | cons next rest =>
      have hu : isUppercase c = false := isUppercase_of_isLowercase ha hc
      have hafter : mode.after c = mode'.after c := by
        rw [after_of_isLowercase hc, after_of_isLowercase hc]
      rw [wordsFrom, wordsFrom, hafter]
      simp only [hu, Bool.false_eq_true, false_and, and_false, if_false]

/-- A row of capitals ends before one that a small letter follows. -/
theorem wordsFrom_upper {V d : Char} (hda : isAscii d = true) (hV : isUppercase V = true)
    (hd : isLowercase d = true) (s : List Char) :
    wordsFrom .upper (V :: d :: s) = [] :: wordsFrom .none (V :: d :: s) := by
  have hdu : isUppercase d = false := isUppercase_of_isLowercase hda hd
  rw [wordsFrom, if_neg (by simp [hdu]), if_pos ⟨rfl, hV, hd⟩, wordsFrom, if_neg (by simp [hdu]),
    if_neg (by simp), wordsFrom_of_isLowercase hda hd (CaseMode.after .none V) .none]

/-- A word is cut off where it meets what follows. -/
theorem wordsFrom_append {mode : CaseMode} {c : Char} {t v : List Char} (hv : Ascii v)
    (hc : mode ≠ .upper ∨ isUppercase c = false) (ht : ∀ d ∈ t, isUppercase d = false)
    (hmeet : Meet mode (c :: t) v) :
    wordsFrom mode (c :: t ++ v) = (c :: t) :: wordsFrom .none v := by
  induction t generalizing mode c with
  | nil =>
      cases hmeet with
      | small hend hV => exact by rw [List.singleton_append, wordsFrom, if_pos ⟨hend, hV⟩]
      | @capital v V d hend hV hd =>
          have hVa : isAscii V = true := hv V List.mem_cons_self
          have hda : isAscii d = true := hv d (by simp)
          have hnot : isLowercase V = false := (caseLaws hVa).isLowercase_of_isUppercase hV
          have hafter : mode.after c = .upper := hend
          rw [List.singleton_append, wordsFrom, hafter, if_neg (by simp), if_neg (by simp [hnot]),
            wordsFrom_upper hda hV hd v]
          rfl
  | cons d t ih =>
      have hd : isUppercase d = false := ht d List.mem_cons_self
      have ht' : ∀ e ∈ t, isUppercase e = false := fun e he => ht e (List.mem_cons_of_mem d he)
      have hrest := ih (Or.inr hd) ht' (meet_cons.mp hmeet)
      rw [List.cons_append, List.cons_append, wordsFrom, if_neg (by simp [hd]), if_neg,
        ← List.cons_append, hrest]
      · rfl
      · rintro ⟨hm, hu, -⟩
        rcases hc with hc | hc
        · exact hc hm
        · rw [hu] at hc
          exact Bool.noConfusion hc

/-- **Tidy words that meet at cuts are found again in their concatenation.** -/
theorem wordsFrom_flatten {ws : List (List Char)} (hs : Ascii ws.flatten)
    (htidy : ∀ w ∈ ws, Tidy w) (hcuts : Cuts .none ws) : wordsFrom .none ws.flatten = ws := by
  induction ws with
  | nil => rfl
  | cons w rest ih =>
      obtain @⟨c, t, ht⟩ := htidy w List.mem_cons_self
      cases rest with
      | nil =>
          rw [List.flatten_singleton]
          exact wordsFrom_of_noCapital (Or.inl (by decide)) ht
      | cons v rest =>
          have hs' : Ascii (v :: rest).flatten := fun d hd => hs d (by simp_all)
          have hmeet : Meet .none (c :: t) (v :: rest).flatten := by
            rcases hcuts.1 with ⟨hend, hc⟩ | ⟨hend, hc, hd⟩
            · exact .small hend hc
            · exact .capital hend hc hd
          rw [List.flatten_cons, wordsFrom_append hs' (Or.inl (by decide)) ht hmeet,
            ih hs' (fun u hu => htidy u (List.mem_cons_of_mem _ hu)) hcuts.2]

end SwaggerClient.Text
