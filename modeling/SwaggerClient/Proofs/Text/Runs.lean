/-
The runs of a text, and texts that are put together from runs.

A text is cut at every character that does not satisfy a predicate.  What remains between the
cuts are its runs, once the empty pieces are dropped (`runs_eq_maximalRuns`).  So a cut ends
whatever came before it (`runs_append_cons`), and a text has a run exactly if it has a character
for one (`runs_ne_nil_iff`).

The converse is what makes runs a normal form.  Runs that are joined by a separator come
out again as they were put in (`runs_intercalate`), whatever stood between them before.
-/
import SwaggerClient.Text.Words

namespace SwaggerClient.Text

variable {p : Char → Bool}

/-- A text that is not empty and holds only characters that satisfy the predicate. -/
structure IsRun (p : Char → Bool) (r : List Char) : Prop where
  nonempty : r ≠ []
  all : ∀ c ∈ r, p c = true

/-! ### Cutting -/

/-- What is left of a text that is cut at every character that does not satisfy the predicate:
the pieces between the cuts, without the empty ones. -/
def maximalRuns (p : Char → Bool) (s : List Char) : List (List Char) :=
  (s.splitOnP fun c => !p c).filter (· ≠ [])

/-- **Runs are the pieces between the cuts.** -/
theorem runs_eq_maximalRuns (p : Char → Bool) (s : List Char) : runs p s = maximalRuns p s := by
  have hpieces : ∀ t : List Char, ∃ piece pieces, (t.splitOnP fun c => !p c) = piece :: pieces :=
    fun t => List.exists_cons_of_ne_nil (List.splitOnP_ne_nil _ t)
  unfold maximalRuns
  fun_induction runs p s with
  | case1 => rfl
  | case2 c hc => simp [List.splitOnP_cons_eq_if_modifyHead, hc]
  | case3 c hc => simp [List.splitOnP_cons_eq_if_modifyHead, hc]
  | case4 c d rest hc hd hnone ih =>
      -- the next character begins a run, so there is one
      obtain ⟨piece, pieces, hrest⟩ := hpieces rest
      rw [hnone, List.splitOnP_cons_eq_if_modifyHead] at ih
      simp [hd, hrest] at ih
  | case5 c d rest hc hd run more hruns ih =>
      obtain ⟨piece, pieces, hrest⟩ := hpieces rest
      rw [hruns, List.splitOnP_cons_eq_if_modifyHead] at ih
      simp only [hd, hrest] at ih
      simp [List.splitOnP_cons_eq_if_modifyHead, hc, hd, hrest] at ih ⊢
      exact ih
  | case6 c d rest hc hd ih =>
      rw [List.splitOnP_cons_eq_if_modifyHead] at ih
      simp [hd] at ih
      simp [List.splitOnP_cons_eq_if_modifyHead, hc, hd, ih]
  | case7 c d rest hc ih => simp [List.splitOnP_cons_eq_if_modifyHead c, hc, ih]

/-- **A cut ends what came before it.** -/
theorem runs_append_cons {c : Char} (hc : p c = false) (s t : List Char) :
    runs p (s ++ c :: t) = runs p s ++ runs p t := by
  have hcut : (!p c) = true := by rw [hc]; rfl
  rw [runs_eq_maximalRuns, runs_eq_maximalRuns, runs_eq_maximalRuns, maximalRuns,
    List.splitOnP_append_cons s t hcut, List.filter_append]
  rfl

/-- A run is its own only run. -/
theorem IsRun.runs_eq {r : List Char} (h : IsRun p r) : runs p r = [r] := by
  have hwhole : (r.splitOnP fun c => !p c) = [r] :=
    List.splitOnP_eq_singleton fun c hc => by rw [h.all c hc]; rfl
  rw [runs_eq_maximalRuns, maximalRuns, hwhole]
  simp [h.nonempty]

/-! ### What runs hold -/

/-- **The runs in a row are the characters that satisfy the predicate.** -/
theorem flatten_runs (p : Char → Bool) (s : List Char) : (runs p s).flatten = s.filter p := by
  fun_induction runs p s with
  | case1 => rfl
  | case2 c hc => rw [List.filter_cons_of_pos hc]; rfl
  | case3 c hc => rw [List.filter_cons_of_neg hc]; rfl
  | case4 c d rest hc hd heq ih =>
      rw [heq] at ih
      rw [List.filter_cons_of_pos hc, ← ih]
      rfl
  | case5 c d rest hc hd run more heq ih =>
      rw [heq] at ih
      rw [List.filter_cons_of_pos hc, ← ih]
      rfl
  | case6 c d rest hc hd ih =>
      rw [List.filter_cons_of_pos hc, ← ih]
      rfl
  | case7 c d rest hc ih => rw [List.filter_cons_of_neg hc, ih]

/-- A run holds characters of the text that satisfy the predicate. -/
theorem mem_runs {s r : List Char} (hr : r ∈ runs p s) : ∀ c ∈ r, p c = true ∧ c ∈ s := by
  intro c hc
  have hmem : c ∈ (runs p s).flatten := List.mem_flatten.mpr ⟨r, hr, hc⟩
  rw [flatten_runs, List.mem_filter] at hmem
  exact hmem.symm

/-- Every run of a text is one. -/
theorem isRun_of_mem {s r : List Char} (hr : r ∈ runs p s) : IsRun p r := by
  refine ⟨?_, fun c hc => (mem_runs hr c hc).1⟩
  rw [runs_eq_maximalRuns] at hr
  exact of_decide_eq_true (List.mem_filter.mp hr).2

/-- **A text has a run exactly if it has a character for one.** -/
theorem runs_ne_nil_iff {s : List Char} : runs p s ≠ [] ↔ ∃ c ∈ s, p c = true := by
  constructor
  · intro h
    obtain ⟨r, more, hruns⟩ := List.exists_cons_of_ne_nil h
    have hr : r ∈ runs p s := by rw [hruns]; exact List.mem_cons_self
    obtain ⟨c, t, rfl⟩ := List.exists_cons_of_ne_nil (isRun_of_mem hr).nonempty
    obtain ⟨hc, hcs⟩ := mem_runs hr c List.mem_cons_self
    exact ⟨c, hcs, hc⟩
  · rintro ⟨c, hcs, hc⟩ hnil
    have hmem : c ∈ s.filter p := List.mem_filter.mpr ⟨hcs, hc⟩
    rw [← flatten_runs, hnil] at hmem
    exact List.not_mem_nil hmem

/-- The first run begins with the first character that satisfies the predicate. -/
theorem head?_runs (p : Char → Bool) (s : List Char) :
    (runs p s).head?.bind List.head? = s.find? p := by
  fun_induction runs p s with
  | case1 => rfl
  | case2 c hc => rw [List.find?_cons_of_pos hc]; rfl
  | case3 c hc => rw [List.find?_cons_of_neg hc]; rfl
  | case4 c d rest hc hd heq => rw [List.find?_cons_of_pos hc]; rfl
  | case5 c d rest hc hd run more heq => rw [List.find?_cons_of_pos hc]; rfl
  | case6 c d rest hc hd => rw [List.find?_cons_of_pos hc]; rfl
  | case7 c d rest hc ih => rw [List.find?_cons_of_neg hc, ih]

theorem runs_cons {c : Char} (hc : p c = true) (s : List Char) :
    ∃ r more, runs p (c :: s) = (c :: r) :: more := by
  cases s with
  | nil => exact ⟨[], [], by rw [runs, if_pos hc]⟩
  | cons d s =>
      rw [runs, if_pos hc]
      split
      · split
        · exact ⟨[], [], rfl⟩
        · exact ⟨_, _, rfl⟩
      · exact ⟨[], _, rfl⟩

/-! ### Joining -/

/-- Joined runs hold their own characters and the separator. -/
theorem mem_intercalate {sep : Char} {c : Char} {rs : List (List Char)}
    (h : c ∈ [sep].intercalate rs) : c = sep ∨ ∃ r ∈ rs, c ∈ r := by
  induction rs with
  | nil => simp at h
  | cons r rest ih =>
      cases rest with
      | nil =>
          rw [List.intercalate_singleton] at h
          exact Or.inr ⟨r, List.mem_cons_self, h⟩
      | cons r' rest =>
          rw [List.intercalate_cons_cons, List.mem_append, List.mem_append,
            List.mem_singleton] at h
          rcases h with (h | h) | h
          · exact Or.inr ⟨r, List.mem_cons_self, h⟩
          · exact Or.inl h
          · rcases ih h with h | ⟨u, hu, hc⟩
            · exact Or.inl h
            · exact Or.inr ⟨u, List.mem_cons_of_mem r hu, hc⟩

/-- **Joined runs are found again.** -/
theorem runs_intercalate {sep : Char} (hsep : p sep = false) {rs : List (List Char)}
    (h : ∀ r ∈ rs, IsRun p r) : runs p ([sep].intercalate rs) = rs := by
  induction rs with
  | nil => rfl
  | cons r rest ih =>
      obtain ⟨hr, hrest⟩ := List.forall_mem_cons.mp h
      cases rest with
      | nil =>
          rw [List.intercalate_singleton]
          exact hr.runs_eq
      | cons r' rest =>
          rw [List.intercalate_cons_cons, List.append_assoc, List.singleton_append,
            runs_append_cons hsep, hr.runs_eq, ih hrest, List.singleton_append]

end SwaggerClient.Text
