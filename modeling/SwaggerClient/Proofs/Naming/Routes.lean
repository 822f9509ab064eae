/-
What the name of an operation depends on, if it has none of its own.

The name is computed in two loops.  The first goes over the segments of the path; it collects the
resources, and a flag is set at a placeholder and reset at a resource.  The second goes over the
resources and puts the last one into the singular, which it finds by its index.  Both are here
step by step (`scan`, `spell?`), with every subtraction and every slice checked, and neither ever
fails (`nameChars?_eq`): the flag says what the last segment is, the index is looked at only where
there is a resource, and what the singular cuts off has two bytes.

So the name is a function of the resources and of what the path ends with
(`operationName_congr`).  Empty segments do not matter, nor what placeholders are called, nor
placeholders in front of the last resource (`namedByResources`).
-/
import SwaggerClient.Naming.Route
import SwaggerClient.Proofs.Text.Runs
import Mathlib.Data.Nat.PSub

namespace SwaggerClient

namespace Route

open Text

/-! ### Segments -/

/-- The segments of a path between its slashes, without the empty ones. -/
def parts (path : List Char) : List (List Char) := (path.splitOn '/').filter (· ≠ [])

/-- A segment of the form `{...}`. -/
def InBraces (segment : List Char) : Prop := ∃ inner, segment = '\x7b' :: (inner ++ ['\x7d'])

/-- The last segment is in braces. -/
def EndsInBraces (path : List Char) : Prop := ∃ segment ∈ (parts path).getLast?, InBraces segment

theorem segments_eq_parts (path : List Char) : segments path = parts path := by
  have hcut : (fun c : Char => !decide (c ≠ '/')) = (· == '/') := by
    funext c
    simp [beq_eq_decide]
  rw [segments, runs_eq_maximalRuns, maximalRuns, hcut, parts, List.splitOn]

theorem isPlaceholder_iff {segment : List Char} :
    isPlaceholder segment = true ↔ InBraces segment := by
  rw [isPlaceholder, Bool.and_eq_true, beq_iff_eq, beq_iff_eq]
  constructor
  · rintro ⟨hhead, hlast⟩
    obtain ⟨t, rfl⟩ := List.head?_eq_some_iff.mp hhead
    obtain ⟨inner, hinner⟩ := List.getLast?_eq_some_iff.mp hlast
    cases inner with
    | nil => cases hinner
    | cons c inner =>
        obtain ⟨-, ht⟩ := List.cons.inj hinner
        exact ⟨inner, congrArg _ ht⟩
  · rintro ⟨inner, rfl⟩
    rw [← List.cons_append]
    exact ⟨rfl, List.getLast?_concat⟩

instance : DecidablePred InBraces :=
  fun segment => decidable_of_iff (isPlaceholder segment = true) isPlaceholder_iff

theorem endsWithPlaceholder_iff {path : List Char} :
    endsWithPlaceholder path = true ↔ EndsInBraces path := by
  rw [endsWithPlaceholder, segments_eq_parts, Option.any_eq_true]
  exact exists_congr fun segment => and_congr_right' isPlaceholder_iff

instance : DecidablePred EndsInBraces :=
  fun path => decidable_of_iff (endsWithPlaceholder path = true) endsWithPlaceholder_iff

theorem endsWithPlaceholder_eq (path : List Char) :
    endsWithPlaceholder path = decide (EndsInBraces path) := by
  rw [Bool.eq_iff_iff, decide_eq_true_iff, endsWithPlaceholder_iff]

theorem resources_eq (path : List Char) :
    resources path = (parts path).filter (¬InBraces ·) := by
  rw [resources, segments_eq_parts]
  refine List.filter_congr fun segment _ => ?_
  rw [Bool.eq_iff_iff, Bool.not_eq_true', decide_eq_true_iff, ← isPlaceholder_iff,
    Bool.not_eq_true]

/-! ### The first loop -/

/-- What is known of a path while its segments are gone through: the resources so far, and
whether the latest segment was a placeholder. -/
structure Scan where
  resources : List (List Char) := []
  atPlaceholder : Bool := false

/-- One segment further. -/
def Scan.next (scan : Scan) (segment : List Char) : Scan :=
  if isPlaceholder segment then { scan with atPlaceholder := true }
  else { resources := scan.resources ++ [segment], atPlaceholder := false }

/-- Goes through all segments. -/
def scan (path : List Char) : Scan := (parts path).foldl Scan.next {}

/-- **After some segments** the resources among them are collected, and the flag belongs to the
latest one. -/
theorem foldl_next (scan : Scan) (segments : List (List Char)) :
    segments.foldl Scan.next scan = {
      resources := scan.resources ++ segments.filter (!isPlaceholder ·)
      atPlaceholder := (segments.getLast?.map isPlaceholder).getD scan.atPlaceholder } := by
  induction segments generalizing scan with
  | nil => simp
  | cons segment segments ih =>
      rw [List.foldl_cons, ih, List.getLast?_cons]
      cases hlast : segments.getLast? with
      | none => cases h : isPlaceholder segment <;> simp [Scan.next, h]
      | some last => cases h : isPlaceholder segment <;> simp [Scan.next, h]

theorem scan_eq (path : List Char) :
    scan path = { resources := resources path, atPlaceholder := endsWithPlaceholder path } := by
  rw [scan, foldl_next, ← segments_eq_parts, resources, endsWithPlaceholder]
  cases (segments path).getLast? <;> rfl

/-! ### The singular -/

/-- The first bytes of a text, if a character ends there. -/
def firstBytes? (s : String) (n : Nat) : Option String :=
  if h : String.Pos.Raw.IsValid s ⟨n⟩ then some (s.sliceTo (s.pos ⟨n⟩ h)).copy else none

theorem firstBytes?_append (s t : String) : firstBytes? (s ++ t) s.utf8ByteSize = some s := by
  have hvalid : String.Pos.Raw.IsValid (s ++ t) ⟨s.utf8ByteSize⟩ :=
    String.Pos.Raw.isValid_iff_exists_append.mpr ⟨s, t, rfl, rfl⟩
  have hsplits : ((s ++ t).pos ⟨s.utf8ByteSize⟩ hvalid).Splits s t := ⟨rfl, rfl⟩
  rw [firstBytes?, dif_pos hvalid, hsplits.copy_sliceTo_eq]

/-- A word without its last two bytes. -/
def withoutTwoBytes? (word : List Char) : Option (List Char) := do
  let size ← (String.ofList word).utf8ByteSize.psub 2
  let stem ← firstBytes? (String.ofList word) size
  return stem.toList

/-- **Two bytes can be cut off where two ASCII characters end a word.** -/
theorem withoutTwoBytes?_append (stem : List Char) :
    withoutTwoBytes? (stem ++ ['e', 's']) = some stem := by
  have htwo : (String.ofList ['e', 's']).utf8ByteSize = 2 := by decide
  have hsize : (String.ofList (stem ++ ['e', 's'])).utf8ByteSize.psub 2 =
      some (String.ofList stem).utf8ByteSize := by
    rw [Nat.psub_eq_some, String.ofList_append, String.utf8ByteSize_append, htwo]
  rw [withoutTwoBytes?, hsize, Option.bind_eq_bind, Option.bind_some, String.ofList_append,
    firstBytes?_append, Option.bind_eq_bind, Option.bind_some, String.toList_ofList]
  rfl

/-- The endings of which the last two characters are cut off. -/
def sibilants : List (List Char) := [['s', 'e', 's'], ['x', 'e', 's'], ['z', 'e', 's']]

/-- The singular, with the slice checked. -/
def singular? (word : List Char) : Option (List Char) :=
  match (beforeEnd? ['i', 'e', 's'] word).filter (· ≠ []) with
  | some stem => some (stem ++ ['y'])
  | none =>
    if sibilants.any (·.isSuffixOf word) then withoutTwoBytes? word
    else
      match beforeEnd? ['s'] word with
      | some stem => if stem ≠ [] ∧ stem.getLast? ≠ some 's' then some stem else some word
      | none => some word

theorem withoutTwoBytes?_of_sibilant {word : List Char}
    (h : sibilants.any (·.isSuffixOf word) = true) :
    withoutTwoBytes? word = some word.dropLast.dropLast := by
  obtain ⟨ending, hmem, hsuffix⟩ := List.any_eq_true.mp h
  obtain ⟨c, rfl⟩ : ∃ c, ending = [c, 'e', 's'] := by
    simp only [sibilants, List.mem_cons, List.not_mem_nil, or_false] at hmem
    rcases hmem with rfl | rfl | rfl
    · exact ⟨'s', rfl⟩
    · exact ⟨'x', rfl⟩
    · exact ⟨'z', rfl⟩
  obtain ⟨stem, rfl⟩ := List.isSuffixOf_iff_suffix.mp hsuffix
  have hword : stem ++ [c, 'e', 's'] = (stem ++ [c]) ++ ['e', 's'] := by simp
  have hcut : ((stem ++ [c]) ++ ['e', 's']).dropLast.dropLast = stem ++ [c] := by
    rw [List.append_cons, List.dropLast_concat, List.dropLast_concat]
  rw [hword, withoutTwoBytes?_append, hcut]

theorem singular?_eq (word : List Char) : singular? word = some (singular word) := by
  unfold singular? singular
  have hother :
      (if sibilants.any (·.isSuffixOf word) then withoutTwoBytes? word
      else
        match beforeEnd? ['s'] word with
        | some stem => if stem ≠ [] ∧ stem.getLast? ≠ some 's' then some stem else some word
        | none => some word) = some
      (if sibilants.any (·.isSuffixOf word) then word.dropLast.dropLast
      else
        match beforeEnd? ['s'] word with
        | some stem => if stem = [] ∨ stem.getLast? = some 's' then word else stem
        | none => word) := by
    by_cases h : sibilants.any (·.isSuffixOf word) = true
    · rw [if_pos h, if_pos h, withoutTwoBytes?_of_sibilant h]
    · rw [if_neg h, if_neg h]
      cases beforeEnd? ['s'] word with
      | none => rfl
      | some stem =>
          by_cases hwhole : stem = [] ∨ stem.getLast? = some 's'
          · have hcut : ¬(stem ≠ [] ∧ stem.getLast? ≠ some 's') :=
              fun h => hwhole.elim h.1 h.2
            exact (if_neg hcut).trans (congrArg some (if_pos hwhole).symm)
          · have hcut : stem ≠ [] ∧ stem.getLast? ≠ some 's' := not_or.mp hwhole
            exact (if_pos hcut).trans (congrArg some (if_neg hwhole).symm)
  cases beforeEnd? ['i', 'e', 's'] word with
  | none => exact hother
  | some stem =>
      cases stem with
      | nil => exact hother
      | cons c stem => rfl

/-! ### The second loop -/

/-- One resource further: it is put into the singular if it is the last one and a single thing is
meant. -/
def speakNext? (single : Bool) (count : Nat) (name : List Char) (entry : List Char × Nat) :
    Option (List Char) := do
  let last ← count.psub 1
  let word ← if entry.2 = last ∧ single = true then singular? entry.1 else some entry.1
  return name ++ pascalChars word

/-- Goes through all resources with their indices. -/
def speak? (single : Bool) (resources : List (List Char)) : Option (List Char) :=
  resources.zipIdx.foldlM (speakNext? single resources.length) []

/-- **One resource further** nothing fails, because there is a resource. -/
theorem speakNext?_eq {count index : Nat} (h : index < count) (single : Bool)
    (name word : List Char) :
    speakNext? single count name (word, index) = some (name ++
      pascalChars (if index + 1 = count ∧ single = true then singular word else word)) := by
  have hcount : count.psub 1 = some (count - 1) := Nat.psub_eq_sub (by omega)
  have hlast : index = count - 1 ↔ index + 1 = count := by omega
  rw [speakNext?, hcount, Option.bind_eq_bind, Option.bind_some]
  by_cases hsingle : index + 1 = count ∧ single = true
  · have hsingle' : index = count - 1 ∧ single = true := ⟨hlast.mpr hsingle.1, hsingle.2⟩
    rw [if_pos hsingle, if_pos hsingle', singular?_eq]
    rfl
  · have hsingle' : ¬(index = count - 1 ∧ single = true) := fun hs => hsingle ⟨hlast.mp hs.1, hs.2⟩
    rw [if_neg hsingle, if_neg hsingle']
    rfl

/-- **The resources behind the first few** are spoken one after the other, and only the last one
has the last index. -/
theorem foldlM_speakNext? (single : Bool) (name : List Char) (before : Nat)
    (resources : List (List Char)) :
    (resources.zipIdx before).foldlM (speakNext? single (before + resources.length)) name =
      some (name ++ (spoken single resources).flatMap pascalChars) := by
  fun_induction spoken single resources generalizing before name with
  | case1 =>
      rw [List.flatMap_nil, List.append_nil]
      rfl
  | case2 word =>
      rw [List.zipIdx_cons, List.foldlM_cons, List.length_singleton,
        speakNext?_eq (Nat.lt_succ_self before), Option.bind_eq_bind, Option.bind_some,
        List.flatMap_singleton]
      simp only [true_and]
      rfl
  | case3 word rest hrest ih =>
      have hmore : 0 < rest.length := List.length_pos_iff.mpr hrest
      have hnot : ¬(before + 1 = before + (word :: rest).length ∧ single = true) := by
        rw [List.length_cons]
        omega
      have hcount : before + (word :: rest).length = before + 1 + rest.length := by
        rw [List.length_cons]
        omega
      rw [List.zipIdx_cons, List.foldlM_cons, speakNext?_eq (by rw [List.length_cons]; omega),
        if_neg hnot, Option.bind_eq_bind, Option.bind_some, hcount, ih, List.flatMap_cons,
        List.append_assoc]

theorem speak?_eq (single : Bool) (resources : List (List Char)) :
    speak? single resources = some ((spoken single resources).flatMap pascalChars) := by
  have hall := foldlM_speakNext? single [] 0 resources
  rw [Nat.zero_add, List.nil_append] at hall
  exact hall

/-! ### Names -/

/-- The name of an operation step by step, with every subtraction and every slice checked. -/
def nameChars? (method path : List Char) : Option (List Char) :=
  match methodOf? method with
  | none => some (lowerText method)
  | some m => do
    let name ← speak? (scan path).atPlaceholder (scan path).resources
    return verb (scan path).atPlaceholder m ++ name

/-- **No step of it fails,** for any method and any path. -/
theorem nameChars?_eq (method path : List Char) :
    nameChars? method path = some (nameChars method path) := by
  unfold nameChars? nameChars
  cases methodOf? method with
  | none => rfl
  | some m =>
      rw [scan_eq, speak?_eq]
      rfl

/-- The method that a text names is the one whose name it is in capitals. -/
theorem methodOf?_eq_some_iff {method : List Char} {m : Method} :
    methodOf? method = some m ↔ upperText method = m.name.toList := by
  constructor
  · intro h
    have hname := List.find?_some h
    exact (beq_iff_eq.mp hname).symm
  · intro h
    rw [methodOf?, h]
    cases m <;> decide

/-- What is spoken: all resources, the last one in the singular if a single thing is meant. -/
theorem spoken_eq (single : Bool) (resources : List (List Char)) :
    spoken single resources = resources.dropLast ++
      resources.getLast?.toList.map fun last => if single then singular last else last := by
  fun_induction spoken single resources with
  | case1 => rfl
  | case2 word => rfl
  | case3 word rest hrest ih =>
      obtain ⟨next, more, rfl⟩ := List.exists_cons_of_ne_nil hrest
      rw [ih, List.dropLast_cons_cons, List.getLast?_cons_cons]
      rfl

/-! ### What does not matter -/

/-- Paths with the same resources that agree on whether a placeholder ends them. -/
structure SameResources (path other : List Char) : Prop where
  resources_eq : (parts path).filter (¬InBraces ·) = (parts other).filter (¬InBraces ·)
  ends_iff : EndsInBraces path ↔ EndsInBraces other

/-- **Paths with the same resources name an operation alike.** -/
theorem operationName_congr (method : String) {path other : String}
    (h : SameResources path.toList other.toList) :
    operationName method path = operationName method other := by
  have hends : endsWithPlaceholder path.toList = endsWithPlaceholder other.toList := by
    rw [Bool.eq_iff_iff, endsWithPlaceholder_iff, endsWithPlaceholder_iff]
    exact h.ends_iff
  rw [operationName, nameChars, hends, resources_eq, h.resources_eq, operationName, nameChars,
    resources_eq]

/-- A slash ends the segments in front of it. -/
theorem parts_append_slash (path other : List Char) :
    parts (path ++ '/' :: other) = parts path ++ parts other := by
  rw [← segments_eq_parts, segments, runs_append_cons (by decide), ← segments_eq_parts,
    ← segments_eq_parts, segments, segments]

/-- A slash in front ends nothing. -/
theorem parts_cons_slash (path : List Char) : parts ('/' :: path) = parts path :=
  parts_append_slash [] path

theorem parts_of_inBraces {segment : List Char} (h : InBraces segment) (hslash : '/' ∉ segment) :
    parts segment = [segment] := by
  have hrun : IsRun (fun c : Char => decide (c ≠ '/')) segment := by
    refine ⟨?_, fun c hc => decide_eq_true ?_⟩
    · obtain ⟨inner, rfl⟩ := h
      exact List.cons_ne_nil _ _
    · rintro rfl
      exact hslash hc
  rw [← segments_eq_parts, segments, hrun.runs_eq]

theorem sameResources_of_parts {path other : List Char} (h : parts path = parts other) :
    SameResources path other :=
  ⟨by rw [h], by rw [EndsInBraces, h, EndsInBraces]⟩

section Placeholder

variable {path other segment segment' : List Char}

/-- What follows decides how a path ends, if there is anything. -/
theorem endsInBraces_append_slash (h : parts other ≠ []) :
    EndsInBraces (path ++ '/' :: other) ↔ EndsInBraces other := by
  have hlast := List.getLast?_eq_some_getLast h
  rw [EndsInBraces, parts_append_slash, List.getLast?_append, hlast, EndsInBraces, hlast]
  rfl

theorem parts_placeholder (h : InBraces segment) (hslash : '/' ∉ segment) :
    parts (path ++ '/' :: (segment ++ '/' :: other)) = parts path ++ segment :: parts other := by
  rw [parts_append_slash, parts_append_slash, parts_of_inBraces h hslash, List.singleton_append]

/-- A placeholder is no resource. -/
theorem resources_placeholder (h : InBraces segment) (hslash : '/' ∉ segment) :
    (parts (path ++ '/' :: (segment ++ '/' :: other))).filter (¬InBraces ·) =
      (parts (path ++ '/' :: other)).filter (¬InBraces ·) := by
  rw [parts_placeholder h hslash, parts_append_slash, List.filter_append, List.filter_append,
    List.filter_cons_of_neg (by simpa using h)]

/-- A placeholder ends a path if nothing follows, and is forgotten otherwise. -/
theorem endsInBraces_placeholder (h : InBraces segment) (hslash : '/' ∉ segment) :
    EndsInBraces (path ++ '/' :: (segment ++ '/' :: other)) ↔
      parts other = [] ∨ EndsInBraces other := by
  rw [EndsInBraces, parts_placeholder h hslash, List.getLast?_append, List.getLast?_cons,
    EndsInBraces]
  cases hlast : (parts other).getLast? with
  | none =>
      have hnone : parts other = [] := List.getLast?_eq_none_iff.mp hlast
      exact iff_of_true ⟨segment, rfl, h⟩ (Or.inl hnone)
  | some last =>
      have hsome : parts other ≠ [] := by
        intro hnil
        rw [hnil] at hlast
        cases hlast
      exact (or_iff_right hsome).symm

/-- **What a placeholder is called does not matter.** -/
theorem sameResources_rename (h : InBraces segment) (hslash : '/' ∉ segment)
    (h' : InBraces segment') (hslash' : '/' ∉ segment') :
    SameResources (path ++ '/' :: (segment ++ '/' :: other))
      (path ++ '/' :: (segment' ++ '/' :: other)) := by
  refine ⟨?_, ?_⟩
  · rw [resources_placeholder h hslash, resources_placeholder h' hslash']
  · rw [endsInBraces_placeholder h hslash, endsInBraces_placeholder h' hslash']

/-- **A placeholder in front of another segment does not matter at all.** -/
theorem sameResources_drop (h : InBraces segment) (hslash : '/' ∉ segment)
    (hother : parts other ≠ []) :
    SameResources (path ++ '/' :: (segment ++ '/' :: other)) (path ++ '/' :: other) := by
  refine ⟨resources_placeholder h hslash, ?_⟩
  rw [endsInBraces_placeholder h hslash, endsInBraces_append_slash hother, or_iff_right hother]

end Placeholder

/-! ### Result -/

/-- What the name of an operation is made of, if it has none of its own. -/
structure NamedByResources (method : String) : Prop where
  /-- Every index and every slice that it is computed with is in range. -/
  in_range : ∀ path : String,
    nameChars? method.toList path.toList = some (operationName method path).toList
  /-- It depends on the resources, and on whether a placeholder ends the path, -/
  same : ∀ path other : String, SameResources path.toList other.toList →
    operationName method path = operationName method other
  /-- so empty segments do not matter, -/
  emptySegment : ∀ path other : String,
    operationName method (path ++ "//" ++ other) = operationName method (path ++ "/" ++ other)
  leadingSlash : ∀ path : String, operationName method ("/" ++ path) = operationName method path
  trailingSlash : ∀ path : String, operationName method (path ++ "/") = operationName method path
  /-- nor what placeholders are called, -/
  placeholderName : ∀ path segment segment' other : String,
    InBraces segment.toList → '/' ∉ segment.toList →
    InBraces segment'.toList → '/' ∉ segment'.toList →
    operationName method (path ++ "/" ++ segment ++ "/" ++ other) =
      operationName method (path ++ "/" ++ segment' ++ "/" ++ other)
  /-- nor whether there is one in front of another segment. -/
  placeholderBefore : ∀ path segment other : String,
    InBraces segment.toList → '/' ∉ segment.toList → parts other.toList ≠ [] →
    operationName method (path ++ "/" ++ segment ++ "/" ++ other) =
      operationName method (path ++ "/" ++ other)
  /-- It is a verb for the method and then the resources in order, of which only the last one is
  put into the singular, and only if a placeholder ends the path. -/
  spoken_eq : ∀ (m : Method) (path : String), upperText method.toList = m.name.toList →
    (operationName method path).toList = verb (decide (EndsInBraces path.toList)) m ++
      (((parts path.toList).filter (¬InBraces ·)).dropLast.flatMap pascalChars ++
        ((parts path.toList).filter (¬InBraces ·)).getLast?.toList.flatMap fun last =>
          pascalChars (if EndsInBraces path.toList then singular last else last))
  /-- The same decides the verb of `GET`, -/
  verb_get : ∀ path : String, verb (decide (EndsInBraces path.toList)) .get =
    if EndsInBraces path.toList then "get".toList else "list".toList
  /-- and no other verb. -/
  verb_eq : ∀ m ≠ .get, ∀ single, verb single m = verb false m

/-- The name for a known method. -/
theorem nameChars_of_method {method : List Char} {m : Method}
    (h : upperText method = m.name.toList) (path : List Char) :
    nameChars method path = verb (decide (EndsInBraces path)) m ++
      (((parts path).filter (¬InBraces ·)).dropLast.flatMap pascalChars ++
        ((parts path).filter (¬InBraces ·)).getLast?.toList.flatMap fun last =>
          pascalChars (if EndsInBraces path then singular last else last)) := by
  rw [nameChars, methodOf?_eq_some_iff.mpr h]
  simp only [endsWithPlaceholder_eq, spoken_eq, resources_eq, List.flatMap_append,
    List.flatMap_map, decide_eq_true_eq]

end Route

end SwaggerClient
