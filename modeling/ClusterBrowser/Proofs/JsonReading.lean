import ClusterBrowser.Proofs.JsonGrammar
import Mathlib.Data.List.DropRight

/-!
# Reading what the grammar allows

* `Json.Value.length_lt`: what follows a value is shorter, so that the reader has steps enough.
* `Json.Value.read`, `Json.Items.read`, `Json.Fields.read`: values, items and fields are read if they are not nested too deep.
* `Json.read_of_takesTexts`: so are whole texts.
* **`Json.read_eq`**: the strict reader takes just those texts of a value of which the depth is 200 at most.
* `Json.read_begins`: whatever text is read begins like its value.
-/

namespace ClusterBrowser.Json

open Point (ofChars)

/-! ## Steps of the reader -/

theorem skipGaps_skipGaps (ps : List Point) : skipGaps (skipGaps ps) = skipGaps ps := List.dropWhile_idempotent isGap ps

variable {dialect : Dialect String}

theorem readItems_skipGaps (fuel depth : Nat) (ps : List Point) :
    readItems dialect fuel depth (skipGaps ps) = readItems dialect fuel depth ps := by
  have hvalue : ∀ fuel, readValue dialect fuel depth (skipGaps ps) = readValue dialect fuel depth ps := by
    rintro ⟨_ | fuel⟩
    · rfl
    · rw [readValue, readValue, skipGaps_skipGaps]
  cases fuel with
  | zero => rfl
  | succ fuel => rw [readItems, readItems, hvalue]

theorem readFields_skipGaps (fuel depth : Nat) (ps : List Point) :
    readFields dialect fuel depth (skipGaps ps) = readFields dialect fuel depth ps := by
  cases fuel with
  | zero => rfl
  | succ fuel => rw [readFields, readFields, skipGaps_skipGaps]

section steps

variable {fuel depth : Nat} {ps rest rest' rest'' : List Point}

theorem readValue_token {c : Char} {found : Json × List Point} (h : skipGaps ps = .char c :: rest) (mark : c ≠ '"')
    (bracket : c ≠ '[') (brace : c ≠ '\x7b')
    (hread : readWord (.char c :: rest) = some found ∨
      (readWord (.char c :: rest) : Option (Json × List Point)) = none ∧ readNumber dialect (.char c :: rest) = some found) :
    readValue dialect (fuel + 1) depth ps = some found := by
  rw [readValue, h]
  split
  · next heq =>
    cases heq
    exact absurd rfl mark
  · next heq =>
    cases heq
    exact absurd rfl bracket
  · next heq =>
    cases heq
    exact absurd rfl brace
  · rcases hread with hword | ⟨hword, hnumber⟩
    · rw [hword]
    · rw [hword, hnumber]

theorem readValue_string {s : String} (h : skipGaps ps = .char '"' :: rest)
    (hstring : readString dialect rest = some (s, rest')) :
    readValue dialect (fuel + 1) depth ps = some (.str s, rest') := by
  simp [readValue, h, hstring]

theorem readValue_emptyArray (h : skipGaps ps = .char '[' :: rest) (hend : skipGaps rest = .char ']' :: rest') :
    readValue dialect (fuel + 1) depth ps = some (.arr [], rest') := by
  simp [readValue, h, hend]

theorem readValue_emptyObject (h : skipGaps ps = .char '\x7b' :: rest) (hend : skipGaps rest = .char '\x7d' :: rest') :
    readValue dialect (fuel + 1) depth ps = some (.obj [], rest') := by
  simp [readValue, h, hend]

theorem readValue_array {c : Char} (h : skipGaps ps = .char '[' :: rest) (hinside : skipGaps rest = .char c :: rest')
    (hc : c ≠ ']') : readValue dialect (fuel + 1) depth ps =
      if depth = 0 then none
      else (readItems dialect fuel (depth - 1) rest).map fun (items, rest) => (.arr items, rest) := by
  rw [← readItems_skipGaps]
  simp [readValue, h, hinside, hc]

theorem readValue_object {c : Char} (h : skipGaps ps = .char '\x7b' :: rest) (hinside : skipGaps rest = .char c :: rest')
    (hc : c ≠ '\x7d') : readValue dialect (fuel + 1) depth ps =
      if depth = 0 then none
      else (readFields dialect fuel (depth - 1) rest).map fun (fields, rest) => (.obj fields, rest) := by
  rw [← readFields_skipGaps]
  simp [readValue, h, hinside, hc]

theorem readItems_none (hitem : readValue dialect fuel depth ps = none) : readItems dialect (fuel + 1) depth ps = none := by
  simp [readItems, hitem]

theorem readItems_last {item : Json} (hitem : readValue dialect fuel depth ps = some (item, rest))
    (hend : skipGaps rest = .char ']' :: rest') : readItems dialect (fuel + 1) depth ps = some ([item], rest') := by
  simp [readItems, hitem, hend]

theorem readItems_more {item : Json} (hitem : readValue dialect fuel depth ps = some (item, rest))
    (hmore : skipGaps rest = .char ',' :: rest') : readItems dialect (fuel + 1) depth ps =
      (readItems dialect fuel depth rest').map fun (items, rest) => (item :: items, rest) := by
  simp [readItems, hitem, hmore]

variable {key : String} (h : skipGaps ps = .char '"' :: rest) (hname : readString dialect rest = some (key, rest'))
  {value : List Point} (hcolon : skipGaps rest' = .char ':' :: value)

include h hname hcolon

theorem readFields_none (hvalue : readValue dialect fuel depth value = none) :
    readFields dialect (fuel + 1) depth ps = none := by
  simp [readFields, h, hname, hcolon, hvalue]

theorem readFields_last {j : Json} (hvalue : readValue dialect fuel depth value = some (j, rest''))
    {after : List Point} (hend : skipGaps rest'' = .char '\x7d' :: after) :
    readFields dialect (fuel + 1) depth ps = some ([(key, j)], after) := by
  simp [readFields, h, hname, hcolon, hvalue, hend]

theorem readFields_more {j : Json} (hvalue : readValue dialect fuel depth value = some (j, rest''))
    {after : List Point} (hmore : skipGaps rest'' = .char ',' :: after) :
    readFields dialect (fuel + 1) depth ps =
      (readFields dialect fuel depth after).map fun (fields, rest) => ((key, j) :: fields, rest) := by
  simp [readFields, h, hname, hcolon, hvalue, hmore]

end steps

/-! ## Values -/

theorem Breaks.of_gap {gap : List Char} (h : IsGap gap) : Breaks gap := by
  intro c hc
  rcases h c (List.mem_of_mem_head? hc) with rfl | rfl | rfl | rfl <;> decide

theorem Breaks.of_gap_append {gap : List Char} (h : IsGap gap) {c : Char} (hc : c ∈ [',', ']', '\x7d']) (t : List Char) :
    Breaks (gap ++ c :: t) := by
  rcases gap with _ | ⟨d, gap⟩
  · rintro _ ⟨⟩
    simp only [List.mem_cons, List.not_mem_nil, or_false] at hc
    rcases hc with rfl | rfl | rfl <;> decide
  · exact fun e he => Breaks.of_gap h e he

theorem SpellsWord.head {w : List Char} {j : Json} (h : SpellsWord w j) :
    ∃ c u, w = c :: u ∧ c ∈ ['n', 't', 'f', 'N', 'I', '-'] := by
  cases h with
  | null => exact ⟨_, _, rfl, by decide⟩
  | yes => exact ⟨_, _, rfl, by decide⟩
  | no => exact ⟨_, _, rfl, by decide⟩
  | notNumber => exact ⟨_, _, rfl, by decide⟩
  | infinite => exact ⟨_, _, rfl, by decide⟩
  | minusInfinite => exact ⟨_, _, rfl, by decide⟩

/-- The first characters of words and numbers are none of those that have a meaning of their own. -/
theorem token_head {c : Char} (h : c ∈ ['n', 't', 'f', 'N', 'I', '-'] ∨ c.isDigit = true) :
    isGap (.char c) = false ∧ c ≠ '"' ∧ c ≠ '[' ∧ c ≠ '\x7b' ∧ c ≠ ']' := by
  have hnot : ∀ d ∈ [' ', '\t', '\n', '\r', '"', '[', '\x7b', ']'], c ≠ d := by
    rintro d hd rfl
    simp only [List.mem_cons, List.not_mem_nil, or_false] at hd
    rcases hd with rfl | rfl | rfl | rfl | rfl | rfl | rfl | rfl <;> revert h <;> decide
  refine ⟨?_, hnot _ (by decide), hnot _ (by decide), hnot _ (by decide), hnot _ (by decide)⟩
  have hgap : ∀ d ∈ [' ', '\t', '\n', '\r'], Point.char c ≠ .char d := by
    rintro d hd ⟨⟩
    exact hnot c (List.mem_append_left ['"', '[', '\x7b', ']'] hd) rfl
  simp [isGap, hgap]

theorem Value.head {t rest : List Char} {j : Json} (h : Value t j rest) :
    ∃ c ps, skipGaps (ofChars t) = .char c :: ps ∧ c ≠ ']' := by
  cases h with
  | word isgap spells =>
    obtain ⟨c, u, rfl, hc⟩ := spells.head
    obtain ⟨hgap, -, -, -, hend⟩ := token_head (.inl hc)
    exact ⟨c, _, skipGaps_append_cons isgap hgap _, hend⟩
  | number isgap spells =>
    obtain ⟨c, u, rfl, hc⟩ := spells.head
    obtain ⟨hgap, -, -, -, hend⟩ := token_head (hc.imp_left fun hc => by rw [hc]; decide)
    exact ⟨c, _, skipGaps_append_cons isgap hgap _, hend⟩
  | string isgap => exact ⟨_, _, skipGaps_append_cons isgap (by decide) _, by decide⟩
  | emptyArray isgap => exact ⟨_, _, skipGaps_append_cons isgap (by decide) _, by decide⟩
  | array isgap => exact ⟨_, _, skipGaps_append_cons isgap (by decide) _, by decide⟩
  | emptyObject isgap => exact ⟨_, _, skipGaps_append_cons isgap (by decide) _, by decide⟩
  | object isgap => exact ⟨_, _, skipGaps_append_cons isgap (by decide) _, by decide⟩

theorem Items.head {t rest : List Char} {items : List Json} (h : Items t items rest) :
    (∃ c ps, skipGaps (ofChars t) = .char c :: ps ∧ c ≠ ']') ∧ 0 < depthOfItems items := by
  cases h with
  | last item => exact ⟨item.head, by rw [depthOfItems]; omega⟩
  | more item => exact ⟨item.head, by rw [depthOfItems]; omega⟩

theorem Fields.head {t rest : List Char} {fields : List (String × Json)} (h : Fields t fields rest) :
    (∃ c ps, skipGaps (ofChars t) = .char c :: ps ∧ c ≠ '\x7d') ∧ 0 < depthOfFields fields := by
  cases h with
  | last isgap => exact ⟨⟨_, _, skipGaps_append_cons isgap (by decide) _, by decide⟩, by rw [depthOfFields]; omega⟩
  | more isgap => exact ⟨⟨_, _, skipGaps_append_cons isgap (by decide) _, by decide⟩, by rw [depthOfFields]; omega⟩

mutual

theorem Value.length_lt {t rest : List Char} {j : Json} (h : Value t j rest) : rest.length < t.length := by
  cases h with
  | word isgap spells =>
    obtain ⟨c, u, rfl, -⟩ := spells.head
    simp only [List.length_append, List.length_cons]
    omega
  | number isgap spells =>
    obtain ⟨c, u, rfl, -⟩ := spells.head
    simp only [List.length_append, List.length_cons]
    omega
  | string isgap chars =>
    have hchars := chars.length_lt
    simp only [List.length_append, List.length_cons]
    omega
  | emptyArray =>
    simp only [List.length_append, List.length_cons]
    omega
  | array isgap spells =>
    have hitems := spells.length_lt
    simp only [List.length_append, List.length_cons]
    omega
  | emptyObject =>
    simp only [List.length_append, List.length_cons]
    omega
  | object isgap spells =>
    have hfields := spells.length_lt
    simp only [List.length_append, List.length_cons]
    omega

theorem Items.length_lt {t rest : List Char} {items : List Json} (h : Items t items rest) : rest.length < t.length := by
  cases h with
  | last item =>
    have hitem := item.length_lt
    simp only [List.length_append, List.length_cons] at hitem
    omega
  | more item isgap others =>
    have hitem := item.length_lt
    have hothers := others.length_lt
    simp only [List.length_append, List.length_cons] at hitem
    omega

theorem Fields.length_lt {t rest : List Char} {fields : List (String × Json)} (h : Fields t fields rest) :
    rest.length < t.length := by
  cases h with
  | last isgap name isgap' value =>
    have hname := name.length_lt
    have hvalue := value.length_lt
    simp only [List.length_append, List.length_cons] at hname hvalue ⊢
    omega
  | more isgap name isgap' value isgap'' others =>
    have hname := name.length_lt
    have hvalue := value.length_lt
    have hothers := others.length_lt
    simp only [List.length_append, List.length_cons] at hname hvalue ⊢
    omega

end

mutual

/-- A value is read if it is not nested too deep. -/
theorem Value.read (takes : dialect.TakesTexts) {t rest : List Char} {j : Json} (h : Value t j rest) (hrest : Breaks rest)
    {fuel : Nat} (hfuel : 2 * t.length ≤ fuel) (depth : Nat) :
    readValue dialect fuel depth (ofChars t) = if j.depth ≤ depth then some (j, ofChars rest) else none := by
  -- The recursion is on the derivations; what is inside a value is shorter than its text, so that the steps suffice for it.
  have hlength := h.length_lt
  obtain ⟨fuel, rfl⟩ : ∃ n, fuel = n + 1 := ⟨fuel - 1, by omega⟩
  cases h with
  | word isgap spells =>
    have hread := spells.read dialect rest
    have hdepth : j.depth = 0 := by cases spells <;> rfl
    obtain ⟨c, u, rfl, hc⟩ := spells.head
    obtain ⟨hgap, mark, bracket, brace, -⟩ := token_head (.inl hc)
    rw [hdepth, if_pos (Nat.zero_le _)]
    exact readValue_token (skipGaps_append_cons isgap hgap _) mark bracket brace hread
  | number isgap spells =>
    have hread := spells.read dialect hrest
    have hdepth : j.depth = 0 := by cases spells <;> rfl
    obtain ⟨c, u, rfl, hc⟩ := spells.head
    obtain ⟨hgap, mark, bracket, brace, -⟩ := token_head (hc.imp_left fun hc => by rw [hc]; decide)
    rw [hdepth, if_pos (Nat.zero_le _)]
    exact readValue_token (skipGaps_append_cons isgap hgap _) mark bracket brace (.inr ⟨readWord_eq_none hc _, hread⟩)
  | string isgap chars =>
    rw [readValue_string (skipGaps_append_cons isgap (by decide) _) (chars.readString takes)]
    rfl
  | emptyArray isgap isgap' =>
    rw [readValue_emptyArray (skipGaps_append_cons isgap (by decide) _) (skipGaps_append_cons isgap' (by decide) _)]
    rfl
  | @array gap u _ items isgap spells =>
    obtain ⟨⟨c, ps, hinside, hc⟩, hpos⟩ := spells.head
    rw [readValue_array (skipGaps_append_cons isgap (by decide) _) hinside hc, Json.depth]
    rw [List.length_append, List.length_cons] at hfuel
    split_ifs with hzero hdepth hdepth
    · omega
    · rfl
    · rw [spells.read takes (by omega), if_pos (by omega)]
      rfl
    · rw [spells.read takes (by omega), if_neg (by omega)]
      rfl
  | emptyObject isgap isgap' =>
    rw [readValue_emptyObject (skipGaps_append_cons isgap (by decide) _) (skipGaps_append_cons isgap' (by decide) _)]
    rfl
  | @object gap u _ fields isgap spells =>
    obtain ⟨⟨c, ps, hinside, hc⟩, hpos⟩ := spells.head
    rw [readValue_object (skipGaps_append_cons isgap (by decide) _) hinside hc, Json.depth]
    rw [List.length_append, List.length_cons] at hfuel
    split_ifs with hzero hdepth hdepth
    · omega
    · rfl
    · rw [spells.read takes (by omega), if_pos (by omega)]
      rfl
    · rw [spells.read takes (by omega), if_neg (by omega)]
      rfl

theorem Items.read (takes : dialect.TakesTexts) {t rest : List Char} {items : List Json} (h : Items t items rest)
    {fuel : Nat} (hfuel : 2 * t.length + 1 ≤ fuel) (depth : Nat) :
    readItems dialect fuel depth (ofChars t) =
      if depthOfItems items ≤ depth + 1 then some (items, ofChars rest) else none := by
  obtain ⟨fuel, rfl⟩ : ∃ n, fuel = n + 1 := ⟨fuel - 1, by omega⟩
  cases h with
  | @last _ gap _ j item isgap =>
    have hitem := item.read takes (.of_gap_append isgap (by decide) _) (show 2 * t.length ≤ fuel by omega) depth
    have hdepth : depthOfItems [j] ≤ depth + 1 ↔ j.depth ≤ depth := by
      rw [depthOfItems, depthOfItems]
      omega
    by_cases hj : j.depth ≤ depth
    · rw [if_pos hj] at hitem
      rw [readItems_last hitem (skipGaps_append_cons isgap (by decide) _), if_pos (hdepth.mpr hj)]
    · rw [if_neg hj] at hitem
      rw [readItems_none hitem, if_neg (mt hdepth.mp hj)]
  | @more _ gap u _ j items item isgap others =>
    have hlength := item.length_lt
    rw [List.length_append, List.length_cons] at hlength
    have hitem := item.read takes (.of_gap_append isgap (by decide) _) (show 2 * t.length ≤ fuel by omega) depth
    have hothers := others.read takes (show 2 * u.length + 1 ≤ fuel by omega) depth
    have hdepth : depthOfItems (j :: items) ≤ depth + 1 ↔ j.depth ≤ depth ∧ depthOfItems items ≤ depth + 1 := by
      rw [depthOfItems]
      omega
    by_cases hj : j.depth ≤ depth
    · rw [if_pos hj] at hitem
      rw [readItems_more hitem (skipGaps_append_cons isgap (by decide) _), hothers, apply_ite (Option.map _)]
      simp only [hdepth, hj, true_and, Option.map_some, Option.map_none]
    · rw [if_neg hj] at hitem
      rw [readItems_none hitem, if_neg fun h => hj (hdepth.mp h).1]

theorem Fields.read (takes : dialect.TakesTexts) {t rest : List Char} {fields : List (String × Json)}
    (h : Fields t fields rest) {fuel : Nat} (hfuel : 2 * t.length + 1 ≤ fuel) (depth : Nat) :
    readFields dialect fuel depth (ofChars t) =
      if depthOfFields fields ≤ depth + 1 then some (fields, ofChars rest) else none := by
  obtain ⟨fuel, rfl⟩ : ∃ n, fuel = n + 1 := ⟨fuel - 1, by omega⟩
  cases h with
  | @last gap t gap' u gap'' _ key j isgap name isgap' value isgap'' =>
    have hlength := name.length_lt
    simp only [List.length_append, List.length_cons] at hlength hfuel
    have hvalue := value.read takes (.of_gap_append isgap'' (by decide) _) (show 2 * u.length ≤ fuel by omega) depth
    have hmark := skipGaps_append_cons isgap (show isGap (.char '"') = false by decide) t
    have hcolon := skipGaps_append_cons isgap' (show isGap (.char ':') = false by decide) u
    have hdepth : depthOfFields [(key, j)] ≤ depth + 1 ↔ j.depth ≤ depth := by
      rw [depthOfFields, depthOfFields]
      omega
    by_cases hj : j.depth ≤ depth
    · rw [if_pos hj] at hvalue
      rw [readFields_last hmark (name.readString takes) hcolon hvalue (skipGaps_append_cons isgap'' (by decide) _),
        if_pos (hdepth.mpr hj)]
    · rw [if_neg hj] at hvalue
      rw [readFields_none hmark (name.readString takes) hcolon hvalue, if_neg (mt hdepth.mp hj)]
  | @more gap t gap' u gap'' v _ key j fields isgap name isgap' value isgap'' others =>
    have hlength := name.length_lt
    have hlength' := value.length_lt
    simp only [List.length_append, List.length_cons] at hlength hlength' hfuel
    have hvalue := value.read takes (.of_gap_append isgap'' (by decide) _) (show 2 * u.length ≤ fuel by omega) depth
    have hothers := others.read takes (show 2 * v.length + 1 ≤ fuel by omega) depth
    have hmark := skipGaps_append_cons isgap (show isGap (.char '"') = false by decide) t
    have hcolon := skipGaps_append_cons isgap' (show isGap (.char ':') = false by decide) u
    have hdepth : depthOfFields ((key, j) :: fields) ≤ depth + 1 ↔ j.depth ≤ depth ∧ depthOfFields fields ≤ depth + 1 := by
      rw [depthOfFields]
      omega
    by_cases hj : j.depth ≤ depth
    · rw [if_pos hj] at hvalue
      rw [readFields_more hmark (name.readString takes) hcolon hvalue (skipGaps_append_cons isgap'' (by decide) _), hothers,
        apply_ite (Option.map _)]
      simp only [hdepth, hj, true_and, Option.map_some, Option.map_none]
    · rw [if_neg hj] at hvalue
      rw [readFields_none hmark (name.readString takes) hcolon hvalue, if_neg fun h => hj (hdepth.mp h).1]

end

theorem read_of_takesTexts (takes : dialect.TakesTexts) {t : List Char} {j : Json} (h : Spells t j) :
    read dialect t = if j.depth ≤ dialect.maxDepth.getD t.length then some j else none := by
  obtain ⟨gap, hvalue, isgap⟩ := h
  have hlength : (ofChars t).length = t.length := List.length_map _
  have hread := hvalue.read takes (.of_gap isgap) (show 2 * t.length ≤ 2 * (ofChars t).length + 2 by omega)
    (dialect.maxDepth.getD t.length)
  rw [read, readPoints, hlength]
  rw [hlength] at hread
  rw [hread]
  split_ifs
  · have hend : skipGaps (ofChars gap) = [] := by
      have hskip := skipGaps_append isgap []
      rwa [List.append_nil] at hskip
    simp [hend]
  · rfl

/-- **The strict reader takes every text of a value that is not nested too deep, for that value.** -/
theorem read_eq {t : List Char} {j : Json} (h : Spells t j) :
    read .strict t = if j.depth ≤ 200 then some j else none :=
  read_of_takesTexts Dialect.takesTexts_strict h

/-! ## What is read of a text that may be no JSON -/

/-- The value begins with the character. -/
def Begins (c : Char) : Json → Prop
  | .str _ => c = '"'
  | .arr _ => c = '['
  | .obj _ => c = '\x7b'
  | _ => c ∈ ['n', 't', 'f', 'N', 'I', '-'] ∨ c.isDigit = true

theorem afterWord?_eq_some {word : String} {first : Char} {letters : List Char} (hword : word.toList = first :: letters)
    {ps rest : List Point} (h : afterWord? word ps = some rest) : ∃ qs, ps = .char first :: qs := by
  rw [afterWord?, hword, ofChars_cons] at h
  rcases ps with _ | ⟨p, ps⟩
  · exact absurd h.symm (Option.some_ne_none rest)
  · by_cases hp : (Point.char first == p) = true
    · exact ⟨ps, by rw [beq_iff_eq.mp hp]⟩
    · exact absurd (h.symm.trans (if_neg hp)) (Option.some_ne_none rest)

theorem readWord_begins {ps : List Point} {found : Json × List Point} (h : readWord ps = some found) :
    ∃ c qs, ps = .char c :: qs ∧ Begins c found.1 := by
  obtain ⟨⟨word, j⟩, hmem, hfound⟩ := List.exists_of_findSome?_eq_some h
  obtain ⟨rest, hrest, rfl⟩ := Option.map_eq_some_iff.mp hfound
  simp only [words, List.mem_cons, Prod.mk.injEq, List.not_mem_nil, or_false] at hmem
  obtain ⟨rfl, rfl⟩ | ⟨rfl, rfl⟩ | ⟨rfl, rfl⟩ | ⟨rfl, rfl⟩ | ⟨rfl, rfl⟩ := hmem
  all_goals
    obtain ⟨qs, hqs⟩ := afterWord?_eq_some rfl hrest
    exact ⟨_, qs, hqs, .inl (by decide)⟩

theorem readUnsigned_begins {negative : Bool} {ps : List Point} {found : Json × List Point}
    (h : readUnsigned dialect negative ps = some found) :
    (∃ c qs, ps = .char c :: qs ∧ c.isDigit = true) ∧ ∀ c, c = '-' ∨ c.isDigit = true → Begins c found.1 := by
  have hnumber : ∀ c : Char, c = '-' ∨ c.isDigit = true → c ∈ ['n', 't', 'f', 'N', 'I', '-'] ∨ c.isDigit = true :=
    fun c hc => hc.imp_left fun hc => by rw [hc]; decide
  rw [readUnsigned] at h
  rcases hspan : spanDigits ps with ⟨whole, rest⟩
  rw [hspan] at h
  dsimp only at h
  split_ifs at h with hwhole
  · exact absurd h.symm (Option.some_ne_none found)
  simp only [Option.bind_eq_bind, Option.bind_eq_some_iff, Option.bind_none] at h
  obtain ⟨⟨frac, rest'⟩, -, ⟨exponent, rest''⟩, -, h⟩ := h
  constructor
  · rcases ps with _ | ⟨p, ps⟩
    · obtain ⟨rfl, -⟩ := Prod.mk.inj hspan
      exact absurd rfl hwhole
    · rw [spanDigits] at hspan
      rcases hdigit : digit? p with _ | c
      · rw [hdigit] at hspan
        obtain ⟨rfl, -⟩ := Prod.mk.inj hspan
        exact absurd rfl hwhole
      · cases p with
        | half n => exact absurd hdigit.symm (Option.some_ne_none c)
        | char d =>
          rw [digit?] at hdigit
          split_ifs at hdigit with hd
          exact ⟨d, ps, rfl, hd⟩
  · split_ifs at h
    · rw [← Option.some.inj h]
      exact hnumber
    · rw [← Option.some.inj h]
      exact hnumber

theorem readNumber_begins {ps : List Point} {found : Json × List Point} (h : readNumber dialect ps = some found) :
    ∃ c qs, ps = .char c :: qs ∧ Begins c found.1 := by
  rw [readNumber.eq_def] at h
  split at h
  · next rest =>
    refine ⟨'-', rest, rfl, ?_⟩
    split at h
    · rw [← Option.some.inj h]
      exact .inl (by decide)
    · exact (readUnsigned_begins h).2 '-' (.inl rfl)
  · obtain ⟨⟨c, qs, hps, hc⟩, hbegins⟩ := readUnsigned_begins h
    exact ⟨c, qs, hps, hbegins c (.inr hc)⟩

theorem readValue_begins {fuel depth : Nat} {ps : List Point} {found : Json × List Point}
    (h : readValue dialect fuel depth ps = some found) : ∃ c qs, skipGaps ps = .char c :: qs ∧ Begins c found.1 := by
  cases fuel with
  | zero => exact nomatch h
  | succ fuel =>
    rw [readValue] at h
    split at h
    · next rest hskip =>
      obtain ⟨⟨s, rest'⟩, -, rfl⟩ := Option.map_eq_some_iff.mp h
      exact ⟨'"', rest, hskip, rfl⟩
    · next rest hskip =>
      refine ⟨'[', rest, hskip, ?_⟩
      split at h
      · rw [← Option.some.inj h]
        rfl
      · split_ifs at h
        obtain ⟨⟨items, rest'⟩, -, rfl⟩ := Option.map_eq_some_iff.mp h
        rfl
    · next rest hskip =>
      refine ⟨'\x7b', rest, hskip, ?_⟩
      split at h
      · rw [← Option.some.inj h]
        rfl
      · split_ifs at h
        obtain ⟨⟨fields, rest'⟩, -, rfl⟩ := Option.map_eq_some_iff.mp h
        rfl
    · split at h
      · next hword =>
        rw [Option.some.inj h] at hword
        exact readWord_begins hword
      · exact readNumber_begins h

/-- A text that is read begins, after gaps, like the value that it is read for. -/
theorem read_begins {t : List Char} {j : Json} (h : read dialect t = some j) :
    ∃ c qs, skipGaps (ofChars t) = .char c :: qs ∧ Begins c j := by
  rw [read, readPoints] at h
  split at h
  · next j' rest hvalue =>
    split_ifs at h
    rw [← Option.some.inj h]
    exact readValue_begins hvalue
  · exact nomatch h

end ClusterBrowser.Json
