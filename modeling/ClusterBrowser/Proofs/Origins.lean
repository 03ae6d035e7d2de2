import ClusterBrowser.Proofs.Encoding
import ClusterBrowser.Proofs.Loading
import ClusterBrowser.Proofs.Paths

/-!
# Origins given in several ways

A list of origins may be given as an argument or by a variable, as JSON or as a text with commas.

* `Settings.IsOrigin`, `Settings.WithCommas`: origins, and the texts of some of them with commas in between.
* `Settings.splitOrigins_eq`: such a text is split into its origins.
* `Settings.splitOrigins_spelled`: JSON is split into something else.
* `Settings.originsOf_read`: what a text of origins is taken for if it happens to be JSON.
* **`Settings.load_origins`**: which of the ways give the origins, and what the others give.
-/

namespace ClusterBrowser

namespace Text

variable {p : Char → Bool} {mark : Char}

theorem dropWhile_of_head {cs : List Char} (h : ∀ c ∈ cs.head?, p c = false) : cs.dropWhile p = cs := by
  cases cs with
  | nil => rfl
  | cons c cs => exact List.dropWhile_cons_of_neg (by simpa using h c rfl)

theorem trimBy_padded {b cs b' : List Char} (hb : ∀ c ∈ b, p c = true) (hb' : ∀ c ∈ b', p c = true) (hne : cs ≠ [])
    (hfirst : ∀ c ∈ cs.head?, p c = false) (hlast : ∀ c ∈ cs.getLast?, p c = false) : trimBy p (b ++ (cs ++ b')) = cs := by
  have hhead : ∀ c ∈ (cs ++ b').head?, p c = false := by rwa [List.head?_append_of_ne_nil _ hne]
  have hreverse : ∀ c ∈ cs.reverse.head?, p c = false := by rwa [List.head?_reverse]
  rw [trimBy, List.dropWhile_append_of_pos hb, dropWhile_of_head hhead, List.reverse_append,
    List.dropWhile_append_of_pos fun c hc => hb' c (List.mem_reverse.mp hc), dropWhile_of_head hreverse,
    List.reverse_reverse]

theorem trimBy_append_cons {b : List Char} {c : Char} (hb : ∀ c ∈ b, p c = true) (hc : p c = false) (cs : List Char) :
    ∃ rest, trimBy p (b ++ c :: cs) = c :: rest := by
  have hpos : ¬ p c = true := by rw [hc]; exact Bool.false_ne_true
  have htrim : trimBy p (b ++ c :: cs) = (c :: cs).rdropWhile p := by
    rw [trimBy, List.dropWhile_append_of_pos hb, List.dropWhile_cons_of_neg hpos, List.rdropWhile]
  have hne : (c :: cs).rdropWhile p ≠ [] := fun h => hpos (List.rdropWhile_eq_nil_iff.mp h c List.mem_cons_self)
  obtain ⟨d, rest, hrest⟩ := List.exists_cons_of_ne_nil hne
  have hprefix := List.rdropWhile_prefix p (c :: cs)
  rw [hrest, List.cons_prefix_cons] at hprefix
  exact ⟨rest, by rw [htrim, hrest, hprefix.1]⟩

theorem splitAt_append_of_not_mem {cs : List Char} (h : mark ∉ cs) (rest : List Char) :
    ∃ piece pieces, splitAt mark (cs ++ rest) = (cs ++ piece) :: pieces := by
  obtain ⟨piece, pieces, hrest⟩ := List.exists_cons_of_ne_nil (@splitAt_ne_nil mark rest)
  refine ⟨piece, pieces, ?_⟩
  induction cs with
  | nil => exact hrest
  | cons c cs ih =>
    rw [List.mem_cons, not_or] at h
    rw [List.cons_append, splitAt, if_neg (Ne.symm h.1), ih h.2]
    rfl

end Text

namespace Settings

open Text (isBlank)

/-! ## Texts of origins -/

/-- An origin that can stand in a text with commas: no marks of lists or strings in it and no blanks at its ends. -/
structure IsOrigin (o : String) : Prop where
  nonempty : o ≠ ""
  noMark : ∀ c ∈ o.toList, c ∉ [',', '"', '\x27', '\\']
  noBlankFirst : ∀ c ∈ o.toList.head?, isBlank c = false
  noBlankLast : ∀ c ∈ o.toList.getLast?, isBlank c = false
  noBracket : o.toList.head? ≠ some '['

/-- The origin with blanks around it. -/
def IsPadded (o : String) (part : List Char) : Prop :=
  ∃ b b', (∀ c ∈ b, isBlank c = true) ∧ (∀ c ∈ b', isBlank c = true) ∧ part = b ++ (o.toList ++ b')

/-- The text of some origins, of which there is at least one, with commas in between. -/
inductive WithCommas : List String → List Char → Prop
  | last {o : String} {part : List Char} (padded : IsPadded o part) : WithCommas [o] part
  | more {o : String} {os : List String} {part t : List Char} (padded : IsPadded o part) (others : WithCommas os t) :
    WithCommas (o :: os) (part ++ ',' :: t)

theorem ne_of_isBlank {c d : Char} (hc : isBlank c = true) (hd : isBlank d = false) : c ≠ d := by
  rintro rfl
  exact Bool.false_ne_true (hd.symm.trans hc)

theorem IsOrigin.toList_ne_nil {o : String} (ho : IsOrigin o) : o.toList ≠ [] := fun h =>
  ho.nonempty (String.toList_eq_nil_iff.mp h)

theorem IsPadded.trimBlank {o : String} {part : List Char} (h : IsPadded o part) (ho : IsOrigin o) :
    Text.trimBlank part = o.toList := by
  obtain ⟨b, b', hb, hb', rfl⟩ := h
  exact Text.trimBy_padded hb hb' ho.toList_ne_nil ho.noBlankFirst ho.noBlankLast

theorem IsPadded.comma_not_mem {o : String} {part : List Char} (h : IsPadded o part) (ho : IsOrigin o) : ',' ∉ part := by
  obtain ⟨b, b', hbefore, hafter, rfl⟩ := h
  simp only [List.mem_append, not_or]
  exact ⟨fun hmem => ne_of_isBlank (hbefore ',' hmem) rfl rfl, fun hmem => ho.noMark ',' hmem (by decide),
    fun hmem => ne_of_isBlank (hafter ',' hmem) rfl rfl⟩

theorem splitOrigins_eq {origins : List String} {t : String} (h : WithCommas origins t.toList)
    (horigins : ∀ o ∈ origins, IsOrigin o) : splitOrigins t = origins := by
  have hpart : ∀ {o part}, IsPadded o part → IsOrigin o →
      (if (Text.trimBlank part).isEmpty then none else some (String.ofList (Text.trimBlank part))) = some o := by
    intro o part padded ho
    rw [padded.trimBlank ho, if_neg (by simpa using ho.nonempty), String.ofList_toList]
  rw [splitOrigins]
  generalize t.toList = cs at h
  induction h with
  | last padded =>
    have ho := horigins _ List.mem_cons_self
    rw [Text.splitAt_of_not_mem (padded.comma_not_mem ho), List.map_singleton, List.filterMap_cons, hpart padded ho]
    rfl
  | more padded others ih =>
    obtain ⟨ho, hos⟩ := List.forall_mem_cons.mp horigins
    rw [Text.splitAt_append_mark, Text.splitAt_of_not_mem (padded.comma_not_mem ho), List.singleton_append, List.map_cons,
      List.filterMap_cons, hpart padded ho, ih hos]

theorem WithCommas.front {origins : List String} {t : List Char} (h : WithCommas origins t) :
    ∃ o os b rest, origins = o :: os ∧ (∀ c ∈ b, isBlank c = true) ∧ t = b ++ (o.toList ++ rest) := by
  cases h with
  | last padded =>
    obtain ⟨b, b', hb, -, rfl⟩ := padded
    exact ⟨_, _, b, b', rfl, hb, rfl⟩
  | @more o os part t padded others =>
    obtain ⟨b, b', hb, -, rfl⟩ := padded
    exact ⟨_, _, b, b' ++ ',' :: t, rfl, hb, by simp⟩

theorem WithCommas.head?_ne {origins : List String} {t : List Char} (h : WithCommas origins t)
    (horigins : ∀ o ∈ origins, IsOrigin o) : t.head? ≠ some '[' := by
  obtain ⟨o, os, b, rest, rfl, hb, rfl⟩ := h.front
  have ho := horigins o List.mem_cons_self
  cases b with
  | nil =>
    rw [List.nil_append, List.head?_append_of_ne_nil _ ho.toList_ne_nil]
    exact ho.noBracket
  | cons c b =>
    rw [List.cons_append, List.head?_cons, ne_eq, Option.some.injEq]
    exact ne_of_isBlank (hb c List.mem_cons_self) rfl

/-! ## JSON -/

theorem isBlank_of_gap {c : Char} (h : c = ' ' ∨ c = '\t' ∨ c = '\n' ∨ c = '\r') : isBlank c = true := by
  rcases h with rfl | rfl | rfl | rfl <;> rfl

/-- The text of an array that is split at its commas gives a first part with the opening bracket. -/
theorem splitOrigins_spelled {t : String} {items : List Json} (h : Json.Spells t.toList (.arr items)) :
    ∃ o, (splitOrigins t).head? = some o ∧ o.toList.head? = some '[' := by
  obtain ⟨gap, u, ht, isgap⟩ : ∃ gap u, t.toList = gap ++ '[' :: u ∧ Json.IsGap gap := by
    obtain ⟨after, hvalue, -⟩ := h
    generalize t.toList = cs at hvalue
    cases hvalue with
    | word isgap spells => exact nomatch spells
    | number isgap spells => exact nomatch spells
    | emptyArray isgap isgap' => exact ⟨_, _, rfl, isgap⟩
    | array isgap spells => exact ⟨_, _, rfl, isgap⟩
  have hcomma : ',' ∉ gap ++ ['['] := by
    rw [List.mem_append, not_or]
    exact ⟨fun hmem => ne_of_isBlank (isBlank_of_gap (isgap ',' hmem)) rfl rfl, by decide⟩
  obtain ⟨piece, pieces, hsplit⟩ := Text.splitAt_append_of_not_mem hcomma u
  have hblank : ∀ c ∈ gap, isBlank c = true := fun c hc => isBlank_of_gap (isgap c hc)
  obtain ⟨rest, htrim⟩ := Text.trimBy_append_cons hblank (show isBlank '[' = false from rfl) piece
  refine ⟨String.ofList ('[' :: rest), ?_, by rw [String.toList_ofList, List.head?_cons]⟩
  simp only [List.append_assoc, List.singleton_append] at hsplit
  rw [splitOrigins, ht, hsplit, List.map_cons, Text.trimBlank, htrim, List.filterMap_cons]
  rfl

theorem originsOf_strings (origins : List String) : originsOf (.strings origins) = .ok origins :=
  @Json.asList_eq _ (fun o j => j = .str o) _ (fun _ => Json.asText_eq) _ _
    ⟨_, rfl, List.forall₂_map_right_iff.mpr (List.forall₂_same.mpr fun _ _ => rfl)⟩

/-- The text of a list of strings is read, however it is written. -/
theorem read_strings {t : String} {origins : List String} (h : Json.Spells t.toList (.strings origins)) :
    Json.read .lenient t.toList = some (.strings origins) := by
  rw [Json.read_of_takesTexts Json.Dialect.takesTexts_lenient h, if_pos]
  have hdepth : (Json.strings origins).depth ≤ 1 := Json.depthOfItems_map_le (fun _ => Nat.zero_le 0) origins
  obtain ⟨after, hvalue, -⟩ := h
  have hlength := hvalue.length_lt
  exact hdepth.trans (Nat.one_le_of_lt hlength)

theorem isBlank_of_isDigit {c : Char} (h : c.isDigit = true) : isBlank c = false := by
  simp only [Char.isDigit, Bool.and_eq_true, decide_eq_true_eq] at h
  have hfirst : 48 ≤ c.toNat := h.1
  have hlast : c.toNat ≤ 57 := h.2
  simp only [isBlank, Text.isWhite, Bool.or_eq_false_iff, Bool.and_eq_false_iff, decide_eq_false_iff_not]
  omega

theorem isBlank_of_begins {c : Char} {j : Json} (h : Json.Begins c j) : isBlank c = false := by
  have htoken : ∀ d : Char, d ∈ ['n', 't', 'f', 'N', 'I', '-'] ∨ d.isDigit = true → isBlank d = false := by
    rintro d (hd | hd)
    · simp only [List.mem_cons, List.not_mem_nil, or_false] at hd
      rcases hd with rfl | rfl | rfl | rfl | rfl | rfl <;> rfl
    · exact isBlank_of_isDigit hd
  cases j with
  | str s => exact h ▸ rfl
  | arr items => exact h ▸ rfl
  | obj fields => exact h ▸ rfl
  | _ => exact htoken c h

/-- The first character behind gaps is the one behind blanks, or else a blank. -/
theorem eq_of_skipGaps {b cs : List Char} {c d : Char} {ps : List Point} (hb : ∀ c ∈ b, isBlank c = true)
    (hc : isBlank c = false) (hd : isBlank d = false)
    (h : Json.skipGaps (Point.ofChars (b ++ d :: cs)) = .char c :: ps) : c = d := by
  have hgap : ∀ {e}, Json.isGap (.char e) = true → isBlank e = true := fun he =>
    isBlank_of_gap (by simpa [Json.isGap, or_assoc] using he)
  induction b with
  | nil =>
    have hd' : Json.isGap (.char d) = false := Bool.eq_false_iff.mpr fun he => ne_of_isBlank (hgap he) hd rfl
    rw [List.nil_append, Json.skipGaps_cons hd', List.cons.injEq, Point.char.injEq] at h
    exact h.1.symm
  | cons e b ih =>
    obtain ⟨he, hb⟩ := List.forall_mem_cons.mp hb
    rw [List.cons_append] at h
    by_cases hgap : Json.isGap (.char e) = true
    · rw [Json.ofChars_cons, Json.skipGaps, List.dropWhile_cons_of_pos hgap] at h
      exact ih hb h
    · rw [Json.skipGaps_cons (Bool.eq_false_iff.mpr hgap), List.cons.injEq, Point.char.injEq] at h
      exact absurd h.1 (ne_of_isBlank he hc)

/-- A text with commas that happens to be JSON begins like the value and like the first of its origins. -/
theorem WithCommas.begins {origins : List String} {t : String} {j : Json} (h : WithCommas origins t.toList)
    (horigins : ∀ o ∈ origins, IsOrigin o) (hread : Json.read .lenient t.toList = some j) :
    ∃ o ∈ origins.head?, ∃ c ∈ o.toList.head?, Json.Begins c j := by
  obtain ⟨o, os, b, rest, rfl, hb, ht⟩ := h.front
  obtain ⟨d, cs, ho⟩ := List.exists_cons_of_ne_nil (horigins o List.mem_cons_self).toList_ne_nil
  obtain ⟨c, ps, hskip, hbegins⟩ := Json.read_begins hread
  rw [ht, ho, List.cons_append] at hskip
  have hd := (horigins o List.mem_cons_self).noBlankFirst d (by rw [ho]; rfl)
  obtain rfl := eq_of_skipGaps hb (isBlank_of_begins hbegins) hd hskip
  exact ⟨o, rfl, c, by rw [ho]; rfl, hbegins⟩

theorem not_begins_h (j : Json) : ¬ Json.Begins 'h' j := by
  cases j <;> simp [Json.Begins]

/-- What a text with commas is taken for if it happens to be JSON: never for its origins. -/
theorem WithCommas.taken {origins : List String} {t : String} {j : Json} (h : WithCommas origins t.toList)
    (horigins : ∀ o ∈ origins, IsOrigin o) (hread : Json.read .lenient t.toList = some j) (env : List (String × String)) :
    ∃ value os, fromEnvironment (withVariable env t) "cors_origins" = .ok value ∧
      Takes originsOf ({} : Settings).corsOrigins value os ∧ os ≠ origins := by
  obtain ⟨o, ho, c, hc, hbegins⟩ := h.begins horigins hread
  have horigin := horigins o (List.mem_of_mem_head? ho)
  have hne : ∀ os : List String, os.head? = some "http://localhost:5173" → os ≠ origins := by
    rintro os hos rfl
    obtain rfl := Option.some.inj (hos.symm.trans ho)
    obtain rfl : 'h' = c := Option.some.inj hc
    exact not_begins_h j hbegins
  rw [fromEnvironment_withVariable, hread]
  cases j with
  | null => exact ⟨none, _, rfl, rfl, hne _ rfl⟩
  | str u =>
    obtain rfl : c = '"' := hbegins
    exact absurd (by decide) (horigin.noMark _ (List.mem_of_mem_head? hc))
  | arr items =>
    obtain rfl : c = '[' := hbegins
    exact absurd hc horigin.noBracket
  | _ => exact ⟨some _, fallbackOrigins, rfl, rfl, hne _ rfl⟩

/-! ## The ways of giving origins -/

/-- **What becomes of origins that are given.**

* As a list, as a text with commas and as JSON in a variable they are loaded as they are.
* JSON in an argument is not taken as JSON: other origins are loaded, unless it is the fallback itself.
* A text with commas in a variable is an error, or other origins are loaded if it happens to be JSON. -/
theorem load_origins {env : List (String × String)} {arguments : List (String × Json)} {s : Settings}
    {origins : List String} (hload : load env arguments = .ok s) (hnone : argumentNamed arguments "cors_origins" = none)
    (horigins : ∀ o ∈ origins, IsOrigin o) :
    load env (("cors_origins", .strings origins) :: arguments) = .ok { s with corsOrigins := origins } ∧
    (∀ t : String, WithCommas origins t.toList →
      load env (("cors_origins", .str t) :: arguments) = .ok { s with corsOrigins := origins }) ∧
    (∀ t : String, Json.Spells t.toList (.strings origins) →
      load (withVariable env t) arguments = .ok { s with corsOrigins := origins }) ∧
    (∀ t : String, Json.Spells t.toList (.strings origins) → ∃ os,
      load env (("cors_origins", .str t) :: arguments) = .ok { s with corsOrigins := os } ∧
      (os = origins ↔ t.toList.head? = some '[' ∧ origins = fallbackOrigins)) ∧
    ∀ t : String, WithCommas origins t.toList →
      match Json.read .lenient t.toList with
      | none => load (withVariable env t) arguments = .error .notJson
      | some _ => ∃ os, load (withVariable env t) arguments = .ok { s with corsOrigins := os } ∧ os ≠ origins := by
  refine ⟨load_argument hload (originsOf_strings origins), fun t ht => ?_, fun t ht => ?_, fun t ht => ?_, fun t ht => ?_⟩
  · refine load_argument hload ?_
    rw [originsOf, if_neg (ht.head?_ne horigins), splitOrigins_eq ht horigins]
  · have hgiven : fromEnvironment (withVariable env t) "cors_origins" = .ok (some (.strings origins)) := by
      rw [fromEnvironment_withVariable, read_strings ht]
      rfl
    exact load_variable hload hnone hgiven (originsOf_strings origins)
  · refine ⟨_, load_argument hload rfl, ?_⟩
    by_cases hbracket : t.toList.head? = some '['
    · rw [if_pos hbracket, and_iff_right hbracket, eq_comm]
    · -- The first part has the opening bracket in front, which no origin has.
      rw [if_neg hbracket]
      refine iff_of_false (fun heq => ?_) fun h => hbracket h.1
      obtain ⟨o, ho, hhead⟩ := splitOrigins_spelled ht
      rw [heq] at ho
      exact (horigins o (List.mem_of_mem_head? ho)).noBracket hhead
  · split
    · next hread => exact load_variable_notJson hread
    · next hread =>
      obtain ⟨value, os, hgiven, htakes, hne⟩ := ht.taken horigins hread env
      exact ⟨os, load_variable hload hnone hgiven htakes, hne⟩

theorem isOrigin_httpA : ∀ o ∈ ["http://a"], IsOrigin o := by
  have hchars : "http://a".toList = ['h', 't', 't', 'p', ':', '/', '/', 'a'] := rfl
  rw [List.forall_mem_singleton]
  constructor <;> simp [hchars, isBlank, Text.isWhite]

theorem spells_httpA : Json.Spells "[\"http://a\"]".toList (.strings ["http://a"]) :=
  (show (Json.strings ["http://a"]).write = "[\"http://a\"]".toList by decide +kernel) ▸ Json.spells_write (by decide +kernel)

theorem withCommas_httpA : WithCommas ["http://a"] "http://a".toList :=
  .last ⟨[], [], List.forall_mem_nil _, List.forall_mem_nil _, (List.append_nil _).symm⟩

theorem load_origins_httpA :
    load [] [] = .ok {} ∧ argumentNamed [] "cors_origins" = none ∧ (∀ o ∈ ["http://a"], IsOrigin o) ∧
    load [] [("cors_origins", .strings ["http://a"])] = .ok { corsOrigins := ["http://a"] } ∧
    load [] [("cors_origins", .str "http://a")] = .ok { corsOrigins := ["http://a"] } ∧
    load (withVariable [] "[\"http://a\"]") [] = .ok { corsOrigins := ["http://a"] } := by
  obtain ⟨hlist, hcommas, hvariable, -⟩ := load_origins (show load [] [] = .ok {} from rfl) rfl isOrigin_httpA
  exact ⟨rfl, rfl, isOrigin_httpA, hlist, hcommas _ withCommas_httpA, hvariable _ spells_httpA⟩

/-- Not all ways of giving origins agree. JSON in an argument is replaced by other origins without an error, and a text with
commas in a variable is refused. -/
theorem load_replaces_json :
    (∀ o ∈ ["http://a"], IsOrigin o) ∧ Json.Spells "[\"http://a\"]".toList (.strings ["http://a"]) ∧
    load [] [("cors_origins", .str "[\"http://a\"]")] = .ok { corsOrigins := ["http://localhost:5173"] } ∧
    WithCommas ["http://a"] "http://a".toList ∧ load (withVariable [] "http://a") [] = .error .notJson :=
  ⟨isOrigin_httpA, spells_httpA, load_argument (show load [] [] = .ok {} from rfl) rfl, withCommas_httpA,
    load_variable_notJson (by decide +kernel)⟩

end Settings

end ClusterBrowser
