import ClusterBrowser.Proofs.IntegerText
import ClusterBrowser.Json.Reader
import Mathlib.Tactic.SplitIfs

/-!
# The grammar of JSON

Values and the texts that write them, with gaps between the tokens.

* `Json.SpellsChars`, `Json.SpellsNumber`, `Json.SpellsWord`: strings, numbers and words.
* `Json.Value`, `Json.Items`, `Json.Fields`: values, and what is inside arrays and objects.
* `Json.Spells`: the texts of a value.
* `Json.depth`: how deep arrays and objects that are not empty are nested.
* `Json.SpellsChars.readString`, `Json.SpellsNumber.read`, `Json.SpellsWord.read`: these are read as what they spell.
-/

namespace ClusterBrowser.Json

/-! ## Grammar -/

/-- Characters between tokens. -/
def IsGap (gap : List Char) : Prop := ∀ c ∈ gap, c = ' ' ∨ c = '\t' ∨ c = '\n' ∨ c = '\r'

/-- The text begins with the characters of a string up to the closing mark, and goes on with the rest. -/
inductive SpellsChars : List Char → List Char → List Char → Prop
  | close (rest : List Char) : SpellsChars ('"' :: rest) [] rest
  | plain {c : Char} {t cs rest : List Char} (control : 0x20 ≤ c.toNat) (mark : c ≠ '"') (backslash : c ≠ '\\')
    (more : SpellsChars t cs rest) : SpellsChars (c :: t) (c :: cs) rest
  | escape {e c : Char} {t cs rest : List Char}
    (stands : (e, c) ∈ [('"', '"'), ('\\', '\\'), ('/', '/'), ('b', '\x08'), ('f', '\x0c'), ('n', '\n'), ('r', '\r'),
      ('t', '\t')]) (more : SpellsChars t cs rest) : SpellsChars ('\\' :: e :: t) (c :: cs) rest
  | unit {h₁ h₂ h₃ h₄ c : Char} {t cs rest : List Char} (digits : Hex.unit? h₁ h₂ h₃ h₄ = some c.toNat)
    (more : SpellsChars t cs rest) : SpellsChars ('\\' :: 'u' :: h₁ :: h₂ :: h₃ :: h₄ :: t) (c :: cs) rest
  | pair {h₁ h₂ h₃ h₄ l₁ l₂ l₃ l₄ c : Char} {t cs rest : List Char} (large : 0x10000 ≤ c.toNat)
    (high : Hex.unit? h₁ h₂ h₃ h₄ = some (0xD800 + (c.toNat - 0x10000) / 0x400))
    (low : Hex.unit? l₁ l₂ l₃ l₄ = some (0xDC00 + (c.toNat - 0x10000) % 0x400)) (more : SpellsChars t cs rest) :
    SpellsChars ('\\' :: 'u' :: h₁ :: h₂ :: h₃ :: h₄ :: '\\' :: 'u' :: l₁ :: l₂ :: l₃ :: l₄ :: t) (c :: cs) rest

/-- The digits of a number before the point: not too many, and no zero in front of others. -/
structure IsWholePart (ds : List Char) : Prop extends Decimal.IsNumeral ds where
  noIdleZero : ds.head? = some '0' → ds = ['0']

/-- The sign of a number. -/
def signText (negative : Bool) : List Char := if negative then ['-'] else []

/-- The point and the digits after it, if there are any. -/
def fractionText (frac : List Char) : List Char := if frac = [] then [] else '.' :: frac

/-- The exponent of a number, or nothing. -/
inductive SpellsExponent : List Char → Option Int → Prop
  | absent : SpellsExponent [] none
  | present {mark : Char} {sign ds : List Char} {negative : Bool} (ismark : mark = 'e' ∨ mark = 'E')
    (issign : (sign, negative) ∈ [([], false), (['+'], false), (['-'], true)]) (nonempty : ds ≠ [])
    (digits : ∀ c ∈ ds, c.isDigit = true) :
    SpellsExponent (mark :: (sign ++ ds)) (some (Decimal.signed negative (Decimal.digitsValue ds)))

/-- The texts of numbers. One with a fraction or an exponent is the nearest double. -/
inductive SpellsNumber : List Char → Json → Prop
  | integer (negative : Bool) {ds : List Char} (whole : IsWholePart ds) :
    SpellsNumber (signText negative ++ ds) (.int (Decimal.signed negative (Decimal.digitsValue ds)))
  | double (negative : Bool) {ds frac e : List Char} {exponent : Option Int} (whole : IsWholePart ds)
    (digits : ∀ c ∈ frac, c.isDigit = true) (exp : SpellsExponent e exponent) (proper : frac ≠ [] ∨ exponent ≠ none) :
    SpellsNumber (signText negative ++ (ds ++ (fractionText frac ++ e)))
      (.float (Double.ofDecimal negative (Decimal.digitsValue (ds ++ frac)) (ds ++ frac).length
        (exponent.getD 0 - frac.length)))

/-- The values that are written as words, among them the doubles that are no numbers. -/
inductive SpellsWord : List Char → Json → Prop
  | null : SpellsWord "null".toList .null
  | yes : SpellsWord "true".toList (.bool true)
  | no : SpellsWord "false".toList (.bool false)
  | notNumber : SpellsWord "NaN".toList (.float .notNumber)
  | infinite : SpellsWord "Infinity".toList (.float (.infinite false))
  | minusInfinite : SpellsWord "-Infinity".toList (.float (.infinite true))

mutual

/-- The text begins with a value, after a gap, and goes on with the rest. -/
inductive Value : List Char → Json → List Char → Prop
  | word {gap w : List Char} {j : Json} (isgap : IsGap gap) (spells : SpellsWord w j) (rest : List Char) :
    Value (gap ++ (w ++ rest)) j rest
  | number {gap t : List Char} {j : Json} (isgap : IsGap gap) (spells : SpellsNumber t j) (rest : List Char) :
    Value (gap ++ (t ++ rest)) j rest
  | string {gap t rest : List Char} {s : String} (isgap : IsGap gap) (chars : SpellsChars t s.toList rest) :
    Value (gap ++ '"' :: t) (.str s) rest
  | emptyArray {gap gap' : List Char} (isgap : IsGap gap) (isgap' : IsGap gap') (rest : List Char) :
    Value (gap ++ '[' :: (gap' ++ ']' :: rest)) (.arr []) rest
  | array {gap t rest : List Char} {items : List Json} (isgap : IsGap gap) (spells : Items t items rest) :
    Value (gap ++ '[' :: t) (.arr items) rest
  | emptyObject {gap gap' : List Char} (isgap : IsGap gap) (isgap' : IsGap gap') (rest : List Char) :
    Value (gap ++ '\x7b' :: (gap' ++ '\x7d' :: rest)) (.obj []) rest
  | object {gap t rest : List Char} {fields : List (String × Json)} (isgap : IsGap gap)
    (spells : Fields t fields rest) : Value (gap ++ '\x7b' :: t) (.obj fields) rest

/-- The text begins with the items of an array, of which there is at least one, and its closing bracket. -/
inductive Items : List Char → List Json → List Char → Prop
  | last {t gap rest : List Char} {j : Json} (item : Value t j (gap ++ ']' :: rest)) (isgap : IsGap gap) :
    Items t [j] rest
  | more {t gap u rest : List Char} {j : Json} {items : List Json} (item : Value t j (gap ++ ',' :: u))
    (isgap : IsGap gap) (others : Items u items rest) : Items t (j :: items) rest

/-- The text begins with the fields of an object, of which there is at least one, and its closing brace. -/
inductive Fields : List Char → List (String × Json) → List Char → Prop
  | last {gap t gap' u gap'' rest : List Char} {key : String} {j : Json} (isgap : IsGap gap)
    (name : SpellsChars t key.toList (gap' ++ ':' :: u)) (isgap' : IsGap gap')
    (value : Value u j (gap'' ++ '\x7d' :: rest)) (isgap'' : IsGap gap'') : Fields (gap ++ '"' :: t) [(key, j)] rest
  | more {gap t gap' u gap'' v rest : List Char} {key : String} {j : Json} {fields : List (String × Json)}
    (isgap : IsGap gap) (name : SpellsChars t key.toList (gap' ++ ':' :: u)) (isgap' : IsGap gap')
    (value : Value u j (gap'' ++ ',' :: v)) (isgap'' : IsGap gap'') (others : Fields v fields rest) :
    Fields (gap ++ '"' :: t) ((key, j) :: fields) rest

end

/-- The text writes the value, perhaps with gaps around it. -/
def Spells (t : List Char) (j : Json) : Prop := ∃ gap, Value t j gap ∧ IsGap gap

/-! ## Depth -/

variable {τ : Type}

mutual

/-- How deep arrays and objects that are not empty are nested. -/
def depth : Json τ → Nat
  | arr items => depthOfItems items
  | obj fields => depthOfFields fields
  | _ => 0

/-- The depth of an array of these items. -/
def depthOfItems : List (Json τ) → Nat
  | [] => 0
  | item :: rest => max (depth item + 1) (depthOfItems rest)

/-- The depth of an object of these fields. -/
def depthOfFields : List (τ × Json τ) → Nat
  | [] => 0
  | (_, value) :: rest => max (depth value + 1) (depthOfFields rest)

end

/-! ## Gaps -/

open Point (ofChars)

theorem ofChars_cons (c : Char) (t : List Char) : ofChars (c :: t) = .char c :: ofChars t := rfl

theorem ofChars_append (t u : List Char) : ofChars (t ++ u) = ofChars t ++ ofChars u := List.map_append

theorem skipGaps_append {gap : List Char} (h : IsGap gap) (t : List Char) :
    skipGaps (ofChars (gap ++ t)) = skipGaps (ofChars t) := by
  rw [ofChars_append, skipGaps, skipGaps, List.dropWhile_append_of_pos]
  intro p hp
  obtain ⟨c, hc, rfl⟩ := List.mem_map.mp hp
  rcases h c hc with rfl | rfl | rfl | rfl <;> decide

theorem skipGaps_cons {c : Char} (h : isGap (.char c) = false) (t : List Char) :
    skipGaps (ofChars (c :: t)) = .char c :: ofChars t := by
  rw [ofChars_cons, skipGaps, List.dropWhile_cons, h, if_neg Bool.false_ne_true]

theorem skipGaps_append_cons {gap : List Char} (h : IsGap gap) {c : Char} (hc : isGap (.char c) = false) (t : List Char) :
    skipGaps (ofChars (gap ++ c :: t)) = .char c :: ofChars t := by
  rw [skipGaps_append h, skipGaps_cons hc]

/-! ## Strings -/

theorem text?_ofChars (cs : List Char) : Point.text? (ofChars cs) = some (String.ofList cs) := by
  have hchars : (ofChars cs).mapM Point.char? = some cs := by
    induction cs with
    | nil => rfl
    | cons c cs ih => rw [ofChars_cons, List.mapM_cons, ih]; rfl
  rw [Point.text?, hchars, Option.map_some]

theorem joinPieces_unit {n : Nat} (h : Point.isHigh n = false) (pieces : List Piece) :
    joinPieces (.unit n :: pieces) = .ofNat n :: joinPieces pieces := by
  rcases pieces with _ | ⟨p | m, pieces⟩
  · rfl
  · rfl
  · rw [joinPieces, h, Bool.false_and, if_neg Bool.false_ne_true]

theorem ofNat_toNat (c : Char) : Point.isHigh c.toNat = false ∧ Point.ofNat c.toNat = .char c := by
  have hvalid : c.toNat < 0xD800 ∨ 0xDFFF < c.toNat ∧ c.toNat < 0x110000 := c.valid
  have hhigh : Point.isHigh c.toNat = false := by
    rw [Point.isHigh, Bool.and_eq_false_iff, decide_eq_false_iff_not, decide_eq_false_iff_not]
    omega
  have hlow : Point.isLow c.toNat = false := by
    rw [Point.isLow, Bool.and_eq_false_iff, decide_eq_false_iff_not, decide_eq_false_iff_not]
    omega
  rw [Point.ofNat, hhigh, hlow, Bool.or_self, if_neg Bool.false_ne_true, Char.ofNat_toNat]
  exact ⟨rfl, rfl⟩

theorem joinPieces_pair {c : Char} (large : 0x10000 ≤ c.toNat) (pieces : List Piece) :
    joinPieces (.unit (0xD800 + (c.toNat - 0x10000) / 0x400) :: .unit (0xDC00 + (c.toNat - 0x10000) % 0x400) :: pieces) =
      .char c :: joinPieces pieces := by
  have hvalid : c.toNat < 0xD800 ∨ 0xDFFF < c.toNat ∧ c.toNat < 0x110000 := c.valid
  have hhigh : Point.isHigh (0xD800 + (c.toNat - 0x10000) / 0x400) = true := by
    rw [Point.isHigh, Bool.and_eq_true, decide_eq_true_iff, decide_eq_true_iff]
    omega
  have hlow : Point.isLow (0xDC00 + (c.toNat - 0x10000) % 0x400) = true := by
    rw [Point.isLow, Bool.and_eq_true, decide_eq_true_iff, decide_eq_true_iff]
    omega
  have hnumber : 0x10000 + (0xD800 + (c.toNat - 0x10000) / 0x400 - 0xD800) * 0x400 +
      (0xDC00 + (c.toNat - 0x10000) % 0x400 - 0xDC00) = c.toNat := by omega
  rw [joinPieces, hhigh, hlow, Bool.and_self, if_pos rfl, Point.ofPair, hnumber, Char.ofNat_toNat]

theorem readPieces_plain {c : Char} (control : 0x20 ≤ c.toNat) (mark : c ≠ '"') (backslash : c ≠ '\\')
    {ps rest : List Point} {pieces : List Piece} (h : readPieces ps = some (pieces, rest)) :
    readPieces (.char c :: ps) = some (.plain (.char c) :: pieces, rest) := by
  have hplain : (isControl (.char c) || decide (Point.char c = .char '\\')) = false := by
    simp [isControl, backslash, control]
  rw [readPieces, hplain, h]
  · rfl
  · simpa using mark
  · simp [backslash]
  · simp [backslash]

/-- The characters of a string are read up to the closing mark. -/
theorem SpellsChars.read {t cs rest : List Char} (h : SpellsChars t cs rest) :
    ∃ pieces, readPieces (ofChars t) = some (pieces, ofChars rest) ∧ joinPieces pieces = ofChars cs ∧
      rest.length < t.length := by
  -- An escaped unit that is a character of its own cannot be joined to the one after it.
  induction h with
  | close rest => exact ⟨[], rfl, rfl, Nat.lt_succ_self _⟩
  | plain control mark backslash _ ih =>
    obtain ⟨pieces, hread, hjoin, hlength⟩ := ih
    refine ⟨_, readPieces_plain control mark backslash hread, ?_, ?_⟩
    · rw [joinPieces, hjoin, ofChars_cons]
    · rw [List.length_cons]
      omega
  | @escape e c _ _ _ stands _ ih =>
    obtain ⟨pieces, hread, hjoin, hlength⟩ := ih
    have hescaped : escaped? e = some c ∧ e ≠ 'u' := by
      simp only [List.mem_cons, List.not_mem_nil, Prod.mk.injEq, or_false] at stands
      rcases stands with h | h | h | h | h | h | h | h <;> obtain ⟨rfl, rfl⟩ := h <;> decide
    refine ⟨.plain (.char c) :: pieces, ?_, ?_, ?_⟩
    · rw [ofChars_cons, ofChars_cons, readPieces, hescaped.1, hread]
      · rfl
      · simp [hescaped.2]
    · rw [joinPieces, hjoin, ofChars_cons]
    · simp only [List.length_cons]
      omega
  | @unit h₁ h₂ h₃ h₄ c _ _ _ digits _ ih =>
    obtain ⟨pieces, hread, hjoin, hlength⟩ := ih
    obtain ⟨hhigh, hchar⟩ := ofNat_toNat c
    refine ⟨.unit c.toNat :: pieces, ?_, ?_, ?_⟩
    · simp only [ofChars_cons]
      rw [readPieces, digits, hread]
      rfl
    · rw [joinPieces_unit hhigh, hchar, hjoin, ofChars_cons]
    · simp only [List.length_cons]
      omega
  | @pair h₁ h₂ h₃ h₄ l₁ l₂ l₃ l₄ c _ _ _ large high low _ ih =>
    obtain ⟨pieces, hread, hjoin, hlength⟩ := ih
    refine ⟨.unit _ :: .unit _ :: pieces, ?_, (joinPieces_pair large pieces).trans (by rw [hjoin, ofChars_cons]), ?_⟩
    · simp only [ofChars_cons]
      rw [readPieces, high, readPieces, low, hread]
      rfl
    · simp only [List.length_cons]
      omega

/-- The reader takes strings as they are. -/
def Dialect.TakesTexts (dialect : Dialect String) : Prop :=
  ∀ cs : List Char, dialect.text (ofChars cs) = some (String.ofList cs)

theorem Dialect.takesTexts_strict : Dialect.strict.TakesTexts := text?_ofChars

theorem Dialect.takesTexts_lenient : Dialect.lenient.TakesTexts := by
  intro cs
  show some (Point.lossyText (ofChars cs)) = _
  rw [Point.lossyText, ofChars, List.map_map]
  exact congrArg (some ∘ String.ofList) (List.map_id cs)

variable {dialect : Dialect String}

theorem SpellsChars.readString {t rest : List Char} {s : String} (h : SpellsChars t s.toList rest)
    (takes : dialect.TakesTexts) : Json.readString dialect (ofChars t) = some (s, ofChars rest) := by
  obtain ⟨pieces, hread, hjoin, -⟩ := h.read
  have htext : dialect.text (joinPieces pieces) = some s := by rw [hjoin, takes, String.ofList_toList]
  rw [Json.readString, hread, Option.bind_eq_bind, Option.bind_some]
  dsimp only
  rw [htext]
  rfl

theorem SpellsChars.length_lt {t cs rest : List Char} (h : SpellsChars t cs rest) : rest.length < t.length := by
  obtain ⟨_, -, -, hlength⟩ := h.read
  exact hlength

/-! ## Numbers -/

/-- The text is at its end, or goes on with a gap or after a value. -/
def Breaks (t : List Char) : Prop := ∀ c ∈ t.head?, c ∈ [' ', '\t', '\n', '\r', ',', ']', '\x7d']

theorem Breaks.not_digit {t : List Char} (h : Breaks t) : ∀ c ∈ t.head?, c.isDigit = false := by
  intro c hc
  have hbreak := h c hc
  simp only [List.mem_cons, List.not_mem_nil, or_false] at hbreak
  rcases hbreak with rfl | rfl | rfl | rfl | rfl | rfl | rfl <;> rfl

theorem Breaks.ne {t : List Char} (h : Breaks t) : ∀ c ∈ t.head?, c ≠ '.' ∧ c ≠ 'e' ∧ c ≠ 'E' := by
  intro c hc
  have hbreak := h c hc
  simp only [List.mem_cons, List.not_mem_nil, or_false] at hbreak
  rcases hbreak with rfl | rfl | rfl | rfl | rfl | rfl | rfl <;> decide

theorem spanDigits_append {ds t : List Char} (hds : ∀ c ∈ ds, c.isDigit = true) (ht : ∀ c ∈ t.head?, c.isDigit = false) :
    spanDigits (ofChars (ds ++ t)) = (ds, ofChars t) := by
  induction ds with
  | nil =>
    rcases t with _ | ⟨c, t⟩
    · rfl
    · have hc : digit? (.char c) = none := by rw [digit?, ht c rfl, if_neg Bool.false_ne_true]
      rw [List.nil_append, ofChars_cons, spanDigits, hc]
  | cons d ds ih =>
    have hd : digit? (.char d) = some d := by rw [digit?, hds d List.mem_cons_self, if_pos rfl]
    rw [List.cons_append, ofChars_cons, spanDigits, hd]
    dsimp only
    rw [ih fun c hc => hds c (List.mem_cons_of_mem _ hc)]

theorem readFraction_append {frac t : List Char} (hfrac : ∀ c ∈ frac, c.isDigit = true)
    (ht : ∀ c ∈ t.head?, c.isDigit = false) (hpoint : ∀ c ∈ t.head?, c ≠ '.') :
    readFraction (ofChars (fractionText frac ++ t)) = some (frac, ofChars t) := by
  by_cases hempty : frac = []
  · rw [fractionText, if_pos hempty, hempty, List.nil_append]
    rcases t with _ | ⟨c, t⟩
    · rfl
    · rw [ofChars_cons, readFraction]
      rintro _ ⟨⟩
      exact hpoint '.' rfl rfl
  · rw [fractionText, if_neg hempty, List.cons_append, ofChars_cons, readFraction, spanDigits_append hfrac ht]
    dsimp only
    rw [List.isEmpty_eq_false_iff.mpr hempty, if_neg Bool.false_ne_true]

theorem splitSign_append {sign ds : List Char} {negative : Bool}
    (issign : (sign, negative) ∈ [([], false), (['+'], false), (['-'], true)]) (nonempty : ds ≠ [])
    (digits : ∀ c ∈ ds, c.isDigit = true) (t : List Char) :
    splitSign (ofChars (sign ++ (ds ++ t))) = (negative, ofChars (ds ++ t)) := by
  simp only [List.mem_cons, List.not_mem_nil, Prod.mk.injEq, or_false] at issign
  rcases issign with ⟨rfl, rfl⟩ | ⟨rfl, rfl⟩ | ⟨rfl, rfl⟩
  · obtain ⟨d, ds, rfl⟩ := List.exists_cons_of_ne_nil nonempty
    have hd := digits d List.mem_cons_self
    rw [List.nil_append, List.cons_append, ofChars_cons, splitSign]
    · intro _ h
      cases h
      exact absurd hd Bool.false_ne_true
    · intro _ h
      cases h
      exact absurd hd Bool.false_ne_true
  · rfl
  · rfl

theorem SpellsExponent.read {e : List Char} {exponent : Option Int} (h : SpellsExponent e exponent) {rest : List Char}
    (hrest : Breaks rest) : readExponent (ofChars (e ++ rest)) = some (exponent, ofChars rest) := by
  cases h with
  | absent =>
    rcases rest with _ | ⟨c, rest⟩
    · rfl
    · obtain ⟨-, hsmall, hlarge⟩ := hrest.ne c rfl
      rw [List.nil_append, ofChars_cons, readExponent, if_neg]
      simp [hsmall, hlarge]
  | @present mark sign ds negative ismark issign nonempty digits =>
    have hmark : (decide (Point.char mark = .char 'e') || decide (Point.char mark = .char 'E')) = true := by
      rcases ismark with rfl | rfl <;> decide
    rw [List.cons_append, List.append_assoc, ofChars_cons, readExponent, if_pos hmark,
      splitSign_append issign nonempty digits]
    dsimp only
    rw [spanDigits_append digits hrest.not_digit]
    dsimp only
    rw [List.isEmpty_eq_false_iff.mpr nonempty, if_neg Bool.false_ne_true]

theorem IsWholePart.isWhole {ds : List Char} (h : IsWholePart ds) : isWhole ds = true := by
  obtain ⟨c, ds, rfl⟩ := List.exists_cons_of_ne_nil h.nonempty
  by_cases hc : c = '0'
  · have hzero := h.noIdleZero (by rw [hc]; rfl)
    rw [hzero]
    rfl
  · rw [Json.isWhole]
    · exact bne_iff_ne.mpr hc
    · rintro rfl
      exact fun _ => hc rfl

theorem IsWholePart.isDigit {ds : List Char} (h : IsWholePart ds) : ∀ c ∈ ds, c.isDigit = true := fun c hc =>
  Char.isDigit_iff_toNat.mpr (h.digits c hc)

theorem SpellsExponent.head {e : List Char} {exponent : Option Int} (h : SpellsExponent e exponent) {rest : List Char}
    (hrest : Breaks rest) : ∀ c ∈ (e ++ rest).head?, c.isDigit = false ∧ c ≠ '.' := by
  cases h with
  | absent => exact fun c hc => ⟨hrest.not_digit c hc, (hrest.ne c hc).1⟩
  | present ismark =>
    rintro c ⟨⟩
    rcases ismark with rfl | rfl <;> decide

theorem readUnsigned_append {ds frac e rest : List Char} {exponent : Option Int} (whole : IsWholePart ds)
    (digits : ∀ c ∈ frac, c.isDigit = true) (exp : SpellsExponent e exponent) (hrest : Breaks rest) (negative : Bool) :
    readUnsigned dialect negative (ofChars (ds ++ (fractionText frac ++ (e ++ rest)))) =
      some (if frac.isEmpty && exponent.isNone then .int (Decimal.signed negative (Decimal.digitsValue ds))
        else .float (Double.ofDecimal negative (Decimal.digitsValue (ds ++ frac)) (ds ++ frac).length
          (exponent.getD 0 - frac.length)), ofChars rest) := by
  have hafter : ∀ c ∈ (fractionText frac ++ (e ++ rest)).head?, c.isDigit = false := by
    rw [fractionText]
    split_ifs
    · exact fun c hc => (exp.head hrest c hc).1
    · rintro c ⟨⟩
      rfl
  have hfraction := readFraction_append digits (fun c hc => (exp.head hrest c hc).1) fun c hc => (exp.head hrest c hc).2
  rw [readUnsigned, spanDigits_append whole.isDigit hafter]
  simp only [whole.isWhole, hfraction, exp.read hrest, bind, Option.bind, Nat.not_lt.mpr whole.short, pure, Bool.not_true,
    decide_false, Bool.false_and, Bool.false_eq_true, if_false]
  split_ifs <;> rfl

/-- A number begins with a digit or a minus sign, and what a word may begin with it does not. -/
theorem SpellsNumber.head {t : List Char} {j : Json} (h : SpellsNumber t j) :
    ∃ c u, t = c :: u ∧ (c = '-' ∨ c.isDigit = true) := by
  have hwhole : ∀ (negative : Bool) {ds : List Char}, IsWholePart ds → ∀ u,
      ∃ c v, signText negative ++ (ds ++ u) = c :: v ∧ (c = '-' ∨ c.isDigit = true) := by
    intro negative ds whole u
    obtain ⟨d, ds, rfl⟩ := List.exists_cons_of_ne_nil whole.nonempty
    cases negative with
    | false => exact ⟨d, ds ++ u, rfl, .inr (whole.isDigit d List.mem_cons_self)⟩
    | true => exact ⟨'-', _, rfl, .inl rfl⟩
  cases h with
  | integer negative whole =>
    have hhead := hwhole negative whole []
    rwa [List.append_nil] at hhead
  | double negative whole => exact hwhole negative whole _

theorem afterWord?_eq_none {word : String} {first : Char} {letters : List Char} (hword : word.toList = first :: letters)
    {c : Char} (hc : first ≠ c) (ps : List Point) : afterWord? word (.char c :: ps) = none := by
  have hpoint : ¬ (Point.char first == .char c) = true := by
    rw [beq_iff_eq, Point.char.injEq]
    exact hc
  rw [afterWord?, hword, ofChars_cons]
  exact if_neg hpoint

theorem readWord_eq_none {c : Char} (h : c = '-' ∨ c.isDigit = true) (ps : List Point) :
    (readWord (.char c :: ps) : Option (Json × List Point)) = none := by
  have hother : ∀ d ∈ ['n', 't', 'f', 'N', 'I'], d ≠ c := by
    rintro d hd rfl
    simp only [List.mem_cons, List.not_mem_nil, or_false] at hd
    rcases hd with rfl | rfl | rfl | rfl | rfl <;> revert h <;> decide
  rw [readWord, words, List.findSome?_eq_none_iff]
  simp only [List.forall_mem_cons, Option.map_eq_none_iff]
  exact ⟨afterWord?_eq_none rfl (hother 'n' (by decide)) ps, afterWord?_eq_none rfl (hother 't' (by decide)) ps,
    afterWord?_eq_none rfl (hother 'f' (by decide)) ps, afterWord?_eq_none rfl (hother 'N' (by decide)) ps,
    afterWord?_eq_none rfl (hother 'I' (by decide)) ps, fun _ h => absurd h List.not_mem_nil⟩

theorem readNumber_append {ds u rest : List Char} {j : Json} {negative : Bool} (whole : IsWholePart ds)
    (h : readUnsigned dialect negative (ofChars (ds ++ u)) = some (j, ofChars rest)) :
    readNumber dialect (ofChars (signText negative ++ (ds ++ u))) = some (j, ofChars rest) := by
  obtain ⟨d, ds, rfl⟩ := List.exists_cons_of_ne_nil whole.nonempty
  have hd := whole.isDigit d List.mem_cons_self
  cases negative with
  | false =>
    rw [signText, if_neg Bool.false_ne_true, List.nil_append, List.cons_append, ofChars_cons, readNumber]
    · exact h
    · rintro _ ⟨⟩
      exact absurd hd Bool.false_ne_true
  | true =>
    have hletter : 'I' ≠ d := by
      rintro rfl
      exact absurd hd Bool.false_ne_true
    have hword : afterWord? "Infinity" (ofChars (d :: ds ++ u)) = none := afterWord?_eq_none rfl hletter _
    rw [signText, if_pos rfl, List.singleton_append, ofChars_cons, readNumber, hword]
    exact h

theorem SpellsNumber.read {t rest : List Char} {j : Json} (h : SpellsNumber t j) (dialect : Dialect String)
    (hrest : Breaks rest) :
    readNumber dialect (ofChars (t ++ rest)) = some (j, ofChars rest) := by
  cases h with
  | @integer negative ds whole =>
    have hread := @readUnsigned_append dialect ds [] [] rest none whole (by simp) .absent hrest negative
    rw [List.append_assoc]
    exact readNumber_append whole hread
  | @double negative ds frac e exponent whole digits exp proper =>
    have hread := @readUnsigned_append dialect ds frac e rest exponent whole digits exp hrest negative
    have hproper : (frac.isEmpty && exponent.isNone) = false := by
      rw [Bool.and_eq_false_iff, List.isEmpty_eq_false_iff, Option.isNone_eq_false_iff, Option.isSome_iff_ne_none]
      exact proper
    rw [hproper, if_neg Bool.false_ne_true] at hread
    rw [List.append_assoc, List.append_assoc, List.append_assoc]
    exact readNumber_append whole hread

/-! ## Words -/

theorem SpellsWord.read {w : List Char} {j : Json} (h : SpellsWord w j) (dialect : Dialect String) (rest : List Char) :
    readWord (ofChars (w ++ rest)) = some (j, ofChars rest) ∨
      (readWord (ofChars (w ++ rest)) : Option (Json × List Point)) = none ∧
        readNumber dialect (ofChars (w ++ rest)) = some (j, ofChars rest) := by
  cases h with
  | null => exact .inl rfl
  | yes => exact .inl rfl
  | no => exact .inl rfl
  | notNumber => exact .inl rfl
  | infinite => exact .inl rfl
  | minusInfinite => exact .inr ⟨rfl, rfl⟩

end ClusterBrowser.Json
