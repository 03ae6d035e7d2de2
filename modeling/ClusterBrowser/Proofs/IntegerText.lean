import ClusterBrowser.Number.Decimal
import Mathlib.Data.List.Induction
import Mathlib.Data.Nat.Digits.Defs

/-!
# Which texts are integers

* `Decimal.Spells`: an optional sign and digits, with the integer that they denote.
* **`Decimal.read_eq_ok_iff`**: just these texts are read, each as what it denotes.
* `Decimal.CountsAs`: what a text counts as where texts that are no integers count as 0.
* `Decimal.IsSigned`: the grammar of integers, whatever the number of digits.
* `Decimal.positional`: what digits denote, each by its place.
* `Decimal.spells_write`: an integer is written as it is spelt.
* **`Decimal.read_of_every_text`**: what every text is read as, and what leaves that unchanged.
-/

namespace ClusterBrowser.Decimal

/-! ## Texts that are read -/

/-- Digits that are read: at least one, not too many, and all of them in ASCII. -/
structure IsNumeral (ds : List Char) : Prop where
  nonempty : ds ≠ []
  digits : ∀ c ∈ ds, '0'.toNat ≤ c.toNat ∧ c.toNat ≤ '9'.toNat
  short : ds.length ≤ maxDigits

/-- The texts that spell an integer. -/
inductive Spells : List Char → Int → Prop
  | plain {ds : List Char} (h : IsNumeral ds) : Spells ds (Nat.ofDigitChars 10 ds 0)
  | plus {ds : List Char} (h : IsNumeral ds) : Spells ('+' :: ds) (Nat.ofDigitChars 10 ds 0)
  | minus {ds : List Char} (h : IsNumeral ds) : Spells ('-' :: ds) (-(Nat.ofDigitChars 10 ds 0 : Int))

theorem isDigits_iff {ds : List Char} :
    isDigits ds = true ↔ ds ≠ [] ∧ ∀ c ∈ ds, '0'.toNat ≤ c.toNat ∧ c.toNat ≤ '9'.toNat := by
  rw [isDigits, Bool.and_eq_true, List.all_eq_true]
  simp only [Char.isDigit_iff_toNat, Bool.not_eq_true', List.isEmpty_eq_false_iff]

theorem isNumeral_iff {ds : List Char} : IsNumeral ds ↔ isDigits ds = true ∧ ds.length ≤ maxDigits := by
  rw [isDigits_iff]
  exact ⟨fun h => ⟨⟨h.nonempty, h.digits⟩, h.short⟩, fun ⟨⟨h, h'⟩, h''⟩ => ⟨h, h', h''⟩⟩

theorem splitSign_digits {ds : List Char} (h : ∀ c ∈ ds, '0'.toNat ≤ c.toNat ∧ c.toNat ≤ '9'.toNat) :
    splitSign ds = (false, ds) := by
  rw [splitSign.eq_def]
  split
  · exact absurd (h '-' List.mem_cons_self) (by decide)
  · exact absurd (h '+' List.mem_cons_self) (by decide)
  · rfl

theorem spells_iff {cs : List Char} {n : Int} :
    Spells cs n ↔ IsNumeral (splitSign cs).2 ∧ signed (splitSign cs).1 (digitsValue (splitSign cs).2) = n := by
  constructor
  · rintro (h | h | h)
    · rw [splitSign_digits h.digits]
      exact ⟨h, rfl⟩
    · exact ⟨h, rfl⟩
    · exact ⟨h, rfl⟩
  · rintro ⟨h, rfl⟩
    rw [splitSign.eq_def] at h ⊢
    split at h
    · exact .minus h
    · exact .plus h
    · exact .plain h

/-- **A text is read as an integer exactly if it spells that integer.** -/
theorem read_eq_ok_iff {raw : String} {n : Int} : read raw = .ok n ↔ Spells raw.toList n := by
  rw [spells_iff, isNumeral_iff, read]
  rcases splitSign raw.toList with ⟨negative, digits⟩
  dsimp only
  by_cases hdigits : isDigits digits = true
  · by_cases hlong : maxDigits < digits.length
    · rw [if_neg (by simp [hdigits]), if_pos hlong]
      exact ⟨fun h => (nomatch h), fun h => absurd h.1.2 (Nat.not_le.mpr hlong)⟩
    · rw [if_neg (by simp [hdigits]), if_neg hlong]
      exact ⟨fun h => ⟨⟨hdigits, Nat.not_lt.mp hlong⟩, Except.ok.inj h⟩, fun h => congrArg _ h.2⟩
  · rw [if_pos (by simpa using hdigits)]
    exact ⟨fun h => (nomatch h), fun h => absurd h.1.1 hdigits⟩

/-- What a text counts as, which may be missing: the integer that it spells, or 0. -/
def CountsAs (raw : Option String) (n : Int) : Prop :=
  (∃ text, raw = some text ∧ Spells text.toList n) ∨ ((∀ text k, raw = some text → ¬ Spells text.toList k) ∧ n = 0)

theorem countsAs_readOrZero (raw : Option String) : CountsAs raw (readOrZero raw) := by
  rcases raw with _ | text
  · exact .inr ⟨fun _ _ h => (nomatch h), rfl⟩
  rw [readOrZero]
  rcases h : read text with e | n
  · refine .inr ⟨fun _ k htext hk => ?_, rfl⟩
    rw [← Option.some.inj htext, ← read_eq_ok_iff, h] at hk
    exact nomatch hk
  · exact .inl ⟨text, rfl, read_eq_ok_iff.mp h⟩

/-! ## Texts that are not read -/

/-- The grammar of integers: an optional sign, and digits in ASCII, at least one of them. -/
inductive IsSigned : List Char → Bool → List Char → Prop
  | plain {ds : List Char} (nonempty : ds ≠ []) (digits : ∀ c ∈ ds, '0'.toNat ≤ c.toNat ∧ c.toNat ≤ '9'.toNat) :
    IsSigned ds false ds
  | plus {ds : List Char} (nonempty : ds ≠ []) (digits : ∀ c ∈ ds, '0'.toNat ≤ c.toNat ∧ c.toNat ≤ '9'.toNat) :
    IsSigned ('+' :: ds) false ds
  | minus {ds : List Char} (nonempty : ds ≠ []) (digits : ∀ c ∈ ds, '0'.toNat ≤ c.toNat ∧ c.toNat ≤ '9'.toNat) :
    IsSigned ('-' :: ds) true ds

theorem isSigned_iff {cs ds : List Char} {negative : Bool} :
    IsSigned cs negative ds ↔ splitSign cs = (negative, ds) ∧ isDigits ds = true := by
  rw [isDigits_iff]
  constructor
  · rintro (⟨hne, hds⟩ | ⟨hne, hds⟩ | ⟨hne, hds⟩)
    · exact ⟨splitSign_digits hds, hne, hds⟩
    · exact ⟨rfl, hne, hds⟩
    · exact ⟨rfl, hne, hds⟩
  · rintro ⟨hsplit, hne, hds⟩
    rw [splitSign.eq_def] at hsplit
    split at hsplit <;> obtain ⟨rfl, rfl⟩ := Prod.mk.inj hsplit
    · exact .minus hne hds
    · exact .plus hne hds
    · exact .plain hne hds

theorem read_eq_tooLong_iff {raw : String} :
    read raw = .error .tooLong ↔ ∃ negative ds, IsSigned raw.toList negative ds ∧ maxDigits < ds.length := by
  simp only [isSigned_iff, read]
  rcases splitSign raw.toList with ⟨negative, digits⟩
  by_cases hdigits : isDigits digits = true
  · by_cases hlong : maxDigits < digits.length <;> simp [hdigits, hlong]
  · simp [hdigits]

theorem read_eq_malformed_iff {raw : String} :
    read raw = .error (.malformed raw) ↔ ∀ negative ds, ¬ IsSigned raw.toList negative ds := by
  simp only [isSigned_iff, read]
  rcases splitSign raw.toList with ⟨negative, digits⟩
  by_cases hdigits : isDigits digits = true
  · by_cases hlong : maxDigits < digits.length <;> simp [hdigits, hlong]
  · simp [hdigits]

/-! ## What digits denote -/

/-- What digits denote by their places: the last counts ones, the one before it tens, and so on. -/
def positional (ds : List Char) : ℕ := Nat.ofDigits 10 (ds.reverse.map fun c => c.toNat - '0'.toNat)

theorem digitsValue_eq_positional (ds : List Char) : digitsValue ds = positional ds := by
  -- The last digit is the one of the lowest place, so it is taken off.
  induction ds using List.reverseRecOn with
  | nil => rfl
  | append_singleton ds c ih =>
    rw [digitsValue, Nat.ofDigitChars_append, Nat.ofDigitChars_cons, Nat.ofDigitChars_nil, ← digitsValue, ih, positional,
      positional, List.reverse_concat, List.map_cons, Nat.ofDigits_cons, Nat.add_comm]

theorem spells_iff_isSigned {cs : List Char} {n : Int} :
    Spells cs n ↔ ∃ negative ds, IsSigned cs negative ds ∧ ds.length ≤ maxDigits ∧
      n = if negative then -(positional ds : Int) else positional ds := by
  rw [spells_iff]
  simp only [isSigned_iff, isNumeral_iff, ← digitsValue_eq_positional]
  constructor
  · rintro ⟨⟨hdigits, hshort⟩, rfl⟩
    exact ⟨_, _, ⟨rfl, hdigits⟩, hshort, rfl⟩
  · rintro ⟨negative, ds, ⟨hsplit, hdigits⟩, hshort, rfl⟩
    rw [hsplit]
    exact ⟨⟨hdigits, hshort⟩, rfl⟩

/-! ## Texts that are written -/

theorem digitsValue_writeNat (n : Nat) : digitsValue (writeNat n) = n := Nat.ofDigitChars_ten_toDigits

theorem writeNat_head (n : Nat) : (writeNat n).head? = some '0' → writeNat n = ['0'] := by
  induction n using Nat.strongRecOn with
  | ind n ih =>
    intro hzero
    by_cases hn : n < 10
    · rw [writeNat, Nat.toDigits_of_lt_base hn] at hzero ⊢
      rw [List.head?_cons] at hzero
      rw [Option.some.inj hzero]
    · rw [writeNat, Nat.toDigits_of_base_le (by decide) (Nat.not_lt.mp hn), List.head?_append,
        List.head?_eq_some_head Nat.toDigits_ne_nil, Option.some_or, ← List.head?_eq_some_head] at hzero
      have hfirst : n / 10 = 0 := by
        rw [← digitsValue_writeNat (n / 10), ih (n / 10) (by omega) hzero]
        rfl
      omega

theorem isNumeral_writeNat {n : Nat} (h : (writeNat n).length ≤ maxDigits) : IsNumeral (writeNat n) where
  nonempty := Nat.toDigits_ne_nil
  digits c hc := Char.isDigit_iff_toNat.mp (Nat.isDigit_of_mem_toDigits (by decide) (by decide) hc)
  short := h

theorem spells_write {n : Int} (h : (writeNat n.natAbs).length ≤ maxDigits) : Spells (write n) n := by
  cases n with
  | ofNat n =>
    have hspells := Spells.plain (isNumeral_writeNat h)
    rwa [← digitsValue, digitsValue_writeNat] at hspells
  | negSucc n =>
    have hspells := Spells.minus (isNumeral_writeNat h)
    rwa [← digitsValue, digitsValue_writeNat] at hspells

/-! ## Texts that are read alike -/

theorem spells_unsigned {cs : List Char} {n : Int} (hplus : cs.head? ≠ some '+') (hminus : cs.head? ≠ some '-')
    (h : Spells cs n) : IsNumeral cs ∧ n = digitsValue cs := by
  cases h with
  | plain h => exact ⟨h, rfl⟩
  | plus h => exact absurd rfl hplus
  | minus h => exact absurd rfl hminus

/-- Zeros in front of digits change nothing but the length. -/
theorem digitsValue_zeros (k : ℕ) (ds : List Char) : digitsValue (List.replicate k '0' ++ ds) = digitsValue ds := by
  rw [digitsValue, Nat.ofDigitChars_append, Nat.ofDigitChars_replicate_zero, Nat.mul_zero, ← digitsValue]

theorem IsNumeral.zeros {ds : List Char} (h : IsNumeral ds) {k : ℕ} (hk : k + ds.length ≤ maxDigits) :
    IsNumeral (List.replicate k '0' ++ ds) where
  nonempty := List.append_ne_nil_of_right_ne_nil _ h.nonempty
  digits c hc := by
    rcases List.mem_append.mp hc with hc | hc
    · rw [List.eq_of_mem_replicate hc]
      decide
    · exact h.digits c hc
  short := by rwa [List.length_append, List.length_replicate]

/-- **What every text is read as.** A text of the grammar of integers is read, unless it has too many digits, as the integer
that its digits denote by their places; every other text is malformed. What is written of an integer is read as that
integer, a plus or zeros in front of a text without a sign make no difference, and where a fallback is wanted, a text that
is not read counts as 0. -/
theorem read_of_every_text (raw : String) :
    (∀ n, read raw = .ok n ↔ ∃ negative ds, IsSigned raw.toList negative ds ∧ ds.length ≤ maxDigits ∧
      n = if negative then -(positional ds : Int) else positional ds) ∧
    (read raw = .error .tooLong ↔ ∃ negative ds, IsSigned raw.toList negative ds ∧ maxDigits < ds.length) ∧
    (read raw = .error (.malformed raw) ↔ ∀ negative ds, ¬ IsSigned raw.toList negative ds) ∧
    (∀ n : Int, n.natAbs < 10 ^ maxDigits → read (text n) = .ok n) ∧
    (∀ n, read raw = .ok n → raw.toList.head? ≠ some '+' → raw.toList.head? ≠ some '-' →
      read ("+" ++ raw) = .ok n ∧
      ∀ k, k + raw.length ≤ maxDigits → read (String.ofList (List.replicate k '0') ++ raw) = .ok n) ∧
    readOrZero none = 0 ∧ (∀ n, read raw = .ok n → readOrZero (some raw) = n) ∧
    ((∀ n, read raw ≠ .ok n) → readOrZero (some raw) = 0) := by
  refine ⟨fun n => read_eq_ok_iff.trans spells_iff_isSigned, read_eq_tooLong_iff, read_eq_malformed_iff, ?_, ?_, rfl, ?_, ?_⟩
  · intro n hn
    rw [read_eq_ok_iff, text, String.toList_ofList]
    exact spells_write ((Nat.length_toDigits_le_iff (by decide) (by decide)).mpr hn)
  · intro n hread hplus hminus
    obtain ⟨hnumeral, rfl⟩ := spells_unsigned hplus hminus (read_eq_ok_iff.mp hread)
    refine ⟨?_, fun k hk => ?_⟩
    · rw [read_eq_ok_iff, String.toList_append]
      exact .plus hnumeral
    · rw [read_eq_ok_iff, String.toList_append, String.toList_ofList, ← digitsValue_zeros k]
      exact .plain (hnumeral.zeros (String.length_toList ▸ hk))
  · intro n hread
    rw [readOrZero, hread]
  · intro hnone
    rw [readOrZero]
    rcases hread : read raw with e | n
    · rfl
    · exact absurd hread (hnone n)

end ClusterBrowser.Decimal
