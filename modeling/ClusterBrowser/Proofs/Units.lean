import ClusterBrowser.Display.Size
import ClusterBrowser.Proofs.IntegerText
import ClusterBrowser.Proofs.Precision

/-!
# Sizes in their units

A size beyond five kilobytes is rounded twice: to a double, and to two decimals.  The unit in which it is shown does not
depend on the first.

* `Size.IsUnit`: the unit of a size, by its number.
* `Size.ShowsHundredths`: the texts of numbers with two decimals.
* `Size.scaled_cases`: where the divisions end.
* `Size.value_quotient`: they are exact.
* `Size.scaled_in_unit`: they end in the unit of the size.
* **`Size.text_in_unit`**: the text of a size beyond five kilobytes.
-/

namespace ClusterBrowser

namespace Size

/-! ## Units -/

/-- The symbols of the units above the byte. -/
def symbols : List String := ["KB", "MB", "GB", "TB", "PB"]

/-- The unit of a size: the first of four in which there are at most 5120 of it, or else the fifth. -/
structure IsUnit (n : ℤ) (k : ℕ) : Prop where
  positive : 1 ≤ k
  last : k ≤ 5
  enough : k ≤ 4 → n ≤ 5120 * 1024 ^ k
  least : ∀ j, 1 ≤ j → j < k → 5120 * 1024 ^ j < n

/-! ## Two decimals -/

/-- The text of a number of hundredths: its digits, with a point before the last two and no zero in front of other
digits before the point. -/
inductive ShowsHundredths : List Char → ℕ → Prop
  | intro {whole : List Char} {tenth hundredth : Char} (nonempty : whole ≠ [])
    (canonical : whole.head? = some '0' → whole = ['0'])
    (digits : ∀ c ∈ whole ++ [tenth, hundredth], c.isDigit = true) :
    ShowsHundredths (whole ++ ['.', tenth, hundredth]) (Decimal.positional (whole ++ [tenth, hundredth]))

theorem cents_eq : ∀ c < 100, (if (Decimal.writeNat c).length < 2 then '0' :: Decimal.writeNat c else Decimal.writeNat c) =
    [Nat.digitChar (c / 10), Nat.digitChar (c % 10)] := by decide +kernel

theorem showsHundredths_twoDecimals (h : ℕ) : ShowsHundredths (twoDecimals h) h := by
  have htenth : h % 100 / 10 < 10 := by omega
  have hhundredth : h % 100 % 10 < 10 := Nat.mod_lt _ (by decide)
  have htext : twoDecimals h = Decimal.writeNat (h / 100) ++
      ['.', Nat.digitChar (h % 100 / 10), Nat.digitChar (h % 100 % 10)] :=
    congrArg (fun cents => _ ++ '.' :: cents) (cents_eq _ (Nat.mod_lt _ (by decide)))
  have hvalue : Decimal.positional (Decimal.writeNat (h / 100) ++
      [Nat.digitChar (h % 100 / 10), Nat.digitChar (h % 100 % 10)]) = h := by
    rw [← Decimal.digitsValue_eq_positional, Decimal.digitsValue, Nat.ofDigitChars_append,
      Nat.ofDigitChars_cons_digitChar_of_lt_ten htenth, Nat.ofDigitChars_cons_digitChar_of_lt_ten hhundredth,
      Nat.ofDigitChars_nil, ← Decimal.digitsValue, Decimal.digitsValue_writeNat]
    omega
  have hdigits : ∀ c ∈ Decimal.writeNat (h / 100) ++ [Nat.digitChar (h % 100 / 10), Nat.digitChar (h % 100 % 10)],
      c.isDigit = true := by
    intro c hc
    rcases List.mem_append.mp hc with hc | hc
    · exact Nat.isDigit_of_mem_toDigits (by decide) (by decide) hc
    · obtain rfl | rfl : c = _ ∨ c = _ := by simpa using hc
      · simpa [Nat.isDigit_digitChar] using htenth
      · simpa [Nat.isDigit_digitChar] using hhundredth
  have hshown := ShowsHundredths.intro Nat.toDigits_ne_nil (Decimal.writeNat_head (h / 100)) hdigits
  rwa [← Decimal.writeNat, hvalue, ← htext] at hshown

theorem isNearest_hundredths (x : Binary64) : IsNearest (100 * x.value) (hundredths x) := by
  have h := isNearest_roundDiv (100 * x.num) x.den_pos
  rwa [Nat.cast_mul, mul_div_assoc, Binary64.num_div_den] at h

/-! ## Divisions -/

/-- A size after some divisions. -/
def quotient (d : Binary64) (k : ℕ) : Binary64 := (Binary64.divNat · 1024)^[k] d

/-- The divisions end with the first quotient that is small enough, or with the last unit. -/
theorem scaled_cases (d : Binary64) (scale : Scale) (more : List Scale) :
    ∃ k, (scale :: more)[k]? = some (scaled d scale more).2 ∧ (scaled d scale more).1 = quotient d (k + 1) ∧
      (k < more.length → (quotient d (k + 1)).value ≤ 5120) ∧ ∀ j < k, 5120 < (quotient d (j + 1)).value := by
  induction more generalizing d scale with
  | nil => exact ⟨0, rfl, rfl, nofun, nofun⟩
  | cons next more ih =>
    have hsmall : (d.divNat factor).atMost unitLimit = true ↔ (quotient d 1).value ≤ 5120 :=
      (d.divNat factor).atMost_iff unitLimit
    rw [scaled]
    by_cases h : (d.divNat factor).atMost unitLimit = true
    · simp only [h, if_true]
      exact ⟨0, rfl, rfl, fun _ => hsmall.mp h, nofun⟩
    · obtain ⟨k, hscale, hamount, hlast, hbefore⟩ := ih (d.divNat factor) next
      simp only [h]
      refine ⟨k + 1, hscale, hamount, fun hk => hlast (Nat.lt_of_succ_lt_succ hk), ?_⟩
      rintro (_ | j) hj
      · exact not_le.mp fun hle => h (hsmall.mpr hle)
      · exact hbefore j (Nat.lt_of_succ_lt_succ hj)

/-- **The divisions are exact.** -/
theorem value_quotient {d : Binary64} (hdouble : Binary64.IsDouble d.value) (hd : 1 ≤ d.value) {k : ℕ} (hk : k ≤ 100) :
    (quotient d k).value = d.value / 1024 ^ k := by
  induction k with
  | zero => simp [quotient]
  | succ k ih =>
    have hrounds : Binary64.Rounds ((quotient d k).value / (1024 : ℕ)) (quotient d (k + 1)) := by
      rw [quotient, quotient, Function.iterate_succ_apply']
      exact Binary64.rounds_divNat _ (by decide)
    have hpower : (1024 : ℚ) ^ (k + 1) = 2 ^ (10 * (k + 1)) := by
      rw [pow_mul]
      norm_num
    rw [ih (by omega), Nat.cast_ofNat, div_div, ← pow_succ] at hrounds
    exact hrounds.value_eq (hpower ▸ hdouble.div_two_pow hd (by omega))

/-- Rounding to a double takes no size past the bound of a unit. -/
theorem value_quotient_le_iff {n : ℤ} {d : Binary64} (nearest : Binary64.Rounds n d) (hd : 1 ≤ d.value) {j : ℕ}
    (hj : j ≤ 4) : (quotient d j).value ≤ 5120 ↔ n ≤ 5120 * 1024 ^ j := by
  have hbits : 5120 * 1024 ^ j < 2 ^ 53 := by
    have hpow : 1024 ^ j ≤ 1024 ^ 4 := Nat.pow_le_pow_right (by decide) hj
    omega
  have hbound := nearest.value_le_natCast_iff hbits
  push_cast at hbound
  rw [value_quotient nearest.isDouble hd (by omega), div_le_iff₀ (by positivity), hbound]

/-- The units above the byte. -/
def scales : List Scale := [.kilo, .mega, .giga, .tera, .peta]

theorem scaled_in_unit {n : ℤ} {d : Binary64} (large : 5120 < n) (nearest : Binary64.Rounds n d) (hd : 1 ≤ d.value) :
    ∃ k, IsUnit n (k + 1) ∧ scales[k]? = some (scaled d .kilo scales.tail).2 ∧
      (scaled d .kilo scales.tail).1 = quotient d (k + 1) ∧ 5120 < (quotient d k).value ∧
      (k < 4 → (quotient d (k + 1)).value ≤ 5120) := by
  obtain ⟨k, hscale, hamount, hlast, hbefore⟩ := scaled_cases d .kilo scales.tail
  have hk : k < 5 := (List.getElem?_eq_some_iff.mp hscale).1
  -- No division so far has brought the size into its unit.
  have hbeyond : ∀ j ≤ k, 5120 < (quotient d j).value := by
    rintro (_ | j) hj
    · exact not_le.mp fun hle => absurd ((value_quotient_le_iff nearest hd (by decide)).mp hle) (by simpa using large)
    · exact hbefore j hj
  refine ⟨k, ⟨Nat.succ_pos k, hk, fun hk4 => ?_, fun j _ hj => ?_⟩, hscale, hamount, hbeyond k le_rfl, hlast⟩
  · exact (value_quotient_le_iff nearest hd hk4).mp (hlast hk4)
  · exact not_le.mp fun hle =>
      absurd ((value_quotient_le_iff nearest hd (by omega)).mpr hle) (not_le.mpr (hbeyond j (by omega)))

/-! ## Texts -/

theorem symbols_eq : symbols = scales.map Scale.symbol := rfl

theorem text_eq_scaled {n : ℤ} (large : 5120 < n) (finite : (Binary64.ofNat n.toNat).isFinite = true) :
    text n = .ok (String.ofList (twoDecimals (hundredths (scaled (.ofNat n.toNat) .kilo scales.tail).1)) ++
      (scaled (.ofNat n.toNat) .kilo scales.tail).2.symbol) := by
  have hlarge : ¬ n ≤ unitLimit := not_le.mpr large
  rw [text, if_neg hlarge]
  simp only [finite, if_true]
  rfl

/-- **A size beyond five kilobytes is shown in its unit, exact up to two decimals.** The number shown is that of the double
next to the size, which the divisions do not change; where all integers are doubles it is that of the size. -/
theorem text_in_unit {n : ℤ} (large : 5120 < n) {d : Binary64} (nearest : Binary64.Rounds n d) (finite : d.isFinite = true) :
    ∃ (k : ℕ) (symbol : String) (digits : List Char) (h : ℕ), IsUnit n k ∧ symbols[k - 1]? = some symbol ∧
      text n = .ok (String.ofList digits ++ symbol) ∧ ShowsHundredths digits h ∧
      IsNearest (100 * (d.value / 1024 ^ k)) h ∧
      (n ≤ 2 ^ 53 → |(h : ℚ) / 100 - n / 1024 ^ k| ≤ 5 / 1000) ∧
      (∀ j ≤ k, (quotient d j).value = d.value / 1024 ^ j) ∧
      (k ≤ 4 → 5 < d.value / 1024 ^ k ∧ d.value / 1024 ^ k ≤ 5120) := by
  have hcast : ((n.toNat : ℕ) : ℚ) = n := by exact_mod_cast Int.toNat_of_nonneg (by omega : 0 ≤ n)
  obtain rfl : d = .ofNat n.toNat := nearest.unique (hcast ▸ Binary64.rounds_ofNat n.toNat)
  have htext := text_eq_scaled large finite
  generalize Binary64.ofNat n.toNat = d at *
  have hone : 1 ≤ d.value := by
    refine nearest.le_value (r := 1) ?_ ?_
    · exact_mod_cast Binary64.isDouble_natCast (n := 1) (by decide)
    · exact_mod_cast (by omega : 1 ≤ n)
  obtain ⟨k, hunit, hscale, hamount, hprevious, hlast⟩ := scaled_in_unit large nearest hone
  have hk := hunit.last
  have hvalue : ∀ j ≤ k + 1, (quotient d j).value = d.value / 1024 ^ j :=
    fun j hj => value_quotient nearest.isDouble hone (by omega)
  have hnearest : IsNearest (100 * (d.value / 1024 ^ (k + 1))) (hundredths (quotient d (k + 1))) :=
    hvalue (k + 1) le_rfl ▸ isNearest_hundredths (quotient d (k + 1))
  refine ⟨k + 1, (scaled d .kilo scales.tail).2.symbol, twoDecimals (hundredths (quotient d (k + 1))), _, hunit, ?_,
    hamount ▸ htext, showsHundredths_twoDecimals _, hnearest, fun hsmall => ?_, hvalue, fun hk4 => ⟨?_, ?_⟩⟩
  · rw [symbols_eq, Nat.add_sub_cancel, List.getElem?_map]
    exact congrArg (Option.map Scale.symbol) hscale
  · have hexact : d.value = n := by
      refine nearest.value_eq (hcast ▸ Binary64.isDouble_natCast ?_)
      omega
    have hoff := hnearest.abs_sub_le
    rw [hexact] at hoff
    rw [abs_le] at hoff ⊢
    constructor <;> linarith
  · rw [hvalue k (Nat.le_succ k), lt_div_iff₀ (by positivity)] at hprevious
    rw [lt_div_iff₀ (by positivity), pow_succ]
    linarith
  · rw [← hvalue _ le_rfl]
    exact hlast hk4

/-- The least size that is no double lies halfway between two of them, and is shown as the even one. -/
theorem text_in_unit_halfway : (5120 : ℤ) < 2 ^ 53 + 1 ∧ Binary64.Rounds ((2 ^ 53 + 1 : ℤ) : ℚ) ⟨2 ^ 52, 1⟩ ∧
    (Binary64.mk (2 ^ 52) 1).isFinite = true ∧ (Binary64.mk (2 ^ 52) 1).value = 2 ^ 53 ∧ IsUnit (2 ^ 53 + 1) 5 ∧
    ∃ digits h, text (2 ^ 53 + 1) = .ok (String.ofList digits ++ "PB") ∧ ShowsHundredths digits h ∧ IsNearest 800 h := by
  have hrounds : Binary64.Rounds ((2 ^ 53 + 1 : ℤ) : ℚ) ⟨2 ^ 52, 1⟩ := by
    have hdouble : Binary64.ofNat (2 ^ 53 + 1) = ⟨2 ^ 52, 1⟩ := by decide +kernel
    have h := Binary64.rounds_ofNat (2 ^ 53 + 1)
    rw [hdouble] at h
    exact_mod_cast h
  have hfinite : (Binary64.mk (2 ^ 52) 1).isFinite = true := by decide +kernel
  have hvalue : (Binary64.mk (2 ^ 52) 1).value = 2 ^ 53 := by norm_num [Binary64.value]
  obtain ⟨k, symbol, digits, h, hunit, hsymbol, htext, hshown, hnearest, -⟩ := text_in_unit (by norm_num) hrounds hfinite
  obtain rfl : k = 5 := by
    refine le_antisymm hunit.last (not_lt.mp fun hk => ?_)
    have henough := hunit.enough (Nat.le_of_lt_succ hk)
    have hpow : (1024 : ℤ) ^ k ≤ 1024 ^ 4 := pow_le_pow_right₀ (by decide) (Nat.le_of_lt_succ hk)
    omega
  obtain rfl : "PB" = symbol := Option.some.inj hsymbol
  rw [hvalue] at hnearest
  norm_num at hnearest
  exact ⟨by norm_num, hrounds, hfinite, hvalue, hunit, digits, h, htext, hshown, hnearest⟩

end Size

end ClusterBrowser
