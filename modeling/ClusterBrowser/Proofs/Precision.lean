import ClusterBrowser.Proofs.Rounding
import Mathlib.Algebra.Order.Group.Abs

/-!
# How far a double is off

* `Binary64.Rounds.unique`: there is one double next to a rational number.
* `Binary64.Rounds.abs_value_sub_le`: below a power of two, the double next to a number is half a unit of its last place
  away at most.
* `Binary64.IsDouble`: the rational numbers that are doubles.
* **`Binary64.Rounds.value_eq`**: the double next to such a number is the number itself.
* `Binary64.Rounds.value_le_natCast_iff`: rounding takes no integer past one of at most 53 bits.
-/

namespace ClusterBrowser

theorem IsNearest.abs_sub_le {q : ℚ} {r : ℕ} (h : IsNearest q r) : |(r : ℚ) - q| ≤ 1 / 2 := by
  rw [abs_sub_le_iff]
  have hbelow := h.below
  have habove := h.above
  constructor <;> linarith

theorem IsNearest.of_abs_sub_lt {q : ℚ} {r : ℕ} (h : |q - r| < 1 / 2) : IsNearest q r := by
  obtain ⟨hlow, hhigh⟩ := abs_lt.mp h
  exact ⟨by linarith, by linarith, by rintro (h | h) <;> linarith⟩

theorem IsNearest.unique {q : ℚ} {r r' : ℕ} (h : IsNearest q r) (h' : IsNearest q r') : r = r' :=
  le_antisymm (h.mono h' le_rfl) (h'.mono h le_rfl)

namespace Binary64

variable {q : ℚ} {x y : Binary64}

theorem Rounds.unique (hx : Rounds q x) (hy : Rounds q y) : x = y := by
  obtain ⟨m, e⟩ := x
  obtain ⟨m', e'⟩ := y
  obtain rfl : e = e' := le_antisymm (hx.exponent_mono hy le_rfl) (hy.exponent_mono hx le_rfl)
  obtain rfl : m = m' := hx.nearest.unique hy.nearest
  rfl

/-! ## Errors -/

/-- **A double is half a unit of its last place off at most.** Below `2 ^ k` that unit is at most `2 ^ (k - 53)`. -/
theorem Rounds.abs_value_sub_le (h : Rounds q x) {k : ℤ} (hq : q < 2 ^ k) (hk : minExponent + 53 ≤ k) :
    |x.value - q| ≤ 2 ^ (k - 54) := by
  have hpos : (0 : ℚ) < 2 ^ x.exponent := zpow_pos two_pos _
  have hexp : x.exponent ≤ k - 53 := by
    rcases h.normal with he | hnormal
    · omega
    · have := (zpow_lt_zpow_iff_right₀ (one_lt_two (α := ℚ))).mp (hnormal.trans_lt hq)
      omega
  have hscaled : x.value - q = (x.mantissa - q / 2 ^ x.exponent) * 2 ^ x.exponent := by
    rw [value, sub_mul, div_mul_cancel₀ _ hpos.ne']
  calc |x.value - q| = |(x.mantissa : ℚ) - q / 2 ^ x.exponent| * 2 ^ x.exponent := by
        rw [hscaled, abs_mul, abs_of_pos hpos]
    _ ≤ 1 / 2 * 2 ^ x.exponent := mul_le_mul_of_nonneg_right h.nearest.abs_sub_le hpos.le
    _ ≤ 1 / 2 * 2 ^ (k - 53) :=
        mul_le_mul_of_nonneg_left (zpow_le_zpow_right₀ one_le_two hexp) (by norm_num)
    _ = 2 ^ (k - 54) := by
        rw [show k - 53 = k - 54 + 1 by ring, zpow_add_one₀ two_ne_zero]
        ring

/-! ## Numbers that are doubles -/

/-- A rational number that is a double. Its mantissa has at most 53 bits, or is the next power of two. -/
def IsDouble (q : ℚ) : Prop := ∃ x : Binary64, x.mantissa ≤ 2 ^ 53 ∧ minExponent ≤ x.exponent ∧ x.value = q

theorem Rounds.isDouble (h : Rounds q x) : IsDouble x.value := ⟨x, h.mantissa_le, h.least, rfl⟩

theorem isDouble_natCast {n : ℕ} (h : n ≤ 2 ^ 53) : IsDouble n := ⟨⟨n, 0⟩, h, show minExponent ≤ 0 by decide, by simp [value]⟩

/-- A double that is not small is halved exactly, again and again. -/
theorem IsDouble.div_two_pow (h : IsDouble q) (hq : 1 ≤ q) {k : ℕ} (hk : k ≤ 1000) : IsDouble (q / 2 ^ k) := by
  obtain ⟨x, hmantissa, -, rfl⟩ := h
  refine ⟨⟨x.mantissa, x.exponent - k⟩, hmantissa, ?_, ?_⟩
  · have hone : (2 : ℚ) ^ (0 : ℤ) ≤ 2 ^ (53 + x.exponent) := by
      rw [zpow_zero, zpow_add₀ two_ne_zero]
      refine hq.trans (mul_le_mul_of_nonneg_right ?_ (zpow_pos two_pos _).le)
      exact_mod_cast hmantissa
    have := (zpow_le_zpow_iff_right₀ (one_lt_two (α := ℚ))).mp hone
    have hmin : minExponent = -1074 := rfl
    show minExponent ≤ x.exponent - k
    omega
  · rw [value, value, zpow_sub₀ two_ne_zero, zpow_natCast, mul_div_assoc]

/-- **A number that is a double rounds to itself.** -/
theorem Rounds.value_eq (h : Rounds q x) (hq : IsDouble q) : x.value = q := by
  have hpos : (0 : ℚ) < 2 ^ x.exponent := zpow_pos two_pos _
  -- Counted in units of the last place of `x`, the number is an integer.
  suffices hinteger : ∃ r : ℕ, q = r * 2 ^ x.exponent by
    obtain ⟨r, hr⟩ := hinteger
    have hnearest := h.nearest
    rw [hr, mul_div_cancel_right₀ _ hpos.ne'] at hnearest
    rw [value, hnearest.unique (.natCast r), hr]
  obtain ⟨y, hmantissa, hleast, rfl⟩ := hq
  rcases le_or_gt x.exponent y.exponent with hle | hlt
  · refine ⟨y.mantissa * 2 ^ (y.exponent - x.exponent).toNat, ?_⟩
    rw [value, Nat.cast_mul, Nat.cast_pow, Nat.cast_ofNat, ← zpow_natCast, Int.toNat_of_nonneg (by omega), mul_assoc,
      ← zpow_add₀ two_ne_zero, sub_add_cancel]
  · -- Only the power of two at the end of a range of doubles has a larger exponent as well.
    have hnormal := h.normal.resolve_left (by omega)
    have hvalue : y.value ≤ 2 ^ (y.exponent + 53) := by
      rw [value, zpow_add₀ two_ne_zero, mul_comm]
      refine mul_le_mul_of_nonneg_left ?_ (zpow_pos two_pos _).le
      exact_mod_cast hmantissa
    have hbound : (2 : ℚ) ^ (y.exponent + 53) ≤ 2 ^ (x.exponent + 52) := zpow_le_zpow_right₀ one_le_two (by omega)
    refine ⟨2 ^ 52, ?_⟩
    rw [le_antisymm (hvalue.trans hbound) hnormal, zpow_add₀ two_ne_zero, mul_comm]
    norm_num

/-! ## Thresholds -/

theorem exists_rounds (x : Binary64) : ∃ y, Rounds x.value y := ⟨_, x.num_div_den ▸ rounds_ofRatio x.num x.den_pos⟩

theorem Rounds.value_le (h : Rounds q x) {r : ℚ} (hr : IsDouble r) (hq : q ≤ r) : x.value ≤ r := by
  obtain ⟨y, -, -, rfl⟩ := id hr
  obtain ⟨z, hz⟩ := y.exists_rounds
  exact (h.mono hz hq).trans_eq (hz.value_eq hr)

theorem Rounds.le_value (h : Rounds q x) {r : ℚ} (hr : IsDouble r) (hq : r ≤ q) : r ≤ x.value := by
  obtain ⟨y, -, -, rfl⟩ := id hr
  obtain ⟨z, hz⟩ := y.exists_rounds
  exact (hz.value_eq hr).symm.trans_le (hz.mono h hq)

/-- **Rounding takes no integer past one of at most 53 bits.** -/
theorem Rounds.value_le_natCast_iff {n : ℤ} (h : Rounds n x) {b : ℕ} (hb : b < 2 ^ 53) : x.value ≤ b ↔ n ≤ b := by
  constructor
  · intro hle
    by_contra hlt
    -- The next integer after the bound is a double, too.
    have hnext : ((b + 1 : ℕ) : ℚ) ≤ n := by exact_mod_cast not_le.mp hlt
    have hvalue := (h.le_value (isDouble_natCast (Nat.succ_le_of_lt hb)) hnext).trans hle
    exact absurd hvalue (by simp)
  · intro hle
    exact h.value_le (isDouble_natCast hb.le) (by exact_mod_cast hle)

end Binary64

end ClusterBrowser
