import ClusterBrowser.Number.Binary64
import Mathlib.Algebra.Order.Field.Basic
import Mathlib.Algebra.Order.Field.Power
import Mathlib.Algebra.Order.Field.Rat
import Mathlib.Tactic.FieldSimp
import Mathlib.Tactic.Linarith
import Mathlib.Tactic.NormNum
import Mathlib.Tactic.Positivity
import Mathlib.Tactic.Ring

/-!
# Rounding keeps the order

A larger quotient never rounds to a smaller integer or to a smaller double.

* `IsNearest`: an integer next to a rational number, `isNearest_roundDiv` for the one that `roundDiv` gives.
* `Binary64.value`: the rational number that a magnitude stands for.
* `Binary64.Rounds`: the double next to a rational number, `rounds_ofRatio` for the one that `ofRatio` gives.
* **`Binary64.value_ofRatio_mono`**: rounding to a double keeps the order.
* `Binary64.rounds_mulNat`, `Binary64.rounds_divNat`: an operation is the exact one, rounded once.
-/

namespace ClusterBrowser

/-! ## Nearest integers -/

/-- An integer that is half a unit away at most, and even if it is just that far. -/
structure IsNearest (q : ℚ) (r : ℕ) : Prop where
  below : (r : ℚ) ≤ q + 1 / 2
  above : q ≤ r + 1 / 2
  even : (r : ℚ) = q + 1 / 2 ∨ q = r + 1 / 2 → r % 2 = 0

theorem isNearest_roundDiv (n : ℕ) {d : ℕ} (hd : 0 < d) : IsNearest (n / d : ℚ) (roundDiv n d) := by
  have hd' : (0 : ℚ) < d := by exact_mod_cast hd
  have hn : (n : ℚ) = d * (n / d : ℕ) + (n % d : ℕ) := by exact_mod_cast (Nat.div_add_mod n d).symm
  have hq : (n : ℚ) / d = (n / d : ℕ) + (n % d : ℕ) / d := by
    field_simp
    linarith
  have hlt : ((n % d : ℕ) : ℚ) / d < 1 := by
    rw [div_lt_one hd']
    exact_mod_cast Nat.mod_lt n hd
  have hpos : 0 ≤ ((n % d : ℕ) : ℚ) / d := by positivity
  have hhalf : 2 * (n % d) < d ↔ ((n % d : ℕ) : ℚ) / d < 1 / 2 := by
    rw [div_lt_iff₀ hd', ← Nat.cast_lt (α := ℚ)]
    push_cast
    constructor <;> intro h <;> linarith
  have hhalf' : d < 2 * (n % d) ↔ 1 / 2 < ((n % d : ℕ) : ℚ) / d := by
    rw [lt_div_iff₀ hd', ← Nat.cast_lt (α := ℚ)]
    push_cast
    constructor <;> intro h <;> linarith
  have hsucc : ((n / d + 1 : ℕ) : ℚ) = (n / d : ℕ) + 1 := Nat.cast_succ _
  rw [hq]
  simp only [roundDiv, hhalf, hhalf']
  generalize ((n % d : ℕ) : ℚ) / d = f at *
  split_ifs with h₁ h₂
  · refine ⟨by linarith, by linarith, ?_⟩
    rintro (h | h) <;> linarith
  · refine ⟨by linarith, by linarith, ?_⟩
    rintro (h | h) <;> linarith
  · have hf : f = 1 / 2 := le_antisymm (not_lt.mp h₂) (not_lt.mp h₁)
    rcases Nat.mod_two_eq_zero_or_one (n / d) with h | h
    · rw [h, Nat.add_zero]
      exact ⟨by linarith, by linarith, fun _ => h⟩
    · rw [h]
      exact ⟨by linarith, by linarith, fun _ => by omega⟩

theorem IsNearest.mono {q q' : ℚ} {r r' : ℕ} (h : IsNearest q r) (h' : IsNearest q' r') (hq : q ≤ q') : r ≤ r' := by
  by_contra hlt
  have hlt : (r' : ℚ) + 1 ≤ r := by exact_mod_cast Nat.lt_of_not_le hlt
  have hbelow := h.below
  have habove := h'.above
  have heven := h.even (.inl (by linarith))
  have heven' := h'.even (.inr (by linarith))
  have hsucc : r = r' + 1 := by
    have : (r : ℚ) = r' + 1 := by linarith
    exact_mod_cast this
  omega

theorem IsNearest.natCast (n : ℕ) : IsNearest n n :=
  ⟨by linarith, by linarith, by rintro (h | h) <;> linarith⟩

namespace Binary64

/-- The rational number that a magnitude stands for. -/
def value (x : Binary64) : ℚ := x.mantissa * 2 ^ x.exponent

theorem two_pow_div (e : ℤ) : (2 : ℚ) ^ e.toNat / 2 ^ (-e).toNat = 2 ^ e := by
  have he : e = (e.toNat : ℤ) - ((-e).toNat : ℤ) := by omega
  conv_rhs => rw [he]
  rw [zpow_sub₀ two_ne_zero, zpow_natCast, zpow_natCast]

theorem den_pos (x : Binary64) : 0 < x.den := Nat.two_pow_pos _

theorem num_eq (x : Binary64) : x.num = x.mantissa * 2 ^ x.exponent.toNat := rfl

theorem den_eq (x : Binary64) : x.den = 2 ^ (-x.exponent).toNat := rfl

theorem num_div_den (x : Binary64) : (x.num : ℚ) / x.den = x.value := by
  rw [num_eq, den_eq, value, ← two_pow_div]
  push_cast
  ring

theorem num_lt_iff (x : Binary64) (bound : ℕ) : x.num < bound * x.den ↔ x.value < bound := by
  have hden : (0 : ℚ) < x.den := by exact_mod_cast x.den_pos
  rw [← num_div_den, div_lt_iff₀ hden, ← Nat.cast_mul, Nat.cast_lt]

theorem atMost_iff (x : Binary64) (bound : ℕ) : x.atMost bound = true ↔ x.value ≤ bound := by
  have hden : (0 : ℚ) < x.den := by exact_mod_cast x.den_pos
  rw [atMost, decide_eq_true_eq, ← num_div_den, div_le_iff₀ hden, ← Nat.cast_mul, Nat.cast_le]

theorem isFinite_of_le {x y : Binary64} (h : x.value ≤ y.value) (hy : y.isFinite = true) : x.isFinite = true := by
  obtain ⟨bound, hbound⟩ : ∃ bound, ∀ z : Binary64, z.isFinite = decide (z.num < bound * z.den) := ⟨_, fun _ => rfl⟩
  simp only [hbound, decide_eq_true_eq, num_lt_iff] at hy ⊢
  exact h.trans_lt hy

/-! ## Nearest doubles -/

theorem floorLog2_spec {n d : ℕ} (hn : n ≠ 0) (hd : d ≠ 0) :
    (2 : ℚ) ^ floorLog2 n d ≤ n / d ∧ (n / d : ℚ) < 2 ^ (floorLog2 n d + 1) := by
  have hd₀ : (0 : ℚ) < d := by exact_mod_cast Nat.pos_of_ne_zero hd
  have hn₁ : (2 : ℚ) ^ n.log2 ≤ n := by exact_mod_cast Nat.log2_self_le hn
  have hn₂ : (n : ℚ) < 2 ^ (n.log2 + 1) := by exact_mod_cast Nat.lt_log2_self
  have hd₁ : (2 : ℚ) ^ d.log2 ≤ d := by exact_mod_cast Nat.log2_self_le hd
  have hd₂ : (d : ℚ) < 2 ^ (d.log2 + 1) := by exact_mod_cast Nat.lt_log2_self
  have htest (k : ℤ) : d * 2 ^ k.toNat ≤ n * 2 ^ (-k).toNat ↔ (2 : ℚ) ^ k ≤ n / d := by
    rw [← two_pow_div, div_le_div_iff₀ (by positivity) hd₀, ← Nat.cast_le (α := ℚ)]
    push_cast
    rw [mul_comm (d : ℚ)]
  have hlow : (2 : ℚ) ^ ((n.log2 : ℤ) - d.log2 - 1) ≤ n / d := by
    rw [le_div_iff₀ hd₀, show (n.log2 : ℤ) - d.log2 - 1 = n.log2 - (d.log2 + 1 : ℕ) by push_cast; ring,
      zpow_sub₀ two_ne_zero, zpow_natCast, zpow_natCast, div_mul_eq_mul_div, div_le_iff₀ (by positivity)]
    exact mul_le_mul hn₁ hd₂.le hd₀.le (by positivity)
  have hhigh : (n / d : ℚ) < 2 ^ ((n.log2 : ℤ) - d.log2 + 1) := by
    rw [div_lt_iff₀ hd₀, show (n.log2 : ℤ) - d.log2 + 1 = (n.log2 + 1 : ℕ) - d.log2 by push_cast; ring,
      zpow_sub₀ two_ne_zero, zpow_natCast, zpow_natCast, div_mul_eq_mul_div, lt_div_iff₀ (by positivity)]
    exact mul_lt_mul hn₂ hd₁ (by positivity) (by positivity)
  simp only [floorLog2, Nat.pow_eq, htest]
  split_ifs with h
  · exact ⟨h, hhigh⟩
  · exact ⟨hlow, by simpa using h⟩

/-- `x` is the double nearest to `q`. -/
structure Rounds (q : ℚ) (x : Binary64) : Prop where
  nearest : IsNearest (q / 2 ^ x.exponent) x.mantissa
  least : minExponent ≤ x.exponent
  fits : q < 2 ^ (x.exponent + 53)
  normal : x.exponent = minExponent ∨ 2 ^ (x.exponent + 52) ≤ q

theorem rounds_ofRatio (n : ℕ) {d : ℕ} (hd : 0 < d) : Rounds (n / d) (ofRatio n d) := by
  by_cases hn : n = 0
  · subst hn
    rw [ofRatio, if_pos rfl]
    refine ⟨?_, le_rfl, ?_, .inl rfl⟩
    · simpa using IsNearest.natCast 0
    · simpa using zpow_pos two_pos _
  obtain ⟨hlow, hhigh⟩ := floorLog2_spec hn hd.ne'
  rw [ofRatio, if_neg hn]
  generalize floorLog2 n d = k at hlow hhigh
  have hexp : (atExponent n d (max minExponent (k - 52))).exponent = max minExponent (k - 52) := rfl
  refine ⟨?_, ?_, ?_, ?_⟩
  · rw [hexp]
    have hquot := isNearest_roundDiv (n * 2 ^ (-max minExponent (k - 52)).toNat)
      (Nat.mul_pos hd (Nat.two_pow_pos (max minExponent (k - 52)).toNat))
    rw [← two_pow_div, div_div_eq_mul_div, div_mul_eq_mul_div, div_div]
    push_cast at hquot
    exact hquot
  · exact le_max_left _ _
  · rw [hexp]
    refine hhigh.trans_le (zpow_le_zpow_right₀ one_le_two ?_)
    have := le_max_right minExponent (k - 52)
    omega
  · rw [hexp]
    rcases max_choice minExponent (k - 52) with h | h
    · exact .inl h
    · refine .inr (le_trans (zpow_le_zpow_right₀ one_le_two ?_) hlow)
      omega

theorem Rounds.mantissa_le {q : ℚ} {x : Binary64} (h : Rounds q x) : x.mantissa ≤ 2 ^ 53 := by
  refine h.nearest.mono (IsNearest.natCast (2 ^ 53)) ?_
  rw [div_le_iff₀ (zpow_pos two_pos _)]
  refine h.fits.le.trans_eq ?_
  rw [zpow_add₀ two_ne_zero, mul_comm]
  norm_num

theorem Rounds.le_mantissa {q : ℚ} {x : Binary64} (h : Rounds q x) (hx : x.exponent ≠ minExponent) :
    2 ^ 52 ≤ x.mantissa := by
  refine (IsNearest.natCast (2 ^ 52)).mono h.nearest ?_
  rw [le_div_iff₀ (zpow_pos two_pos _)]
  refine Eq.trans_le ?_ (h.normal.resolve_left hx)
  rw [zpow_add₀ two_ne_zero, mul_comm]
  norm_num

theorem Rounds.exponent_mono {q q' : ℚ} {x y : Binary64} (hx : Rounds q x) (hy : Rounds q' y) (hq : q ≤ q') :
    x.exponent ≤ y.exponent := by
  rcases hx.normal with h | h
  · exact h.trans_le hy.least
  · have hlt : (2 : ℚ) ^ (x.exponent + 52) < 2 ^ (y.exponent + 53) := h.trans_lt (hq.trans_lt hy.fits)
    have := (zpow_lt_zpow_iff_right₀ one_lt_two).mp hlt
    omega

theorem Rounds.mono {q q' : ℚ} {x y : Binary64} (hx : Rounds q x) (hy : Rounds q' y) (hq : q ≤ q') :
    x.value ≤ y.value := by
  have hxpos : (0 : ℚ) < 2 ^ x.exponent := zpow_pos two_pos _
  have hypos : (0 : ℚ) < 2 ^ y.exponent := zpow_pos two_pos _
  rw [value, value]
  rcases (hx.exponent_mono hy hq).eq_or_lt with h | h
  · have hmantissa := hx.nearest.mono hy.nearest (by rw [h]; exact div_le_div_of_nonneg_right hq hypos.le)
    rw [h]
    exact mul_le_mul_of_nonneg_right (by exact_mod_cast hmantissa) hypos.le
  · -- The doubles of the smaller exponent end where those of the larger one begin.
    have hnormal : y.exponent ≠ minExponent := fun he => absurd hx.least (not_le.mpr (he ▸ h))
    calc (x.mantissa : ℚ) * 2 ^ x.exponent
        ≤ 2 ^ 53 * 2 ^ x.exponent := mul_le_mul_of_nonneg_right (by exact_mod_cast hx.mantissa_le) hxpos.le
      _ = 2 ^ (x.exponent + 53) := by rw [zpow_add₀ two_ne_zero, mul_comm]; norm_num
      _ ≤ 2 ^ (y.exponent + 52) := zpow_le_zpow_right₀ one_le_two (by omega)
      _ = 2 ^ 52 * 2 ^ y.exponent := by rw [zpow_add₀ two_ne_zero, mul_comm]; norm_num
      _ ≤ y.mantissa * 2 ^ y.exponent :=
        mul_le_mul_of_nonneg_right (by exact_mod_cast hy.le_mantissa hnormal) hypos.le

/-- **A larger quotient does not round to a smaller double.** -/
theorem value_ofRatio_mono {n n' d d' : ℕ} (hd : 0 < d) (hd' : 0 < d') (h : (n / d : ℚ) ≤ n' / d') :
    (ofRatio n d).value ≤ (ofRatio n' d').value :=
  (rounds_ofRatio n hd).mono (rounds_ofRatio n' hd') h

/-! ## Operations -/

theorem rounds_ofNat (n : ℕ) : Rounds n (ofNat n) := by
  have h := rounds_ofRatio n one_pos
  rwa [Nat.cast_one, div_one] at h

theorem rounds_mulNat (x : Binary64) (n : ℕ) : Rounds (x.value * n) (x.mulNat n) := by
  have h := rounds_ofRatio (x.num * n) x.den_pos
  rwa [Nat.cast_mul, mul_div_right_comm, num_div_den] at h

theorem rounds_divNat (x : Binary64) {n : ℕ} (hn : 0 < n) : Rounds (x.value / n) (x.divNat n) := by
  have h := rounds_ofRatio x.num (Nat.mul_pos x.den_pos hn)
  rwa [Nat.cast_mul, ← div_div, num_div_den] at h

theorem isNearest_round (x : Binary64) : IsNearest x.value x.round := by
  have h := isNearest_roundDiv x.num x.den_pos
  rwa [num_div_den] at h

end Binary64

end ClusterBrowser
