import ClusterBrowser.Proofs.Display
import ClusterBrowser.Proofs.Precision
import Mathlib.Algebra.Order.Round
import Mathlib.Data.Rat.Floor

/-!
# Times and their milliseconds

On its way to an instant a number of milliseconds is rounded three times, the second time to no effect.  The noise stays
within a few microseconds, so that the instant still tells the milliseconds.

* `Instant.Denotes`: the instant of a number of milliseconds, in exact arithmetic.
* `Instant.isNearest_micros`: the rounding that has no effect.
* `Instant.denotes_of_ofMillis`: that instant is the one which is shown.
* `Instant.Denotes.abs_micros_sub_le`: how far off it is.
* **`Instant.ofMillis_tells_millis`**: the nearest millisecond is the one that was given, and later ones give later instants.
-/

namespace ClusterBrowser

namespace Binary64

theorem floor_eq (x : Binary64) : (x.floor : ℤ) = ⌊x.value⌋ := by
  have hfraction := x.value_fraction_lt_one
  rw [value_fraction] at hfraction
  rw [eq_comm, Int.floor_eq_iff, Int.cast_natCast]
  exact ⟨x.floor_le_value, by linarith⟩

theorem value_fraction_eq_fract (x : Binary64) : x.fraction.value = Int.fract x.value := by
  rw [value_fraction, Int.fract, ← floor_eq, Int.cast_natCast]

/-- With few places after the point, the fraction of a double times a million is a double as well. -/
theorem isDouble_fract_mul {x : Binary64} (h : -39 ≤ x.exponent) : IsDouble (Int.fract x.value * 1000000) := by
  have hmantissa : x.fraction.mantissa < 2 ^ 39 := by
    refine (Nat.mod_lt _ x.den_pos).trans_le ?_
    rw [den_eq]
    exact Nat.pow_le_pow_right two_pos (by omega)
  refine ⟨⟨x.fraction.mantissa * 15625, x.fraction.exponent + 6⟩, ?_, ?_, ?_⟩
  · show x.fraction.mantissa * 15625 ≤ 2 ^ 53
    omega
  · show minExponent ≤ min x.exponent 0 + 6
    have hmin : minExponent = -1074 := rfl
    omega
  · rw [← value_fraction_eq_fract, value, value, zpow_add₀ two_ne_zero]
    push_cast
    ring

end Binary64

namespace Instant

/-- The instant that a number of milliseconds denotes. Its seconds are the double next to a thousandth of the number; their
fraction, in microseconds, is rounded to the nearest integer. -/
inductive Denotes : ℤ → Instant → Prop
  | intro {ms : ℤ} {seconds : Binary64} {micros : ℕ} (quotient : Binary64.Rounds (|(ms : ℚ)| / 1000) seconds)
    (nearest : IsNearest (Int.fract seconds.value * 1000000) micros) :
    Denotes ms ⟨if ms < 0 then -(⌊seconds.value⌋ * 1000000 + micros) else ⌊seconds.value⌋ * 1000000 + micros⟩

/-- The microseconds of a small number of milliseconds are close to an integer, the thousandfold of those milliseconds that
make no whole second. -/
theorem exists_close {ms : ℤ} {seconds : Binary64} (quotient : Binary64.Rounds (|(ms : ℚ)| / 1000) seconds)
    (small : |(ms : ℚ)| / 1000 < 2 ^ (13 : ℤ)) : ∃ r : ℕ, |Int.fract seconds.value * 1000000 - r| < 1 / 4 := by
  have hquotient : |seconds.value - |(ms : ℚ)| / 1000| ≤ 2 ^ (13 - 54 : ℤ) := quotient.abs_value_sub_le small (by decide)
  have hsplit := Int.floor_add_fract seconds.value
  norm_num only at hquotient
  rw [abs_le] at hquotient
  have hclose : |Int.fract seconds.value * 1000000 - (1000 * |ms| - ⌊seconds.value⌋ * 1000000 : ℤ)| < 1 / 4 := by
    push_cast
    rw [abs_lt]
    constructor <;> linarith
  have hnonneg : 0 ≤ 1000 * |ms| - ⌊seconds.value⌋ * 1000000 := by
    have hfract := Int.fract_nonneg seconds.value
    have hlow : (-1 : ℚ) < (1000 * |ms| - ⌊seconds.value⌋ * 1000000 : ℤ) := by linarith [(abs_lt.mp hclose).2]
    exact Int.le_of_sub_one_lt (by exact_mod_cast hlow)
  obtain ⟨r, hr⟩ := Int.eq_ofNat_of_zero_le hnonneg
  exact ⟨r, by rwa [hr, Int.cast_natCast] at hclose⟩

/-- **That the microseconds are made a double before they are rounded makes no difference.** -/
theorem isNearest_micros {ms : ℤ} {seconds scaled : Binary64} {micros : ℕ}
    (quotient : Binary64.Rounds (|(ms : ℚ)| / 1000) seconds)
    (product : Binary64.Rounds (Int.fract seconds.value * 1000000) scaled) (nearest : IsNearest scaled.value micros) :
    IsNearest (Int.fract seconds.value * 1000000) micros := by
  rcases lt_or_ge (|(ms : ℚ)| / 1000) (2 ^ (13 : ℤ)) with hsmall | hlarge
  · -- The double is close to the same integer as the product.
    obtain ⟨r, hr⟩ := exists_close quotient hsmall
    have hproduct : |scaled.value - Int.fract seconds.value * 1000000| ≤ 2 ^ (20 - 54 : ℤ) :=
      product.abs_value_sub_le (by norm_num; linarith [Int.fract_lt_one seconds.value]) (by decide)
    have hscaled : |scaled.value - r| < 1 / 2 := by
      refine (abs_sub_le _ (Int.fract seconds.value * 1000000) _).trans_lt ?_
      norm_num only at hproduct
      linarith
    rw [nearest.unique (.of_abs_sub_lt hscaled)]
    exact .of_abs_sub_lt (by linarith)
  · -- The quotient has few places after the point, so that the product is a double.
    have hexp := (zpow_lt_zpow_iff_right₀ (one_lt_two (α := ℚ))).mp (hlarge.trans_lt quotient.fits)
    rwa [product.value_eq (Binary64.isDouble_fract_mul (by omega))] at nearest

theorem denotes_of_ofMillis {ms : ℤ} {t : Instant} (h : ofMillis ms = .ok t) : Denotes ms t := by
  obtain ⟨-, rfl, -⟩ := ofMillis_eq_ok_iff.mp h
  have hquotient := Binary64.rounds_ofRatio ms.natAbs (d := 1000) (by decide)
  rw [Nat.cast_natAbs, Int.cast_abs, Nat.cast_ofNat] at hquotient
  generalize Binary64.ofRatio ms.natAbs 1000 = seconds at hquotient ⊢
  have hproduct := seconds.fraction.rounds_mulNat 1000000
  rw [Binary64.value_fraction_eq_fract, Nat.cast_ofNat] at hproduct
  have hdenotes := Denotes.intro hquotient (isNearest_micros hquotient hproduct (Binary64.isNearest_round _))
  rw [← Binary64.floor_eq] at hdenotes
  rw [ofSeconds]
  simpa using hdenotes

/-- **Up to the year 9999 a time is 15 microseconds off at most.** -/
theorem Denotes.abs_micros_sub_le {ms : ℤ} {t : Instant} (h : Denotes ms t) (hms : |ms| ≤ lastMillis) :
    |t.micros - 1000 * ms| ≤ 15 := by
  obtain @⟨seconds, micros, quotient, nearest⟩ := h
  have hsize : |(ms : ℚ)| ≤ 253402300799999 := by exact_mod_cast hms
  have hquotient : |seconds.value - |(ms : ℚ)| / 1000| ≤ 2 ^ (38 - 54 : ℤ) :=
    quotient.abs_value_sub_le (by norm_num; linarith) (by decide)
  have hrounded := nearest.abs_sub_le
  have hsplit := Int.floor_add_fract seconds.value
  norm_num only at hquotient
  rw [abs_le] at hquotient hrounded
  -- The error of the quotient counts a million times, that of the microseconds once.
  have hoff : |((⌊seconds.value⌋ * 1000000 + micros : ℤ) : ℚ) - |(ms : ℚ)| * 1000| < 16 := by
    push_cast
    rw [abs_lt]
    constructor <;> linarith
  have hoff : |⌊seconds.value⌋ * 1000000 + micros - |ms| * 1000| < 16 := by exact_mod_cast hoff
  generalize ⌊seconds.value⌋ * 1000000 + (micros : ℤ) = m at hoff ⊢
  show |(if ms < 0 then -m else m) - 1000 * ms| ≤ 15
  rw [abs_lt] at hoff
  rw [abs_le]
  split_ifs with hneg
  · rw [abs_of_neg hneg] at hoff
    omega
  · rw [abs_of_nonneg (not_lt.mp hneg)] at hoff
    omega

/-- Less than half a millisecond off, an instant is nearest to its own millisecond. -/
theorem round_millis {t : Instant} {ms : ℤ} (h : |t.micros - 1000 * ms| ≤ 15) : round ((t.micros : ℚ) / 1000) = ms := by
  rw [abs_le] at h
  have hlow : (-15 : ℚ) ≤ t.micros - 1000 * ms := by exact_mod_cast h.1
  have hhigh : (t.micros : ℚ) - 1000 * ms ≤ 15 := by exact_mod_cast h.2
  rw [round_eq, Int.floor_eq_iff]
  constructor <;> linarith

/-- **An instant tells the milliseconds that it comes from.** It is less than half a millisecond off, so that the nearest
millisecond is the one that was given; different ones give different instants, and later ones later instants. -/
theorem ofMillis_tells_millis {ms ms' : ℤ} {t t' : Instant} (h : ofMillis ms = .ok t) (h' : ofMillis ms' = .ok t') :
    Denotes ms t ∧ |t.micros - 1000 * ms| ≤ 15 ∧ round ((t.micros : ℚ) / 1000) = ms ∧ (ms ≠ ms' → t ≠ t') ∧
      (ms < ms' → t.micros < t'.micros) := by
  have hoff : ∀ {ms t}, ofMillis ms = .ok t → |t.micros - 1000 * ms| ≤ 15 := by
    intro ms t h
    obtain ⟨hfirst, hlast⟩ := (ofMillis_isOk_iff ms).mp ⟨t, h⟩
    refine (denotes_of_ofMillis h).abs_micros_sub_le (abs_le.mpr ⟨le_trans ?_ hfirst, hlast⟩)
    decide
  refine ⟨denotes_of_ofMillis h, hoff h, round_millis (hoff h), fun hne heq => hne ?_, fun hlt => ?_⟩
  · rw [← round_millis (hoff h), ← round_millis (hoff h'), heq]
  · have hms := abs_le.mp (hoff h)
    have hms' := abs_le.mp (hoff h')
    omega

/-- The last two milliseconds of the year 9999: the first is 14 microseconds off. -/
theorem ofMillis_tells_millis_last : ∃ t t', ofMillis (lastMillis - 1) = .ok t ∧ ofMillis lastMillis = .ok t' ∧
    t.micros = 1000 * (lastMillis - 1) - 14 ∧ round ((t.micros : ℚ) / 1000) = lastMillis - 1 ∧ t ≠ t' ∧
    t.micros < t'.micros := by
  have h : ofMillis (lastMillis - 1) = .ok ⟨253402300799997986⟩ := by decide +kernel
  have h' : ofMillis lastMillis = .ok ⟨253402300799998993⟩ := by decide +kernel
  obtain ⟨-, -, hround, hne, hlt⟩ := ofMillis_tells_millis h h'
  exact ⟨_, _, h, h', by decide, hround, hne (by decide), hlt (by decide)⟩

end Instant

end ClusterBrowser
