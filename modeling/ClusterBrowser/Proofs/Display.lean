import ClusterBrowser.Browse.Entry
import ClusterBrowser.Proofs.Rounding
import Mathlib.Data.Nat.Cast.Order.Field

/-!
# What can be shown

Every number that a cluster reports goes through doubles on its way to a view.  Which of them arrive is a matter of their
size alone.

* `Size.text_isOk_iff`: the sizes that can be shown.
* `Instant.ofMillis_isOk_iff`: the times that can be shown.
* **`Entry.ofInfo_isOk_iff`**: the attributes that can be shown.
-/

namespace ClusterBrowser

/-! ## Parts of a double -/

namespace Binary64

theorem floor_le_value (x : Binary64) : (x.floor : ℚ) ≤ x.value := by
  rw [← num_div_den, floor]
  exact Nat.cast_div_le

theorem floor_mono {x y : Binary64} (h : x.value ≤ y.value) : x.floor ≤ y.floor := by
  have hden : (0 : ℚ) < y.den := by exact_mod_cast y.den_pos
  have hle := x.floor_le_value.trans h
  rw [← y.num_div_den, le_div_iff₀ hden] at hle
  rw [floor.eq_def y, Nat.le_div_iff_mul_le y.den_pos]
  exact_mod_cast hle

theorem round_mono {x y : Binary64} (h : x.value ≤ y.value) : x.round ≤ y.round :=
  x.isNearest_round.mono y.isNearest_round h

theorem value_mulNat_mono {x y : Binary64} (h : x.value ≤ y.value) (n : ℕ) :
    (x.mulNat n).value ≤ (y.mulNat n).value :=
  (x.rounds_mulNat n).mono (y.rounds_mulNat n) (mul_le_mul_of_nonneg_right h (Nat.cast_nonneg n))

theorem value_fraction (x : Binary64) : x.fraction.value = x.value - x.floor := by
  have hden : (x.den : ℚ) ≠ 0 := by exact_mod_cast x.den_pos.ne'
  have hexp : (2 : ℚ) ^ min x.exponent 0 = 1 / x.den := by
    rw [show min x.exponent 0 = -((-x.exponent).toNat : ℤ) by omega, zpow_neg, zpow_natCast, den_eq]
    simp
  have hsplit : (x.num : ℚ) = x.den * x.floor + (x.num % x.den : ℕ) := by
    exact_mod_cast (Nat.div_add_mod x.num x.den).symm
  rw [← num_div_den x, hsplit, value, fraction]
  rw [hexp]
  field_simp
  ring

theorem value_fraction_lt_one (x : Binary64) : x.fraction.value < 1 := by
  have hden : (0 : ℚ) < x.den := by exact_mod_cast x.den_pos
  rw [value_fraction, ← num_div_den, sub_lt_iff_lt_add, div_lt_iff₀ hden]
  have hlt : x.num < (1 + x.floor) * x.den := by
    rw [floor, add_mul, one_mul, Nat.add_comm]
    exact Nat.lt_div_mul_add x.den_pos
  exact_mod_cast hlt

end Binary64

/-! ## Sizes -/

namespace Size

/-- The least size that cannot be shown: halfway between the largest double and the next power of two. -/
def limit : Nat := 2 ^ 1024 - 2 ^ 970

theorem isFinite_ofNat_iff (n : Nat) : (Binary64.ofNat n).isFinite = true ↔ n < limit := by
  have hmono : ∀ m k : ℕ, m ≤ k → (Binary64.ofNat m).value ≤ (Binary64.ofNat k).value := fun m k h =>
    (Binary64.rounds_ofNat m).mono (Binary64.rounds_ofNat k) (by exact_mod_cast h)
  have hbelow : (Binary64.ofNat (limit - 1)).isFinite = true := by decide +kernel
  have hat : (Binary64.ofNat limit).isFinite = false := by decide +kernel
  constructor
  · intro h
    by_contra hle
    have hfinite := Binary64.isFinite_of_le (hmono _ _ (not_lt.mp hle)) h
    rw [hat] at hfinite
    exact absurd hfinite Bool.false_ne_true
  · intro h
    exact Binary64.isFinite_of_le (hmono _ _ (by omega)) hbelow

/-- **The sizes that can be shown.** -/
theorem text_isOk_iff (bytes : Int) : (∃ t, text bytes = .ok t) ↔ bytes < limit := by
  have hunit : unitLimit < limit := by decide +kernel
  have hnat := isFinite_ofNat_iff bytes.toNat
  rw [text]
  split_ifs with hsmall
  · exact ⟨fun _ => by omega, fun _ => ⟨_, rfl⟩⟩
  dsimp only
  split_ifs with hfinite
  · have := hnat.mp hfinite
    exact ⟨fun _ => by omega, fun _ => ⟨_, rfl⟩⟩
  · refine ⟨fun ⟨_, h⟩ => (nomatch h), fun h => absurd (hnat.mpr ?_) hfinite⟩
    omega

end Size

/-! ## Times -/

namespace Instant

theorem micros_ofSeconds (negative : Bool) (x : Binary64) :
    (ofSeconds negative x).micros = if negative then -(ofSeconds false x).micros else (ofSeconds false x).micros := by
  cases negative <;> rfl

theorem micros_ofSeconds_mono {x y : Binary64} (h : x.value ≤ y.value) :
    (ofSeconds false x).micros ≤ (ofSeconds false y).micros := by
  have hmicros (z : Binary64) : (ofSeconds false z).micros =
      (z.floor * 1000000 + (z.fraction.mulNat 1000000).round : ℕ) := rfl
  rw [hmicros, hmicros, Nat.cast_le]
  rcases (Binary64.floor_mono h).eq_or_lt with hfloor | hfloor
  · have hfraction : x.fraction.value ≤ y.fraction.value := by
      rw [Binary64.value_fraction, Binary64.value_fraction, hfloor]
      exact sub_le_sub_right h _
    have := Binary64.round_mono (Binary64.value_mulNat_mono hfraction 1000000)
    omega
  · -- The microseconds of a fraction never make more than the next second.
    have hone : x.fraction.value ≤ (Binary64.mk 1 0).value := by
      simpa [Binary64.value] using x.value_fraction_lt_one.le
    have hround := Binary64.round_mono (Binary64.value_mulNat_mono hone 1000000)
    have hmillion : ((Binary64.mk 1 0).mulNat 1000000).round = 1000000 := by decide +kernel
    omega

theorem inYears_iff (t : Instant) :
    t.inYears 1 9999 = true ↔ -62135596800000000 ≤ t.micros ∧ t.micros < 253402300800000000 := by
  have hfirst : yearStart 1 * daySeconds = -62135596800 := by decide
  have hlast : yearStart (9999 + 1) * daySeconds = 253402300800 := by decide
  simp only [inYears, seconds, hfirst, hlast, Bool.and_eq_true, decide_eq_true_eq]
  omega

/-- Of the bounds that a time has to keep, the years 1 to 9999 are the narrowest. -/
theorem inYears_countable {t : Instant} (h : t.inYears 1 9999 = true) :
    ¬(t.seconds < -(Nat.pow 2 63) ∨ Nat.pow 2 63 < t.seconds) ∧
      t.inYears (1900 - Nat.pow 2 31) (1899 + Nat.pow 2 31) = true := by
  have hfirst : yearStart (1900 - Nat.pow 2 31) * daySeconds < -62135596800 := by decide +kernel
  have hlast : 253402300800 < yearStart (1899 + Nat.pow 2 31 + 1) * daySeconds := by decide +kernel
  have hseconds : (Nat.pow 2 63 : Int) = 9223372036854775808 := by decide
  rw [inYears_iff] at h
  rw [hseconds, inYears, Bool.and_eq_true, decide_eq_true_eq, decide_eq_true_eq]
  simp only [seconds]
  omega

theorem ofMillis_eq_ok_iff {ms : Int} {t : Instant} :
    ofMillis ms = .ok t ↔ (Binary64.ofRatio ms.natAbs 1000).isFinite = true ∧
      ofSeconds (ms < 0) (Binary64.ofRatio ms.natAbs 1000) = t ∧ t.inYears 1 9999 = true := by
  rw [ofMillis]
  generalize Binary64.ofRatio ms.natAbs 1000 = size
  generalize ofSeconds (decide (ms < 0)) size = u
  dsimp only
  split_ifs with hfinite hsize hcount hyears
  · simp only [Bool.not_eq_true'] at hfinite
    simp [hfinite]
  all_goals
    simp only [Bool.not_eq_true', Bool.not_eq_false] at hfinite
    refine ⟨fun h => ?_, fun ⟨_, hu, ht⟩ => ?_⟩
  · exact nomatch h
  · rw [← hu] at ht
    simp only [Bool.or_eq_true, decide_eq_true_eq] at hsize
    exact absurd hsize (inYears_countable ht).1
  · exact nomatch h
  · rw [← hu] at ht
    rw [(inYears_countable ht).2] at hcount
    exact nomatch hcount
  · exact nomatch h
  · rw [← hu] at ht
    simp [ht] at hyears
  · exact ⟨hfinite, Except.ok.inj h, Except.ok.inj h ▸ by simpa using hyears⟩
  · exact congrArg _ hu

/-- The first millisecond of the year 1. -/
def firstMillis : Int := -62135596800000

/-- The last millisecond of the year 9999. -/
def lastMillis : Int := 253402300799999

/-- **The times that can be shown.** -/
theorem ofMillis_isOk_iff (ms : Int) : (∃ t, ofMillis ms = .ok t) ↔ firstMillis ≤ ms ∧ ms ≤ lastMillis := by
  let size (n : Nat) : Binary64 := Binary64.ofRatio n 1000
  let micros (n : Nat) : Int := (ofSeconds false (size n)).micros
  have hsize : ∀ m n : Nat, m ≤ n → (size m).value ≤ (size n).value := fun m n h =>
    Binary64.value_ofRatio_mono (by decide) (by decide)
      (div_le_div_of_nonneg_right (by exact_mod_cast h) (by positivity))
  have hmicros : ∀ m n : Nat, m ≤ n → micros m ≤ micros n := fun m n h => micros_ofSeconds_mono (hsize m n h)
  have hpos : ∀ n, 0 ≤ micros n := fun n => Int.natCast_nonneg _
  -- The four millisecond counts next to the two bounds.
  have hlast : micros 253402300799999 < 253402300800000000 := by decide +kernel
  have hafter : 253402300800000000 ≤ micros 253402300800000 := by decide +kernel
  have hfirst : micros 62135596800000 ≤ 62135596800000000 := by decide +kernel
  have hbefore : 62135596800000000 < micros 62135596800001 := by decide +kernel
  have hfinite : (size 253402300799999).isFinite = true := by decide +kernel
  have hshown : (∃ t, ofMillis ms = .ok t) ↔
      (size ms.natAbs).isFinite = true ∧ (ofSeconds (ms < 0) (size ms.natAbs)).inYears 1 9999 = true := by
    constructor
    · rintro ⟨t, ht⟩
      obtain ⟨hf, rfl, hy⟩ := ofMillis_eq_ok_iff.mp ht
      exact ⟨hf, hy⟩
    · rintro ⟨hf, hy⟩
      exact ⟨_, ofMillis_eq_ok_iff.mpr ⟨hf, rfl, hy⟩⟩
  have hat : (ofSeconds (ms < 0) (size ms.natAbs)).micros = if ms < 0 then -micros ms.natAbs else micros ms.natAbs := by
    rw [micros_ofSeconds]
    simp [micros]
  rw [hshown, inYears_iff, hat, firstMillis, lastMillis]
  have hn := hpos ms.natAbs
  constructor
  · rintro ⟨-, hlow, hhigh⟩
    constructor
    · by_contra hlt
      have := hmicros 62135596800001 ms.natAbs (by omega)
      split_ifs at hlow <;> omega
    · by_contra hlt
      have := hmicros 253402300800000 ms.natAbs (by omega)
      split_ifs at hhigh <;> omega
  · rintro ⟨hlow, hhigh⟩
    refine ⟨Binary64.isFinite_of_le (hsize _ _ (by omega)) hfinite, ?_⟩
    have := hmicros ms.natAbs 253402300799999 (by omega)
    split_ifs with hneg
    · have := hmicros ms.natAbs 62135596800000 (by omega)
      omega
    · omega

end Instant

/-! ## Attributes -/

/-- Whether the attributes of a file or directory can be shown: the size of a file, and the two times. -/
structure FileInfo.Showable (info : FileInfo) : Prop where
  size : info.folder = false → info.length < Size.limit
  created : Instant.firstMillis ≤ info.createdMs ∧ info.createdMs ≤ Instant.lastMillis
  modified : Instant.firstMillis ≤ info.modifiedMs ∧ info.modifiedMs ≤ Instant.lastMillis

/-- **The attributes that can be shown.** -/
theorem Entry.ofInfo_isOk_iff (info : FileInfo) : (∃ e, Entry.ofInfo info = .ok e) ↔ info.Showable := by
  have hsize := Size.text_isOk_iff info.length
  have hcreated := Instant.ofMillis_isOk_iff info.createdMs
  have hmodified := Instant.ofMillis_isOk_iff info.modifiedMs
  have hshow : info.Showable ↔ (info.folder = false → ∃ t, Size.text info.length = .ok t) ∧
      (∃ t, Instant.ofMillis info.createdMs = .ok t) ∧ ∃ t, Instant.ofMillis info.modifiedMs = .ok t := by
    rw [hsize, hcreated, hmodified]
    exact ⟨fun ⟨h₁, h₂, h₃⟩ => ⟨h₁, h₂, h₃⟩, fun ⟨h₁, h₂, h₃⟩ => ⟨h₁, h₂, h₃⟩⟩
  rw [hshow, Entry.ofInfo]
  rcases info.folder with _ | _ <;> rcases Size.text info.length with e₁ | t₁ <;>
    rcases Instant.ofMillis info.createdMs with e₂ | t₂ <;>
    rcases Instant.ofMillis info.modifiedMs with e₃ | t₃ <;> simp [bind, Except.bind, pure, Except.pure]

theorem exists_of_bind_eq_ok {ε α β : Type} {x : Except ε α} {f : α → Except ε β} {b : β} (h : x >>= f = .ok b) :
    ∃ a, x = .ok a ∧ f a = .ok b := by
  rcases x with e | a
  · exact nomatch h
  · exact ⟨a, rfl, h⟩

theorem Entry.exists_of_ofInfo {info : FileInfo} {e : Entry} (h : Entry.ofInfo info = .ok e) :
    ∃ size created modified, e = {
      id := info.id
      name := info.name
      path := info.path
      isDirectory := info.folder
      length := info.length
      size
      blockSize := info.blockSize
      isCompleted := info.completed
      isPinned := info.pinned
      inMemoryPercent := info.inMemoryPercent
      created
      modified
      owner := info.owner
      group := info.group
      permission := Permission.text info.permission info.folder } := by
  rw [Entry.ofInfo] at h
  split_ifs at h
  all_goals
    obtain ⟨size, -, h⟩ := exists_of_bind_eq_ok h
    obtain ⟨created, -, h⟩ := exists_of_bind_eq_ok h
    obtain ⟨modified, -, h⟩ := exists_of_bind_eq_ok h
    exact ⟨size, created, modified, (Except.ok.inj h).symm⟩

theorem Entry.isDirectory_of_ofInfo {info : FileInfo} {e : Entry} (h : Entry.ofInfo info = .ok e) :
    e.isDirectory = info.folder := by
  obtain ⟨size, created, modified, rfl⟩ := Entry.exists_of_ofInfo h
  rfl

theorem Entry.path_of_ofInfo {info : FileInfo} {e : Entry} (h : Entry.ofInfo info = .ok e) : e.path = info.path := by
  obtain ⟨size, created, modified, rfl⟩ := Entry.exists_of_ofInfo h
  rfl

end ClusterBrowser
