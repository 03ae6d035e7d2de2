import ClusterBrowser.Text.Utf8
import Mathlib.Tactic.SplitIfs

/-!
# Texts as bytes

* `Utf8.lead_two`, `lead_three`, `lead_four`: what the first byte of a character announces.
* **`Utf8.decode_encode`**: the bytes of a text are read as its characters.
-/

namespace ClusterBrowser.Utf8

theorem toNat_tail (n : Nat) : (UInt8.ofNat (n % 64 + 0x80)).toNat = n % 64 + 0x80 := by
  rw [UInt8.toNat_ofNat']
  omega

theorem decodeFrom_next (n bits due low high : Nat) (rest : List UInt8) (hlow : low ≤ n % 64 + 0x80)
    (hhigh : n % 64 + 0x80 ≤ high) :
    decodeFrom lead (some ⟨bits, due + 2, low, high⟩) (UInt8.ofNat (n % 64 + 0x80) :: rest) =
      decodeFrom lead (some ⟨bits * 64 + n % 64, due + 1, 0x80, 0xBF⟩) rest := by
  rw [decodeFrom, toNat_tail, Nat.add_sub_cancel]
  simp only [hlow, hhigh, decide_true, Bool.and_self, if_true]
  rw [if_neg (by omega)]
  rfl

theorem decodeFrom_last (n bits : Nat) (rest : List UInt8) :
    decodeFrom lead (some ⟨bits, 1, 0x80, 0xBF⟩) (UInt8.ofNat (n % 64 + 0x80) :: rest) =
      some (bits * 64 + n % 64) :: decodeFrom lead none rest := by
  have hlow : 0x80 ≤ n % 64 + 0x80 := by omega
  have hhigh : n % 64 + 0x80 ≤ 0xBF := by omega
  rw [decodeFrom, toNat_tail, Nat.add_sub_cancel]
  simp only [hlow, hhigh, decide_true, Bool.and_self, if_true]
  rw [if_pos (Nat.le_refl 1)]

theorem lead_two {n : Nat} (hlow : 0x80 ≤ n) (hhigh : n ≤ 0x7FF) :
    lead (n / 64 % 0x20 + 0xC0) = .more ⟨n / 64, 1, 0x80, 0xBF⟩ := by
  have hbits : n / 64 < 0x20 := by omega
  rw [Nat.mod_eq_of_lt hbits, lead, if_neg (by omega), if_neg (by omega), if_pos (by omega), Nat.add_sub_cancel]

/-- The first of three bytes shuts out overlong forms and surrogates. -/
theorem lead_three {n : Nat} (hlow : 0x800 ≤ n) (hhigh : n ≤ 0xFFFF) (hvalid : n < 0xD800 ∨ 0xDFFF < n) :
    ∃ low high, lead (n / 4096 % 0x10 + 0xE0) = .more ⟨n / 4096, 2, low, high⟩ ∧
      low ≤ n / 64 % 64 + 0x80 ∧ n / 64 % 64 + 0x80 ≤ high := by
  have hbits : n / 4096 < 0x10 := by omega
  rw [Nat.mod_eq_of_lt hbits, lead, if_neg (by omega), if_neg (by omega), if_neg (by omega)]
  by_cases hfirst : n / 4096 = 0
  · rw [hfirst, if_pos (by omega)]
    exact ⟨0xA0, 0xBF, rfl, by omega, by omega⟩
  rw [if_neg (by omega)]
  by_cases hsurrogate : n / 4096 = 0xD
  · rw [hsurrogate, if_pos (by omega)]
    exact ⟨0x80, 0x9F, rfl, by omega, by omega⟩
  · rw [if_neg (by omega), if_pos (by omega), Nat.add_sub_cancel]
    exact ⟨0x80, 0xBF, rfl, by omega, by omega⟩

/-- The first of four bytes shuts out overlong forms and numbers that are too large. -/
theorem lead_four {n : Nat} (hlow : 0x10000 ≤ n) (hhigh : n < 0x110000) :
    ∃ low high, lead (n / 262144 % 0x08 + 0xF0) = .more ⟨n / 262144, 3, low, high⟩ ∧
      low ≤ n / 4096 % 64 + 0x80 ∧ n / 4096 % 64 + 0x80 ≤ high := by
  have hbits : n / 262144 < 0x08 := by omega
  rw [Nat.mod_eq_of_lt hbits, lead, if_neg (by omega), if_neg (by omega), if_neg (by omega), if_neg (by omega),
    if_neg (by omega), if_neg (by omega)]
  by_cases hfirst : n / 262144 = 0
  · rw [hfirst, if_pos (by omega)]
    exact ⟨0x90, 0xBF, rfl, by omega, by omega⟩
  rw [if_neg (by omega)]
  by_cases hlast : n / 262144 = 4
  · rw [hlast, if_neg (by omega), if_pos (by omega)]
    exact ⟨0x80, 0x8F, rfl, by omega, by omega⟩
  · rw [if_pos (by omega), Nat.add_sub_cancel]
    exact ⟨0x80, 0xBF, rfl, by omega, by omega⟩

theorem decodeFrom_encodeChar (c : Char) (rest : List UInt8) :
    decodeFrom lead none (String.utf8EncodeChar c ++ rest) = some c.toNat :: decodeFrom lead none rest := by
  have hvalid : c.toNat < 0xD800 ∨ 0xDFFF < c.toNat ∧ c.toNat < 0x110000 := c.valid
  have hfirst : ∀ b, b < 256 → (UInt8.ofNat b).toNat = b := fun b hb => by
    rw [UInt8.toNat_ofNat']
    omega
  rw [String.utf8EncodeChar, Char.toNat_val]
  generalize c.toNat = n at hvalid
  -- One case for each number of bytes.
  split_ifs with hone htwo hthree
  · rw [List.singleton_append, decodeFrom, hfirst n (by omega), lead, if_pos (by omega)]
  · rw [List.cons_append, List.singleton_append, decodeFrom, hfirst _ (by omega), lead_two (by omega) htwo]
    dsimp only
    rw [decodeFrom_last]
    congr 2
    omega
  · obtain ⟨low, high, hlead, hlow, hhigh⟩ := lead_three (by omega) hthree (by omega)
    rw [List.cons_append, List.cons_append, List.singleton_append, decodeFrom, hfirst _ (by omega), hlead]
    dsimp only
    rw [decodeFrom_next (n / 64) _ 0 _ _ _ hlow hhigh, decodeFrom_last]
    congr 2
    omega
  · obtain ⟨low, high, hlead, hlow, hhigh⟩ := lead_four (show 0x10000 ≤ n by omega) (by omega)
    rw [List.cons_append, List.cons_append, List.cons_append, List.singleton_append, decodeFrom,
      hfirst _ (by omega), hlead]
    dsimp only
    rw [decodeFrom_next (n / 4096) _ 1 _ _ _ hlow hhigh, decodeFrom_next (n / 64) _ 0 _ _ _ (by omega) (by omega),
      decodeFrom_last]
    congr 2
    omega

/-- **The bytes of a text are read as its characters.** -/
theorem decode_encode (cs : List Char) : decode (encode cs) = cs.map some := by
  have hnumbers : ∀ cs : List Char, decodeFrom lead none (encode cs) = cs.map fun c => some c.toNat := by
    intro cs
    induction cs with
    | nil => rfl
    | cons c rest ih => rw [encode, List.flatMap_cons, decodeFrom_encodeChar, ← encode, ih, List.map_cons]
  rw [decode, hnumbers, List.map_map]
  refine List.map_congr_left fun c _ => ?_
  rw [Function.comp_apply, Option.map_some, Char.ofNat_toNat]

theorem decode?_encode (cs : List Char) : decode? (encode cs) = some cs := by
  rw [decode?, decode_encode]
  induction cs with
  | nil => rfl
  | cons c cs ih =>
    rw [List.map_cons, List.mapM_cons, ih]
    rfl

theorem decodeLossy_encode (cs : List Char) : decodeLossy (encode cs) = cs := by
  rw [decodeLossy, decode_encode, List.map_map]
  exact List.map_id cs

end ClusterBrowser.Utf8
