import ClusterBrowser.Browse.Preview
import ClusterBrowser.Proofs.Action
import Mathlib.Tactic.SplitIfs

/-!
# Reading a window

A stream may deliver the bytes of a file in pieces of any size.  The window that is read does not depend on them.

* `Action.Gives`: what an action gives unless it fails in a way that is let through.
* `FileStream.Serves`: a stream that delivers given bytes, piece by piece.
* `windowOf`: the window of given bytes.
* **`readWindow_gives`**: whatever the pieces, reading gives the window of the bytes that the stream delivers.
-/

namespace ClusterBrowser

variable {σ α β : Type}

/-! ## Actions that give something -/

/-- From `s` the action gives a value and a state of which `P` holds, or it fails in one of the ways `F`. -/
def Action.Gives (F : Failure → Prop) (x : Action σ α) (s : σ) (P : α → σ → Prop) : Prop :=
  (∃ a t, x.exec s = (.ok a, t) ∧ P a t) ∨ ∃ f t, x.exec s = (.error f, t) ∧ F f

namespace Action.Gives

variable {F : Failure → Prop} {x : Action σ α} {s : σ} {P : α → σ → Prop}

theorem of_exec {a : α} {t : σ} (h : x.exec s = (.ok a, t)) (hP : P a t) : x.Gives F s P := .inl ⟨a, t, h, hP⟩

theorem pure {a : α} (h : P a s) : (Pure.pure a : Action σ α).Gives F s P := .of_exec rfl h

theorem bind {k : α → Action σ β} {Q : β → σ → Prop} (hx : x.Gives F s P) (hk : ∀ a t, P a t → (k a).Gives F t Q) :
    (x >>= k).Gives F s Q := by
  rcases hx with ⟨a, t, h, hP⟩ | ⟨f, t, h, hF⟩
  · rw [Gives, exec_bind_of_ok h]
    exact hk a t hP
  · exact .inr ⟨f, t, exec_bind_of_error h, hF⟩

theorem mono {Q : α → σ → Prop} (hx : x.Gives F s P) (h : ∀ a t, P a t → Q a t) : x.Gives F s Q :=
  hx.imp_left fun ⟨a, t, hexec, hP⟩ => ⟨a, t, hexec, h a t hP⟩

end Action.Gives

/-! ## Streams that serve given bytes -/

/-- A stream that delivers the bytes `data`: in a state that is `At pos` the first `pos` of them have been passed.  Every
piece that is read is the next one, of at least one byte and of no more than were asked for. -/
structure FileStream.Serves (F : Failure → Prop) (x : FileStream σ) (data : Bytes) (At : Nat → σ → Prop) : Prop where
  skip : ∀ (n : Int) pos s, At pos s → (x.skip n).Gives F s fun moved t =>
    moved = (min n.toNat (data.length - pos) : Nat) ∧ At (pos + min n.toNat (data.length - pos)) t
  read : ∀ (n pos : Nat) s, 0 < n → pos < data.length → At pos s → (x.read n).Gives F s fun piece t =>
    ∃ k, 0 < k ∧ k ≤ n ∧ pos + k ≤ data.length ∧ piece = some ((data.drop pos).take k) ∧ At (pos + k) t
  read_end : ∀ (n pos : Nat) s, 0 < n → data.length ≤ pos → At pos s → (x.read n).Gives F s fun piece t =>
    piece = none ∧ At pos t

/-- The window of some bytes: what is left from the offset on, cut to the size of a window and to the length that the file
is said to have. -/
def windowOf (data : Bytes) (offset length : Int) : WindowRead :=
  let skipped := min offset.toNat data.length
  let window := (min windowBytes (length - offset)).toNat
  if (skipped : Int) < offset then .beyondEnd skipped
  else if window = 0 then .data []
  else if data.length ≤ skipped then .unreadable
  else .data ((data.drop skipped).take window)

variable {F : Failure → Prop} {x : FileStream σ} {data : Bytes} {At : Nat → σ → Prop}

theorem take_eq_append_take (bytes : Bytes) {k n : Nat} (h : k ≤ n) :
    bytes.take n = bytes.take k ++ (bytes.drop k).take (n - k) := by
  rw [← List.take_add, Nat.add_sub_cancel' h]

theorem fill_gives (hx : x.Serves F data At) {fuel missing pos : Nat} {s : σ} (got : Bytes) (hfuel : missing ≤ fuel)
    (hs : At pos s) : (fill x fuel missing got).Gives F s fun bytes t =>
      bytes = got ++ (data.drop pos).take missing ∧ ∃ pos', At pos' t := by
  induction fuel generalizing missing pos s got with
  | zero =>
    obtain rfl : missing = 0 := Nat.le_zero.mp hfuel
    exact .pure ⟨by simp, pos, hs⟩
  | succ fuel ih =>
    rw [fill]
    by_cases hmissing : missing = 0
    · rw [if_pos hmissing, hmissing]
      exact .pure ⟨by simp, pos, hs⟩
    rw [if_neg hmissing]
    by_cases hend : data.length ≤ pos
    · refine (hx.read_end missing pos s (Nat.pos_of_ne_zero hmissing) hend hs).bind ?_
      rintro _ t ⟨rfl, ht⟩
      exact .pure ⟨by simp [List.drop_eq_nil_of_le hend], pos, ht⟩
    · refine (hx.read missing pos s (Nat.pos_of_ne_zero hmissing) (Nat.lt_of_not_le hend) hs).bind ?_
      rintro _ t ⟨k, hk, hkn, hkend, rfl, ht⟩
      have hlength : ((data.drop pos).take k).length = k := by
        rw [List.length_take, List.length_drop]
        omega
      rcases hpiece : (data.drop pos).take k with _ | ⟨byte, rest⟩
      · rw [hpiece] at hlength
        simp at hlength
        omega
      dsimp only
      rw [← hpiece, hlength]
      refine (ih (got ++ (data.drop pos).take k) (by omega) ht).mono ?_
      rintro _ u ⟨rfl, hu⟩
      refine ⟨?_, hu⟩
      rw [List.append_assoc, take_eq_append_take (data.drop pos) hkn, List.drop_drop]

/-- **Whatever the pieces, reading gives the window of the bytes that the stream delivers.** -/
theorem readWindow_gives (hx : x.Serves F data At) {s : σ} (hs : At 0 s) (offset length : Int) :
    (readWindow x offset length).Gives F s fun read t => read = windowOf data offset length ∧ ∃ pos, At pos t := by
  rw [readWindow]
  refine (hx.skip offset 0 s hs).bind ?_
  rintro _ t ⟨rfl, ht⟩
  rw [Nat.sub_zero, Nat.zero_add] at ht
  rw [Nat.sub_zero, windowOf, if_neg (by omega)]
  dsimp only
  by_cases hbeyond : (min offset.toNat data.length : Nat) < offset
  · rw [if_pos hbeyond, if_pos hbeyond]
    exact .pure ⟨rfl, _, ht⟩
  rw [if_neg hbeyond, if_neg hbeyond]
  by_cases hwindow : (min windowBytes (length - offset)).toNat = 0
  · rw [if_pos hwindow, if_pos hwindow]
    exact .pure ⟨rfl, _, ht⟩
  rw [if_neg hwindow, if_neg hwindow]
  have hpos := Nat.pos_of_ne_zero hwindow
  by_cases hend : data.length ≤ min offset.toNat data.length
  · rw [if_pos hend]
    refine (hx.read_end _ _ t hpos hend ht).bind ?_
    rintro _ u ⟨rfl, hu⟩
    exact .pure ⟨rfl, _, hu⟩
  · rw [if_neg hend]
    refine (hx.read _ _ t hpos (Nat.lt_of_not_le hend) ht).bind ?_
    rintro _ u ⟨k, hk, hkn, hkend, rfl, hu⟩
    have hlength : ((data.drop (min offset.toNat data.length)).take k).length = k := by
      rw [List.length_take, List.length_drop]
      omega
    dsimp only
    rw [hlength]
    refine (fill_gives hx _ (Nat.sub_le _ _) hu).bind ?_
    rintro _ v ⟨rfl, hv⟩
    refine .pure ⟨?_, hv⟩
    rw [take_eq_append_take (data.drop (min offset.toNat data.length)) hkn, List.drop_drop]

theorem withFile_gives {c : Cluster σ} {path : String} {mode : ReadMode} {s t : σ} {R : σ → Prop}
    (hopen : (c.openFile path mode).exec s = (.ok x, t)) (hx : x.Serves F data At) (ht : At 0 t)
    (hclose : ∀ u, ∃ v, x.close.exec u = (.ok (), v) ∧ ∀ pos, At pos u → R v) (offset length : Int) :
    (c.withFile path mode (readWindow · offset length)).Gives F s fun read v =>
      read = windowOf data offset length ∧ R v := by
  rw [Cluster.withFile, Action.Gives, Action.exec_bind_of_ok hopen, Action.exec_bind, Action.exec_observe,
    Action.andThen_ok]
  rcases readWindow_gives hx ht offset length with ⟨read, u, hexec, rfl, pos, hu⟩ | ⟨f, u, hexec, hF⟩
  · obtain ⟨v, hv, hR⟩ := hclose u
    rw [hexec, Action.exec_bind_of_ok hv]
    exact .inl ⟨_, v, rfl, rfl, hR pos hu⟩
  · obtain ⟨v, hv, -⟩ := hclose u
    rw [hexec, Action.exec_bind_of_ok hv]
    exact .inr ⟨f, v, rfl, hF⟩

end ClusterBrowser
