import ClusterBrowser.Proofs.IntegerText
import ClusterBrowser.Proofs.Shapes

/-!
# Windows of a listing

* `Decimal.SpelledBy`: a text that is there and spells an integer.
* `IsWindow`: the rows of a listing from a place on.
* `Selects`: what comes of two texts, as a rule on what they spell.
* `Consecutive`: texts for windows of which each begins where the one before ends.
* **`paginate_exact`**: the rule holds, and consecutive windows make up the whole listing.
-/

namespace ClusterBrowser

/-- The text is there and spells the integer. -/
def Decimal.SpelledBy (raw : Option String) (n : Int) : Prop := ∃ text, raw = some text ∧ Spells text.toList n

variable {α : Type}

/-- The `count` rows of a listing from number `start` on, in their order. -/
structure IsWindow (entries : List α) (start count : Nat) (rows : List α) : Prop where
  length : rows.length = count
  getElem? : ∀ i < count, rows[i]? = entries[start + i]?

/-- What comes of two texts that ask for a window. -/
structure Selects (entries : List α) (offset limit : Option String) : Prop where
  window : ∀ rows, paginate entries offset limit = .ok (.window rows) ↔
    ∃ o l : Nat, Decimal.SpelledBy offset o ∧ Decimal.SpelledBy limit l ∧ o + l ≤ entries.length ∧
      IsWindow entries o l rows
  malformed : (∃ message, (paginate entries offset limit).mapError PageError.toBrowseError =
    .error (.badPagination message)) ↔ (¬ ∃ o, Decimal.SpelledBy offset o) ∨ ¬ ∃ l, Decimal.SpelledBy limit l
  outOfBounds : (∃ message, (paginate entries offset limit).mapError PageError.toBrowseError =
    .error (.outOfBounds message)) ↔ ∃ o l : Int, Decimal.SpelledBy offset o ∧ Decimal.SpelledBy limit l ∧
      ¬ (0 ≤ o ∧ 0 ≤ l ∧ o + l ≤ entries.length)

/-- Texts for windows of the given sizes, of which the first begins at `start` and each other one where the one before
ends. -/
inductive Consecutive : Nat → List Nat → List (String × String) → Prop
  | nil {start : Nat} : Consecutive start [] []
  | cons {start size : Nat} {sizes : List Nat} {offset limit : String} {pages : List (String × String)}
      (starts : Decimal.Spells offset.toList start) (counts : Decimal.Spells limit.toList size)
      (rest : Consecutive (start + size) sizes pages) : Consecutive start (size :: sizes) ((offset, limit) :: pages)

/-! ## What two texts spell -/

theorem Decimal.spelledBy_some {text : String} {n : Int} : SpelledBy (some text) n ↔ Spells text.toList n :=
  ⟨fun ⟨_, htext, h⟩ => Option.some.inj htext ▸ h, fun h => ⟨text, rfl, h⟩⟩

theorem Decimal.not_spelledBy_none {n : Int} : ¬ SpelledBy none n := fun ⟨_, h, _⟩ => nomatch h

theorem Decimal.SpelledBy.unique {raw : Option String} {m n : Int} (hm : SpelledBy raw m) (hn : SpelledBy raw n) :
    m = n := by
  obtain ⟨text, rfl, hm⟩ := hm
  rw [spelledBy_some] at hn
  rw [← read_eq_ok_iff] at hm hn
  exact Except.ok.inj (hm.symm.trans hn)

theorem readBoth_eq_some_iff {offset limit : Option String} {o l : Int} :
    readBoth offset limit = some (o, l) ↔ Decimal.SpelledBy offset o ∧ Decimal.SpelledBy limit l := by
  rcases offset with _ | offset
  · exact ⟨fun h => (nomatch h), fun h => absurd h.1 Decimal.not_spelledBy_none⟩
  rcases limit with _ | limit
  · exact ⟨fun h => (nomatch h), fun h => absurd h.2 Decimal.not_spelledBy_none⟩
  rw [Decimal.spelledBy_some, Decimal.spelledBy_some, ← Decimal.read_eq_ok_iff, ← Decimal.read_eq_ok_iff, readBoth]
  rcases Decimal.read offset with e | o' <;> rcases Decimal.read limit with e' | l' <;> simp

theorem paginate_of_spelled (entries : List α) {offset limit : Option String} {o l : Int}
    (ho : Decimal.SpelledBy offset o) (hl : Decimal.SpelledBy limit l) :
    paginate entries offset limit =
      if 0 ≤ o ∧ 0 ≤ l ∧ o + l ≤ entries.length then .ok (.window ((entries.drop o.toNat).take l.toNat))
      else .error (.outOfBounds o l entries.length) := by
  have hsome : (offset.isNone && limit.isNone) = false := by
    obtain ⟨text, rfl, -⟩ := ho
    rfl
  rw [paginate, hsome, if_neg Bool.false_ne_true, readBoth_eq_some_iff.mpr ⟨ho, hl⟩]
  dsimp only
  by_cases hinside : 0 ≤ o ∧ 0 ≤ l ∧ o + l ≤ entries.length
  · rw [if_pos hinside, if_neg (by simp; omega)]
  · rw [if_neg hinside, if_pos (by simp; omega)]

theorem paginate_of_not_spelled (entries : List α) {offset limit : Option String} (hsome : ¬ (offset = none ∧ limit = none))
    (h : ¬ ∃ o l, Decimal.SpelledBy offset o ∧ Decimal.SpelledBy limit l) :
    paginate entries offset limit = .error (.malformed offset limit) := by
  have hread : readBoth offset limit = none := by
    rcases hread : readBoth offset limit with _ | ⟨o, l⟩
    · rfl
    · exact absurd ⟨o, l, readBoth_eq_some_iff.mp hread⟩ h
  rw [paginate, if_neg (by simpa using hsome), hread]

theorem isWindow_iff {entries rows : List α} {o l : Nat} (h : o + l ≤ entries.length) :
    IsWindow entries o l rows ↔ rows = (entries.drop o).take l := by
  have hlength : ((entries.drop o).take l).length = l := by
    rw [List.length_take, List.length_drop]
    omega
  constructor
  · intro hw
    refine List.ext_getElem? fun i => ?_
    by_cases hi : i < l
    · rw [hw.getElem? i hi, List.getElem?_take_of_lt hi, List.getElem?_drop]
    · rw [List.getElem?_eq_none (by rw [hw.length]; omega), List.getElem?_eq_none (by omega)]
  · rintro rfl
    refine ⟨hlength, fun i hi => ?_⟩
    rw [List.getElem?_take_of_lt hi, List.getElem?_drop]

/-! ## The rule -/

theorem selects_of_inside (entries : List α) {offset limit : Option String} {o l : Nat}
    (ho : Decimal.SpelledBy offset o) (hl : Decimal.SpelledBy limit l) (hinside : o + l ≤ entries.length) :
    Selects entries offset limit := by
  have hpage : paginate entries offset limit = .ok (.window ((entries.drop o).take l)) := by
    rw [paginate_of_spelled entries ho hl, if_pos (by omega)]
    rfl
  refine ⟨fun rows => ?_, ?_, ?_⟩
  · rw [hpage]
    constructor
    · intro h
      refine ⟨o, l, ho, hl, hinside, (isWindow_iff hinside).mpr ?_⟩
      injection h with h
      injection h with h
      exact h.symm
    · rintro ⟨o', l', ho', hl', hinside', hrows⟩
      obtain rfl : o = o' := Int.ofNat.inj (ho.unique ho')
      obtain rfl : l = l' := Int.ofNat.inj (hl.unique hl')
      rw [(isWindow_iff hinside).mp hrows]
  · rw [hpage]
    exact ⟨fun ⟨_, h⟩ => (nomatch h), fun h => (h.elim (· ⟨o, ho⟩) (· ⟨l, hl⟩)).elim⟩
  · rw [hpage]
    refine ⟨fun ⟨_, h⟩ => (nomatch h), fun ⟨o', l', ho', hl', houtside⟩ => absurd ?_ houtside⟩
    obtain rfl := ho.unique ho'
    obtain rfl := hl.unique hl'
    omega

theorem selects_of_outside (entries : List α) {offset limit : Option String} {o l : Int}
    (ho : Decimal.SpelledBy offset o) (hl : Decimal.SpelledBy limit l)
    (houtside : ¬ (0 ≤ o ∧ 0 ≤ l ∧ o + l ≤ entries.length)) : Selects entries offset limit := by
  have hpage : paginate entries offset limit = .error (.outOfBounds o l entries.length) := by
    rw [paginate_of_spelled entries ho hl, if_neg houtside]
  refine ⟨fun rows => ?_, ?_, ?_⟩
  · rw [hpage]
    refine ⟨fun h => (nomatch h), fun ⟨o', l', ho', hl', hinside, _⟩ => absurd ?_ houtside⟩
    obtain rfl := ho.unique ho'
    obtain rfl := hl.unique hl'
    omega
  · rw [hpage]
    exact ⟨fun ⟨_, h⟩ => (nomatch h), fun h => (h.elim (· ⟨o, ho⟩) (· ⟨l, hl⟩)).elim⟩
  · rw [hpage]
    exact ⟨fun _ => ⟨o, l, ho, hl, houtside⟩, fun _ => ⟨_, rfl⟩⟩

theorem selects_of_not_spelled (entries : List α) {offset limit : Option String}
    (hsome : ¬ (offset = none ∧ limit = none))
    (h : ¬ ∃ o l, Decimal.SpelledBy offset o ∧ Decimal.SpelledBy limit l) : Selects entries offset limit := by
  have hpage := paginate_of_not_spelled entries hsome h
  refine ⟨fun rows => ?_, ?_, ?_⟩
  · rw [hpage]
    exact ⟨fun h => (nomatch h), fun ⟨o, l, ho, hl, _⟩ => absurd ⟨o, l, ho, hl⟩ h⟩
  · rw [hpage]
    refine ⟨fun _ => ?_, fun _ => ⟨_, rfl⟩⟩
    by_contra hboth
    push Not at hboth
    obtain ⟨⟨o, ho⟩, l, hl⟩ := hboth
    exact h ⟨o, l, ho, hl⟩
  · rw [hpage]
    exact ⟨fun ⟨_, h⟩ => (nomatch h), fun ⟨o, l, ho, hl, _⟩ => absurd ⟨o, l, ho, hl⟩ h⟩

theorem selects (entries : List α) {offset limit : Option String} (hsome : ¬ (offset = none ∧ limit = none)) :
    Selects entries offset limit := by
  by_cases h : ∃ o l, Decimal.SpelledBy offset o ∧ Decimal.SpelledBy limit l
  · obtain ⟨o, l, ho, hl⟩ := h
    by_cases hinside : 0 ≤ o ∧ 0 ≤ l ∧ o + l ≤ entries.length
    · lift o to Nat using hinside.1
      lift l to Nat using hinside.2.1
      exact selects_of_inside entries ho hl (by omega)
    · exact selects_of_outside entries ho hl hinside
  · exact selects_of_not_spelled entries hsome h

/-! ## Consecutive windows -/

/-- Consecutive windows from a place on hold the rows from there on. -/
theorem Consecutive.flatten_windows {start : Nat} {sizes : List Nat} {pages : List (String × String)}
    (h : Consecutive start sizes pages) {entries : List α} (hsum : start + sizes.sum ≤ entries.length) :
    ∃ windows : List (List α),
      (pages.mapM fun page => paginate entries (some page.1) (some page.2)) = .ok (windows.map .window) ∧
        windows.flatten = (entries.drop start).take sizes.sum := by
  induction h with
  | nil => exact ⟨[], rfl, by simp⟩
  | @cons start size sizes offset limit pages starts counts _ ih =>
    rw [List.sum_cons] at hsum
    obtain ⟨windows, hwindows, hflatten⟩ := ih (by omega)
    refine ⟨(entries.drop start).take size :: windows, ?_, ?_⟩
    · have hpage := paginate_of_spelled entries (Decimal.spelledBy_some.mpr starts) (Decimal.spelledBy_some.mpr counts)
      rw [if_pos (by omega)] at hpage
      rw [List.mapM_cons, hpage, hwindows]
      rfl
    · rw [List.flatten_cons, hflatten, List.sum_cons, ← List.drop_drop, ← List.take_add]

/-- **Two texts of which one is there select a window by the rule, and consecutive windows make up the whole listing.** -/
theorem paginate_exact (entries : List α) :
    (∀ offset limit, ¬ (offset = none ∧ limit = none) → Selects entries offset limit) ∧
      ∀ sizes pages, Consecutive 0 sizes pages → sizes.sum = entries.length → ∃ windows : List (List α),
        (pages.mapM fun page => paginate entries (some page.1) (some page.2)) = .ok (windows.map .window) ∧
          windows.flatten = entries := by
  refine ⟨fun offset limit hsome => selects entries hsome, fun sizes pages hpages hsum => ?_⟩
  have hinside : 0 + sizes.sum ≤ entries.length := by omega
  obtain ⟨windows, hwindows, hflatten⟩ := hpages.flatten_windows hinside
  refine ⟨windows, hwindows, ?_⟩
  rw [hflatten, List.drop_zero, hsum, List.take_length]

/-- Five rows in windows of two, none and three. -/
theorem paginate_exact_fiveRows :
    (¬ ((some "1" : Option String) = none ∧ (some "+2" : Option String) = none) ∧
      Selects ['a', 'b', 'c', 'd', 'e'] (some "1") (some "+2")) ∧
    Consecutive 0 [2, 0, 3] [("0", "2"), ("2", "-0"), ("+2", "03")] ∧ [2, 0, 3].sum = ['a', 'b', 'c', 'd', 'e'].length ∧
    ∃ windows : List (List Char), ([("0", "2"), ("2", "-0"), ("+2", "03")].mapM fun page =>
        paginate ['a', 'b', 'c', 'd', 'e'] (some page.1) (some page.2)) = .ok (windows.map .window) ∧
      windows.flatten = ['a', 'b', 'c', 'd', 'e'] := by
  have hpages : Consecutive 0 [2, 0, 3] [("0", "2"), ("2", "-0"), ("+2", "03")] :=
    .cons (Decimal.read_eq_ok_iff.mp (by decide +kernel)) (Decimal.read_eq_ok_iff.mp (by decide +kernel))
      (.cons (Decimal.read_eq_ok_iff.mp (by decide +kernel)) (Decimal.read_eq_ok_iff.mp (by decide +kernel))
        (.cons (Decimal.read_eq_ok_iff.mp (by decide +kernel)) (Decimal.read_eq_ok_iff.mp (by decide +kernel)) .nil))
  exact ⟨⟨by simp, (paginate_exact _).1 _ _ (by simp)⟩, hpages, rfl, (paginate_exact _).2 _ _ hpages rfl⟩

end ClusterBrowser
