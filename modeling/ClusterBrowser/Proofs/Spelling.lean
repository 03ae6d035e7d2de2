import ClusterBrowser.Proofs.Paths
import Mathlib.Tactic.SplitIfs

/-!
# Spellings of a path

Which texts spell a path, and which of them spell the same one.

* `Text.pieces`, `Text.segments`: what stands between the separators of a text, and what of it is not empty.
* `Text.IsSpelling`: the grammar of paths.
* **`Path.parse_isOk_iff`**: a text spells a path exactly if it is empty or of the grammar.
* **`Path.segments_of_parse`**: a path has the segments of every text that spells it.
* `Path.text_eq`: the canonical spelling of a path, from its segments.
-/

namespace ClusterBrowser

/-! ## Pieces -/

namespace Text

variable {mark : Char}

theorem splitOn_cons_self (rest : List Char) : (mark :: rest).splitOn mark = [] :: rest.splitOn mark := by
  simp [List.splitOn_cons_eq_if_modifyHead]

theorem splitOn_cons_of_ne {c : Char} (hc : c ≠ mark) (rest : List Char) :
    ∃ piece pieces, rest.splitOn mark = piece :: pieces ∧ (c :: rest).splitOn mark = (c :: piece) :: pieces := by
  obtain ⟨piece, pieces, hrest⟩ := List.exists_cons_of_ne_nil (List.splitOn_ne_nil mark rest)
  exact ⟨piece, pieces, hrest, by simp [List.splitOn_cons_eq_if_modifyHead, hc, hrest]⟩

theorem splitAt_eq_splitOn (cs : List Char) : splitAt mark cs = cs.splitOn mark := by
  induction cs with
  | nil => rfl
  | cons c rest ih =>
    by_cases hc : c = mark
    · rw [hc, splitAt_cons_mark, splitOn_cons_self, ih]
    · obtain ⟨piece, pieces, hrest, hcons⟩ := splitOn_cons_of_ne hc rest
      rw [splitAt, if_neg hc, ih, hrest, hcons]

theorem not_mem_of_mem_splitOn {cs piece : List Char} (h : piece ∈ cs.splitOn mark) : mark ∉ piece := by
  induction cs generalizing piece with
  | nil => simp_all
  | cons c rest ih =>
    by_cases hc : c = mark
    · rw [hc, splitOn_cons_self] at h
      rcases List.mem_cons.mp h with rfl | h
      · exact List.not_mem_nil
      · exact ih h
    · obtain ⟨first, pieces, hrest, hcons⟩ := splitOn_cons_of_ne hc rest
      rw [hrest] at ih
      rw [hcons] at h
      rcases List.mem_cons.mp h with rfl | h
      · simpa [Ne.symm hc] using ih List.mem_cons_self
      · exact ih (List.mem_cons_of_mem _ h)

theorem forall_mem_splitOn_iff {P : Char → Prop} (hmark : P mark) (cs : List Char) :
    (∀ piece ∈ cs.splitOn mark, ∀ c ∈ piece, P c) ↔ ∀ c ∈ cs, P c := by
  induction cs with
  | nil => simp
  | cons c rest ih =>
    rw [List.forall_mem_cons, ← ih]
    by_cases hc : c = mark
    · simp [hc, splitOn_cons_self, hmark]
    · obtain ⟨piece, pieces, hrest, hcons⟩ := splitOn_cons_of_ne hc rest
      simp [hrest, hcons, and_assoc]

/-- What stands between the separators of a text. -/
def pieces (text : String) : List (List Char) := text.toList.splitOn separator

/-- What stands between the separators of a text and is not empty. -/
def segments (text : String) : List (List Char) := (pieces text).filter (· ≠ [])

/-- A text that starts with a separator, has no segment that stands for a direction, and no control character. -/
structure IsSpelling (text : String) : Prop where
  absolute : text.toList.head? = some separator
  noDirection : ∀ piece ∈ pieces text, piece ≠ ['.'] ∧ piece ≠ ['.', '.']
  noControl : ∀ c ∈ text.toList, 0x20 ≤ c.toNat

end Text

theorem isRelative_eq_false_iff {s : List Char} : isRelative s = false ↔ s ≠ ['.'] ∧ s ≠ ['.', '.'] := by
  simp [isRelative]

/-- A segment that stands for no direction and has no control characters. The empty one is of this kind. -/
def IsPlainSegment (s : List Char) : Prop := isRelative s = false ∧ ∀ c ∈ s, 0x20 ≤ c.toNat

theorem Text.isSpelling_iff {text : String} :
    IsSpelling text ↔ text.toList.head? = some separator ∧ ∀ piece ∈ pieces text, IsPlainSegment piece := by
  have hmark : 0x20 ≤ separator.toNat := by decide
  constructor
  · intro h
    have hcontrol := (forall_mem_splitOn_iff hmark text.toList).mpr h.noControl
    exact ⟨h.absolute, fun piece hp => ⟨isRelative_eq_false_iff.mpr (h.noDirection piece hp), hcontrol piece hp⟩⟩
  · rintro ⟨habsolute, hplain⟩
    refine ⟨habsolute, fun piece hp => isRelative_eq_false_iff.mp (hplain piece hp).1, ?_⟩
    exact (forall_mem_splitOn_iff hmark text.toList).mp fun piece hp => (hplain piece hp).2

/-! ## Walks -/

namespace Name

theorem ofSegment_eq_ok_iff {raw : String} {s : List Char} {name : Name} :
    ofSegment raw s = .ok name ↔ name.text.toList = s := by
  constructor
  · intro h
    rw [ofSegment] at h
    split_ifs at h with hrelative hvalid
    rw [← Except.ok.inj h, String.toList_ofList]
  · rintro rfl
    exact ofSegment_toList raw name

theorem ofSegment_isOk_iff (raw : String) {s : List Char} (hne : s ≠ []) (hsep : separator ∉ s) :
    (∃ name, ofSegment raw s = .ok name) ↔ IsPlainSegment s := by
  have hvalid : isSegment s = true ↔ IsPlainSegment s := by
    simp only [isSegment, IsPlainSegment, Bool.and_eq_true, Bool.not_eq_true', List.isEmpty_eq_false_iff, List.all_eq_true,
      bne_iff_ne, decide_eq_true_eq]
    constructor
    · rintro ⟨⟨-, hrelative⟩, hall⟩
      exact ⟨hrelative, fun c hc => (hall c hc).2⟩
    · rintro ⟨hrelative, hall⟩
      exact ⟨⟨hne, hrelative⟩, fun c hc => ⟨fun heq => hsep (heq ▸ hc), hall c hc⟩⟩
  simp only [ofSegment_eq_ok_iff]
  rw [← hvalid]
  constructor
  · rintro ⟨name, rfl⟩
    exact name.valid
  · intro h
    exact ⟨⟨String.ofList s, by rwa [String.toList_ofList]⟩, String.toList_ofList⟩

end Name

namespace Path

theorem walk_isOk_iff {raw : String} {p : Path} {ss : List (List Char)} (hss : ∀ s ∈ ss, separator ∉ s) :
    (∃ q, walk raw p ss = .ok q) ↔ ∀ s ∈ ss, IsPlainSegment s := by
  induction ss generalizing p with
  | nil => simp [walk]
  | cons s ss ih =>
    obtain ⟨hsep, hss⟩ := List.forall_mem_cons.mp hss
    rw [walk, List.forall_mem_cons]
    by_cases hs : s = []
    · have hplain : IsPlainSegment s := by simp [hs, IsPlainSegment, isRelative]
      simp only [hs, List.isEmpty_nil, if_true]
      rw [ih hss, and_iff_right (hs ▸ hplain)]
    · rw [if_neg (by simpa using hs), ← Name.ofSegment_isOk_iff raw hs hsep]
      rcases hname : Name.ofSegment raw s with e | name
      · simp
      · simp [ih hss]

theorem segments_of_walk {raw : String} {p q : Path} {ss : List (List Char)} (h : walk raw p ss = .ok q) :
    q.segments = p.segments ++ ss.filter (· ≠ []) := by
  induction ss generalizing p with
  | nil =>
    rw [← Except.ok.inj h]
    simp
  | cons s ss ih =>
    rw [walk] at h
    by_cases hs : s = []
    · simp only [hs, List.isEmpty_nil, if_true] at h
      simpa [hs] using ih h
    · rw [if_neg (by simpa using hs)] at h
      rcases hname : Name.ofSegment raw s with e | name
      · rw [hname] at h
        cases h
      · rw [hname] at h
        rw [ih h, segments_child, Name.ofSegment_eq_ok_iff.mp hname]
        simp [hs]

theorem parse_eq_walk {text : String} (habsolute : text.toList.head? = some separator) :
    parse text = walk text .root (Text.pieces text) := by
  obtain ⟨rest, htext⟩ := List.head?_eq_some_iff.mp habsolute
  rw [parse, Text.pieces, htext, Text.splitOn_cons_self, walk]
  simp only [if_true, Text.splitAt_eq_splitOn, List.isEmpty_nil]

theorem parse_empty : parse "" = .ok .root := rfl

theorem absolute_of_parse {text : String} {p : Path} (h : parse text = .ok p) (hne : text ≠ "") :
    text.toList.head? = some separator := by
  rw [parse] at h
  rcases htext : text.toList with _ | ⟨c, rest⟩
  · exact absurd (String.toList_eq_nil_iff.mp htext) hne
  · rw [htext] at h
    dsimp only at h
    split_ifs at h with hc
    rw [hc, List.head?_cons]

/-- **A text spells a path exactly if it is empty or of the grammar.** -/
theorem parse_isOk_iff {text : String} : (∃ p, parse text = .ok p) ↔ text = "" ∨ Text.IsSpelling text := by
  by_cases hempty : text = ""
  · rw [hempty]
    exact iff_of_true ⟨.root, parse_empty⟩ (.inl rfl)
  rw [or_iff_right hempty, Text.isSpelling_iff]
  have hwalk : ∀ p, (∃ q, walk text p (Text.pieces text) = .ok q) ↔ ∀ piece ∈ Text.pieces text, IsPlainSegment piece :=
    fun p => walk_isOk_iff fun piece hp => Text.not_mem_of_mem_splitOn hp
  constructor
  · rintro ⟨p, hp⟩
    have habsolute := absolute_of_parse hp hempty
    rw [parse_eq_walk habsolute] at hp
    exact ⟨habsolute, (hwalk _).mp ⟨p, hp⟩⟩
  · rintro ⟨habsolute, hplain⟩
    rw [parse_eq_walk habsolute]
    exact (hwalk _).mpr hplain

/-- **A path has the segments of every text that spells it.** -/
theorem segments_of_parse {text : String} {p : Path} (h : parse text = .ok p) : p.segments = Text.segments text := by
  by_cases hempty : text = ""
  · rw [hempty] at h ⊢
    rw [← Except.ok.inj (parse_empty.symm.trans h)]
    rfl
  · rw [parse_eq_walk (absolute_of_parse h hempty)] at h
    exact segments_of_walk h

theorem trail_eq (p : Path) : p.trail = p.segments.flatMap (separator :: ·) := by
  induction p with
  | root => rfl
  | child parent name ih => rw [trail, ih, segments_child, List.flatMap_append, List.flatMap_singleton]

theorem flatMap_cons_eq_intercalate {mark : Char} (s : List Char) (ss : List (List Char)) :
    (s :: ss).flatMap (mark :: ·) = mark :: [mark].intercalate (s :: ss) := by
  induction ss generalizing s with
  | nil => simp
  | cons t ss ih => rw [List.flatMap_cons, ih, List.intercalate_cons_cons, List.cons_append, List.append_assoc]; rfl

theorem text_eq (p : Path) : p.text = String.ofList (separator :: [separator].intercalate p.segments) := by
  rw [text]
  cases p with
  | root => rfl
  | child parent name =>
    obtain ⟨s, ss, hsegments⟩ := List.exists_cons_of_ne_nil (l := (child parent name).segments) (by simp [segments_child])
    rw [hsegments, ← flatMap_cons_eq_intercalate, ← hsegments, ← trail_eq]
    rfl

/-- **Two paths have one text exactly if they have the same segments.** -/
theorem text_eq_text_iff {p q : Path} : p.text = q.text ↔ p.segments = q.segments := by
  constructor
  · intro h
    rw [text_injective h]
  · intro h
    rw [text_eq, h, ← text_eq]

end Path

end ClusterBrowser
