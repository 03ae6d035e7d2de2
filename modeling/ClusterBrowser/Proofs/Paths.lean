import ClusterBrowser.Path

/-!
# Spelling and reading paths

* `Path.text_ne_empty`: no path has the empty text.
* **`Path.parse_text`**: the canonical spelling of a path leads back to it.
* `Path.text_injective`: two paths have two texts.
* `Path.joinText_text`: the text of a child, from that of its directory.
* `Path.mem_ancestors_trans`, `Path.not_mem_ancestors_self`: the ancestors of a path are in order.
-/

namespace ClusterBrowser

/-! ## Splitting -/

namespace Text

variable {mark : Char}

theorem splitAt_ne_nil (cs : List Char) : splitAt mark cs ≠ [] := by
  induction cs with
  | nil => exact List.cons_ne_nil _ _
  | cons c rest ih =>
    rw [splitAt]
    by_cases hc : c = mark
    · rw [if_pos hc]
      exact List.cons_ne_nil _ _
    · rw [if_neg hc]
      split <;> exact List.cons_ne_nil _ _

theorem splitAt_cons_mark (rest : List Char) : splitAt mark (mark :: rest) = [] :: splitAt mark rest := by
  rw [splitAt, if_pos rfl]

theorem splitAt_of_not_mem {cs : List Char} (h : mark ∉ cs) : splitAt mark cs = [cs] := by
  induction cs with
  | nil => rfl
  | cons c rest ih =>
    rw [List.mem_cons, not_or] at h
    rw [splitAt, if_neg fun hc => h.1 hc.symm, ih h.2]

theorem splitAt_append_mark (cs rest : List Char) :
    splitAt mark (cs ++ mark :: rest) = splitAt mark cs ++ splitAt mark rest := by
  induction cs with
  | nil => exact splitAt_cons_mark rest
  | cons c cs ih =>
    rw [List.cons_append, splitAt, splitAt, ih]
    by_cases hc : c = mark
    · rw [if_pos hc, if_pos hc, List.cons_append]
    · rw [if_neg hc, if_neg hc]
      rcases h : splitAt mark cs with _ | ⟨piece, pieces⟩
      · exact absurd h (splitAt_ne_nil cs)
      · rfl

end Text

/-! ## Names -/

namespace Name

theorem ext {m n : Name} (h : m.text = n.text) : m = n := by
  cases m
  cases n
  cases h
  rfl

theorem toList_ne_nil (n : Name) : n.text.toList ≠ [] := by
  have hvalid := n.valid
  intro h
  rw [h] at hvalid
  exact absurd hvalid (by decide)

theorem not_isRelative (n : Name) : isRelative n.text.toList = false := by
  have hvalid := n.valid
  rw [isSegment, Bool.and_eq_true, Bool.and_eq_true, Bool.not_eq_true'] at hvalid
  simpa using hvalid.1.2

theorem separator_not_mem (n : Name) : separator ∉ n.text.toList := by
  have hvalid := n.valid
  rw [isSegment, Bool.and_eq_true, List.all_eq_true] at hvalid
  intro h
  simpa using hvalid.2 _ h

theorem ofSegment_toList (raw : String) (n : Name) : ofSegment raw n.text.toList = .ok n := by
  rw [ofSegment, n.not_isRelative, if_neg Bool.false_ne_true, dif_pos n.valid]
  exact congrArg _ (ext (String.ofList_toList ..))

end Name

/-! ## Paths -/

namespace Path

/-- The segments of the canonical spelling, but for the empty one in front. -/
def segments (p : Path) : List (List Char) := p.names.map fun n => n.text.toList

theorem segments_child (parent : Path) (name : Name) :
    (child parent name).segments = parent.segments ++ [name.text.toList] := by
  simp [segments, names]

theorem splitAt_trail (p : Path) : Text.splitAt separator p.trail = [] :: p.segments := by
  induction p with
  | root => rfl
  | child parent name ih =>
    rw [trail, Text.splitAt_append_mark, ih, Text.splitAt_of_not_mem name.separator_not_mem, segments_child]
    rfl

theorem walk_append (raw : String) (p : Path) (ss ts : List (List Char)) {q : Path} (h : walk raw p ss = .ok q) :
    walk raw p (ss ++ ts) = walk raw q ts := by
  induction ss generalizing p with
  | nil => rw [List.nil_append, ← Except.ok.inj h]
  | cons s ss ih =>
    rw [walk] at h
    rw [List.cons_append, walk]
    by_cases hs : s.isEmpty = true
    · rw [if_pos hs] at h ⊢
      exact ih p h
    · rw [if_neg hs] at h ⊢
      rcases hname : Name.ofSegment raw s with e | name
      · rw [hname] at h
        exact nomatch h
      · rw [hname] at h
        exact ih _ h

theorem walk_segments (raw : String) (p : Path) : walk raw .root p.segments = .ok p := by
  induction p with
  | root => rfl
  | child parent name ih =>
    rw [segments_child, walk_append raw .root _ _ ih, walk, List.isEmpty_eq_false_iff.mpr name.toList_ne_nil,
      if_neg Bool.false_ne_true, name.ofSegment_toList raw]
    rfl

theorem exists_trail_child (parent : Path) (name : Name) : ∃ rest, (child parent name).trail = separator :: rest := by
  induction parent generalizing name with
  | root => exact ⟨name.text.toList, rfl⟩
  | child grandparent first ih =>
    obtain ⟨rest, hrest⟩ := ih first
    exact ⟨rest ++ separator :: name.text.toList, by rw [trail, hrest, List.cons_append]⟩

/-- **The canonical spelling of a path leads back to it.** -/
theorem parse_text (p : Path) : parse p.text = .ok p := by
  rw [parse, text, String.toList_ofList]
  cases p with
  | root => rfl
  | child parent name =>
    obtain ⟨rest, hrest⟩ := exists_trail_child parent name
    have hsplit := splitAt_trail (child parent name)
    rw [hrest, Text.splitAt_cons_mark] at hsplit
    rw [chars, hrest]
    simp only [if_pos]
    rw [(List.cons.inj hsplit).2, walk_segments]
    exact nofun

theorem text_injective {p q : Path} (h : p.text = q.text) : p = q := by
  have hp := parse_text p
  rw [h, parse_text q] at hp
  exact (Except.ok.inj hp).symm

theorem text_ne_empty (p : Path) : p.text ≠ "" := by
  intro h
  have hp := parse_text p
  rw [h] at hp
  obtain rfl : root = p := Except.ok.inj hp
  exact absurd h (by decide)

theorem getLast?_trail_child (parent : Path) (name : Name) :
    (child parent name).trail.getLast? ≠ some separator := by
  intro h
  have hlast : (child parent name).trail.getLast? = name.text.toList.getLast? := by
    rw [trail, List.getLast?_append, List.getLast?_cons, Option.some_or]
    rcases hname : name.text.toList.getLast? with _ | c
    · exact absurd (List.getLast?_eq_none_iff.mp hname) name.toList_ne_nil
    · rfl
  exact name.separator_not_mem (List.mem_of_getLast? (hlast ▸ h))

theorem joinText_text (p : Path) (name : Name) : joinText p.text name.text = (child p name).text := by
  apply String.toList_injective
  cases p with
  | root =>
    rw [joinText, if_pos (by decide), String.toList_append, text, text, String.toList_ofList, String.toList_ofList]
    rfl
  | child parent last =>
    have hlast : (child parent last).text.toList.getLast? ≠ some separator := by
      rw [text, String.toList_ofList]
      exact getLast?_trail_child parent last
    rw [joinText, if_neg hlast, String.toList_append, String.toList_append, text, text, String.toList_ofList,
      String.toList_ofList, String.toList_ofList, List.append_assoc]
    rfl

/-! ## Ancestors -/

theorem mem_ancestors_child {a p : Path} {name : Name} : a ∈ (child p name).ancestors ↔ a ∈ p.ancestors ∨ a = p := by
  rw [ancestors, List.mem_append, List.mem_singleton]

theorem depth_lt_of_mem_ancestors {a p : Path} (h : a ∈ p.ancestors) : a.depth < p.depth := by
  induction p with
  | root => exact nomatch h
  | child parent name ih =>
    rcases mem_ancestors_child.mp h with h | rfl
    · exact Nat.lt_succ_of_lt (ih h)
    · exact Nat.lt_succ_self _

theorem not_mem_ancestors_self (p : Path) : p ∉ p.ancestors :=
  fun h => Nat.lt_irrefl _ (depth_lt_of_mem_ancestors h)

theorem mem_ancestors_trans {a b p : Path} (ha : a ∈ b.ancestors) (hb : b ∈ p.ancestors) : a ∈ p.ancestors := by
  induction p with
  | root => exact nomatch hb
  | child parent name ih =>
    rw [mem_ancestors_child]
    rcases mem_ancestors_child.mp hb with hb | rfl
    · exact .inl (ih hb)
    · exact .inl ha

/-- The ancestors of a path, root first, and the path itself. -/
def lineage (p : Path) : List Path := p.ancestors ++ [p]

theorem mem_lineage {a p : Path} : a ∈ p.lineage ↔ a ∈ p.ancestors ∨ a = p := by
  rw [lineage, List.mem_append, List.mem_singleton]

theorem mem_lineage_child {a p : Path} {name : Name} :
    a ∈ (child p name).lineage ↔ a ∈ p.lineage ∨ a = child p name := by
  rw [mem_lineage, mem_ancestors_child, mem_lineage]

theorem mem_lineage_iff_parent {a p : Path} : a ∈ p.lineage ↔ a ∈ p.parent.lineage ∨ a = p := by
  cases p with
  | root => simp [lineage, ancestors, parent]
  | child parent name => exact mem_lineage_child

theorem eq_child_of_ne_root {p : Path} (h : p ≠ .root) : ∃ name, p = .child p.parent name := by
  cases p with
  | root => exact absurd rfl h
  | child parent name => exact ⟨name, rfl⟩

end Path

end ClusterBrowser
