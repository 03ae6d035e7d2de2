import ClusterBrowser.Proofs.Breadcrumbs
import Mathlib.Data.Set.Function

/-!
# Directories and names

A path other than the root is a name in a directory.  Its text is joined of theirs, and can be cut again.

* `IsCanonical`: the texts that spell a path canonically.
* `IsNameText`: the texts that name something in a directory.
* `nameText`: a text from behind its last separator.
* `Path.joinText_parent`: a path is its name in its directory.
* `IsCanonical.exists_path`: a name in a directory is a path.
* **`Path.splits_and_joins`**: texts of paths are cut and joined in one way.
-/

namespace ClusterBrowser

/-- A text that spells a path canonically. -/
def IsCanonical (text : String) : Prop := ∃ raw p, Path.parseRequest raw = .ok p ∧ p.text = text

/-- A text that names something: neither empty nor a direction, and without separators and control characters. -/
structure IsNameText (name : String) : Prop where
  nonempty : name ≠ ""
  noDirection : name ≠ "." ∧ name ≠ ".."
  noSeparator : '/' ∉ name.toList
  noControl : ∀ c ∈ name.toList, 0x20 ≤ c.toNat

/-- What stands behind the last separator of a text. -/
def nameText (text : String) : String := String.ofList (text.toList.reverse.takeWhile (· ≠ separator)).reverse

theorem isNameText_iff {name : String} : IsNameText name ↔ isSegment name.toList = true := by
  have hempty : name.toList = [] ↔ name = "" := String.toList_eq_nil_iff
  have hdot : name.toList = ['.'] ↔ name = "." := by rw [← String.toList_inj]; rfl
  have hdots : name.toList = ['.', '.'] ↔ name = ".." := by rw [← String.toList_inj]; rfl
  simp only [isSegment, Bool.and_eq_true, Bool.not_eq_true', List.isEmpty_eq_false_iff, isRelative_eq_false_iff,
    List.all_eq_true, bne_iff_ne, decide_eq_true_eq, ne_eq, hempty, hdot, hdots]
  constructor
  · intro h
    exact ⟨⟨h.nonempty, h.noDirection⟩, fun c hc => ⟨fun heq => h.noSeparator (by rwa [heq] at hc), h.noControl c hc⟩⟩
  · rintro ⟨⟨hempty, hdirection⟩, hall⟩
    exact ⟨hempty, hdirection, fun hmem => (hall _ hmem).1 rfl, fun c hc => (hall c hc).2⟩

namespace Path

theorem isCanonical_text (p : Path) : IsCanonical p.text := ⟨some p.text, p, p.parse_text, rfl⟩

theorem components_eq (p : Path) : p.components = "" :: p.segments.map String.ofList := by
  rw [components, segments, List.map_map]
  exact congrArg _ (List.map_congr_left fun name _ => (String.ofList_toList ..).symm)

theorem length_segments {p : Path} (h : p ≠ .root) : p.segments.length = p.parent.segments.length + 1 := by
  cases p with
  | root => exact absurd rfl h
  | child parent name => simp [segments_child, Path.parent]

/-- **A path is its name in its directory.** -/
theorem joinText_parent {p : Path} (h : p ≠ .root) : joinText p.parent.text p.basename = p.text := by
  cases p with
  | root => exact absurd rfl h
  | child parent name => exact joinText_text parent name

/-- **The name of a path, from its text.** -/
theorem nameText_text (p : Path) : nameText p.text = p.basename := by
  cases p with
  | root => rfl
  | child parent name =>
    rw [nameText, reverse_text_child, List.takeWhile_append_of_pos (ne_separator_of_mem_reverse name)]
    simp [basename]

theorem isNameText_basename {p : Path} (h : p ≠ .root) : IsNameText p.basename := by
  cases p with
  | root => exact absurd rfl h
  | child parent name => exact isNameText_iff.mpr name.valid

theorem text_eq_root_iff {p : Path} : p.text = "/" ↔ p = .root :=
  ⟨fun h => text_injective (h.trans rfl), fun h => h ▸ rfl⟩

end Path

/-- **A name in a directory is a path**, of that directory and that name. -/
theorem IsCanonical.exists_path {directory name : String} (hd : IsCanonical directory) (hname : IsNameText name) :
    ∃ p : Path, p ≠ .root ∧ p.text = joinText directory name ∧ p.parent.text = directory ∧ p.basename = name := by
  obtain ⟨-, d, -, rfl⟩ := hd
  have hvalid := isNameText_iff.mp hname
  exact ⟨.child d ⟨name, hvalid⟩, nofun, (Path.joinText_text d ⟨name, hvalid⟩).symm, rfl, rfl⟩

/-- **Texts of paths are cut and joined in one way.** The components of a path are its segments; joined one after another
from the root on, they make its text. But for the root, so do its parent, which has one segment less, and its name. A
canonical directory and a name make the text of a path with just that parent and that name. So the texts of paths but for
the root correspond to the pairs of a directory and a name. -/
theorem Path.splits_and_joins :
    (∀ text, IsCanonical text → ∃ p, parse text = .ok p ∧ p.text = text ∧
      p.components = "" :: (Text.segments text).map String.ofList ∧ p.components.tail.foldl joinText "/" = text ∧
      p.parent.text = parentText text ∧ p.basename = nameText text ∧
      (text ≠ "/" → joinText p.parent.text p.basename = text ∧ IsCanonical p.parent.text ∧
        (Text.segments text).length = (Text.segments p.parent.text).length + 1)) ∧
    (∀ directory name, IsCanonical directory → IsNameText name → ∃ p, parse (joinText directory name) = .ok p ∧
      p.text = joinText directory name ∧ p.parent.text = directory ∧ p.basename = name) ∧
    Set.BijOn (fun pair : String × String => joinText pair.1 pair.2) {pair | IsCanonical pair.1 ∧ IsNameText pair.2}
      {text | IsCanonical text ∧ text ≠ "/"} := by
  refine ⟨?_, fun directory name hd hname => ?_, ?_, ?_, ?_⟩
  · rintro text ⟨-, p, -, rfl⟩
    have hsegments : ∀ q : Path, q.segments = Text.segments q.text := fun q => segments_of_parse q.parse_text
    refine ⟨p, p.parse_text, rfl, hsegments p ▸ p.components_eq, ?_, p.parentText_text.symm, p.nameText_text.symm,
      fun hroot => ?_⟩
    · rw [components_eq]
      exact p.foldl_joinText_segments
    · have hne : p ≠ .root := text_eq_root_iff.not.mp hroot
      rw [← hsegments, ← hsegments]
      exact ⟨joinText_parent hne, p.parent.isCanonical_text, length_segments hne⟩
  · obtain ⟨p, -, htext, hparent, hbase⟩ := hd.exists_path hname
    exact ⟨p, htext ▸ p.parse_text, htext, hparent, hbase⟩
  · rintro ⟨directory, name⟩ ⟨hd, hname⟩
    obtain ⟨p, hne, htext, -⟩ := hd.exists_path hname
    exact ⟨⟨some p.text, p, p.parse_text, htext⟩, fun hroot => hne (text_eq_root_iff.mp (htext.trans hroot))⟩
  · rintro ⟨directory, name⟩ ⟨hd, hname⟩ ⟨directory', name'⟩ ⟨hd', hname'⟩ heq
    obtain ⟨p, -, htext, rfl, rfl⟩ := hd.exists_path hname
    obtain ⟨q, -, htext', rfl, rfl⟩ := hd'.exists_path hname'
    rw [text_injective (htext.trans (heq.trans htext'.symm))]
  · rintro text ⟨⟨-, p, -, rfl⟩, hroot⟩
    have hne : p ≠ .root := text_eq_root_iff.not.mp hroot
    exact ⟨(p.parent.text, p.basename), ⟨p.parent.isCanonical_text, isNameText_basename hne⟩, joinText_parent hne⟩

end ClusterBrowser
