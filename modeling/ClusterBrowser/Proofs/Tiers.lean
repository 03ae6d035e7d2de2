import ClusterBrowser.Browse.Entry
import Mathlib.Data.List.Forall2
import Mathlib.Data.List.Nodup

/-!
# Tiers of a block

The row of a block names every tier that holds a copy, each once and in the order in which the copies first name them.

* `ListsOnce`: names without repetition, in the order of their first occurrences.
* `ListsOnce.again`, `ListsOnce.snoc`: one more name, which has occurred before or has not.
* `ListsOnce.perm`: the same names in another order.
* `listsOnce_firstOccurrences`: what a run through names collects.
* `BlockView.Shows`: what the row of a block says of the copies.
* **`BlockView.shows_copies`**: there is one such row, and the order of the copies decides no more than its order.
-/

namespace ClusterBrowser

/-- The names, each once and in the order of their first occurrences. -/
structure ListsOnce (names listed : List String) : Prop where
  nodup : listed.Nodup
  mem_iff : ∀ name, name ∈ listed ↔ name ∈ names
  ordered : listed.Pairwise fun a b => names.idxOf a < names.idxOf b

/-- The tiers that the copies of a block name, one for each copy. -/
def BlockReport.tiers (report : BlockReport) : List String := report.block.replicas.map Replica.tier

/-- What the row of a block says: which tiers hold a copy, which host holds which, and whether the given tier is one of
those tiers. -/
structure BlockView.Shows (report : BlockReport) (highestTier : String) (view : BlockView) : Prop where
  id : view.id = report.block.id
  length : view.length = report.block.length
  offset : view.offset = report.offset
  tiers : ListsOnce report.tiers view.tiers
  hosts : List.Forall₂ (fun host (replica : Replica) => host = replica.address.host) view.hosts report.block.replicas
  inHighestTier : view.inHighestTier = true ↔ ∃ replica ∈ report.block.replicas, replica.tier = highestTier

/-! ## Names listed once -/

section ListsOnce

variable {names listed : List String} {name : String}

theorem listsOnce_nil : ListsOnce [] [] := ⟨List.nodup_nil, fun _ => Iff.rfl, List.Pairwise.nil⟩

namespace ListsOnce

theorem idxOf_append (h : ListsOnce names listed) (hname : name ∈ listed) (rest : List String) :
    (names ++ rest).idxOf name = names.idxOf name :=
  List.idxOf_append_of_mem ((h.mem_iff name).mp hname)

theorem ordered_append (h : ListsOnce names listed) (rest : List String) :
    listed.Pairwise fun a b => (names ++ rest).idxOf a < (names ++ rest).idxOf b := by
  refine h.ordered.imp_of_mem fun {a b} ha hb hab => ?_
  rw [h.idxOf_append ha, h.idxOf_append hb]
  exact hab

/-- **A name that is listed is not listed again.** -/
theorem again (h : ListsOnce names listed) (hname : name ∈ listed) : ListsOnce (names ++ [name]) listed where
  nodup := h.nodup
  mem_iff other := by
    rw [h.mem_iff, List.mem_append, List.mem_singleton]
    constructor
    · exact Or.inl
    · rintro (hother | rfl)
      · exact hother
      · exact (h.mem_iff other).mp hname
  ordered := h.ordered_append [name]

/-- **A name that is not listed is listed last.** -/
theorem snoc (h : ListsOnce names listed) (hname : name ∉ listed) :
    ListsOnce (names ++ [name]) (listed ++ [name]) where
  nodup := by
    rw [← List.concat_eq_append]
    exact h.nodup.concat hname
  mem_iff other := by simp [h.mem_iff]
  ordered := by
    -- It first occurs at the very end, and the others occur before.
    have hlast : (names ++ [name]).idxOf name = names.length := by
      rw [List.idxOf_append_of_notMem ((h.mem_iff name).not.mp hname)]
      simp
    rw [List.pairwise_append]
    refine ⟨h.ordered_append [name], List.pairwise_singleton _ name, fun other hother _ hmem => ?_⟩
    obtain rfl := List.mem_singleton.mp hmem
    rw [hlast, h.idxOf_append hother]
    exact List.idxOf_lt_length_of_mem ((h.mem_iff other).mp hother)

/-- The same names in another order make the same list, in another order at most. -/
theorem perm {names' listed' : List String} (h : ListsOnce names listed) (h' : ListsOnce names' listed')
    (hperm : names.Perm names') : listed.Perm listed' := by
  refine (List.perm_ext_iff_of_nodup h.nodup h'.nodup).mpr fun name => ?_
  rw [h.mem_iff, h'.mem_iff]
  exact hperm.mem_iff

theorem unique {listed' : List String} (h : ListsOnce names listed) (h' : ListsOnce names listed') :
    listed = listed' := by
  have hperm := h.perm h' (List.Perm.refl names)
  exact hperm.eq_of_pairwise (fun _ _ _ _ hab hba => (Nat.lt_asymm hab hba).elim) h.ordered h'.ordered

end ListsOnce

/-- **What a run through names collects.** If it starts with a list of the names so far, it ends with one of all names. -/
theorem listsOnce_firstOccurrences (h : ListsOnce names listed) (rest : List String) :
    ListsOnce (names ++ rest) (firstOccurrences listed rest) := by
  -- The names run through and what has been collected of them grow together, one name at a time.
  induction rest generalizing names listed with
  | nil => simpa only [List.append_nil, firstOccurrences] using h
  | cons name rest ih =>
    rw [firstOccurrences, List.append_cons]
    apply ih
    by_cases hname : name ∈ listed
    · rw [if_pos (List.contains_iff_mem.mpr hname)]
      exact h.again hname
    · rw [if_neg (List.contains_iff_mem.not.mpr hname)]
      exact h.snoc hname

end ListsOnce

/-! ## Rows of blocks -/

namespace BlockView

variable {report report' : BlockReport} {highestTier : String} {view view' : BlockView}

theorem listsOnce_ofReport (report : BlockReport) (highestTier : String) :
    ListsOnce report.tiers (ofReport report highestTier).tiers :=
  listsOnce_firstOccurrences listsOnce_nil report.tiers

theorem shows_ofReport (report : BlockReport) (highestTier : String) :
    (ofReport report highestTier).Shows report highestTier where
  id := rfl
  length := rfl
  offset := rfl
  tiers := listsOnce_ofReport report highestTier
  hosts := by
    rw [ofReport, List.forall₂_map_left_iff]
    exact List.forall₂_same.mpr fun _ _ => rfl
  inHighestTier := by
    have hcontains : (ofReport report highestTier).inHighestTier = true ↔
        highestTier ∈ (ofReport report highestTier).tiers := List.contains_iff_mem
    rw [hcontains, (listsOnce_ofReport report highestTier).mem_iff, BlockReport.tiers, List.mem_map]

theorem Shows.hosts_eq (h : view.Shows report highestTier) :
    view.hosts = report.block.replicas.map (·.address.host) := by
  rw [← List.forall₂_eq_eq_eq, List.forall₂_map_right_iff]
  exact h.hosts

theorem Shows.unique (h : view.Shows report highestTier) (h' : view'.Shows report highestTier) : view = view' := by
  cases view
  cases view'
  rw [BlockView.mk.injEq]
  exact ⟨h.id.trans h'.id.symm, h.length.trans h'.length.symm, h.offset.trans h'.offset.symm, h.tiers.unique h'.tiers,
    h.hosts_eq.trans h'.hosts_eq.symm, Bool.eq_iff_iff.mpr (h.inHighestTier.trans h'.inHighestTier.symm)⟩

theorem Shows.of_perm (h : view.Shows report highestTier) (h' : view'.Shows report' highestTier)
    (hperm : report'.block.replicas.Perm report.block.replicas) :
    view'.tiers.Perm view.tiers ∧ view'.inHighestTier = view.inHighestTier := by
  refine ⟨h'.tiers.perm h.tiers (hperm.map Replica.tier), ?_⟩
  rw [Bool.eq_iff_iff, h'.inHighestTier, h.inHighestTier]
  simp only [hperm.mem_iff]

/-- **The row of a block says where its copies are.** It is the only row that names the tiers of the copies, each once
and in the order of their first occurrences, and the host of each copy, and tells whether some copy is in the given tier.
Copies in another order give the same tiers, in another order at most, and the same answer about the given one. -/
theorem shows_copies (report : BlockReport) (highestTier : String) :
    (∀ view, ofReport report highestTier = view ↔ view.Shows report highestTier) ∧
    ∀ report' : BlockReport, report'.block.replicas.Perm report.block.replicas →
      (ofReport report' highestTier).tiers.Perm (ofReport report highestTier).tiers ∧
      (ofReport report' highestTier).inHighestTier = (ofReport report highestTier).inHighestTier := by
  refine ⟨fun view => ?_, fun report' hperm => ?_⟩
  · constructor
    · rintro rfl
      exact shows_ofReport report highestTier
    · exact (shows_ofReport report highestTier).unique
  · exact (shows_ofReport report highestTier).of_perm (shows_ofReport report' highestTier) hperm

/-- Five copies in three tiers, on four hosts. -/
def fiveCopies : List Replica :=
  [{ address := { host := "a" }, tier := "SSD" }, { address := { host := "b" }, tier := "MEM" },
    { address := { host := "a" }, tier := "SSD" }, { address := { host := "c" }, tier := "HDD" },
    { address := { host := "d" }, tier := "MEM" }]

/-- Five copies, in their order and in the opposite one. -/
theorem shows_copies_fiveCopies : ∃ report report' : BlockReport,
    report.block.replicas = fiveCopies ∧ report'.block.replicas.Perm report.block.replicas ∧
    (ofReport report "MEM").Shows report "MEM" ∧
    (ofReport report "MEM").tiers = ["SSD", "MEM", "HDD"] ∧ (ofReport report' "MEM").tiers = ["MEM", "HDD", "SSD"] ∧
    (ofReport report' "MEM").tiers.Perm (ofReport report "MEM").tiers ∧
    (ofReport report' "MEM").inHighestTier = (ofReport report "MEM").inHighestTier := by
  let report : BlockReport := { block := { id := 1, replicas := fiveCopies } }
  let report' : BlockReport := { block := { id := 1, replicas := fiveCopies.reverse } }
  have hperm : report'.block.replicas.Perm report.block.replicas := List.reverse_perm fiveCopies
  obtain ⟨hrow, hother⟩ := shows_copies report "MEM"
  obtain ⟨htiers, hhighest⟩ := hother report' hperm
  exact ⟨report, report', rfl, hperm, (hrow _).mp rfl, by decide, by decide, htiers, hhighest⟩

end BlockView

end ClusterBrowser
