import ClusterBrowser.Proofs.Coherence
import ClusterBrowser.Proofs.Effects

/-!
# Browsable namespaces

Whoever starts at the root and follows the listings finds all that there is, as long as no file stands above anything.

* `Cluster.IsBrowsable`: every path that a cluster tells of is found from the root on.
* `Namespace.FilesAreLeaves`: there is nothing below a file.
* **`Namespace.Reachable.isBrowsable_iff`**: a namespace is browsable exactly if its files are leaves.
* `PopulationCall.Buries`: a call makes something below a file, or a file above something.
* `Namespace.IsTree.filesAreLeaves_perform_iff`: a call keeps the files leaves exactly if it buries nothing.
* **`Namespace.isBrowsable_after_iff`**: a namespace is browsable exactly if no call of its history buried something.
-/

namespace ClusterBrowser

/-! ## Finding paths -/

namespace Cluster

variable {σ : Type} (c : Cluster σ) (s : σ)

/-- The cluster tells the attributes of a path. -/
def Resolves (p : Path) : Prop := ∃ info t, (c.status p.text).exec s = (.ok info, t)

/-- The cluster tells of a directory. -/
def HasFolder (p : Path) : Prop := ∃ info t, (c.status p.text).exec s = (.ok info, t) ∧ info.folder = true

/-- The listing of a path has an entry for another one. -/
def Lists (p q : Path) : Prop :=
  ∃ infos t, (c.list p.text).exec s = (.ok infos, t) ∧ ∃ info ∈ infos, info.path = q.text

variable {c s}

theorem Lists.text_mem {p q : Path} {texts : List String} (h : c.Lists s p q)
    (hlisted : ((c.list p.text).exec s).1.map (List.map FileInfo.path) = .ok texts) : q.text ∈ texts := by
  obtain ⟨infos, t, hinfos, info, hinfo, hpath⟩ := h
  rw [hinfos] at hlisted
  rw [← Except.ok.inj hlisted, ← hpath]
  exact List.mem_map_of_mem hinfo

variable (c s)

/-- Every path that the cluster tells of lies below directories, is listed by the last of them, and so is found from the
root on. -/
structure IsBrowsable : Prop where
  folders : ∀ p, c.Resolves s p → ∀ a ∈ p.ancestors, c.HasFolder s a
  listed : ∀ p, p ≠ .root → c.Resolves s p → c.Lists s p.parent p
  found : ∀ p, c.Resolves s p → Relation.ReflTransGen (c.Lists s) .root p

end Cluster

namespace Namespace

variable {ns : Namespace} {clocks : Clock → Prop} {calls : PopulationCall → Prop}

/-- There is nothing below a file. -/
def FilesAreLeaves (ns : Namespace) : Prop :=
  ∀ p, ns.contains p = true → ∀ a ∈ p.ancestors, ns.hasFile a = false

section

variable (h : Reachable clocks calls ns) (hdeny : ∀ raw, ¬ calls (.deny raw)) (masterAddress : String)
  (tiers : List String)
include h hdeny

theorem Reachable.resolves_iff {p : Path} : (cluster masterAddress tiers).Resolves ns p ↔ ns.contains p = true := by
  constructor
  · rintro ⟨info, t, hstatus⟩
    obtain ⟨node, hp, -⟩ := find?_of_exec_status hstatus
    exact contains_of_find? hp
  · intro hp
    obtain ⟨node, hp⟩ := find?_of_contains hp
    exact ⟨node.info, ns, h.exec_status hdeny hp masterAddress tiers⟩

theorem Reachable.hasFolder_iff {p : Path} :
    (cluster masterAddress tiers).HasFolder ns p ↔ ns.contains p = true ∧ ns.hasFile p = false := by
  constructor
  · rintro ⟨info, t, hstatus, hfolder⟩
    obtain ⟨node, hp, rfl⟩ := find?_of_exec_status hstatus
    rw [hasFile_of_find? hp, hfolder]
    exact ⟨contains_of_find? hp, rfl⟩
  · rintro ⟨hp, hfile⟩
    obtain ⟨node, hp⟩ := find?_of_contains hp
    rw [hasFile_of_find? hp, Bool.not_eq_false'] at hfile
    exact ⟨node.info, ns, h.exec_status hdeny hp masterAddress tiers, hfile⟩

theorem Reachable.lists_child {p : Path} {name : Name} (hp : ns.contains p = true) (hfile : ns.hasFile p = false)
    (hchild : ns.contains (.child p name) = true) : (cluster masterAddress tiers).Lists ns p (.child p name) := by
  obtain ⟨node, hp⟩ := find?_of_contains hp
  rw [hasFile_of_find? hp, Bool.not_eq_false'] at hfile
  have hmem := (h.mem_paths_children hp hfile).mpr ⟨.child p name, hchild, nofun, rfl, rfl⟩
  obtain ⟨info, hinfo, hpath⟩ := List.mem_map.mp hmem
  exact ⟨ns.children node, ns, h.exec_list hdeny hp masterAddress tiers, info, hinfo, hpath⟩

/-- **A namespace is browsable exactly if its files are leaves.** -/
theorem Reachable.isBrowsable_iff : (cluster masterAddress tiers).IsBrowsable ns ↔ ns.FilesAreLeaves := by
  constructor
  · intro hbrowsable p hp a ha
    have hresolves := (h.resolves_iff hdeny masterAddress tiers).mpr hp
    exact ((h.hasFolder_iff hdeny masterAddress tiers).mp (hbrowsable.folders p hresolves a ha)).2
  · intro hleaves
    have hlists : ∀ p name, ns.contains (.child p name) = true →
        (cluster masterAddress tiers).Lists ns p (.child p name) := by
      intro p name hchild
      have hfile := hleaves _ hchild p (Path.mem_ancestors_child.mpr (.inr rfl))
      exact h.lists_child hdeny masterAddress tiers (h.isTree.parent _ hchild) hfile hchild
    refine ⟨?_, ?_, ?_⟩
    · intro p hp a ha
      rw [h.resolves_iff hdeny] at hp
      rw [h.hasFolder_iff hdeny]
      exact ⟨h.isTree.contains_ancestor hp ha, hleaves p hp a ha⟩
    · intro p hroot hp
      rw [h.resolves_iff hdeny] at hp
      obtain ⟨name, heq⟩ := Path.eq_child_of_ne_root hroot
      rw [heq] at hp ⊢
      exact hlists _ _ hp
    · intro p hp
      rw [h.resolves_iff hdeny] at hp
      induction p with
      | root => exact .refl
      | child parent name ih => exact (ih (h.isTree.parent _ hp)).tail (hlists parent name hp)

end

end Namespace

/-! ## Calls that bury -/

/-- A call makes something below a file, or a file above something. -/
def PopulationCall.Buries (call : PopulationCall) (ns : Namespace) : Prop :=
  ∃ p, call.target ns = some p ∧
    ((∃ a ∈ p.ancestors, ns.hasFile a = true) ∨
      (call.makesFile = true ∧ ∃ q, ns.contains q = true ∧ p ∈ q.ancestors))

theorem PopulationCall.buries_iff {call : PopulationCall} {ns : Namespace} {p : Path}
    (htarget : call.target ns = some p) :
    call.Buries ns ↔ (∃ a ∈ p.ancestors, ns.hasFile a = true) ∨
      (call.makesFile = true ∧ ∃ q ∈ ns.nodes.keys, p ∈ q.ancestors) := by
  simp only [Buries, htarget, Option.some.injEq, exists_eq_left', Namespace.contains_iff_mem_keys]

instance (call : PopulationCall) (ns : Namespace) : Decidable (call.Buries ns) :=
  match htarget : call.target ns with
  | none => .isFalse fun ⟨_, hp, _⟩ => nomatch htarget.symm.trans hp
  | some _ => decidable_of_iff _ (PopulationCall.buries_iff htarget).symm

namespace Namespace

variable {ns : Namespace}

/-- **After a call the files are leaves exactly if they were so before, and the call buried nothing.** -/
theorem IsTree.filesAreLeaves_perform_iff (h : ns.IsTree) (call : PopulationCall) :
    (call.perform ns).FilesAreLeaves ↔ ns.FilesAreLeaves ∧ ¬ call.Buries ns := by
  have hcontains := h.contains_perform call
  have hfile := hasFile_perform call ns
  constructor
  · intro hafter
    -- What was there before is there still, and so are the files.
    have hbefore : ∀ q, (call.perform ns).contains q = true → ∀ a ∈ q.ancestors,
        ¬ (ns.hasFile a = true ∨ (call.makesFile = true ∧ call.target ns = some a)) := by
      intro q hq a ha hf
      have habsent := hafter q hq a ha
      rw [(hfile a).mpr hf] at habsent
      exact absurd habsent (by decide)
    refine ⟨?_, ?_⟩
    · intro q hq a ha
      rw [← Bool.not_eq_true]
      exact fun hf => hbefore q ((hcontains q).mpr (.inl hq)) a ha (.inl hf)
    · rintro ⟨p, htarget, ⟨a, ha, hf⟩ | ⟨hmakes, q, hq, hp⟩⟩
      · have hp : p ∈ p.lineage := Path.mem_lineage.mpr (.inr rfl)
        exact hbefore p ((hcontains p).mpr (.inr ⟨p, htarget, hp⟩)) a ha (.inl hf)
      · exact hbefore q ((hcontains q).mpr (.inl hq)) p hp (.inr ⟨hmakes, htarget⟩)
  · rintro ⟨hleaves, hburies⟩ q hq a ha
    rw [← Bool.not_eq_true, hfile]
    rcases (hcontains q).mp hq with hq | ⟨p, htarget, hq⟩
    · rintro (hf | ⟨hmakes, htarget⟩)
      · rw [hleaves q hq a ha] at hf
        exact nomatch hf
      · exact hburies ⟨a, htarget, .inr ⟨hmakes, q, hq, ha⟩⟩
    · -- An ancestor of something new is an ancestor of the target.
      have hp : a ∈ p.ancestors := by
        rcases Path.mem_lineage.mp hq with hq | rfl
        · exact Path.mem_ancestors_trans ha hq
        · exact ha
      rintro (hf | ⟨hmakes, htarget'⟩)
      · exact hburies ⟨p, htarget, .inl ⟨a, hp, hf⟩⟩
      · obtain rfl := Option.some.inj (htarget.symm.trans htarget')
        exact Path.not_mem_ancestors_self p hp

/-- No call of a history buries something. -/
def NeverBuries : Namespace → List (Clock × PopulationCall) → Prop
  | _, [] => True
  | ns, (clock, call) :: rest =>
    ¬ call.Buries { ns with clock } ∧ NeverBuries (call.perform { ns with clock }) rest

instance decidableNeverBuries : (ns : Namespace) → (history : List (Clock × PopulationCall)) →
    Decidable (NeverBuries ns history)
  | _, [] => .isTrue trivial
  | _, _ :: rest => @instDecidableAnd _ _ _ (decidableNeverBuries _ rest)

theorem IsTree.filesAreLeaves_after_iff (h : ns.IsTree) (history : List (Clock × PopulationCall)) :
    (ns.after history).FilesAreLeaves ↔ ns.FilesAreLeaves ∧ ns.NeverBuries history := by
  induction history generalizing ns with
  | nil => exact (and_iff_left trivial).symm
  | cons entry rest ih =>
    obtain ⟨clock, call⟩ := entry
    have htree : IsTree { ns with clock } := h.of_nodes_eq rfl
    have hclock : FilesAreLeaves { ns with clock } ↔ ns.FilesAreLeaves := Iff.rfl
    rw [after_cons, ih (htree.perform call), htree.filesAreLeaves_perform_iff call, hclock, NeverBuries, and_assoc]

theorem filesAreLeaves_of_empty {clock : Clock} (made : Namespace.empty clock = .ok ns) : ns.FilesAreLeaves := by
  obtain ⟨now, -, rfl⟩ := empty_eq_ok made
  intro p _ a _
  rw [hasFile_attach]
  split_ifs <;> rfl

/-- No call to deny something. -/
def DeniesNothing (call : PopulationCall) : Prop := ∀ raw, call ≠ .deny raw

theorem not_deniesNothing_deny (raw : String) : ¬ DeniesNothing (.deny raw) := fun h => h raw rfl

theorem reachable_after {clock : Clock} (made : Namespace.empty clock = .ok ns)
    {history : List (Clock × PopulationCall)} (allowed : ∀ entry ∈ history, DeniesNothing entry.2) :
    Reachable (fun _ => True) DeniesNothing (ns.after history) :=
  (Reachable.empty trivial made).after fun entry hentry => ⟨trivial, allowed entry hentry⟩

/-- **All that comes of a history is found from the root on exactly if no call of it buried something.** -/
theorem isBrowsable_after_iff {clock : Clock} (made : Namespace.empty clock = .ok ns)
    {history : List (Clock × PopulationCall)} (allowed : ∀ entry ∈ history, DeniesNothing entry.2)
    (masterAddress : String) (tiers : List String) :
    (cluster masterAddress tiers).IsBrowsable (ns.after history) ↔ ns.NeverBuries history := by
  have hnew : Reachable (fun _ => True) DeniesNothing ns := .empty trivial made
  have hafter := reachable_after made allowed
  rw [hafter.isBrowsable_iff not_deniesNothing_deny, hnew.isTree.filesAreLeaves_after_iff,
    and_iff_right (filesAreLeaves_of_empty made)]

/-- Calls that meet at the same paths and bury nothing; one of them fails for its clock, and one half-way. -/
def layering : List (Clock × PopulationCall) :=
  [(⟨some 0⟩, .addFile "/d/x/f" [104] {}), (⟨some 1⟩, .mkdir "/d//x" {}), (⟨none⟩, .addFile "/d" [] {}),
    (⟨some 2⟩, .addFile "/d/x/f" [105] { blockSize := 0 })]

/-- Calls that bury a directory under a file. -/
def overwriting : List (Clock × PopulationCall) :=
  [(⟨some 0⟩, .mkdir "/d/x" {}), (⟨some 0⟩, .addFile "/d" [104, 105] {})]

theorem isBrowsable_after_layering : ∃ ns, Namespace.empty ⟨some 0⟩ = .ok ns ∧
    (∀ entry ∈ layering, DeniesNothing entry.2) ∧ (cluster "" defaultTiers).IsBrowsable (ns.after layering) := by
  have made : Namespace.empty ⟨some 0⟩ = .ok (ensureDirectory 0 {} .root { clock := ⟨some 0⟩ }) := rfl
  have allowed : ∀ entry ∈ layering, DeniesNothing entry.2 := by simp [layering, DeniesNothing]
  have never : NeverBuries (ensureDirectory 0 {} .root { clock := ⟨some 0⟩ }) layering := by decide +kernel
  exact ⟨_, made, allowed, (isBrowsable_after_iff made allowed "" defaultTiers).mpr never⟩

/-- A file in the place of a directory hides what was in it: the listings lead from the root to the file and no
further. -/
theorem overwriting_hides : ∃ ns d x, Namespace.empty ⟨some 0⟩ = .ok ns ∧ Path.text d = "/d" ∧ Path.text x = "/d/x" ∧
    (cluster "" defaultTiers).Resolves (ns.after overwriting) x ∧
    ¬ (cluster "" defaultTiers).HasFolder (ns.after overwriting) d ∧
    ¬ (cluster "" defaultTiers).Lists (ns.after overwriting) d x ∧
    ¬ Relation.ReflTransGen ((cluster "" defaultTiers).Lists (ns.after overwriting)) .root x := by
  let ns : Namespace := ensureDirectory 0 {} .root { clock := ⟨some 0⟩ }
  let d : Path := .child .root ⟨"d", by decide⟩
  let x : Path := .child d ⟨"x", by decide⟩
  have made : Namespace.empty ⟨some 0⟩ = .ok ns := rfl
  have allowed : ∀ entry ∈ overwriting, DeniesNothing entry.2 := by simp [overwriting, DeniesNothing]
  have hns := reachable_after made allowed
  have hx : (ns.after overwriting).contains x = true := by decide +kernel
  have hd : ¬ ((ns.after overwriting).contains d = true ∧ (ns.after overwriting).hasFile d = false) := by decide +kernel
  -- The root lists the file, and the file lists itself.
  have hlisted : ∀ p ∈ [.root, d], (((cluster "" defaultTiers).list p.text).exec (ns.after overwriting)).1.map
      (List.map FileInfo.path) = .ok [d.text] := by decide +kernel
  have hlists : ∀ p ∈ [.root, d], ∀ q, (cluster "" defaultTiers).Lists (ns.after overwriting) p q → q = d :=
    fun p hp q hq => Path.text_injective (List.mem_singleton.mp (hq.text_mem (hlisted p hp)))
  have hfound : ∀ q, Relation.ReflTransGen ((cluster "" defaultTiers).Lists (ns.after overwriting)) .root q →
      q ∈ [.root, d] := by
    intro q hq
    induction hq with
    | refl => exact List.mem_cons_self
    | tail _ hnext ih =>
      rw [hlists _ ih _ hnext]
      exact List.mem_cons_of_mem _ List.mem_cons_self
  refine ⟨ns, d, x, made, by decide, by decide, ?_, ?_, ?_, ?_⟩
  · exact (hns.resolves_iff not_deniesNothing_deny "" defaultTiers).mpr hx
  · exact (hns.hasFolder_iff not_deniesNothing_deny "" defaultTiers).not.mpr hd
  · exact fun h => absurd (hlists d (by decide) x h) (by decide)
  · exact fun h => absurd (hfound x h) (by decide)

end Namespace

end ClusterBrowser
