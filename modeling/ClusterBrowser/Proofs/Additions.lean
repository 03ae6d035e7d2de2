import ClusterBrowser.Proofs.Browsable
import ClusterBrowser.Proofs.Denial

/-!
# What a call adds

A call that makes a directory or a file disturbs nothing else.

* `Namespace.missing`: the paths that a directory would be made at, the topmost first.
* `Namespace.Adds`: nodes have been made at some paths, one after another, and no other node is touched.
* `Namespace.Adds.attach`: one more node.
* **`Namespace.IsTree.adds_perform`**: all that a call does.
* `Namespace.KeepsRow`, `Namespace.ListsOn`: a listing that keeps its rows, and gains at most one at its end.
* `Namespace.AddsMissing`: what is told of a path before a call is told after it.
* **`Namespace.Reachable.addsMissing`**: a call adds what is missing of its path, and disturbs nothing else.
-/

namespace ClusterBrowser

theorem forall₂_filterMap_filterMap {α β γ : Type} {R : β → γ → Prop} {f : α → Option β} {g : α → Option γ} {xs : List α}
    (h : ∀ x ∈ xs, ∃ y z, f x = some y ∧ g x = some z ∧ R y z) : List.Forall₂ R (xs.filterMap f) (xs.filterMap g) := by
  induction xs with
  | nil => exact .nil
  | cons x xs ih =>
    obtain ⟨⟨y, z, hy, hz, hyz⟩, hxs⟩ := List.forall_mem_cons.mp h
    rw [List.filterMap_cons_some hy, List.filterMap_cons_some hz]
    exact .cons hyz (ih hxs)

namespace Namespace

variable {ns s t : Namespace}

/-! ## What is missing -/

/-- What is missing of a path and of its ancestors, the topmost first. -/
def missing (ns : Namespace) (p : Path) : List Path := p.lineage.filter fun a => !ns.contains a

theorem mem_missing {p a : Path} : a ∈ ns.missing p ↔ a ∈ p.lineage ∧ ns.contains a = false := by
  rw [missing, List.mem_filter, Bool.not_eq_true']

theorem IsTree.missing_of_contains (h : ns.IsTree) {p : Path} (hp : ns.contains p = true) : ns.missing p = [] := by
  refine List.eq_nil_iff_forall_not_mem.mpr fun a ha => ?_
  obtain ⟨hlineage, habsent⟩ := mem_missing.mp ha
  rw [h.contains_of_mem_lineage hp hlineage] at habsent
  exact nomatch habsent

theorem missing_child {parent : Path} {name : Name} (h : ns.contains (.child parent name) = false) :
    ns.missing (.child parent name) = ns.missing parent ++ [.child parent name] := by
  have hlineage : (Path.child parent name).lineage = parent.lineage ++ [.child parent name] := rfl
  rw [missing, hlineage, List.filter_append, List.filter_singleton, h]
  rfl

theorem IsTree.not_mem_missing_parent (h : ns.IsTree) (p : Path) : p ∉ ns.missing p.parent := by
  cases p with
  | root =>
    rw [Path.parent, h.missing_of_contains h.root]
    exact List.not_mem_nil
  | child parent name =>
    intro hmem
    obtain hancestor | hself := Path.mem_lineage.mp (mem_missing.mp hmem).1
    · exact Nat.not_lt.mpr (Nat.le_succ _) (Path.depth_lt_of_mem_ancestors hancestor)
    · exact ne_parent parent name hself.symm

/-- All missing paths but the topmost are right below another missing one. -/
theorem IsTree.missing_eq_nil_or_cons (h : ns.IsTree) (p : Path) :
    ns.missing p = [] ∨ ∃ top rest, ns.missing p = top :: rest ∧ ∀ a ∈ rest, ns.contains a.parent = false := by
  induction p with
  | root => exact .inl (h.missing_of_contains h.root)
  | child parent name ih =>
    cases hp : ns.contains (.child parent name) with
    | true => exact .inl (h.missing_of_contains hp)
    | false =>
      rw [missing_child hp]
      obtain hnone | ⟨top, rest, hmissing, hrest⟩ := ih
      · exact .inr ⟨_, [], by rw [hnone, List.nil_append], nofun⟩
      · refine .inr ⟨top, rest ++ [.child parent name], by rw [hmissing, List.cons_append], ?_⟩
        intro a ha
        obtain ha | ha := List.mem_append.mp ha
        · exact hrest a ha
        · obtain rfl := List.mem_singleton.mp ha
          rw [Path.parent, Bool.eq_false_iff]
          -- If the parent were there, nothing would be missing of it.
          intro hparent
          rw [h.missing_of_contains hparent] at hmissing
          cases hmissing

/-! ## Additions -/

/-- The names of children, under which a directory keeps them. -/
def asChildren (paths : List Path) : Table String Path := paths.map fun a => (a.basename, a)

theorem asChildren_append (paths others : List Path) :
    asChildren (paths ++ others) = asChildren paths ++ asChildren others := List.map_append

/-- Among the children of a directory, a path right below it is new if it is not there, and comes last then. -/
theorem Links.put_children {p : Path} {node : Node} (h : ns.Links p node) (hfolder : node.info.folder = true)
    (name : Name) : node.children.put name.text (.child p name) =
      if ns.contains (.child p name) then node.children else node.children ++ asChildren [.child p name] := by
  split_ifs with hchild
  · exact Table.put_of_mem h.nodup (h.all hfolder name hchild)
  · refine Table.put_of_not_mem_keys (fun hkey => hchild ?_) _
    obtain ⟨entry, hentry, hname⟩ := List.mem_map.mp hkey
    obtain ⟨other, rfl, hother⟩ := h.child entry hentry
    rwa [Name.ext hname] at hother

/-- Nodes have been made at some paths, one after another, in place of those that were there, and below others. -/
structure Adds (made : List Path) (s t : Namespace) : Prop where
  tree : t.IsTree
  keys : t.nodes.keys = s.nodes.keys ++ made.filter fun a => !s.contains a
  nextId : t.nextId = s.nextId + made.length
  ids : ∀ (i : ℕ) (a : Path), made[i]? = some a → ∃ node, t.find? a = some node ∧ node.info.id = (s.nextId + i : ℕ)
  denied : t.denied = s.denied
  opened : t.opened = s.opened
  kept : ∀ q old, s.find? q = some old → q ∉ made → ∃ children, t.find? q = some { old with children } ∧
    (old.info.folder = true →
      children = old.children ++ asChildren (made.filter fun a => !s.contains a && decide (a.parent = q)))

theorem IsTree.adds_refl (h : ns.IsTree) : Adds [] ns ns where
  tree := h
  keys := (List.append_nil _).symm
  nextId := rfl
  ids := nofun
  denied := rfl
  opened := rfl
  kept _ old hq _ := ⟨old.children, hq, fun _ => (List.append_nil _).symm⟩

theorem keys_attach_append (ns : Namespace) (p : Path) (node : Node) :
    (ns.attach p node).nodes.keys = ns.nodes.keys ++ if ns.contains p then [] else [p] := by
  rw [keys_attach, Table.keys_put]
  by_cases hp : p ∈ ns.nodes.keys
  · rw [if_pos hp, if_pos (contains_iff_mem_keys.mpr hp), List.append_nil]
  · rw [if_neg hp, if_neg (contains_iff_mem_keys.not.mpr hp)]

theorem opened_attach (ns : Namespace) (p : Path) (node : Node) : (ns.attach p node).opened = ns.opened := by
  cases p <;> rfl

section

variable {made : List Path} (h : Adds made s t)
include h

theorem Adds.contains (a : Path) : t.contains a = true ↔ s.contains a = true ∨ a ∈ made := by
  rw [contains_iff_mem_keys, h.keys, List.mem_append, List.mem_filter, contains_iff_mem_keys, Bool.not_eq_true',
    Bool.eq_false_iff, ne_eq, contains_iff_mem_keys]
  tauto

theorem Adds.contains_eq {a : Path} (ha : a ∉ made) : t.contains a = s.contains a := by
  rw [Bool.eq_iff_iff, h.contains, or_iff_left ha]

/-- **One more node**, which gets the next identity. -/
theorem Adds.attach {p : Path} {node : Node} (fresh : p ∉ made) (tree : (t.attach p node).IsTree)
    (numbered : node.info.id = (t.nextId : ℕ)) : Adds (made ++ [p]) s (t.attach p node) where
  tree := tree
  keys := by
    rw [keys_attach_append, h.keys, h.contains_eq fresh, List.filter_append, List.filter_singleton, List.append_assoc]
    cases s.contains p <;> rfl
  nextId := by
    rw [nextId_attach, h.nextId, List.length_append, List.length_singleton, Nat.add_assoc]
  ids := by
    intro i a ha
    rw [List.getElem?_append] at ha
    split_ifs at ha with hi
    · obtain ⟨old, hold, hid⟩ := h.ids i a ha
      have hne : p ≠ a := by
        rintro rfl
        exact fresh (List.mem_of_getElem? ha)
      have hfound := find?_attach t p node a
      rw [if_neg hne, hold, Option.map_some] at hfound
      exact ⟨_, hfound, hid⟩
    · obtain ⟨hzero, rfl⟩ : i - made.length = 0 ∧ p = a := by
        rw [List.getElem?_singleton] at ha
        split_ifs at ha with hzero
        exact ⟨hzero, Option.some.inj ha⟩
      refine ⟨node, find?_attach_self t p node, ?_⟩
      rw [numbered, h.nextId]
      congr 2
      omega
  denied := (denied_attach t p node).trans h.denied
  opened := (opened_attach t p node).trans h.opened
  kept := by
    intro q old hq hmade
    rw [List.mem_append, List.mem_singleton, not_or] at hmade
    obtain ⟨children, hold, hchildren⟩ := h.kept q old hq hmade.1
    have hfound := find?_attach t p node q
    rw [if_neg (Ne.symm hmade.2), hold, Option.map_some] at hfound
    refine ⟨_, hfound, fun hfolder => ?_⟩
    rw [List.filter_append, List.filter_singleton, asChildren_append, ← List.append_assoc, ← hchildren hfolder]
    by_cases hparent : p.parent = q
    · have hroot : p ≠ .root := fun hroot => hmade.2 (by rw [← hparent, hroot, Path.parent])
      obtain ⟨name, hp⟩ := Path.eq_child_of_ne_root hroot
      have hput := (h.tree.links q _ hold).put_children hfolder name
      rw [← hparent, ← hp] at hput
      have hname : p.basename = name.text := by rw [hp, Path.basename]
      simp only [hparent, if_true, decide_true, Bool.and_true]
      rw [hname, hput, h.contains_eq fresh]
      cases s.contains p with
      | true => exact (List.append_nil _).symm
      | false => rfl
    · simp [hparent, asChildren]

theorem Adds.put {p : Path} {node node' : Node} (hmade : p ∈ made) (hp : t.find? p = some node)
    (tree : IsTree { t with nodes := t.nodes.put p node' }) (same : node'.info.id = node.info.id) :
    Adds made s { t with nodes := t.nodes.put p node' } where
  tree := tree
  keys := by
    rw [← h.keys, Table.keys_put, if_pos (contains_iff_mem_keys.mp (contains_of_find? hp))]
  nextId := h.nextId
  ids := by
    intro i a ha
    obtain ⟨old, hold, hid⟩ := h.ids i a ha
    rw [find?_put]
    split_ifs with heq
    · rw [← heq, hp] at hold
      exact ⟨node', rfl, by rw [same, Option.some.inj hold, hid]⟩
    · exact ⟨old, hold, hid⟩
  denied := h.denied
  opened := h.opened
  kept := by
    intro q old hq hother
    have hne : p ≠ q := fun heq => hother (heq ▸ hmade)
    rw [find?_put, if_neg hne]
    exact h.kept q old hq hother

theorem Adds.withFile {p : Path} (fresh : p ∉ made) (placed : t.contains p.parent = true) (now : Int) (data : Bytes)
    (o : FileOptions) : Adds (made ++ [p]) s (t.withFile p now data o) := by
  have htree : (t.attach p (t.newFile p now data o)).IsTree := h.tree.attach placed rfl nofun
  have hmade := h.attach fresh htree rfl
  have hself := find?_attach_self t p (t.newFile p now data o)
  rw [Namespace.withFile]
  split_ifs
  · exact hmade
  · exact hmade.put (List.mem_append_right _ List.mem_cons_self) hself (htree.put hself rfl rfl) rfl

end

/-! ## Calls -/

theorem IsTree.adds_ensureDirectory (h : ns.IsTree) (now : Int) (o : DirectoryOptions) (p : Path) :
    Adds (ns.missing p) ns (Namespace.ensureDirectory now o p ns) := by
  induction p with
  | root =>
    rw [ensureDirectory_of_contains h.root, h.missing_of_contains h.root]
    exact h.adds_refl
  | child parent name ih =>
    have htree := h.ensureDirectory now o (.child parent name)
    cases hp : ns.contains (.child parent name) with
    | true =>
      rw [ensureDirectory_of_contains hp, h.missing_of_contains hp]
      exact h.adds_refl
    | false =>
      rw [ensureDirectory_child hp] at htree ⊢
      rw [missing_child hp]
      exact ih.attach (h.not_mem_missing_parent _) htree rfl

end Namespace

namespace PopulationCall

/-- The text that a call is given for its path. -/
def raw : PopulationCall → String
  | mkdir raw _ | addFile raw _ _ | deny raw => raw

/-- A call to make a file at a path. -/
def MakesFileAt (call : PopulationCall) (p : Path) : Prop := call.makesFile = true ∧ Path.parse call.raw = .ok p

theorem target_eq {call : PopulationCall} (denies : Namespace.DeniesNothing call) (ns : Namespace) :
    call.target ns = match Path.parse call.raw, ns.clock.millis with
      | .ok p, some _ => some p
      | _, _ => none := by
  cases call with
  | deny raw => exact absurd denies (Namespace.not_deniesNothing_deny raw)
  | mkdir raw o | addFile raw _ o => rfl

theorem parse_raw_of_target {call : PopulationCall} {ns : Namespace} {p : Path} (h : call.target ns = some p) :
    Path.parse call.raw = .ok p := by
  cases call with
  | deny raw => cases h
  | mkdir raw o | addFile raw _ o =>
    rw [target] at h
    split at h
    · next hp _ => exact hp.trans (congrArg _ (Option.some.inj h))
    · cases h

/-- The paths at which a call makes a node, in this order. A file is made anew also where there is one. -/
def made (call : PopulationCall) (ns : Namespace) : List Path :=
  match call.target ns with
  | none => []
  | some p => if call.makesFile then ns.missing p.parent ++ [p] else ns.missing p

/-- The paths that come to be there. -/
def created (call : PopulationCall) (ns : Namespace) : List Path :=
  match call.target ns with
  | none => []
  | some p => ns.missing p

variable {call : PopulationCall} {ns : Namespace}

theorem makesFileAt_of_mem_made {q : Path} (hmade : q ∈ call.made ns) (hq : ns.contains q = true) :
    call.MakesFileAt q := by
  have hmissing : ∀ p, q ∉ ns.missing p := fun p hmem => by
    rw [(Namespace.mem_missing.mp hmem).2] at hq
    exact nomatch hq
  rw [made] at hmade
  cases htarget : call.target ns with
  | none =>
    rw [htarget] at hmade
    exact nomatch hmade
  | some p =>
    rw [htarget] at hmade
    dsimp only at hmade
    split_ifs at hmade with hmakes
    · obtain hmem | hmem := List.mem_append.mp hmade
      · exact absurd hmem (hmissing _)
      · rw [List.mem_singleton.mp hmem]
        exact ⟨hmakes, parse_raw_of_target htarget⟩
    · exact absurd hmade (hmissing p)

theorem contains_of_mem_created {a : Path} (ha : a ∈ call.created ns) : ns.contains a = false := by
  rw [created] at ha
  cases htarget : call.target ns with
  | none =>
    rw [htarget] at ha
    exact nomatch ha
  | some p =>
    rw [htarget] at ha
    exact (Namespace.mem_missing.mp ha).2

/-- All that is made comes to be there, or a file is made in the place of what was there. -/
theorem made_cases (h : ns.IsTree) (call : PopulationCall) :
    call.made ns = call.created ns ∨ ∃ p, ns.contains p = true ∧ call.made ns = [p] ∧ call.created ns = [] := by
  rw [made, created]
  cases call.target ns with
  | none => exact .inl rfl
  | some p =>
    dsimp only
    split_ifs
    · cases hp : ns.contains p with
      | true =>
        have hparent := h.missing_of_contains (h.parent p hp)
        exact .inr ⟨p, hp, by rw [hparent, List.nil_append], h.missing_of_contains hp⟩
      | false =>
        have hroot : p ≠ .root := fun hroot => by simp [hroot, h.root] at hp
        obtain ⟨name, heq⟩ := Path.eq_child_of_ne_root hroot
        rw [heq] at hp
        rw [heq, Namespace.missing_child hp]
        exact .inl rfl
    · exact .inl rfl

theorem filter_made (h : ns.IsTree) (call : PopulationCall) :
    (call.made ns).filter (fun a => !ns.contains a) = call.created ns := by
  obtain hmade | ⟨p, hp, hmade, hcreated⟩ := made_cases h call
  · rw [hmade]
    exact List.filter_eq_self.mpr fun a ha => by rw [contains_of_mem_created ha, Bool.not_false]
  · rw [hmade, hcreated, List.filter_singleton, hp]
    rfl

/-- Only the topmost path that comes to be there is right below one that was there. -/
theorem filter_created (h : ns.IsTree) {q : Path} (hq : ns.contains q = true) :
    (call.created ns).filter (fun a => decide (a.parent = q)) =
      (call.created ns).head?.toList.filter (fun a => decide (a.parent = q)) := by
  rw [created]
  cases call.target ns with
  | none => rfl
  | some p =>
    obtain hnone | ⟨top, rest, hmissing, hrest⟩ := h.missing_eq_nil_or_cons p
    · simp [hnone]
    · have hbelow : rest.filter (fun a => decide (a.parent = q)) = [] := by
        refine List.filter_eq_nil_iff.mpr fun a ha hparent => ?_
        rw [← of_decide_eq_true hparent, hrest a ha] at hq
        exact nomatch hq
      simp [hmissing, List.filter_cons, hbelow]

end PopulationCall

namespace Namespace

variable {ns : Namespace}

theorem denied_perform {call : PopulationCall} (denies : DeniesNothing call) (ns : Namespace) :
    (call.perform ns).denied = ns.denied := by
  obtain ⟨-, -, raw, rfl⟩ | hsame | ⟨now, -, hedits⟩ := call.edits ns
  · exact absurd denies (not_deniesNothing_deny raw)
  · rw [hsame]
  · exact hedits.denied_eq

theorem perform_of_target_eq_none {call : PopulationCall} (denies : DeniesNothing call)
    (htarget : call.target ns = none) : call.perform ns = ns := by
  have hdenied := denied_perform denies ns
  obtain ⟨-, denied, hperform⟩ | ⟨_, _, _, hsome, -⟩ | ⟨_, _, _, _, hsome, -⟩ := perform_cases call ns
  · rw [hperform] at hdenied ⊢
    obtain rfl : denied = ns.denied := hdenied
    rfl
  · cases htarget.symm.trans hsome
  · cases htarget.symm.trans hsome

/-- **All that a call does**: it makes nodes with consecutive identities, and each directory above one of them has it for a
child. -/
theorem IsTree.adds_perform (h : ns.IsTree) {call : PopulationCall} (denies : DeniesNothing call) :
    Adds (call.made ns) ns (call.perform ns) := by
  obtain ⟨htarget, -⟩ | ⟨p, now, o, htarget, hmakes, hperform⟩ | ⟨p, now, data, o, htarget, hmakes, hperform⟩ :=
    perform_cases call ns
  · rw [perform_of_target_eq_none denies htarget, PopulationCall.made, htarget]
    exact h.adds_refl
  · rw [hperform, PopulationCall.made, htarget, hmakes]
    exact h.adds_ensureDirectory now o p
  · rw [hperform, PopulationCall.made, htarget, hmakes]
    exact (h.adds_ensureDirectory now {} p.parent).withFile (h.not_mem_missing_parent p)
      (contains_ensureDirectory_self now {} p.parent ns) now data o

/-! ## What is told alike -/

/-- An inquiry after the attributes, the blocks or the bytes of some paths, or one into files that are open already. -/
def Inquiry.IsAbout (told : Path → Prop) : Inquiry → Prop
  | .status raw | .blocks raw | .openFile raw _ => ∃ q, Path.parse raw = .ok q ∧ told q
  | .list _ | .browse .. => False
  | .tiers | .skip .. | .read .. | .close _ => True

/-- Two states that have opened the same files, and have the same nodes at some paths, their children apart. -/
structure TellAlike (told : Path → Prop) (s t : Namespace) : Prop where
  opened : s.opened = t.opened
  denied : s.denied = t.denied
  kept : ∀ q, told q → ∃ node children, s.find? q = some node ∧ t.find? q = some { node with children }

open Bond

section

variable {told : Path → Prop}

theorem sharesOpened_tellAlike : SharesOpened (TellAlike told) where
  opened h := h.opened
  setOpened h _ := ⟨rfl, h.denied, h.kept⟩

theorem relates_visit_told {raw : String} {q : Path} (hraw : Path.parse raw = .ok q) (hq : told q) :
    (lockstep (TellAlike told)).Relates (fun x y => ∃ children, y = { x with children }) (visit raw) (visit raw) := by
  intro s t h
  obtain ⟨node, children, hs, ht⟩ := h.kept q hq
  rw [exec_visit, exec_visit, answer, answer, lookup, lookup, hraw, h.denied]
  dsimp only
  rw [hs, ht]
  split
  · exact .reported h
  · exact .ok ⟨children, rfl⟩ h

variable (masterAddress : String) (tiers : List String)

/-- **An inquiry that is not about children is answered alike.** -/
theorem relates_ask_told {inquiry : Inquiry} (about : inquiry.IsAbout told) :
    (lockstep (TellAlike told)).Relates Eq (inquiry.ask masterAddress tiers) (inquiry.ask masterAddress tiers) := by
  have hshares : SharesOpened (TellAlike told) := sharesOpened_tellAlike
  cases inquiry with
  | status raw =>
    obtain ⟨q, hraw, hq⟩ := about
    refine (relates_visit_told hraw hq).bind fun node node' ⟨children, hnode⟩ => .pure ?_
    rw [hnode]
  | blocks raw =>
    obtain ⟨q, hraw, hq⟩ := about
    refine (relates_visit_told hraw hq).bind fun node node' ⟨children, hnode⟩ => .pure ?_
    rw [hnode]
  | openFile raw mode =>
    obtain ⟨q, hraw, hq⟩ := about
    have hvisited := (relates_visit_told hraw hq).mono fun node node' ⟨children, hnode⟩ =>
      show node.info = node'.info ∧ node.data = node'.data from ⟨by rw [hnode], by rw [hnode]⟩
    refine (hshares.relates_openFile hvisited).mono ?_
    rintro x y ⟨i, rfl, rfl⟩
    rfl
  | list raw => exact about.elim
  | browse b req => exact about.elim
  | tiers => exact .pure rfl
  | skip file n => exact (hshares.sameFile_stream file).skip n
  | read file n => exact (hshares.sameFile_stream file).read n
  | close file => exact (hshares.sameFile_stream file).close

end

/-! ## Listings -/

/-- What the listing of a directory gains: the topmost of the paths that come to be there, if that is right below it. -/
inductive Gains (after : Namespace) (created : List Path) (q : Path) : List FileInfo → Prop
  | nothing (elsewhere : ∀ top ∈ created.head?, top.parent ≠ q) : Gains after created q []
  | topmost {top : Path} {node : Node} (first : created.head? = some top) (below : top.parent = q)
    (found : after.find? top = some node) : Gains after created q [node.info]

/-- A row stays as it is, unless the call makes a file at its path. -/
def KeepsRow (call : PopulationCall) (info info' : FileInfo) : Prop :=
  info' = info ∨ ∃ p, call.MakesFileAt p ∧ info.path = p.text ∧ info'.path = p.text

/-- How a listing goes on after a call: it is refused as before, a file stands for itself as before, and the listing of a
directory keeps its rows in their order and may gain one at its end. -/
inductive ListsOn (call : PopulationCall) (before after : Namespace) (q : Path) :
    Except Failure (List FileInfo) → Except Failure (List FileInfo) → Prop
  | refused (f : Failure) : ListsOn call before after q (.error f) (.error f)
  | file {info : FileInfo} (isFile : before.hasFile q = true) : ListsOn call before after q (.ok [info]) (.ok [info])
  | directory {infos kept gained : List FileInfo} (isFolder : before.hasFile q = false)
    (rows : List.Forall₂ (KeepsRow call) infos kept) (gains : Gains after (call.created before) q gained) :
    ListsOn call before after q (.ok infos) (.ok (kept ++ gained))

section

variable {call : PopulationCall} {q : Path}

theorem not_mem_made (hq : ns.contains q = true) (other : ¬ call.MakesFileAt q) : q ∉ call.made ns :=
  fun hmade => other (PopulationCall.makesFileAt_of_mem_made hmade hq)

/-- The topmost path that comes to be there, if that is right below `q`. -/
def newChildren (call : PopulationCall) (ns : Namespace) (q : Path) : Table String Path :=
  asChildren ((call.created ns).head?.toList.filter fun a => decide (a.parent = q))

theorem IsTree.find?_perform_folder (h : ns.IsTree) (denies : DeniesNothing call) (other : ¬ call.MakesFileAt q)
    {node : Node} (hq : ns.find? q = some node) (hfolder : node.info.folder = true) :
    (call.perform ns).find? q = some { node with children := node.children ++ newChildren call ns q } := by
  have hcontains := contains_of_find? hq
  obtain ⟨children, hfound, hchildren⟩ := (h.adds_perform denies).kept q node hq (not_mem_made hcontains other)
  have hnew : (call.made ns).filter (fun a => !ns.contains a && decide (a.parent = q)) =
      (call.created ns).head?.toList.filter fun a => decide (a.parent = q) := by
    rw [← PopulationCall.filter_created h hcontains, ← PopulationCall.filter_made h call, List.filter_filter]
    simp only [Bool.and_comm]
  rw [hfound, hchildren hfolder, hnew, newChildren]

theorem IsTree.keepsRow_perform (h : ns.IsTree) (denies : DeniesNothing call)
    (sound : ∀ p node, ns.find? p = some node → node.info.path = p.text)
    (sound' : ∀ p node, (call.perform ns).find? p = some node → node.info.path = p.text)
    (hq : ns.contains q = true) :
    ∃ info info', (ns.find? q).map Node.info = some info ∧ ((call.perform ns).find? q).map Node.info = some info' ∧
      KeepsRow call info info' := by
  have hadds := h.adds_perform denies
  obtain ⟨node, hnode⟩ := find?_of_contains hq
  by_cases hmade : q ∈ call.made ns
  · obtain ⟨node', hnode'⟩ := find?_of_contains ((hadds.contains q).mpr (.inl hq))
    have hmakes := PopulationCall.makesFileAt_of_mem_made hmade hq
    exact ⟨node.info, node'.info, by rw [hnode]; rfl, by rw [hnode']; rfl,
      .inr ⟨q, hmakes, sound q node hnode, sound' q node' hnode'⟩⟩
  · obtain ⟨children, hfound, -⟩ := hadds.kept q node hnode hmade
    exact ⟨node.info, node.info, by rw [hnode]; rfl, by rw [hfound]; rfl, .inl rfl⟩

theorem IsTree.gains_perform (h : ns.IsTree) (denies : DeniesNothing call) (q : Path) :
    Gains (call.perform ns) (call.created ns) q
      ((newChildren call ns q).filterMap fun (_, p) => ((call.perform ns).find? p).map Node.info) := by
  rw [newChildren]
  cases hfirst : (call.created ns).head? with
  | none =>
    refine .nothing ?_
    rw [hfirst]
    exact nofun
  | some top =>
    by_cases hbelow : top.parent = q
    · have hmade : top ∈ call.made ns := by
        have hcreated := List.mem_of_head? hfirst
        rw [← PopulationCall.filter_made h call] at hcreated
        exact (List.mem_filter.mp hcreated).1
      obtain ⟨node, hnode⟩ := find?_of_contains (((h.adds_perform denies).contains top).mpr (.inr hmade))
      simp only [Option.toList_some, List.filter_singleton, hbelow, decide_true, cond_true, asChildren, List.map_cons,
        List.map_nil, List.filterMap_cons, List.filterMap_nil, hnode, Option.map_some]
      exact .topmost hfirst hbelow hnode
    · have hnone : [top].filter (fun a => decide (a.parent = q)) = [] := by simp [hbelow]
      rw [Option.toList_some, hnone]
      refine .nothing ?_
      rw [hfirst]
      rintro _ ⟨⟩
      exact hbelow

theorem IsTree.listsOn_perform (h : ns.IsTree) (denies : DeniesNothing call)
    (sound : ∀ p node, ns.find? p = some node → node.info.path = p.text)
    (sound' : ∀ p node, (call.perform ns).find? p = some node → node.info.path = p.text)
    (hq : ns.contains q = true) (other : ¬ call.MakesFileAt q) {raw : String} (hraw : Path.parse raw = .ok q)
    (masterAddress : String) (tiers : List String) :
    ListsOn call ns (call.perform ns) q (((cluster masterAddress tiers).list raw).exec ns).1
      (((cluster masterAddress tiers).list raw).exec (call.perform ns)).1 := by
  obtain ⟨node, hnode⟩ := find?_of_contains hq
  have hadds := h.adds_perform denies
  obtain ⟨children, hfound, -⟩ := hadds.kept q node hnode (not_mem_made hq other)
  rw [exec_list, exec_list, answer, answer, lookup, lookup, hraw, denied_perform denies]
  dsimp only
  rw [hnode, hfound]
  split
  · exact .refused _
  by_cases hfolder : node.info.folder = true
  · rw [h.find?_perform_folder denies other hnode hfolder] at hfound
    obtain rfl : node.children ++ newChildren call ns q = children := congrArg Node.children (Option.some.inj hfound)
    have hfile : ns.hasFile q = false := by rw [hasFile_of_find? hnode, hfolder, Bool.not_true]
    have hrows : ∀ entry ∈ node.children, ∃ info info', (ns.find? entry.2).map Node.info = some info ∧
        ((call.perform ns).find? entry.2).map Node.info = some info' ∧ KeepsRow call info info' := by
      intro entry hentry
      obtain ⟨name, rfl, hchild⟩ := (h.links q node hnode).child entry hentry
      exact h.keepsRow_perform denies sound sound' hchild
    change ListsOn call ns (call.perform ns) q (.ok (ns.children node)) (.ok ((call.perform ns).children _))
    rw [Namespace.children, Namespace.children, if_pos hfolder, if_pos hfolder, List.filterMap_append]
    exact .directory hfile (forall₂_filterMap_filterMap hrows) (h.gains_perform denies q)
  · have hfile : ns.hasFile q = true := by rw [hasFile_of_find? hnode, Bool.eq_false_iff.mpr hfolder, Bool.not_false]
    change ListsOn call ns (call.perform ns) q (.ok (ns.children node)) (.ok ((call.perform ns).children _))
    rw [Namespace.children, Namespace.children, if_neg hfolder, if_neg hfolder]
    exact .file hfile

end

/-! ## All that a call does -/

/-- A call adds what is missing of its path, and disturbs nothing else. -/
structure AddsMissing (call : PopulationCall) (before after : Namespace) : Prop where
  /-- All that is told of what was there, but for what is told of children and for a file that is made anew. -/
  told : ∀ (masterAddress : String) (tiers : List String) (inquiries : List Inquiry),
    (∀ inquiry ∈ inquiries, inquiry.IsAbout fun q => before.contains q = true ∧ ¬ call.MakesFileAt q) →
    inquire masterAddress tiers inquiries before = inquire masterAddress tiers inquiries after
  lists : ∀ (masterAddress : String) (tiers : List String) (raw : String) (q : Path), Path.parse raw = .ok q →
    before.contains q = true → ¬ call.MakesFileAt q →
    ListsOn call before after q (((cluster masterAddress tiers).list raw).exec before).1
      (((cluster masterAddress tiers).list raw).exec after).1
  keys : after.nodes.keys = before.nodes.keys ++ call.created before
  ids : ∀ (i : ℕ) (a : Path), (call.created before)[i]? = some a →
    ∃ node, after.find? a = some node ∧ node.info.id = (before.nextId + i : ℕ)
  missing : ∀ p, Path.parse call.raw = .ok p → call.created before = before.missing p
  unchanged : (∃ e, Path.parse call.raw = .error e) ∨
    (call.makesFile = false ∧ ∃ p, Path.parse call.raw = .ok p ∧ before.contains p = true) → after = before

variable {clocks : Clock → Prop} {calls : PopulationCall → Prop} {call : PopulationCall}

theorem perform_eq_self (denies : DeniesNothing call)
    (idle : (∃ e, Path.parse call.raw = .error e) ∨
      (call.makesFile = false ∧ ∃ p, Path.parse call.raw = .ok p ∧ ns.contains p = true)) : call.perform ns = ns := by
  obtain ⟨e, hraw⟩ | ⟨hmakes, p, hraw, hp⟩ := idle
  · have htarget := PopulationCall.target_eq denies ns
    rw [hraw] at htarget
    exact perform_of_target_eq_none denies htarget
  · obtain ⟨hnone, -⟩ | ⟨p', now, o, hsome, -, hperform⟩ | ⟨-, -, -, -, -, hfile, -⟩ := perform_cases call ns
    · exact perform_of_target_eq_none denies hnone
    · obtain rfl := Except.ok.inj (hraw.symm.trans (PopulationCall.parse_raw_of_target hsome))
      rw [hperform, ensureDirectory_of_contains hp]
    · exact nomatch hmakes.symm.trans hfile

/-- **A call adds what is missing of its path, and disturbs nothing else**, whatever time the clock shows, and also if it
fails. -/
theorem Reachable.addsMissing (h : Reachable clocks calls ns) (now : Int) (denies : DeniesNothing call) :
    AddsMissing call { ns with clock := ⟨some now⟩ } (call.perform { ns with clock := ⟨some now⟩ }) := by
  have htree : IsTree { ns with clock := ⟨some now⟩ } := h.isTree.of_nodes_eq rfl
  have hadds := htree.adds_perform denies
  have hafter : Reachable (fun _ => True) (fun _ => True) (call.perform { ns with clock := ⟨some now⟩ }) :=
    (h.mono (fun _ _ => trivial) fun _ _ => trivial).call trivial trivial
  refine ⟨?_, ?_, ?_, ?_, ?_, perform_eq_self denies⟩
  · intro masterAddress tiers inquiries about
    refine inquire_eq_of_relates masterAddress tiers ?_ fun inquiry hinquiry =>
      relates_ask_told masterAddress tiers (about inquiry hinquiry)
    refine ⟨hadds.opened.symm, hadds.denied.symm, ?_⟩
    rintro q ⟨hq, hother⟩
    obtain ⟨node, hnode⟩ := find?_of_contains hq
    obtain ⟨children, hfound, -⟩ := hadds.kept q node hnode (not_mem_made hq hother)
    exact ⟨node, children, hnode, hfound⟩
  · intro masterAddress tiers raw q hraw hq hother
    exact htree.listsOn_perform denies (fun p node hp => (h.sound hp).path) (fun p node hp => (hafter.sound hp).path) hq
      hother hraw masterAddress tiers
  · rw [hadds.keys, PopulationCall.filter_made htree]
  · intro i a ha
    obtain hmade | ⟨p, -, -, hcreated⟩ := PopulationCall.made_cases htree call
    · exact hadds.ids i a (hmade ▸ ha)
    · rw [hcreated] at ha
      exact nomatch ha
  · intro p hraw
    rw [PopulationCall.created, PopulationCall.target_eq denies, hraw]

/-- A call that fails half-way: the listing of a directory that was there gains one that was missing. -/
theorem addsMissing_halfway : ∃ call before,
    Reachable Clock.IsCivil PopulationCall.IsPlain greeting ∧ DeniesNothing call ∧
    before = { greeting with clock := ⟨some 5⟩ } ∧ call.outcome before = .error .emptyBlocks ∧
    before.nodes.keys.map Path.text = ["/", "/d", "/d/hi"] ∧
    (call.created before).map Path.text = ["/d/x", "/d/x/y"] ∧
    (((cluster "" defaultTiers).list "/d").exec (call.perform before)).1.map (List.map FileInfo.path) =
      .ok ["/d/hi", "/d/x"] ∧
    AddsMissing call before (call.perform before) := by
  have denies : DeniesNothing (.addFile "/d//x/y" [1] { blockSize := 0 }) := nofun
  exact ⟨_, _, reachable_greeting, denies, rfl, by decide +kernel, by decide +kernel, by decide +kernel,
    by decide +kernel, reachable_greeting.addsMissing 5 denies⟩

end Namespace

end ClusterBrowser
