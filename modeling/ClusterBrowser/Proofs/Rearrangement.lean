import ClusterBrowser.Proofs.DirectoryView
import ClusterBrowser.Proofs.Effects

/-!
# Files in another order

Files that are made side by side may be made in any order: identities, times and the order of tables apart, what comes
of it is the same.

* `Node.outline`: what a node is without identities, times and children.
* `Deposit`: a file to be made; `SideBySide`: files of which none stands in the way of another.
* `Namespace.Holds`: what there is once some files have been made.
* `Namespace.Holds.deposit`: one more file.
* `Namespace.SameOutline`: two namespaces that differ in identities, times and the order of tables at most.
* **`Namespace.sameOutline_of_perm`**: what comes of files that are made in another order.
-/

namespace ClusterBrowser

/-! ## Outlines -/

/-- Attributes without identities and times; how many blocks there are is kept. -/
def FileInfo.outline (info : FileInfo) : FileInfo :=
  { info with id := 0, createdMs := 0, modifiedMs := 0, blockIds := info.blockIds.map fun _ => 0 }

/-- A block without its identity. -/
def BlockReport.outline (report : BlockReport) : BlockReport := { report with block := { report.block with id := 0 } }

/-- A node without identities, times and children. -/
def Node.outline (node : Node) : Node :=
  { info := node.info.outline, data := node.data, blocks := node.blocks.map BlockReport.outline }

/-- A file to be made. -/
structure Deposit where
  raw : String
  path : Path
  data : Bytes
  options : FileOptions
  spelt : Path.parse raw = .ok path
  below : path ≠ .root
  sized : 1 ≤ options.blockSize

namespace Deposit

def call (d : Deposit) : PopulationCall := .addFile d.raw d.data d.options

/-- What the file is, wherever and whenever it is made. -/
def outline (d : Deposit) : Node :=
  (Namespace.cut (Namespace.newFile { clock := ⟨none⟩ } d.path 0 d.data d.options) d.options).outline

/-- Neither of two files is in the place of the other, or above it. -/
def Apart (d e : Deposit) : Prop := d.path ≠ e.path ∧ d.path ∉ e.path.ancestors ∧ e.path ∉ d.path.ancestors

instance : Std.Symm Apart := ⟨fun _ _ h => ⟨h.1.symm, h.2.2, h.2.1⟩⟩

instance (d e : Deposit) : Decidable (d.Apart e) := inferInstanceAs (Decidable (_ ∧ _ ∧ _))

end Deposit

/-- Files of which none is in the place of another, or above it. -/
def SideBySide (deposits : List Deposit) : Prop := deposits.Pairwise Deposit.Apart

instance (deposits : List Deposit) : Decidable (SideBySide deposits) :=
  inferInstanceAs (Decidable (deposits.Pairwise Deposit.Apart))

/-- Two rows that differ in identities and times at most. -/
def Entry.SameButTimes (e e' : Entry) : Prop :=
  e' = { e with id := e'.id, created := e'.created, modified := e'.modified }

theorem FileInfo.eq_of_outline_eq {info info' : FileInfo} (h : info.outline = info'.outline) :
    info' = { info with
      id := info'.id, createdMs := info'.createdMs, modifiedMs := info'.modifiedMs, blockIds := info'.blockIds } := by
  cases info
  cases info'
  simp only [outline, FileInfo.mk.injEq] at h ⊢
  simp [h]

theorem Entry.sameButTimes_of_ofInfo {info info' : FileInfo} {e e' : Entry} (h : Entry.ofInfo info = .ok e)
    (h' : Entry.ofInfo info' = .ok e') (houtline : info.outline = info'.outline) : e.SameButTimes e' := by
  rw [FileInfo.eq_of_outline_eq houtline] at h'
  unfold Entry.ofInfo at h h'
  dsimp only at h'
  split_ifs at h h'
  all_goals
    obtain ⟨size, hsize, h⟩ := exists_of_bind_eq_ok h
    obtain ⟨size', hsize', h'⟩ := exists_of_bind_eq_ok h'
    obtain rfl : size = size' := Except.ok.inj (hsize.symm.trans hsize')
    obtain ⟨created, -, h⟩ := exists_of_bind_eq_ok h
    obtain ⟨created', -, h'⟩ := exists_of_bind_eq_ok h'
    obtain ⟨modified, -, h⟩ := exists_of_bind_eq_ok h
    obtain ⟨modified', -, h'⟩ := exists_of_bind_eq_ok h'
    rw [← Except.ok.inj h, ← Except.ok.inj h']
    rfl

theorem forall₂_of_map_eq {α β γ : Type} {f : α → γ} {g : β → γ} {R : α → β → Prop} {xs : List α} {ys : List β}
    (h : xs.map f = ys.map g) (hR : ∀ x ∈ xs, ∀ y ∈ ys, f x = g y → R x y) : List.Forall₂ R xs ys := by
  have hkeys : List.Forall₂ (fun x y => f x = g y) xs ys := by
    rwa [← List.forall₂_eq_eq_eq, List.forall₂_map_left_iff, List.forall₂_map_right_iff] at h
  induction hkeys with
  | nil => exact .nil
  | cons hxy hrest ih =>
    refine .cons (hR _ List.mem_cons_self _ List.mem_cons_self hxy) (ih (List.cons.inj h).2 ?_)
    exact fun x hx y hy => hR x (List.mem_cons_of_mem _ hx) y (List.mem_cons_of_mem _ hy)

/-- A clock that shows a number. -/
def Clock.IsReadable (clock : Clock) : Prop := clock.millis ≠ none

namespace Namespace

variable {ns : Namespace}

/-- The outline of the node at a path. -/
def outlineAt (ns : Namespace) (p : Path) : Option Node := (ns.find? p).map Node.outline

/-- What a directory is that is made on the way to a file. -/
def directoryOutline (p : Path) : Node := (newDirectory { clock := ⟨none⟩ } p 0 {}).outline

theorem isSome_outlineAt (ns : Namespace) (p : Path) : (ns.outlineAt p).isSome = ns.contains p := by
  rw [outlineAt, Option.isSome_map, contains]

theorem outlineAt_of_find? {p : Path} {node : Node} (hp : ns.find? p = some node) :
    ns.outlineAt p = some node.outline := by
  rw [outlineAt, hp, Option.map_some]

theorem outline_newDirectory (ns : Namespace) (p : Path) (now : Int) :
    (newDirectory ns p now {}).outline = directoryOutline p := rfl

/-- The outline of a file does not depend on the namespace and the time in which it is made. -/
theorem outline_cut (ns : Namespace) (d : Deposit) (now : Int) :
    (cut (ns.newFile d.path now d.data d.options) d.options).outline = d.outline := by
  unfold Deposit.outline Node.outline cut FileInfo.outline blocksOf newFile
  simp only [List.map_map, Function.comp_def, BlockReport.outline, blockAt]

theorem outlineAt_attach (ns : Namespace) (p : Path) (node : Node) (q : Path) :
    (ns.attach p node).outlineAt q = if p = q then some node.outline else ns.outlineAt q := by
  rw [outlineAt, find?_attach]
  by_cases hself : p = q
  · rw [if_pos hself, if_pos hself, Option.map_some]
  · rw [if_neg hself, if_neg hself, Option.map_map]
    rfl

theorem outlineAt_withFile (ns : Namespace) (d : Deposit) (now : Int) (q : Path) :
    (ns.withFile d.path now d.data d.options).outlineAt q = if d.path = q then some d.outline else ns.outlineAt q := by
  have hsize : d.options.blockSize ≠ 0 := by
    have := d.sized
    omega
  have hmade := outlineAt_attach ns d.path (ns.newFile d.path now d.data d.options) q
  unfold withFile
  rw [if_neg hsize, outlineAt, find?_put]
  split_ifs with hq
  · rw [Option.map_some, outline_cut]
  · rw [if_neg hq] at hmade
    exact hmade

theorem outlineAt_ensureDirectory (now : Int) (p q : Path) (ns : Namespace) :
    (ensureDirectory now {} p ns).outlineAt q = ns.outlineAt q ∨
      ns.contains q = false ∧ (ensureDirectory now {} p ns).outlineAt q = some (directoryOutline q) := by
  induction p with
  | root =>
    unfold ensureDirectory
    split_ifs with hroot
    · exact .inl rfl
    · rw [outlineAt_attach]
      split_ifs with hq
      · exact .inr ⟨by rw [← hq, Bool.eq_false_iff.mpr hroot], by rw [← hq, outline_newDirectory]⟩
      · exact .inl rfl
  | child parent name ih =>
    cases hp : ns.contains (.child parent name) with
    | true =>
      rw [ensureDirectory_of_contains hp]
      exact .inl rfl
    | false =>
      rw [ensureDirectory_child hp, outlineAt_attach]
      split_ifs with hq
      · exact .inr ⟨by rw [← hq, hp], by rw [← hq, outline_newDirectory]⟩
      · exact ih

/-! ## Files made side by side -/

/-- There are some files, the directories above them, and nothing else. -/
structure Holds (ns : Namespace) (deposits : List Deposit) : Prop where
  tree : ns.IsTree
  contains : ∀ q, ns.contains q = true ↔ q = .root ∨ ∃ d ∈ deposits, q ∈ d.path.lineage
  file : ∀ d ∈ deposits, ns.outlineAt d.path = some d.outline
  directory : ∀ q, ns.contains q = true → (∀ d ∈ deposits, d.path ≠ q) → ns.outlineAt q = some (directoryOutline q)

theorem holds_empty {clock : Clock} (made : Namespace.empty clock = .ok ns) : ns.Holds [] := by
  obtain ⟨now, -, rfl⟩ := empty_eq_ok made
  have hcontains (q : Path) :
      (attach { clock } .root (newDirectory { clock } .root now {})).contains q = true ↔ q = .root := by
    rw [contains_attach, Bool.or_eq_true, decide_eq_true_eq, eq_comm]
    exact or_iff_left nofun
  refine ⟨isTree_root clock rfl, ?_, ?_, ?_⟩
  · intro q
    rw [hcontains]
    simp
  · simp
  · intro q hq _
    obtain rfl := (hcontains q).mp hq
    rw [outlineAt_attach, if_pos rfl, outline_newDirectory]

/-- **One more file beside the others.** -/
theorem Holds.deposit {deposits : List Deposit} {d : Deposit} (h : ns.Holds deposits)
    (apart : ∀ e ∈ deposits, e.path ≠ d.path) (readable : ns.clock.millis ≠ none) :
    (d.call.perform ns).Holds (deposits ++ [d]) := by
  obtain ⟨now, hnow⟩ := Option.ne_none_iff_exists'.mp readable
  have hperform : d.call.perform ns =
      (ensureDirectory now {} d.path.parent ns).withFile d.path now d.data d.options :=
    perform_addFile_eq d.spelt hnow d.data d.options
  have htarget : d.call.target ns = some d.path := by
    rw [Deposit.call, PopulationCall.target, d.spelt, hnow]
  have hcontains := h.tree.contains_perform d.call
  -- The file is put at its path last, so that elsewhere only the directories above it make a difference.
  have houtline : ∀ q, (d.call.perform ns).outlineAt q =
      if d.path = q then some d.outline else (ensureDirectory now {} d.path.parent ns).outlineAt q := by
    intro q
    rw [hperform, outlineAt_withFile]
  refine ⟨h.tree.perform d.call, ?_, ?_, ?_⟩
  · intro q
    rw [hcontains, h.contains, htarget]
    simp [or_assoc]
  · intro e he
    rw [houtline]
    cases List.mem_append.mp he with
    | inr he =>
      obtain rfl := List.mem_singleton.mp he
      rw [if_pos rfl]
    | inl he =>
      have hthere : ns.contains e.path = true :=
        (h.contains e.path).mpr (.inr ⟨e, he, Path.mem_lineage.mpr (.inr rfl)⟩)
      rw [if_neg (apart e he).symm, ← h.file e he]
      cases outlineAt_ensureDirectory now d.path.parent e.path ns with
      | inl hsame => exact hsame
      | inr hnew => exact absurd hthere (by simp [hnew.1])
  · intro q hq hother
    have hd : d.path ≠ q := hother d (by simp)
    have hothers : ∀ e ∈ deposits, e.path ≠ q := fun e he => hother e (List.mem_append_left _ he)
    rw [houtline, if_neg hd]
    rw [← isSome_outlineAt, houtline, if_neg hd] at hq
    cases outlineAt_ensureDirectory now d.path.parent q ns with
    | inl hsame =>
      rw [hsame, isSome_outlineAt] at hq
      rw [hsame]
      exact h.directory q hq hothers
    | inr hnew => exact hnew.2

/-- The namespace after files have been made one after another, each at a time of its own. -/
def deposited (ns : Namespace) (history : List (Clock × Deposit)) : Namespace :=
  ns.after (history.map fun entry => (entry.1, entry.2.call))

theorem Holds.deposited {deposits : List Deposit} (h : ns.Holds deposits) {history : List (Clock × Deposit)}
    (apart : SideBySide (deposits ++ history.map Prod.snd)) (readable : ∀ entry ∈ history, entry.1.millis ≠ none) :
    (ns.deposited history).Holds (deposits ++ history.map Prod.snd) := by
  induction history generalizing ns deposits with
  | nil =>
    rw [List.map_nil, List.append_nil]
    exact h
  | cons entry rest ih =>
    obtain ⟨clock, d⟩ := entry
    obtain ⟨hclock, hrest⟩ := List.forall_mem_cons.mp readable
    have happend : deposits ++ List.map Prod.snd ((clock, d) :: rest) = (deposits ++ [d]) ++ rest.map Prod.snd := by
      simp
    rw [happend] at apart ⊢
    have hd : ∀ e ∈ deposits, e.path ≠ d.path := by
      intro e he
      have hpairs := (List.pairwise_append.mp (List.pairwise_append.mp apart).1).2.2
      exact (hpairs e he d (by simp)).1
    have hclocked : Holds { ns with clock } deposits := ⟨h.tree.of_nodes_eq rfl, h.contains, h.file, h.directory⟩
    exact ih (hclocked.deposit hd hclock) apart hrest

/-- What comes of an empty namespace once some files have been made in it, at times that a clock may show. -/
def Filled (clocks : Clock → Prop) (deposits : List Deposit) (s : Namespace) : Prop :=
  ∃ clock ns history, clocks clock ∧ Namespace.empty clock = .ok ns ∧ (∀ entry ∈ history, clocks entry.1) ∧
    history.map Prod.snd = deposits ∧ ns.deposited history = s

theorem Filled.holds {deposits : List Deposit} (h : Filled Clock.IsReadable deposits ns) (apart : SideBySide deposits) :
    ns.Holds deposits := by
  obtain ⟨clock, new, history, -, made, readable, rfl, rfl⟩ := h
  exact (holds_empty made).deposited apart readable

theorem Filled.reachable {clocks : Clock → Prop} {calls : PopulationCall → Prop} {deposits : List Deposit}
    (h : Filled clocks deposits ns) (allowed : ∀ d ∈ deposits, calls d.call) : Reachable clocks calls ns := by
  obtain ⟨clock, new, history, shown, made, hclocks, rfl, rfl⟩ := h
  refine (Reachable.empty shown made).after ?_
  intro entry hentry
  obtain ⟨⟨time, d⟩, hd, rfl⟩ := List.mem_map.mp hentry
  exact ⟨hclocks _ hd, allowed d (List.mem_map_of_mem hd)⟩

/-! ## Two orders -/

/-- Two namespaces that differ in identities, times and the order of tables at most. -/
structure SameOutline (s t : Namespace) : Prop where
  keys : s.nodes.keys.Perm t.nodes.keys
  outline : ∀ p, s.outlineAt p = t.outlineAt p
  children : ∀ p node node', s.find? p = some node → t.find? p = some node' → node.children.Perm node'.children

theorem SameOutline.contains_eq {s t : Namespace} (h : SameOutline s t) (p : Path) : s.contains p = t.contains p := by
  rw [← isSome_outlineAt, ← isSome_outlineAt, h.outline]

theorem SameOutline.outline_eq {s t : Namespace} (h : SameOutline s t) {p : Path} {node node' : Node}
    (hp : s.find? p = some node) (hp' : t.find? p = some node') : node.outline = node'.outline := by
  have houtline := h.outline p
  rw [outlineAt_of_find? hp, outlineAt_of_find? hp'] at houtline
  exact Option.some.inj houtline

theorem SameOutline.folder_eq {s t : Namespace} (h : SameOutline s t) {p : Path} {node node' : Node}
    (hp : s.find? p = some node) (hp' : t.find? p = some node') : node.info.folder = node'.info.folder :=
  congrArg (fun node => node.info.folder) (h.outline_eq hp hp')

theorem Holds.of_perm {deposits deposits' : List Deposit} (h : ns.Holds deposits) (hperm : deposits.Perm deposits') :
    ns.Holds deposits' where
  tree := h.tree
  contains q := by
    rw [h.contains]
    simp only [hperm.mem_iff]
  file d hd := h.file d (hperm.mem_iff.mpr hd)
  directory q hq hother := h.directory q hq fun d hd => hother d (hperm.mem_iff.mp hd)

section

variable {s t : Namespace} {deposits : List Deposit}

theorem Holds.not_contains_child (h : s.Holds deposits) (apart : SideBySide deposits) {d : Deposit}
    (hd : d ∈ deposits) (name : Name) : s.contains (.child d.path name) = false := by
  rw [← Bool.not_eq_true, h.contains]
  rintro (hroot | ⟨e, he, hbelow⟩)
  · exact nomatch hroot
  · have hparent : d.path ∈ (Path.child d.path name).ancestors := Path.mem_ancestors_child.mpr (.inr rfl)
    have habove : d.path ∈ e.path.ancestors := by
      cases Path.mem_lineage.mp hbelow with
      | inl hbelow => exact Path.mem_ancestors_trans hparent hbelow
      | inr heq => exact heq ▸ hparent
    by_cases hde : d = e
    · rw [← hde] at habove
      exact Path.not_mem_ancestors_self d.path habove
    · exact (List.Pairwise.forall apart hd he hde).2.1 habove

/-- What is no file is a directory. -/
theorem Holds.folder (h : s.Holds deposits) {p : Path} {node : Node} (hp : s.find? p = some node)
    (hother : ∀ d ∈ deposits, d.path ≠ p) : node.info.folder = true := by
  have houtline := h.directory p (contains_of_find? hp) hother
  rw [outlineAt_of_find? hp] at houtline
  exact congrArg (fun node => node.info.folder) (Option.some.inj houtline)

theorem Holds.mem_children_iff (h : s.Holds deposits) (apart : SideBySide deposits) {p : Path} {node : Node}
    (hp : s.find? p = some node) {entry : String × Path} :
    entry ∈ node.children ↔ ∃ name : Name, entry = (name.text, .child p name) ∧ s.contains (.child p name) = true := by
  refine ⟨(h.tree.links p node hp).child entry, ?_⟩
  rintro ⟨name, rfl, hchild⟩
  refine (h.tree.links p node hp).all ?_ name hchild
  apply h.folder hp
  rintro d hd rfl
  rw [h.not_contains_child apart hd] at hchild
  exact nomatch hchild

theorem Holds.sameOutline (hs : s.Holds deposits) (ht : t.Holds deposits) (apart : SideBySide deposits) :
    SameOutline s t where
  keys := by
    rw [List.perm_ext_iff_of_nodup hs.tree.nodup ht.tree.nodup]
    intro p
    rw [← contains_iff_mem_keys, ← contains_iff_mem_keys, hs.contains, ht.contains]
  outline p := by
    by_cases hfile : ∃ d ∈ deposits, d.path = p
    · obtain ⟨d, hd, rfl⟩ := hfile
      rw [hs.file d hd, ht.file d hd]
    · have hother : ∀ d ∈ deposits, d.path ≠ p := fun d hd heq => hfile ⟨d, hd, heq⟩
      have hboth : s.contains p = true ↔ t.contains p = true := by rw [hs.contains, ht.contains]
      by_cases hp : s.contains p = true
      · rw [hs.directory p hp hother, ht.directory p (hboth.mp hp) hother]
      · have hp' : ¬ t.contains p = true := fun h => hp (hboth.mpr h)
        rw [← isSome_outlineAt, Option.not_isSome_iff_eq_none] at hp hp'
        rw [hp, hp']
  children p node node' hp hp' := by
    have hnodup : node.children.Nodup := (hs.tree.links p node hp).nodup.of_map
    have hnodup' : node'.children.Nodup := (ht.tree.links p node' hp').nodup.of_map
    rw [List.perm_ext_iff_of_nodup hnodup hnodup']
    intro entry
    rw [hs.mem_children_iff apart hp, ht.mem_children_iff apart hp']
    simp only [hs.contains, ht.contains]

end

/-! ## Listings -/

theorem exists_of_mem_children {node : Node} (hfolder : node.info.folder = true) {info : FileInfo}
    (hinfo : info ∈ ns.children node) : ∃ q child, ns.find? q = some child ∧ child.info = info := by
  rw [children, if_pos hfolder] at hinfo
  obtain ⟨entry, -, hentry⟩ := List.mem_filterMap.mp hinfo
  obtain ⟨child, hchild, heq⟩ := Option.map_eq_some_iff.mp hentry
  exact ⟨entry.2, child, hchild, heq⟩

section

variable {clocks clocks' : Clock → Prop} {calls calls' : PopulationCall → Prop} {s t : Namespace}

theorem SameOutline.forall₂_rows (h : SameOutline s t) (hs : Reachable clocks calls s) (ht : Reachable clocks' calls' t)
    {p : Path} {node node' : Node} (hp : s.find? p = some node) (hp' : t.find? p = some node')
    (hfolder : node.info.folder = true) {rows rows' : List Entry} (hrows : rowsOf (s.children node) = .ok rows)
    (hrows' : rowsOf (t.children node') = .ok rows') : List.Forall₂ Entry.SameButTimes rows rows' := by
  have hfolder' : node'.info.folder = true := h.folder_eq hp hp' ▸ hfolder
  have hperm := perm_paths_of_rowsOf_eq_ok hrows
  have hperm' := perm_paths_of_rowsOf_eq_ok hrows'
  have hnodup := hperm.nodup_iff.mpr (hs.nodup_paths_children hp hfolder)
  have hnodup' := hperm'.nodup_iff.mpr (ht.nodup_paths_children hp' hfolder')
  have hsame : (rows.map Entry.path).Perm (rows'.map Entry.path) := by
    rw [List.perm_ext_iff_of_nodup hnodup hnodup']
    intro text
    rw [hperm.mem_iff, hperm'.mem_iff, hs.mem_paths_children hp hfolder, ht.mem_paths_children hp' hfolder']
    simp only [h.contains_eq]
  have hpaths : rows.map Entry.path = rows'.map Entry.path :=
    hsame.eq_of_pairwise (fun a b _ _ => String.le_antisymm) (pairwise_of_rowsOf_eq_ok hrows)
      (pairwise_of_rowsOf_eq_ok hrows')
  refine forall₂_of_map_eq hpaths ?_
  intro e he e' he' hpath
  obtain ⟨info, hinfo, hentry⟩ := exists_of_mem_rowsOf hrows he
  obtain ⟨info', hinfo', hentry'⟩ := exists_of_mem_rowsOf hrows' he'
  obtain ⟨q, child, hq, rfl⟩ := exists_of_mem_children hfolder hinfo
  obtain ⟨q', child', hq', rfl⟩ := exists_of_mem_children hfolder' hinfo'
  rw [Entry.path_of_ofInfo hentry, Entry.path_of_ofInfo hentry', (hs.sound hq).path, (ht.sound hq').path] at hpath
  obtain rfl := Path.text_injective hpath
  exact Entry.sameButTimes_of_ofInfo hentry hentry' (congrArg Node.info (h.outline_eq hq hq'))

variable (hs : Reachable clocks calls s) (hdeny : ∀ raw, ¬ calls (.deny raw)) (masterAddress : String)
  (tiers : List String)
include hs hdeny

theorem Reachable.listDirectory_eq_ok_iff {raw : String} {p : Path} {node : Node} (hraw : Path.parse raw = .ok p)
    (hp : s.find? p = some node) {rows : List Entry} :
    ((listDirectory (cluster masterAddress tiers) raw).exec s).1 = .ok rows ↔ rowsOf (s.children node) = .ok rows := by
  have hlookup : s.lookup raw = .ok node := by
    refine lookup_eq_ok_iff.mpr ⟨p, hraw, ?_, hp⟩
    rw [hs.denied_eq_nil hdeny]
    exact List.not_mem_nil
  rw [ClusterBrowser.exec_listDirectory, Namespace.exec_list, answer, hlookup]
  show ((Action.ofExcept Failure.display (rowsOf (s.children node)) : Action Namespace _).exec s).1 = .ok rows ↔ _
  cases rowsOf (s.children node) with
  | ok rows => simp
  | error e => simp

end

/-- **The order in which files are made side by side makes no difference**, but to identities, times and the order of
tables. The rows of every directory are the same then, and in the same order. -/
theorem sameOutline_of_perm {deposits deposits' : List Deposit} {s t : Namespace}
    (hs : Filled Clock.IsReadable deposits s) (ht : Filled Clock.IsReadable deposits' t) (apart : SideBySide deposits)
    (perm : deposits.Perm deposits') (masterAddress : String) (tiers : List String) :
    SameOutline s t ∧ (∀ d ∈ deposits, s.outlineAt d.path = some d.outline) ∧
    ∀ raw p node, Path.parse raw = .ok p → s.find? p = some node → node.info.folder = true →
      (∀ rows rows', ((listDirectory (cluster masterAddress tiers) raw).exec s).1 = .ok rows →
        ((listDirectory (cluster masterAddress tiers) raw).exec t).1 = .ok rows' →
        List.Forall₂ Entry.SameButTimes rows rows') ∧
      (Filled Clock.IsCivil deposits s → Filled Clock.IsCivil deposits' t →
        (∀ d ∈ deposits, d.data.length < Size.limit) →
        ∃ rows rows', ((listDirectory (cluster masterAddress tiers) raw).exec s).1 = .ok rows ∧
          ((listDirectory (cluster masterAddress tiers) raw).exec t).1 = .ok rows') := by
  have apart' : SideBySide deposits' := (perm.pairwise_iff fun h => Std.Symm.symm _ _ h).mp apart
  have holds := hs.holds apart
  have same : SameOutline s t := holds.sameOutline ((ht.holds apart').of_perm perm.symm) apart
  have reachable : Reachable Clock.IsReadable (fun call => call.makesFile = true) s := hs.reachable fun _ _ => rfl
  have reachable' : Reachable Clock.IsReadable (fun call => call.makesFile = true) t := ht.reachable fun _ _ => rfl
  refine ⟨same, holds.file, ?_⟩
  intro raw p node hraw hp hfolder
  obtain ⟨node', hp'⟩ := find?_of_contains ((same.contains_eq p).symm.trans (contains_of_find? hp))
  simp only [reachable.listDirectory_eq_ok_iff nofun masterAddress tiers hraw hp,
    reachable'.listDirectory_eq_ok_iff nofun masterAddress tiers hraw hp']
  constructor
  · intro rows rows' hrows hrows'
    exact same.forall₂_rows reachable reachable' hp hp' hfolder hrows hrows'
  · intro civil civil' small
    have shown : Reachable Clock.IsCivil PopulationCall.IsPlain s := civil.reachable small
    have shown' : Reachable Clock.IsCivil PopulationCall.IsPlain t :=
      civil'.reachable fun d hd => small d (perm.mem_iff.mpr hd)
    obtain ⟨rows, hrows⟩ := shown.exists_rowsOf_children hfolder
    obtain ⟨rows', hrows'⟩ := shown'.exists_rowsOf_children (same.folder_eq hp hp' ▸ hfolder)
    exact ⟨rows, rows', hrows, hrows'⟩

/-- A file of two blocks, two directories deep. -/
def deepFile : Deposit where
  raw := "/b//x/f"
  path := .child (.child (.child .root ⟨"b", by decide⟩) ⟨"x", by decide⟩) ⟨"f", by decide⟩
  data := [1, 2, 3]
  options := { blockSize := 2, workers := [{ host := "worker-1" }] }
  spelt := by decide +kernel
  below := nofun
  sized := by decide

/-- A file that is not finished. -/
def halfFile : Deposit where
  raw := "/b/g/"
  path := .child (.child .root ⟨"b", by decide⟩) ⟨"g", by decide⟩
  data := [7]
  options := { completed := false, permission := 0o600 }
  spelt := by decide +kernel
  below := nofun
  sized := by decide

def emptyFile : Deposit where
  raw := "/a"
  path := .child .root ⟨"a", by decide⟩
  data := []
  options := {}
  spelt := by decide +kernel
  below := nofun
  sized := by decide

/-- The root made at a time in milliseconds, and three files after that. -/
def filledAt (ms : Int) (first second third : Deposit) : Namespace :=
  deposited (ensureDirectory ms {} .root { clock := ⟨some ms⟩ })
    [(⟨some (ms + 1)⟩, first), (⟨some (ms + 1)⟩, second), (⟨some (ms + 9)⟩, third)]

theorem filled_filledAt {clocks : Clock → Prop} (ms : Int) (first second third : Deposit) (hroot : clocks ⟨some ms⟩)
    (hfirst : clocks ⟨some (ms + 1)⟩) (hlast : clocks ⟨some (ms + 9)⟩) :
    Filled clocks [first, second, third] (filledAt ms first second third) :=
  ⟨⟨some ms⟩, _, _, hroot, rfl, by simp [hfirst, hlast], rfl, rfl⟩

theorem sameOutline_of_perm_threeFiles : ∃ s t, Filled Clock.IsReadable [deepFile, halfFile, emptyFile] s ∧
    Filled Clock.IsReadable [emptyFile, deepFile, halfFile] t ∧ SideBySide [deepFile, halfFile, emptyFile] ∧
    s.nodes.keys.map Path.text = ["/", "/b", "/b/x", "/b/x/f", "/b/g", "/a"] ∧
    t.nodes.keys.map Path.text = ["/", "/a", "/b", "/b/x", "/b/x/f", "/b/g"] ∧
    (s.find? deepFile.path).map (·.info.id) = some 4 ∧ (t.find? deepFile.path).map (·.info.id) = some 5 ∧
    SameOutline s t ∧ ∃ rows rows', ((listDirectory (cluster "" []) "/b/").exec s).1 = .ok rows ∧
      ((listDirectory (cluster "" []) "/b/").exec t).1 = .ok rows' ∧ List.Forall₂ Entry.SameButTimes rows rows' := by
  let s := filledAt 0 deepFile halfFile emptyFile
  let t := filledAt 86400000 emptyFile deepFile halfFile
  have hs : Filled Clock.IsReadable [deepFile, halfFile, emptyFile] s := filled_filledAt 0 _ _ _ nofun nofun nofun
  have ht : Filled Clock.IsReadable [emptyFile, deepFile, halfFile] t := filled_filledAt _ _ _ _ nofun nofun nofun
  have apart : SideBySide [deepFile, halfFile, emptyFile] := by decide
  have perm : [deepFile, halfFile, emptyFile].Perm [emptyFile, deepFile, halfFile] :=
    ((List.Perm.swap emptyFile halfFile []).cons deepFile).trans (.swap emptyFile deepFile [halfFile])
  have civil : ∀ ms, 0 ≤ ms → ms ≤ 100000000 → Clock.IsCivil ⟨some ms⟩ := by
    intro ms hlow hhigh
    have hfirst : Instant.firstMillis ≤ 0 := by decide
    have hlast : (100000000 : Int) ≤ Instant.lastMillis := by decide
    exact ⟨ms, rfl, hfirst.trans hlow, hhigh.trans hlast⟩
  have hs' : Filled Clock.IsCivil [deepFile, halfFile, emptyFile] s :=
    filled_filledAt 0 _ _ _ (civil _ (by decide) (by decide)) (civil _ (by decide) (by decide))
      (civil _ (by decide) (by decide))
  have ht' : Filled Clock.IsCivil [emptyFile, deepFile, halfFile] t :=
    filled_filledAt _ _ _ _ (civil _ (by decide) (by decide)) (civil _ (by decide) (by decide))
      (civil _ (by decide) (by decide))
  have small : ∀ d ∈ [deepFile, halfFile, emptyFile], d.data.length < Size.limit := by decide +kernel
  let b : Path := .child .root ⟨"b", by decide⟩
  have hb : (s.find? b).map (·.info.folder) = some true := by decide +kernel
  obtain ⟨node, hp, hfolder⟩ := Option.map_eq_some_iff.mp hb
  obtain ⟨same, -, listed⟩ := sameOutline_of_perm hs ht apart perm "" []
  obtain ⟨alike, shown⟩ := listed "/b/" b node (by decide +kernel) hp hfolder
  obtain ⟨rows, rows', hrows, hrows'⟩ := shown hs' ht' small
  exact ⟨s, t, hs, ht, apart, by decide +kernel, by decide +kernel, by decide +kernel, by decide +kernel, same, rows,
    rows', hrows, hrows', alike rows rows' hrows hrows'⟩

end Namespace

end ClusterBrowser
