import ClusterBrowser.Namespace.Population
import ClusterBrowser.Proofs.Action
import ClusterBrowser.Proofs.Paths
import ClusterBrowser.Proofs.Tables
import Mathlib.Logic.Relation
import Mathlib.Tactic.SplitIfs

/-!
# How a namespace grows

Every call that populates a namespace makes it in a few small edits, also when the call fails in the end.

* `PopulationCall`: the calls that populate a namespace.
* `Namespace.Edit`: a single change.
* **`PopulationCall.edits`**: a call is a run of edits.
* `Namespace.Reachable`: what comes of calls at times that a clock may show.
* `Namespace.after`: what comes of a history of calls.
* **`Namespace.Reachable.allNodes`**: what holds of every new node, whatever its children, holds of all nodes.
* `Namespace.Reachable.sound`: the attributes of a node fit its place and its data.
-/

namespace ClusterBrowser

namespace Namespace

/-! ## Attaching a node -/

theorem find?_put (ns : Namespace) (p : Path) (node : Node) (q : Path) :
    find? { ns with nodes := ns.nodes.put p node } q = if p = q then some node else ns.find? q :=
  Table.find?_put ns.nodes p node q

theorem ne_parent (parent : Path) (name : Name) : parent ≠ .child parent name := by
  intro h
  have hdepth := congrArg Path.depth h
  simp [Path.depth] at hdepth

theorem find?_attach_root (ns : Namespace) (node : Node) (q : Path) :
    (ns.attach .root node).find? q = if Path.root = q then some node else ns.find? q :=
  Table.find?_put ns.nodes .root node q

theorem find?_attach_child (ns : Namespace) (parent : Path) (name : Name) (node : Node) (q : Path) :
    (ns.attach (.child parent name) node).find? q =
      if .child parent name = q then some node
      else if parent = q then
        (ns.find? q).map fun dir => { dir with children := dir.children.put name.text (.child parent name) }
      else ns.find? q := by
  have hparent := ne_parent parent name
  rw [attach, find?]
  simp only
  rw [Table.find?_adjust, Table.find?_put]
  by_cases hq : Path.child parent name = q
  · subst hq
    rw [if_neg hparent, if_pos rfl, if_pos rfl]
  · rw [if_neg hq, if_neg hq]
    rfl

/-- Where a node is attached, it is found as it is. All else is as it was, but for the directory above, which has one child
more. -/
theorem find?_attach (ns : Namespace) (p : Path) (node : Node) (q : Path) :
    (ns.attach p node).find? q = if p = q then some node
      else (ns.find? q).map fun old =>
        { old with children := if p.parent = q then old.children.put p.basename p else old.children } := by
  by_cases hself : p = q
  · rw [if_pos hself]
    cases p with
    | root => rw [find?_attach_root, if_pos hself]
    | child parent name => rw [find?_attach_child, if_pos hself]
  · rw [if_neg hself]
    cases p with
    | root =>
      have habove : Path.root.parent ≠ q := hself
      simp [find?_attach_root, hself, habove]
    | child parent name =>
      rw [find?_attach_child, if_neg hself]
      by_cases habove : parent = q <;> simp [habove, Path.parent, Path.basename]

theorem find?_attach_self (ns : Namespace) (p : Path) (node : Node) : (ns.attach p node).find? p = some node := by
  rw [find?_attach, if_pos rfl]

theorem denied_attach (ns : Namespace) (p : Path) (node : Node) : (ns.attach p node).denied = ns.denied := by
  cases p <;> rfl

theorem contains_attach (ns : Namespace) (p : Path) (node : Node) (q : Path) :
    (ns.attach p node).contains q = (decide (p = q) || ns.contains q) := by
  rw [contains, find?_attach]
  by_cases hself : p = q <;> simp [hself, contains]

theorem find?_attach_eq_some {ns : Namespace} {p q : Path} {node found : Node}
    (h : (ns.attach p node).find? q = some found) :
    (p = q ∧ found = node) ∨ ∃ old children, ns.find? q = some old ∧ found = { old with children } := by
  rw [find?_attach] at h
  by_cases hself : p = q
  · rw [if_pos hself] at h
    exact .inl ⟨hself, (Option.some.inj h).symm⟩
  · rw [if_neg hself] at h
    obtain ⟨old, hold, hfound⟩ := Option.map_eq_some_iff.mp h
    exact .inr ⟨old, _, hold, hfound.symm⟩

end Namespace

/-! ## Calls and edits -/

/-- A call that populates a namespace. -/
inductive PopulationCall where
  | mkdir (raw : String) (options : DirectoryOptions)
  | addFile (raw : String) (data : Bytes) (options : FileOptions)
  | deny (raw : String)
  deriving DecidableEq, Repr

/-- The namespace after a call, also after one that fails. -/
def PopulationCall.perform : PopulationCall → Namespace → Namespace
  | mkdir raw o, ns => ((Namespace.mkdir raw o).exec ns).2
  | addFile raw data o, ns => ((Namespace.addFile raw data o).exec ns).2
  | deny raw, ns => ((Namespace.deny raw).exec ns).2

namespace Namespace

/-- A single change at a millisecond, as part of a call. -/
inductive Edit (now : Int) (call : PopulationCall) : Namespace → Namespace → Prop
  /-- A directory is made where there is nothing. -/
  | directory {ns : Namespace} {p : Path} {o : DirectoryOptions} (absent : ns.contains p = false) :
    Edit now call ns (ns.attach p (ns.newDirectory p now o))
  /-- A file is made or made anew. -/
  | file {ns : Namespace} {raw : String} {p : Path} {data : Bytes} {o : FileOptions}
    (calls : call = .addFile raw data o) (parsed : Path.parse raw = .ok p) :
    Edit now call ns (ns.attach p (ns.newFile p now data o))
  /-- The new file is cut into blocks. -/
  | cut {ns old : Namespace} {raw : String} {p : Path} {data : Bytes} {o : FileOptions}
    (calls : call = .addFile raw data o) (parsed : Path.parse raw = .ok p)
    (made : ns = old.attach p (old.newFile p now data o)) :
    Edit now call ns { ns with nodes := ns.nodes.put p (Namespace.cut (old.newFile p now data o) o) }

/-- A run of edits. -/
def Edits (now : Int) (call : PopulationCall) : Namespace → Namespace → Prop := Relation.ReflTransGen (Edit now call)

theorem contains_ensureDirectory {now : Int} {o : DirectoryOptions} {p q : Path} (h : p.depth < q.depth)
    (ns : Namespace) : (ensureDirectory now o p ns).contains q = ns.contains q := by
  induction p generalizing ns with
  | root =>
    have hne : Path.root ≠ q := fun hq => by simp [← hq, Path.depth] at h
    rw [ensureDirectory]
    split_ifs
    · rfl
    · rw [contains_attach, decide_eq_false hne, Bool.false_or]
  | child parent name ih =>
    have hne : Path.child parent name ≠ q := fun hq => by simp [← hq] at h
    have hparent : parent.depth < q.depth := Nat.lt_of_succ_lt h
    rw [ensureDirectory]
    split_ifs
    · rfl
    · rw [contains_attach, decide_eq_false hne, Bool.false_or]
    · rw [contains_attach, decide_eq_false hne, Bool.false_or, ih hparent]

theorem edits_ensureDirectory (now : Int) (call : PopulationCall) (o : DirectoryOptions) (p : Path) (ns : Namespace) :
    Edits now call ns (ensureDirectory now o p ns) := by
  induction p generalizing ns with
  | root =>
    rw [ensureDirectory]
    split_ifs with h
    · exact .refl
    · exact .single (.directory (Bool.eq_false_iff.mpr h))
  | child parent name ih =>
    rw [ensureDirectory]
    split_ifs with h h'
    · exact .refl
    · exact .single (.directory (Bool.eq_false_iff.mpr h))
    · refine (ih ns).tail (.directory ?_)
      rw [contains_ensureDirectory (Nat.lt_succ_self _)]
      exact Bool.eq_false_iff.mpr h

/-! ## Calls as runs of edits -/

theorem exec_parse (raw : String) (ns : Namespace) :
    (Action.ofExcept (fun e : PathError => .browse e.toBrowseError) (Path.parse raw) : Action Namespace Path).exec ns =
      ((Path.parse raw).mapError fun e => .browse e.toBrowseError, ns) := by
  rcases Path.parse raw with e | p <;> rfl

theorem perform_mkdir (raw : String) (o : DirectoryOptions) (ns : Namespace) :
    (PopulationCall.mkdir raw o).perform ns =
      match Path.parse raw, ns.clock.millis with
      | .ok p, some now => if ns.contains p then ns else ns.ensureDirectory now o p
      | _, _ => ns := by
  rw [PopulationCall.perform, mkdir, Action.exec_bind, exec_parse]
  rcases Path.parse raw with e | p
  · rfl
  rw [Action.mapError_ok, Action.andThen_ok, Action.exec_bind_of_ok (Action.exec_get ns)]
  rcases ns.clock.millis with _ | now
  · split_ifs <;> rfl
  · dsimp only
    split_ifs <;> rfl

theorem perform_addFile (raw : String) (data : Bytes) (o : FileOptions) (ns : Namespace) :
    (PopulationCall.addFile raw data o).perform ns =
      match Path.parse raw, ns.clock.millis with
      | .ok p, some now =>
        let old := if ns.contains p.parent then ns else ns.ensureDirectory now {} p.parent
        let made := old.attach p (old.newFile p now data o)
        if o.blockSize = 0 then made else { made with nodes := made.nodes.put p (cut (old.newFile p now data o) o) }
      | _, _ => ns := by
  rw [PopulationCall.perform, addFile, Action.exec_bind, exec_parse]
  rcases Path.parse raw with e | p
  · rfl
  rw [Action.mapError_ok, Action.andThen_ok, Action.exec_bind_of_ok (Action.exec_get ns)]
  rcases ns.clock.millis with _ | now
  · rfl
  · dsimp only
    split_ifs <;> rfl

theorem perform_deny (raw : String) (ns : Namespace) :
    (PopulationCall.deny raw).perform ns =
      match Path.parse raw with
      | .ok p => { ns with denied := ns.denied ++ [p] }
      | .error _ => ns := by
  rw [PopulationCall.perform, deny, Action.exec_bind, exec_parse]
  rcases Path.parse raw with e | p <;> rfl

end Namespace

/-- **A call is a run of edits at the time that the clock shows, which changes nothing else than nodes, or it denies a
path.** -/
theorem PopulationCall.edits (call : PopulationCall) (ns : Namespace) :
    (∃ p, call.perform ns = { ns with denied := ns.denied ++ [p] } ∧ ∃ raw, call = .deny raw) ∨
      call.perform ns = ns ∨ ∃ now, ns.clock.millis = some now ∧ Namespace.Edits now call ns (call.perform ns) := by
  cases call with
  | deny raw =>
    rw [Namespace.perform_deny]
    rcases Path.parse raw with e | p
    · exact .inr (.inl rfl)
    · exact .inl ⟨p, rfl, raw, rfl⟩
  | mkdir raw o =>
    rw [Namespace.perform_mkdir]
    rcases Path.parse raw with e | p
    · exact .inr (.inl rfl)
    rcases ns.clock.millis with _ | now
    · exact .inr (.inl rfl)
    dsimp only
    split_ifs
    · exact .inr (.inl rfl)
    · exact .inr (.inr ⟨now, rfl, Namespace.edits_ensureDirectory now _ o p ns⟩)
  | addFile raw data o =>
    rw [Namespace.perform_addFile]
    rcases hp : Path.parse raw with e | p
    · exact .inr (.inl rfl)
    rcases ns.clock.millis with _ | now
    · exact .inr (.inl rfl)
    refine .inr (.inr ⟨now, rfl, ?_⟩)
    dsimp only
    have hparent : Namespace.Edits now (.addFile raw data o) ns
        (if ns.contains p.parent then ns else ns.ensureDirectory now {} p.parent) := by
      split_ifs
      · exact .refl
      · exact Namespace.edits_ensureDirectory now _ _ _ _
    generalize (if ns.contains p.parent then ns else ns.ensureDirectory now {} p.parent) = old at hparent ⊢
    have hmade := hparent.tail (.file rfl hp)
    split_ifs with hsize
    · exact hmade
    · exact hmade.tail (.cut rfl hp rfl)

/-- The attributes of a node fit its place and its data. -/
structure Node.Sound (node : Node) (p : Path) : Prop where
  path : node.info.path = p.text
  name : node.info.name = p.basename
  length : node.info.length = node.data.length

namespace Namespace

/-! ## Reachable states -/

/-- What comes of calls that are allowed, at times that a clock may show. -/
inductive Reachable (clocks : Clock → Prop) (calls : PopulationCall → Prop) : Namespace → Prop
  /-- A new namespace. -/
  | empty {clock : Clock} {ns : Namespace} (shown : clocks clock) (made : Namespace.empty clock = .ok ns) :
    Reachable clocks calls ns
  /-- A call, whether it fails or not. -/
  | call {ns : Namespace} {clock : Clock} {call : PopulationCall} (before : Reachable clocks calls ns)
    (shown : clocks clock) (allowed : calls call) : Reachable clocks calls (call.perform { ns with clock })
  /-- Files that have been opened and read in between. -/
  | reading {ns : Namespace} (before : Reachable clocks calls ns) (opened : List OpenFile) :
    Reachable clocks calls { ns with opened }

variable {clocks : Clock → Prop} {calls : PopulationCall → Prop}

theorem empty_eq_ok {clock : Clock} {ns : Namespace} (h : Namespace.empty clock = .ok ns) :
    ∃ now, clock.millis = some now ∧ ns = attach { clock } .root (newDirectory { clock } .root now {}) := by
  rw [Namespace.empty] at h
  rcases hnow : clock.millis with _ | now
  · rw [hnow] at h
    exact nomatch h
  · rw [hnow] at h
    exact ⟨now, rfl, (Except.ok.inj h).symm⟩

/-- What holds of every node that an edit makes, and does not depend on children, holds of all nodes after it. -/
theorem Edit.allNodes {P : Path → Node → Prop} {now : Int} {call : PopulationCall} {ns ns' : Namespace}
    (h : Edit now call ns ns')
    (hchildren : ∀ p node children, P p node → P p { node with children })
    (hdirectory : ∀ ns p o, P p (newDirectory ns p now o))
    (hfile : ∀ ns p raw data o, call = .addFile raw data o →
      P p (newFile ns p now data o) ∧ P p (Namespace.cut (newFile ns p now data o) o))
    (hns : ∀ p node, ns.find? p = some node → P p node) : ∀ p node, ns'.find? p = some node → P p node := by
  intro q node hq
  cases h with
  | directory absent =>
    rcases find?_attach_eq_some hq with ⟨rfl, rfl⟩ | ⟨old, children, hold, rfl⟩
    · exact hdirectory _ _ _
    · exact hchildren _ _ _ (hns _ _ hold)
  | file hcalls parsed =>
    rcases find?_attach_eq_some hq with ⟨rfl, rfl⟩ | ⟨old, children, hold, rfl⟩
    · exact (hfile _ _ _ _ _ hcalls).1
    · exact hchildren _ _ _ (hns _ _ hold)
  | cut hcalls parsed made =>
    rw [find?_put] at hq
    split_ifs at hq with hp
    · obtain rfl := Option.some.inj hq
      subst hp
      exact (hfile _ _ _ _ _ hcalls).2
    · exact hns _ _ hq

theorem Edit.denied_eq {now : Int} {call : PopulationCall} {ns ns' : Namespace} (h : Edit now call ns ns') :
    ns'.denied = ns.denied := by
  cases h with
  | directory absent => exact denied_attach ..
  | file calls parsed => exact denied_attach ..
  | cut calls parsed made => rfl

theorem Edits.denied_eq {now : Int} {call : PopulationCall} {ns ns' : Namespace} (h : Edits now call ns ns') :
    ns'.denied = ns.denied := by
  induction h with
  | refl => rfl
  | tail _ hedit ih => exact hedit.denied_eq.trans ih

/-- **What holds of every new node, whatever its children, holds of all nodes of a reachable namespace.** -/
theorem Reachable.allNodes {P : Path → Node → Prop} {ns : Namespace} (h : Reachable clocks calls ns)
    (hchildren : ∀ p node children, P p node → P p { node with children })
    (hdirectory : ∀ clock now ns p o, clocks clock → clock.millis = some now → P p (newDirectory ns p now o))
    (hfile : ∀ clock now ns p raw data o, clocks clock → clock.millis = some now → calls (.addFile raw data o) →
      P p (newFile ns p now data o) ∧ P p (Namespace.cut (newFile ns p now data o) o)) :
    ∀ p node, ns.find? p = some node → P p node := by
  induction h with
  | @empty clock ns shown made =>
    obtain ⟨now, hnow, rfl⟩ := empty_eq_ok made
    intro p node hp
    rw [find?_attach_root] at hp
    split_ifs at hp with hroot
    · obtain rfl := Option.some.inj hp
      exact hroot ▸ hdirectory _ _ _ _ _ shown hnow
    · exact nomatch hp
  | @call ns clock call before shown allowed ih =>
    rcases call.edits { ns with clock } with ⟨p, hdeny, -⟩ | hsame | ⟨now, hnow, hedits⟩
    · rw [hdeny]
      exact ih
    · rw [hsame]
      exact ih
    · -- The run is at one time, so that each of its edits makes nodes of which the property holds.
      generalize call.perform { ns with clock } = ns' at hedits
      induction hedits with
      | refl => exact ih
      | tail _ hedit ih =>
        refine hedit.allNodes hchildren (fun _ _ _ => hdirectory _ _ _ _ _ shown hnow) ?_ ih
        rintro _ _ raw data o rfl
        exact hfile _ _ _ _ _ _ _ shown hnow allowed
  | reading before opened ih => exact ih

theorem Reachable.denied_eq_nil {ns : Namespace} (h : Reachable clocks calls ns) (hdeny : ∀ raw, ¬ calls (.deny raw)) :
    ns.denied = [] := by
  induction h with
  | empty shown made =>
    obtain ⟨now, -, rfl⟩ := empty_eq_ok made
    rfl
  | @call ns clock call before shown allowed ih =>
    rcases call.edits { ns with clock } with ⟨p, -, raw, rfl⟩ | hsame | ⟨now, -, hedits⟩
    · exact absurd allowed (hdeny raw)
    · rw [hsame]
      exact ih
    · rw [hedits.denied_eq]
      exact ih
  | reading before opened ih => exact ih

/-! ## Histories -/

/-- The namespace after a history: calls one after another, each at a time of its own. -/
def after (ns : Namespace) (history : List (Clock × PopulationCall)) : Namespace :=
  history.foldl (fun ns entry => entry.2.perform { ns with clock := entry.1 }) ns

theorem after_cons (ns : Namespace) (clock : Clock) (call : PopulationCall) (rest : List (Clock × PopulationCall)) :
    ns.after ((clock, call) :: rest) = (call.perform { ns with clock }).after rest := rfl

theorem Reachable.mono {ns : Namespace} {clocks' : Clock → Prop} {calls' : PopulationCall → Prop}
    (h : Reachable clocks calls ns) (hclocks : ∀ clock, clocks clock → clocks' clock)
    (hcalls : ∀ call, calls call → calls' call) : Reachable clocks' calls' ns := by
  induction h with
  | empty shown made => exact .empty (hclocks _ shown) made
  | call before shown allowed ih => exact .call ih (hclocks _ shown) (hcalls _ allowed)
  | reading before opened ih => exact .reading ih opened

theorem Reachable.after {ns : Namespace} (h : Reachable clocks calls ns) {history : List (Clock × PopulationCall)}
    (allowed : ∀ entry ∈ history, clocks entry.1 ∧ calls entry.2) : Reachable clocks calls (ns.after history) := by
  induction history generalizing ns with
  | nil => exact h
  | cons entry rest ih =>
    obtain ⟨⟨hclock, hcall⟩, hrest⟩ := List.forall_mem_cons.mp allowed
    exact ih (h.call hclock hcall) hrest

/-! ## Nodes and their attributes -/

/-- **In every reachable namespace the attributes of a node fit its place and its data.** -/
theorem Reachable.sound {ns : Namespace} (h : Reachable clocks calls ns) {p : Path} {node : Node}
    (hp : ns.find? p = some node) : node.Sound p := by
  have hall : ∀ p node, ns.find? p = some node → Node.Sound node p :=
    h.allNodes (fun _ _ _ h => ⟨h.path, h.name, h.length⟩) (fun _ _ _ _ _ _ _ => ⟨rfl, rfl, rfl⟩)
      fun _ _ _ _ _ _ _ _ _ _ => ⟨⟨rfl, rfl, rfl⟩, ⟨rfl, rfl, rfl⟩⟩
  exact hall p node hp

theorem lookup_eq_ok_iff {ns : Namespace} {raw : String} {node : Node} :
    ns.lookup raw = .ok node ↔ ∃ p, Path.parse raw = .ok p ∧ p ∉ ns.denied ∧ ns.find? p = some node := by
  rw [lookup]
  rcases Path.parse raw with e | p
  · simp
  dsimp only
  rcases hp : ns.find? p with _ | found <;> by_cases hdenied : p ∈ ns.denied <;> simp [hdenied, hp]

theorem Reachable.lookup_path {ns : Namespace} (h : Reachable clocks calls ns) {raw : String} {node : Node}
    (hraw : ns.lookup raw = .ok node) : ns.lookup node.info.path = .ok node := by
  obtain ⟨p, -, hdenied, hp⟩ := lookup_eq_ok_iff.mp hraw
  rw [(h.sound hp).path]
  exact lookup_eq_ok_iff.mpr ⟨p, Path.parse_text p, hdenied, hp⟩

theorem Reachable.lookup_text {ns : Namespace} (h : Reachable clocks calls ns) (hdeny : ∀ raw, ¬ calls (.deny raw))
    {p : Path} {node : Node} (hp : ns.find? p = some node) : ns.lookup p.text = .ok node := by
  refine lookup_eq_ok_iff.mpr ⟨p, Path.parse_text p, ?_, hp⟩
  rw [h.denied_eq_nil hdeny]
  exact List.not_mem_nil

end Namespace

end ClusterBrowser
