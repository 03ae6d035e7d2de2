import ClusterBrowser.Proofs.FileView
import ClusterBrowser.Proofs.Trace

/-!
# Browsing reads only

Whatever goes wrong while a namespace is browsed, all that is left behind is a file that is closed.

* `Strained`: a namespace in which calls may go wrong.
* `Namespace.GrownBy`: a state with some more files, which have been opened and closed.
* `Strained.grownBy_withFile`: a file that is opened is closed again, whatever its use comes to.
* `Namespace.opensFile`: a request leads to a file that is previewed.
* `Strained.grownBy_browse`: a browse opens a file exactly if it leads to one that is previewed.
* **`Strained.browses_readOnly`**: what any number of browses leave behind.
-/

namespace ClusterBrowser

variable {σ α β : Type}

/-! ## Calls that go wrong -/

/-- What goes wrong in a call, before or after it has had its effect. -/
structure Fault where
  failure : Failure
  late : Bool
  deriving DecidableEq, Repr

/-- A namespace, and what goes wrong in the calls to come, one after another. -/
structure Strained where
  ns : Namespace
  faults : List (Option Fault)

namespace Strained

/-- A call that does not go wrong. -/
def within (x : Action Namespace α) : Action Strained α := x.onPart Strained.ns fun s ns => { s with ns }

/-- A call that may go wrong. -/
def risking (x : Action Namespace α) : Action Strained α :=
  Action.ofFunction fun s =>
    let (outcome, ns) := x.exec s.ns
    match s.faults.head?.join with
    | none => (outcome, ⟨ns, s.faults.tail⟩)
    | some fault => (.error fault.failure, ⟨if fault.late then ns else s.ns, s.faults.tail⟩)

def stream (x : FileStream Namespace) : FileStream Strained where
  skip n := risking (x.skip n)
  read n := risking (x.read n)
  close := within x.close

/-- The namespace as a cluster in which skipping, reading, and asking for the tiers or for blocks may go wrong. -/
def cluster (masterAddress : String) (tiers : List String) : Cluster Strained where
  masterAddress
  status raw := within ((Namespace.cluster masterAddress tiers).status raw)
  list raw := within ((Namespace.cluster masterAddress tiers).list raw)
  blocks raw := risking ((Namespace.cluster masterAddress tiers).blocks raw)
  tiers := risking (Namespace.cluster masterAddress tiers).tiers
  openFile raw mode := stream <$> within ((Namespace.cluster masterAddress tiers).openFile raw mode)
  ping := within (Namespace.cluster masterAddress tiers).ping
  close := within (Namespace.cluster masterAddress tiers).close

end Strained

/-! ## Windows -/

section

variable {I : σ → Prop} {F : Failure → Prop} {x : FileStream σ}

theorem keeps_fill (hread : ∀ n, (x.read n).Keeps I F) (fuel missing : ℕ) (got : Bytes) :
    (fill x fuel missing got).Keeps I F := by
  induction fuel generalizing missing got with
  | zero => exact .pure got
  | succ fuel ih =>
    unfold fill
    split
    · exact .pure got
    · refine (hread missing).bind fun chunk => ?_
      split
      · exact .pure got
      · exact .pure got
      · exact ih _ _

theorem keeps_readWindow (hskip : ∀ n, (x.skip n).Keeps I F) (hread : ∀ n, (x.read n).Keeps I F)
    (offset length : Int) : (readWindow x offset length).Keeps I F := by
  refine (hskip offset).bind fun skipped => ?_
  split
  · exact .pure _
  split
  · exact .pure _
  dsimp only
  split
  · exact .pure _
  refine (hread _).bind fun chunk => ?_
  split
  · exact .pure _
  · exact (keeps_fill hread _ _ _).bind fun _ => .pure _

end

/-! ## What is left behind -/

/-- `t` is `s` with `k` more files, which have been opened and closed. -/
structure Namespace.GrownBy (k : ℕ) (s t : Namespace) : Prop where
  nodes : t.nodes = s.nodes
  denied : t.denied = s.denied
  nextId : t.nextId = s.nextId
  clock : t.clock = s.clock
  opened : ∃ more, t.opened = s.opened ++ more ∧ more.length = k ∧ ∀ file ∈ more, file.closed = true

namespace Namespace.GrownBy

variable {k l : ℕ} {r s t : Namespace}

theorem refl (s : Namespace) : GrownBy 0 s s :=
  ⟨rfl, rfl, rfl, rfl, [], (List.append_nil _).symm, rfl, by simp⟩

theorem trans (h : GrownBy k r s) (h' : GrownBy l s t) : GrownBy (k + l) r t := by
  obtain ⟨more, hmore, hk, hclosed⟩ := h.opened
  obtain ⟨more', hmore', hl, hclosed'⟩ := h'.opened
  refine ⟨h'.nodes.trans h.nodes, h'.denied.trans h.denied, h'.nextId.trans h.nextId, h'.clock.trans h.clock,
    more ++ more', ?_, ?_, ?_⟩
  · rw [hmore', hmore, List.append_assoc]
  · rw [List.length_append, hk, hl]
  · intro file hfile
    cases List.mem_append.mp hfile with
    | inl hfile => exact hclosed file hfile
    | inr hfile => exact hclosed' file hfile

theorem sameContent (h : GrownBy k s t) : SameContent t s := ⟨h.nodes, h.denied⟩

theorem closed (h : GrownBy k s t) (hs : ∀ file ∈ s.opened, file.closed = true) :
    ∀ file ∈ t.opened, file.closed = true := by
  obtain ⟨more, hmore, -, hclosed⟩ := h.opened
  rw [hmore]
  intro file hfile
  cases List.mem_append.mp hfile with
  | inl hfile => exact hs file hfile
  | inr hfile => exact hclosed file hfile

end Namespace.GrownBy

/-- A text leads to a file. -/
def Namespace.holdsFile (ns : Namespace) (raw : String) : Bool :=
  match ns.lookup raw with
  | .ok node => !node.info.folder
  | .error _ => false

namespace Strained

/-- An action that leaves the namespace as it is. -/
abbrev Leaves (ns : Namespace) (x : Action Strained α) : Prop := x.Keeps (fun s => s.ns = ns) fun _ => True

variable {ns : Namespace}

theorem exec_within (x : Action Namespace α) (s : Strained) :
    (within x).exec s = ((x.exec s.ns).1, { s with ns := (x.exec s.ns).2 }) := rfl

theorem leaves_within {x : Action Namespace α} (hx : (x.exec ns).2 = ns) : Leaves ns (within x) where
  holds := by
    rintro ⟨_, faults⟩ rfl
    exact hx
  fails _ _ _ _ := .inr trivial

theorem exec_risking (x : Action Namespace α) (s : Strained) :
    ((risking x).exec s).2.ns = (x.exec s.ns).2 ∨ ((risking x).exec s).2.ns = s.ns := by
  rw [risking, Action.exec_ofFunction]
  dsimp only
  split
  · exact .inl rfl
  · split
    · exact .inl rfl
    · exact .inr rfl

theorem leaves_risking {x : Action Namespace α} (hx : (x.exec ns).2 = ns) : Leaves ns (risking x) where
  holds s hs := by
    cases exec_risking x s with
    | inl h => rw [h, hs, hx]
    | inr h => rw [h, hs]
  fails _ _ _ _ := .inr trivial

theorem leaves_ofExcept {ε : Type} (wrap : ε → Failure) (r : Except ε α) :
    Leaves ns (Action.ofExcept wrap r) :=
  .ofExcept (fun _ => .inr trivial) r

variable (ns) (masterAddress : String) (tiers : List String)

theorem leaves_status (raw : String) : Leaves ns ((cluster masterAddress tiers).status raw) :=
  leaves_within (by rw [Namespace.exec_status])

theorem leaves_list (raw : String) : Leaves ns ((cluster masterAddress tiers).list raw) :=
  leaves_within (by rw [Namespace.exec_list])

theorem leaves_blocks (raw : String) : Leaves ns ((cluster masterAddress tiers).blocks raw) :=
  leaves_risking (by rw [Namespace.exec_blocks])

theorem leaves_tiers : Leaves ns (cluster masterAddress tiers).tiers := leaves_risking rfl

theorem leaves_resolve (p : Path) : Leaves ns (resolve (cluster masterAddress tiers) p) := by
  refine (leaves_status ns masterAddress tiers p.text).bind fun info => ?_
  split
  · exact .fail _
  · exact .pure _

theorem leaves_breadcrumbs (p : Path) : Leaves ns (breadcrumbs (cluster masterAddress tiers) p) :=
  .mapM (fun a => (leaves_resolve ns masterAddress tiers a).bind fun _ => leaves_ofExcept _ _) _

theorem leaves_listDirectory (raw : String) : Leaves ns (listDirectory (cluster masterAddress tiers) raw) :=
  (leaves_list ns masterAddress tiers raw).bind fun _ =>
    Action.Keeps.bind (.mapM (fun _ => leaves_ofExcept _ _) _) fun _ => .pure _

theorem leaves_annotate (sampling : Sampling) (policy : FailurePolicy) (entries : List Entry) :
    Leaves ns (annotate (cluster masterAddress tiers) sampling policy entries) := by
  have hlocations : ∀ e, Leaves ns (locationsFor (cluster masterAddress tiers) sampling e) := by
    intro e
    unfold locationsFor
    split
    · exact (leaves_blocks ns masterAddress tiers e.path).bind fun _ => .pure _
    · exact .pure _
  induction entries with
  | nil => exact .pure _
  | cons e rest ih =>
    refine (hlocations e).attempt.bind fun r => ?_
    cases r with
    | ok locations => exact ih.bind fun _ => .pure _
    | error err =>
      dsimp only
      split
      · exact ih.bind fun _ => .pure _
      · exact .pure _

theorem leaves_browseDirectory (b : Browser) (v : View) (p : Path) (req : Request) :
    Leaves ns (b.browseDirectory (cluster masterAddress tiers) v p req) := by
  refine (leaves_breadcrumbs ns masterAddress tiers p).attempt.bind fun r => ?_
  cases r with
  | error e => exact .pure _
  | ok ancestors =>
    refine (leaves_listDirectory ns masterAddress tiers p.text).attempt.bind fun r => ?_
    cases r with
    | error e => exact .pure _
    | ok entries =>
      refine (leaves_annotate ns masterAddress tiers b.sampling b.policy entries).bind fun annotated => ?_
      split
      · exact .pure _
      · exact .pure _

/-! ## Reading a file -/

/-- The namespace with one more file, which has been opened. -/
def Reading (s : Strained) : Prop := ∃ file, s.ns = { ns with opened := ns.opened ++ [file] }

theorem exec_useOpened_last (idle : α) (use : OpenFile → α × OpenFile) (file : OpenFile) :
    (Namespace.useOpened ns.opened.length idle use).exec { ns with opened := ns.opened ++ [file] } =
      (.ok (use file).1, { ns with opened := ns.opened ++ [(use file).2] }) := by
  have hfile : (ns.opened ++ [file])[ns.opened.length]? = some file := by simp
  rw [Namespace.exec_useOpened (s := { ns with opened := ns.opened ++ [file] }) idle use hfile]
  simp

theorem keeps_risking_useOpened (idle : α) (use : OpenFile → α × OpenFile) :
    (risking (Namespace.useOpened ns.opened.length idle use)).Keeps (Reading ns) fun _ => True where
  holds := by
    rintro s ⟨file, hs⟩
    cases exec_risking (Namespace.useOpened ns.opened.length idle use) s with
    | inl h => exact ⟨(use file).2, by rw [h, hs, exec_useOpened_last]⟩
    | inr h => exact ⟨file, h.trans hs⟩
  fails _ _ _ _ := .inr trivial

theorem keeps_stream_skip (n : Int) :
    ((stream (Namespace.stream ns.opened.length)).skip n).Keeps (Reading ns) fun _ => True :=
  keeps_risking_useOpened ns 0 (·.skip n)

theorem keeps_stream_read (n : Int) :
    ((stream (Namespace.stream ns.opened.length)).read n).Keeps (Reading ns) fun _ => True :=
  keeps_risking_useOpened ns none (·.read n)

theorem exec_stream_close {s : Strained} (hs : Reading ns s) :
    ∃ file, (stream (Namespace.stream ns.opened.length)).close.exec s =
      (.ok (), { s with ns := { ns with opened := ns.opened ++ [file] } }) ∧ file.closed = true := by
  obtain ⟨file, hfile⟩ := hs
  have hclose : (Namespace.stream ns.opened.length).close.exec s.ns =
      (.ok (), { ns with opened := ns.opened ++ [{ file with closed := true }] }) := by
    rw [hfile]
    exact exec_useOpened_last ns () (fun file => ((), { file with closed := true })) file
  refine ⟨{ file with closed := true }, ?_, rfl⟩
  show (within (Namespace.stream ns.opened.length).close).exec s = _
  rw [exec_within, hclose]

variable {ns} {s : Strained}

theorem exec_openFile_of_holdsFile {raw : String} (h : s.ns.holdsFile raw = true) (mode : ReadMode) :
    ∃ t, ((cluster masterAddress tiers).openFile raw mode).exec s =
      (.ok (stream (Namespace.stream s.ns.opened.length)), t) ∧ Reading s.ns t := by
  show ∃ t, (stream <$> within ((Namespace.cluster masterAddress tiers).openFile raw mode)).exec s = _ ∧ _
  rw [Action.exec_map, exec_within, Namespace.exec_openFile, Namespace.answer]
  unfold Namespace.holdsFile at h
  cases hlookup : s.ns.lookup raw with
  | error e => simp [hlookup] at h
  | ok node =>
    have hfolder : node.info.folder = false := by simpa [hlookup] using h
    refine ⟨{ s with ns := { s.ns with opened := s.ns.opened ++ [OpenFile.mk node.data 0 false] } }, ?_, _, rfl⟩
    simp [hfolder, Except.map]

theorem exec_openFile_of_not_holdsFile {raw : String} (h : s.ns.holdsFile raw = false) (mode : ReadMode) :
    ∃ f, ((cluster masterAddress tiers).openFile raw mode).exec s = (.error f, s) := by
  show ∃ f, (stream <$> within ((Namespace.cluster masterAddress tiers).openFile raw mode)).exec s = _
  rw [Action.exec_map, exec_within, Namespace.exec_openFile, Namespace.answer]
  unfold Namespace.holdsFile at h
  cases hlookup : s.ns.lookup raw with
  | error e => exact ⟨_, rfl⟩
  | ok node =>
    have hfolder : node.info.folder = true := by simpa [hlookup] using h
    simp [hfolder, Except.map]

/-- **A file that is opened is closed again, whatever its use comes to.** -/
theorem grownBy_withFile {use : FileStream Strained → Action Strained α}
    (huse : (use (stream (Namespace.stream s.ns.opened.length))).Keeps (Reading s.ns) fun _ => True) (raw : String)
    (mode : ReadMode) : s.ns.GrownBy (if s.ns.holdsFile raw then 1 else 0)
      (((cluster masterAddress tiers).withFile raw mode use).exec s).2.ns := by
  unfold Cluster.withFile
  split_ifs with hraw
  · obtain ⟨t, hopen, ht⟩ := exec_openFile_of_holdsFile masterAddress tiers hraw mode
    rw [Action.exec_bind_of_ok hopen, Action.exec_bind_of_ok (Action.exec_observe _ _)]
    obtain ⟨file, hclose, hclosed⟩ := exec_stream_close s.ns (huse.holds t ht)
    rw [Action.exec_bind_of_ok hclose, (leaves_ofExcept _ _).holds _ rfl]
    exact ⟨rfl, rfl, rfl, rfl, [file], rfl, rfl, by simpa using hclosed⟩
  · obtain ⟨f, hopen⟩ := exec_openFile_of_not_holdsFile masterAddress tiers (Bool.eq_false_iff.mpr hraw) mode
    rw [Action.exec_bind_of_error hopen]
    exact .refl s.ns

theorem grownBy_bind {x : Action Strained α} {k : α → Action Strained β} {n : ℕ}
    (hx : s.ns.GrownBy n (x.exec s).2.ns) (hk : ∀ a ns, Leaves ns (k a)) :
    s.ns.GrownBy n ((x >>= k).exec s).2.ns := by
  rw [Action.exec_bind]
  rcases h : x.exec s with ⟨f | a, t⟩
  · rw [h] at hx
    exact hx
  · rw [h] at hx
    rw [Action.andThen_ok, (hk a t.ns).holds t rfl]
    exact hx

theorem grownBy_readFile (info : FileInfo) (offset : Int) :
    s.ns.GrownBy (if info.completed && s.ns.holdsFile info.path then 1 else 0)
      ((readFile (cluster masterAddress tiers) info offset).exec s).2.ns := by
  unfold readFile
  by_cases hcompleted : info.completed = true
  · rw [if_pos hcompleted, hcompleted, Bool.true_and]
    refine grownBy_bind ?_ fun _ _ => .pure _
    rw [Action.exec_mapFailure]
    refine grownBy_withFile masterAddress tiers ?_ info.path .noCache
    exact keeps_readWindow (keeps_stream_skip s.ns) (keeps_stream_read s.ns) offset info.length
  · rw [if_neg hcompleted, Bool.eq_false_iff.mpr hcompleted]
    exact .refl s.ns

theorem grownBy_preview (info : FileInfo) (offset : Int) :
    s.ns.GrownBy (if info.completed && s.ns.holdsFile info.path then 1 else 0)
      ((preview (cluster masterAddress tiers) info offset).exec s).2.ns := by
  refine grownBy_bind (grownBy_readFile masterAddress tiers info offset) fun read ns => ?_
  refine (leaves_tiers ns masterAddress tiers).bind fun names => ?_
  exact (leaves_blocks ns masterAddress tiers info.path).bind fun blocks => .pure _

theorem grownBy_browseFile (v : View) (info : FileInfo) (req : Request) :
    s.ns.GrownBy (if info.completed && s.ns.holdsFile info.path then 1 else 0)
      ((Browser.browseFile (cluster masterAddress tiers) v info req).exec s).2.ns := by
  refine grownBy_bind ?_ fun r ns => ?_
  · rw [Action.exec_attempt_snd]
    exact grownBy_preview masterAddress tiers info _
  · cases r with
    | ok result => exact .pure _
    | error e => exact .pure _

end Strained

/-! ## Browses -/

namespace Namespace

variable {ns : Namespace} {req : Request} {p : Path}

/-- A node is a completed file which can be shown, and its attributes name a file. -/
def previews (ns : Namespace) (node : Node) : Bool :=
  node.info.path ≠ "" && (Entry.ofInfo node.info).isOk && !node.info.folder && node.info.completed &&
    ns.holdsFile node.info.path

/-- A request leads to a file that is previewed. -/
def opensFile (ns : Namespace) (req : Request) : Bool :=
  match Path.parseRequest req.path with
  | .error _ => false
  | .ok p =>
    match ns.lookup p.text with
    | .error _ => false
    | .ok node => ns.previews node

theorem opensFile_of_misspelt {e : PathError} (hp : Path.parseRequest req.path = .error e) :
    ns.opensFile req = false := by
  rw [opensFile, hp]

theorem opensFile_of_lookup_error {e : LookupError} (hp : Path.parseRequest req.path = .ok p)
    (hlookup : ns.lookup p.text = .error e) : ns.opensFile req = false := by
  simp only [opensFile, hp, hlookup]

theorem opensFile_of_lookup_ok {node : Node} (hp : Path.parseRequest req.path = .ok p)
    (hlookup : ns.lookup p.text = .ok node) : ns.opensFile req = ns.previews node := by
  simp only [opensFile, hp, hlookup]

theorem SameContent.opensFile_eq {s : Namespace} (h : SameContent s ns) (req : Request) :
    s.opensFile req = ns.opensFile req := by
  unfold opensFile previews holdsFile
  simp only [h.lookup_eq]

/-- Where attributes name the place of their node, a file is previewed exactly if it is completed and can be shown. -/
theorem Reachable.opensFile_iff {clocks : Clock → Prop} {calls : PopulationCall → Prop}
    (h : Reachable clocks calls ns) : ns.opensFile req = true ↔
      ∃ p node e, Path.parseRequest req.path = .ok p ∧ p ∉ ns.denied ∧ ns.find? p = some node ∧
        node.info.folder = false ∧ node.info.completed = true ∧ Entry.ofInfo node.info = .ok e := by
  constructor
  · intro hopens
    cases hp : Path.parseRequest req.path with
    | error e => simp [opensFile_of_misspelt hp] at hopens
    | ok p =>
      cases hlookup : ns.lookup p.text with
      | error e => simp [opensFile_of_lookup_error hp hlookup] at hopens
      | ok node =>
        obtain ⟨q, hq, hdenied, hnode⟩ := lookup_eq_ok_iff.mp hlookup
        obtain rfl : q = p := Except.ok.inj (hq.symm.trans (Path.parse_text p))
        rw [opensFile_of_lookup_ok hp hlookup] at hopens
        unfold previews at hopens
        cases hentry : Entry.ofInfo node.info with
        | error e => simp [hentry, Except.isOk, Except.toBool] at hopens
        | ok e =>
          simp only [Bool.and_eq_true, Bool.not_eq_true'] at hopens
          exact ⟨q, node, e, rfl, hdenied, hnode, hopens.1.1.2, hopens.1.2, hentry⟩
  · rintro ⟨p, node, e, hp, hdenied, hnode, hfolder, hcompleted, hentry⟩
    have hlookup : ns.lookup p.text = .ok node := lookup_eq_ok_iff.mpr ⟨p, Path.parse_text p, hdenied, hnode⟩
    have hpath : node.info.path ≠ "" := by
      rw [(h.sound hnode).path]
      exact Path.text_ne_empty p
    rw [opensFile_of_lookup_ok hp hlookup]
    unfold previews holdsFile
    simp [hpath, hentry, hfolder, hcompleted, h.lookup_path hlookup, Except.isOk, Except.toBool]

end Namespace

namespace Strained

variable (masterAddress : String) (tiers : List String)

theorem exec_resolveShown (p : Path) (s : Strained) : (resolveShown (cluster masterAddress tiers) p).exec s =
    Action.andThen ((s.ns.answer p.text Node.info).mapError .browse, s) fun info =>
      if info.path = "" then Action.fail (.pathNotFound p.text)
      else Action.ofExcept .display ((Entry.ofInfo info).map fun entry => (info, entry)) := by
  have hstatus : ((cluster masterAddress tiers).status p.text).exec s =
      ((s.ns.answer p.text Node.info).mapError .browse, s) := by
    show (within ((Namespace.cluster masterAddress tiers).status p.text)).exec s = _
    rw [exec_within, Namespace.exec_status]
  rw [ClusterBrowser.exec_resolveShown, hstatus]

/-- **A browse opens a file exactly if it leads to one that is previewed, and closes it again.** -/
theorem grownBy_browse (b : Browser) (req : Request) (s : Strained) :
    s.ns.GrownBy (if s.ns.opensFile req then 1 else 0) ((b.browse (cluster masterAddress tiers) req).exec s).2.ns := by
  have hresolve := fun p => exec_resolveShown masterAddress tiers p s
  -- The cases are the ways out of a browse, in the order in which they are taken; only the last one opens a file.
  cases hp : Path.parseRequest req.path with
  | error e =>
    rw [Namespace.opensFile_of_misspelt hp, Browser.browse, hp]
    exact .refl s.ns
  | ok p =>
    specialize hresolve p
    rw [Namespace.answer] at hresolve
    rw [Browser.browse_eq b _ req hp]
    cases hlookup : s.ns.lookup p.text with
    | error e =>
      rw [hlookup] at hresolve
      rw [Namespace.opensFile_of_lookup_error hp hlookup,
        Action.exec_bind_of_ok (Action.exec_attempt_of_error hresolve)]
      exact .refl s.ns
    | ok node =>
      rw [hlookup] at hresolve
      rw [Namespace.opensFile_of_lookup_ok hp hlookup]
      unfold Namespace.previews
      by_cases hpath : node.info.path = ""
      · have hmissing : (resolveShown (cluster masterAddress tiers) p).exec s =
            (.error (.browse (.pathNotFound p.text)), s) := by
          rw [hresolve]
          simp only [Action.mapError_ok, Except.map, Action.andThen_ok, hpath, if_true]
          rfl
        rw [Action.exec_bind_of_ok (Action.exec_attempt_of_error hmissing)]
        simpa [hpath] using Namespace.GrownBy.refl s.ns
      cases hentry : Entry.ofInfo node.info with
      | error e =>
        have hhidden : (resolveShown (cluster masterAddress tiers) p).attempt.exec s = (.error (.display e), s) := by
          rw [Action.exec_attempt, hresolve]
          simp [Except.map, hpath, hentry]
        rw [Action.exec_bind_of_error hhidden]
        simpa [Except.isOk, Except.toBool] using Namespace.GrownBy.refl s.ns
      | ok current =>
        have hfound : (resolveShown (cluster masterAddress tiers) p).exec s = (.ok (node.info, current), s) :=
          hresolve.trans (by simp [Except.map, hpath, hentry])
        rw [Action.exec_bind_of_ok (Action.exec_attempt_of_ok hfound)]
        dsimp only
        rw [Entry.isDirectory_of_ofInfo hentry]
        by_cases hfolder : node.info.folder = true
        · rw [if_pos hfolder, (leaves_browseDirectory s.ns masterAddress tiers b _ p req).holds s rfl]
          simpa [hfolder] using Namespace.GrownBy.refl s.ns
        · have hfile := grownBy_browseFile masterAddress tiers (s := s)
            (b.located { b.blank (cluster masterAddress tiers) req with currentPath := p.text } current) node.info req
          rw [if_neg hfolder]
          simpa [hpath, hfolder, Except.isOk, Except.toBool] using hfile

/-- Browses one after another, whatever they come to. -/
def browses (visits : List (Browser × Request)) (s : Strained) : Strained :=
  visits.foldl (fun s visit => ((visit.1.browse (cluster masterAddress tiers) visit.2).exec s).2) s

theorem browses_cons (visit : Browser × Request) (rest : List (Browser × Request)) (s : Strained) :
    browses masterAddress tiers (visit :: rest) s =
      browses masterAddress tiers rest ((visit.1.browse (cluster masterAddress tiers) visit.2).exec s).2 := rfl

theorem grownBy_browses (visits : List (Browser × Request)) (s : Strained) :
    s.ns.GrownBy (visits.countP fun visit => s.ns.opensFile visit.2) (browses masterAddress tiers visits s).ns := by
  induction visits generalizing s with
  | nil => exact .refl s.ns
  | cons visit rest ih =>
    have hfirst := grownBy_browse masterAddress tiers visit.1 visit.2 s
    have hrest := ih ((visit.1.browse (cluster masterAddress tiers) visit.2).exec s).2
    -- What the first browse left behind answers as before, so that the rest opens what it would have opened at first.
    simp only [hfirst.sameContent.opensFile_eq] at hrest
    rw [browses_cons, List.countP_cons, Nat.add_comm]
    exact hfirst.trans hrest

/-- **Browses leave behind nothing but closed files**, one for each browse that leads to a completed file which can be
shown. All this holds whatever goes wrong, and whether a browse gives a view or fails. -/
theorem browses_readOnly (visits : List (Browser × Request)) (s : Strained) :
    s.ns.GrownBy (visits.countP fun visit => s.ns.opensFile visit.2) (browses masterAddress tiers visits s).ns ∧
    ((∀ file ∈ s.ns.opened, file.closed = true) →
      ∀ file ∈ (browses masterAddress tiers visits s).ns.opened, file.closed = true) ∧
    ∀ clocks calls, s.ns.Reachable clocks calls → ∀ req : Request, s.ns.opensFile req = true ↔
      ∃ p node e, Path.parseRequest req.path = .ok p ∧ p ∉ s.ns.denied ∧ s.ns.find? p = some node ∧
        node.info.folder = false ∧ node.info.completed = true ∧ Entry.ofInfo node.info = .ok e :=
  ⟨grownBy_browses masterAddress tiers visits s, (grownBy_browses masterAddress tiers visits s).closed,
    fun _ _ h _ => h.opensFile_iff⟩

/-- The disk fails once it has skipped the first file, and the blocks of the second one are not told. -/
def mishaps : List (Option Fault) :=
  [some ⟨.storage false "I/O error", true⟩, none, none, none, some ⟨.foreign "Interrupted", false⟩]

/-- A file that is there, in two spellings, a directory, and a path at which there is nothing. -/
def tour : List (Browser × Request) :=
  [(.usual, { path := some "/d/hi" }), (.usual, { path := some "/d//hi" }), (.usual, { path := some "/d" }),
    (.usual, { path := some "/none" })]

theorem browses_readOnly_tour : ∃ t, t = browses "master:19998" Namespace.defaultTiers tour ⟨.greeting, mishaps⟩ ∧
    Namespace.greeting.GrownBy 2 t.ns ∧ (∀ file ∈ Namespace.greeting.opened, file.closed = true) ∧
    (∀ file ∈ t.ns.opened, file.closed = true) ∧ t.faults = [] ∧
    Namespace.greeting.Reachable Clock.IsCivil PopulationCall.IsPlain ∧
    ∃ p node e, Path.parseRequest (some "/d//hi") = .ok p ∧ p ∉ Namespace.greeting.denied ∧
      Namespace.greeting.find? p = some node ∧ node.info.folder = false ∧ node.info.completed = true ∧
      Entry.ofInfo node.info = .ok e := by
  have closed : ∀ file ∈ Namespace.greeting.opened, file.closed = true := by decide +kernel
  have count : (tour.countP fun visit => Namespace.greeting.opensFile visit.2) = 2 := by decide +kernel
  have opens : Namespace.greeting.opensFile { path := some "/d//hi" } = true := by decide +kernel
  have readOnly := browses_readOnly "master:19998" Namespace.defaultTiers tour ⟨.greeting, mishaps⟩
  refine ⟨_, rfl, ?_, closed, readOnly.2.1 closed, by decide +kernel, Namespace.reachable_greeting, ?_⟩
  · rw [← count]
    exact readOnly.1
  · exact (readOnly.2.2 _ _ Namespace.reachable_greeting { path := some "/d//hi" }).mp opens

end Strained

end ClusterBrowser
