import ClusterBrowser.Proofs.Order
import ClusterBrowser.Proofs.Trace

/-!
# Locating rows

Rows are located one after another, up to a failure that may not be skipped.

* `Cluster.BlocksBy`: what is told of blocks depends on the path alone.
* `Entry.located`: a row with its locations.
* `LookUp`: what comes of some rows, and what is asked for it.
* `exec_annotate_cons_of_goesOn`, `exec_annotate_cons_of_ends`: one row.
* `lookUp_annotate`: locating rows is such a look-up.
* **`annotate_locates`**: so it is whether calls are noted or not, and rows that fail could as well be left out.
-/

namespace ClusterBrowser

variable {σ : Type}

/-- What is told of blocks depends on the path alone. -/
def Cluster.BlocksBy (c : Cluster σ) (answer : String → Except Failure (List BlockReport)) : Prop :=
  ∀ path s, ((c.blocks path).exec s).1 = answer path

/-- The failures that leave only their own row without locations. -/
inductive FailurePolicy.Skips : FailurePolicy → Failure → Prop
  | notFound (message : String) : Skips .skip (.browse (.pathNotFound message))
  | invalid (message : String) : Skips .skip (.browse (.invalidPath message))

theorem FailurePolicy.skips_iff {policy : FailurePolicy} {e : BrowseError} :
    policy.Skips (.browse e) ↔ (decide (policy = .skip) && e.isPathError) = true := by
  rw [Bool.and_eq_true, decide_eq_true_eq]
  constructor
  · rintro ⟨⟩ <;> exact ⟨rfl, rfl⟩
  · rintro ⟨rfl, he⟩
    cases e with
    | pathNotFound message => exact .notFound message
    | invalidPath message => exact .invalid message
    | _ => exact nomatch he

/-! ## Look-ups -/

section

variable (answer : String → Except Failure (List BlockReport))

/-- A row with the locations of its file: the workers that hold the copies of the blocks that are looked at, in the order of
blocks and copies, and then the nodes of the backing store. A row of which no blocks are told stays as it is. -/
def Entry.located (sampling : Sampling) (e : Entry) : Entry :=
  match e.hasData, answer e.path with
  | true, .ok blocks => { e with locations := some (
      (sampling.sample blocks).flatMap (fun report => report.block.replicas.map (·.address.text)) ++
        (sampling.sample blocks).flatMap (fun report => report.backing.map NodeAddress.text)) }
  | _, _ => e

/-- A row of a file whose blocks are asked for in vain. -/
def Entry.fails (e : Entry) : Bool := e.hasData && (failureOf (answer e.path)).isSome

/-- The look-up ends at this row, with this failure. -/
def Entry.Ends (policy : FailurePolicy) (e : Entry) (f : Failure) : Prop :=
  e.hasData = true ∧ answer e.path = .error f ∧ ¬ policy.Skips f

/-- The question about a row, with its answer. -/
def Entry.question (e : Entry) : ClusterCall := .blocks e.path (answer e.path)

/-- What a look-up comes to that ends with a failure. -/
def Annotated.ending (rows : List Entry) : Failure → Except Failure Annotated
  | .browse e => .ok ⟨rows, some e⟩
  | f => .error f

variable (sampling : Sampling) (policy : FailurePolicy)

/-- What comes of rows that are looked up one after another, and what is asked for it: each file with data once, in order,
up to the first row at which the look-up ends. -/
inductive LookUp : List Entry → Except Failure Annotated → List ClusterCall → Prop
  | whole {entries : List Entry} (goesOn : ∀ e ∈ entries, ∀ f, ¬ e.Ends answer policy f) :
    LookUp entries (.ok ⟨entries.map (Entry.located answer sampling), none⟩)
      ((entries.filter Entry.hasData).map (Entry.question answer))
  | ended {passed rest : List Entry} {e : Entry} {f : Failure} (goesOn : ∀ e ∈ passed, ∀ f, ¬ e.Ends answer policy f)
    (ends : e.Ends answer policy f) :
    LookUp (passed ++ e :: rest) (Annotated.ending (passed.map (Entry.located answer sampling) ++ e :: rest) f)
      ((passed.filter Entry.hasData).map (Entry.question answer) ++ [e.question answer])

variable {answer sampling policy} {entries : List Entry} {out : Except Failure Annotated} {calls : List ClusterCall}

theorem Entry.located_of_not_hasData {e : Entry} (h : e.hasData = false) : e.located answer sampling = e := by
  rw [located, h]

theorem Entry.located_of_error {e : Entry} {f : Failure} (h : answer e.path = .error f) :
    e.located answer sampling = e := by
  rw [located, h]
  cases e.hasData <;> rfl

theorem Entry.located_of_ok {e : Entry} {blocks : List BlockReport} (hdata : e.hasData = true)
    (h : answer e.path = .ok blocks) :
    e.located answer sampling = { e with locations := some (mergeLocations (sampling.sample blocks)) } := by
  rw [located, hdata, h]
  rfl

theorem Annotated.map_ending (rows : List Entry) (row : Entry) (f : Failure) :
    (ending rows f).map (fun tail => { tail with entries := row :: tail.entries }) = ending (row :: rows) f := by
  cases f <;> rfl

theorem questions_cons (e : Entry) (entries : List Entry) :
    ((e :: entries).filter Entry.hasData).map (Entry.question answer) =
      (if e.hasData then [e.question answer] else []) ++ (entries.filter Entry.hasData).map (Entry.question answer) := by
  rw [List.filter_cons]
  split_ifs <;> rfl

theorem LookUp.cons {e : Entry} (h : LookUp answer sampling policy entries out calls)
    (goesOn : ∀ f, ¬ e.Ends answer policy f) :
    LookUp answer sampling policy (e :: entries)
      (out.map fun tail => { tail with entries := e.located answer sampling :: tail.entries })
      ((if e.hasData then [e.question answer] else []) ++ calls) := by
  cases h with
  | whole hrest =>
    rw [← questions_cons]
    exact .whole (List.forall_mem_cons.mpr ⟨goesOn, hrest⟩)
  | @ended passed rest last f hpassed ends =>
    rw [Annotated.map_ending, ← List.append_assoc, ← questions_cons]
    have hall : ∀ e' ∈ e :: passed, ∀ f, ¬ e'.Ends answer policy f := List.forall_mem_cons.mpr ⟨goesOn, hpassed⟩
    exact LookUp.ended hall ends

theorem LookUp.first {e : Entry} {f : Failure} (ends : e.Ends answer policy f) (rest : List Entry) :
    LookUp answer sampling policy (e :: rest) (Annotated.ending (e :: rest) f) [e.question answer] := by
  have hnone : ∀ e ∈ ([] : List Entry), ∀ f, ¬ e.Ends answer policy f := List.forall_mem_nil _
  exact LookUp.ended hnone ends

theorem LookUp.eq_of_goesOn (h : LookUp answer sampling policy entries out calls)
    (goesOn : ∀ e ∈ entries, ∀ f, ¬ e.Ends answer policy f) :
    out = .ok ⟨entries.map (Entry.located answer sampling), none⟩ := by
  cases h with
  | whole => rfl
  | ended _ ends => exact absurd ends (goesOn _ (by simp) _)

theorem LookUp.goesOn_of_eq {rows : List Entry} (h : LookUp answer sampling policy entries out calls)
    (hout : out = .ok ⟨rows, none⟩) : ∀ e ∈ entries, ∀ f, ¬ e.Ends answer policy f := by
  cases h with
  | whole goesOn => exact goesOn
  | @ended _ _ _ f _ _ => cases f <;> cases hout

/-! ## Runs -/

theorem exec_locationsFor_traced {c : Cluster σ} (h : c.BlocksBy answer) {e : Entry} (hdata : e.hasData = true) (s : σ)
    (before : List ClusterCall) :
    (locationsFor c.traced sampling e).exec (s, before) =
      ((answer e.path).map fun blocks => some (mergeLocations (sampling.sample blocks)),
        ((c.blocks e.path).exec s).2, before ++ [e.question answer]) := by
  have hnoted : (c.traced.blocks e.path).exec (s, before) =
      (answer e.path, ((c.blocks e.path).exec s).2, before ++ [e.question answer]) := by
    rw [Cluster.traced]
    dsimp only
    rw [Action.exec_noting, h]
    rfl
  rw [locationsFor, if_pos hdata, Action.exec_bind, hnoted]
  cases answer e.path <;> rfl

variable (sampling) in
/-- A row at which the look-up does not end: it is asked about, gets its locations, and the others follow. -/
theorem exec_annotate_cons_of_goesOn {c : Cluster σ} (h : c.BlocksBy answer) {e : Entry} (fresh : e.locations = none)
    (goesOn : ∀ f, ¬ e.Ends answer policy f) (rest : List Entry) (s : σ) (before : List ClusterCall) :
    ∃ t, (annotate c.traced sampling policy (e :: rest)).exec (s, before) =
      (annotate c.traced sampling policy rest >>= fun tail =>
        pure { tail with entries := e.located answer sampling :: tail.entries }).exec
          (t, before ++ if e.hasData then [e.question answer] else []) := by
  rw [annotate]
  cases hdata : e.hasData with
  | false =>
    have hnone : (locationsFor c.traced sampling e).attempt.exec (s, before) = (.ok (.ok none), s, before) := by
      refine Action.exec_attempt_of_ok ?_
      rw [locationsFor, hdata, if_neg Bool.false_ne_true]
      rfl
    refine ⟨s, ?_⟩
    rw [Action.exec_bind_of_ok hnone, Entry.located_of_not_hasData hdata, if_neg Bool.false_ne_true, List.append_nil,
      ← fresh]
  | true =>
    have hlocations : (locationsFor c.traced sampling e).exec (s, before) = _ := exec_locationsFor_traced h hdata s before
    refine ⟨((c.blocks e.path).exec s).2, ?_⟩
    rw [if_pos rfl]
    cases hanswer : answer e.path with
    | ok blocks =>
      rw [hanswer] at hlocations
      rw [Action.exec_bind_of_ok (Action.exec_attempt_of_ok hlocations), Entry.located_of_ok hdata hanswer]
    | error f =>
      rw [hanswer] at hlocations
      have hskips : policy.Skips f := not_not.mp fun hno => goesOn f ⟨hdata, hanswer, hno⟩
      obtain ⟨err, rfl⟩ : ∃ err, f = .browse err := by cases hskips <;> exact ⟨_, rfl⟩
      rw [Action.exec_bind_of_ok (Action.exec_attempt_of_error hlocations), Entry.located_of_error hanswer]
      dsimp only
      rw [if_pos (FailurePolicy.skips_iff.mp hskips)]

variable (sampling) in
theorem exec_annotate_cons_of_ends {c : Cluster σ} (h : c.BlocksBy answer) {e : Entry} {f : Failure}
    (ends : e.Ends answer policy f) (rest : List Entry) (s : σ) (before : List ClusterCall) :
    ∃ t, (annotate c.traced sampling policy (e :: rest)).exec (s, before) =
      (Annotated.ending (e :: rest) f, t, before ++ [e.question answer]) := by
  obtain ⟨hdata, hanswer, hskips⟩ := ends
  have hlocations : (locationsFor c.traced sampling e).exec (s, before) = _ := exec_locationsFor_traced h hdata s before
  rw [hanswer] at hlocations
  refine ⟨((c.blocks e.path).exec s).2, ?_⟩
  rw [annotate]
  cases f with
  | browse err =>
    rw [Action.exec_bind_of_ok (Action.exec_attempt_of_error hlocations)]
    dsimp only
    rw [if_neg (FailurePolicy.skips_iff.not.mp hskips)]
    rfl
  | _ =>
    rw [Action.exec_bind, Action.exec_attempt, hlocations]
    rfl

/-- **Locating rows is a look-up.** -/
theorem lookUp_annotate {c : Cluster σ} (h : c.BlocksBy answer) (fresh : ∀ e ∈ entries, e.locations = none) (s : σ)
    (before : List ClusterCall) :
    ∃ out t new, (annotate c.traced sampling policy entries).exec (s, before) = (out, t, before ++ new) ∧
      LookUp answer sampling policy entries out new := by
  -- What has been asked about the rows before is noted in front.
  induction entries generalizing s before with
  | nil =>
    refine ⟨.ok ⟨[], none⟩, s, [], ?_, .whole (List.forall_mem_nil _)⟩
    rw [List.append_nil]
    rfl
  | cons e rest ih =>
    obtain ⟨hfresh, hrest⟩ := List.forall_mem_cons.mp fresh
    by_cases hends : ∃ f, e.Ends answer policy f
    · obtain ⟨f, hends⟩ := hends
      obtain ⟨t, hexec⟩ := exec_annotate_cons_of_ends sampling h hends rest s before
      exact ⟨_, t, _, hexec, .first hends rest⟩
    · have hgoesOn : ∀ f, ¬ e.Ends answer policy f := not_exists.mp hends
      obtain ⟨t, hexec⟩ := exec_annotate_cons_of_goesOn sampling h hfresh hgoesOn rest s before
      obtain ⟨out, u, new, htail, hlook⟩ := ih hrest t (before ++ if e.hasData then [e.question answer] else [])
      refine ⟨_, u, _, ?_, hlook.cons hgoesOn⟩
      rw [hexec, Action.exec_bind, htail, List.append_assoc]
      cases out <;> rfl

/-- What is asked in order to locate some rows. -/
def annotateCalls (c : Cluster σ) (sampling : Sampling) (policy : FailurePolicy) (entries : List Entry) (s : σ) :
    List ClusterCall :=
  ((annotate c.traced sampling policy entries).exec (s, [])).2.2

theorem relates_noting_lockstep {α : Type} (note : Except Failure α → ClusterCall) (x : Action σ α) :
    (Bond.lockstep fun (s : σ × List ClusterCall) (t : σ) => s.1 = t).Relates Eq (x.noting note) x := by
  rintro ⟨s, calls⟩ _ rfl
  rw [Action.exec_noting]
  rcases x.exec s with ⟨f | a, t⟩
  · by_cases hf : f.IsReported
    · obtain ⟨e, rfl⟩ := Failure.isReported_iff.mp hf
      exact .reported rfl
    · exact .ended hf rfl
  · exact .ok rfl rfl

variable (sampling policy) in
theorem lookUp_of_blocksBy {c : Cluster σ} (h : c.BlocksBy answer) (fresh : ∀ e ∈ entries, e.locations = none) (s : σ) :
    LookUp answer sampling policy entries ((annotate c sampling policy entries).exec s).1
      (annotateCalls c sampling policy entries s) := by
  obtain ⟨out, t, new, hexec, hlook⟩ := @lookUp_annotate σ answer sampling policy entries c h fresh s []
  have hblocks : ∀ path, (Bond.lockstep fun (s : σ × List ClusterCall) (t : σ) => s.1 = t).Relates Eq
      (c.traced.blocks path) (c.blocks path) := fun path => relates_noting_lockstep (.blocks path) (c.blocks path)
  have hsame := (Bond.Relates.annotate hblocks sampling policy entries (s, []) s rfl).lockstep_eq
  rw [annotateCalls, ← hsame, hexec]
  exact hlook

/-- **Rows are located by a look-up**, which changes nothing else in them. If it tells of no failure, the rows that fail
could as well be left out: the others get the same locations. -/
theorem annotate_locates {c : Cluster σ} (h : c.BlocksBy answer) (fresh : ∀ e ∈ entries, e.locations = none)
    (sampling : Sampling) (policy : FailurePolicy) (s : σ) :
    LookUp answer sampling policy entries ((annotate c sampling policy entries).exec s).1
      (annotateCalls c sampling policy entries s) ∧
    ∀ rows t, ((annotate c sampling policy entries).exec s).1 = .ok ⟨rows, none⟩ →
      ((annotate c sampling policy (entries.filter fun e => !e.fails answer)).exec t).1 =
        .ok ⟨((entries.zip rows).filter fun pair => !pair.1.fails answer).map Prod.snd, none⟩ := by
  have hlook := lookUp_of_blocksBy sampling policy h fresh s
  refine ⟨hlook, fun rows t hrows => ?_⟩
  have hgoesOn := hlook.goesOn_of_eq hrows
  have hfresh : ∀ e ∈ entries.filter (fun e => !e.fails answer), e.locations = none :=
    fun e he => fresh e (List.mem_filter.mp he).1
  rw [(lookUp_of_blocksBy sampling policy h hfresh t).eq_of_goesOn fun e he => hgoesOn e (List.mem_filter.mp he).1]
  obtain rfl : entries.map (Entry.located answer sampling) = rows := by
    have hall := (hlook.eq_of_goesOn hgoesOn).symm.trans hrows
    exact congrArg Annotated.entries (Except.ok.inj hall)
  have hzip : entries.zip (entries.map (Entry.located answer sampling)) =
      entries.map fun e => (e, e.located answer sampling) := by
    rw [← List.zip_map', List.map_id']
  rw [hzip, List.filter_map, List.map_map]
  rfl

end

/-! ## An archive -/

/-- What an archive tells of blocks: the file `/a` has two of them, both with a copy on one worker, and `/g` is gone. -/
def archiveBlocks (path : String) : Except Failure (List BlockReport) :=
  if path = "/a" then
    .ok [{ block := { id := 1, length := 2, replicas := [{ address := { host := "u", dataPort := 9 } },
            { address := { host := "v" } }] }, backing := [{ host := "disk" }] },
      { block := { id := 2, length := 1, replicas := [{ address := { host := "v" } }] }, offset := 2 }]
  else if path = "/g" then .error (.browse (.pathNotFound path))
  else .ok []

/-- A cluster that tells of the blocks in an archive. -/
def archive : Cluster Unit :=
  { Browser.twoFiles with blocks := fun path => Action.ofFunction fun s => (archiveBlocks path, s) }

/-- A file with blocks, a directory with a length, an empty file, a file that is gone and a file without blocks. -/
def archiveRows : List Entry :=
  [{ id := 1, name := "a", path := "/a", length := 3 }, { id := 2, name := "d", path := "/d", length := 9, folder := true },
    { id := 3, name := "e", path := "/e" }, { id := 4, name := "g", path := "/g", length := 5 },
    { id := 5, name := "n", path := "/n", length := 7 }].filterMap fun info => (Entry.ofInfo info).toOption

/-- The file that is gone is skipped, whether all blocks are looked at or the first one of each file. -/
theorem annotate_locates_archive :
    archive.BlocksBy archiveBlocks ∧ (∀ e ∈ archiveRows, e.locations = none) ∧
    archiveRows.map (fun e => (e.isDirectory, e.length)) = [(false, 3), (true, 9), (false, 0), (false, 5), (false, 7)] ∧
    (∃ rows, ((annotate archive .allBlocks .skip archiveRows).exec ()).1 = .ok ⟨rows, none⟩ ∧
      rows.map Entry.locations = [some ["u:9", "v", "v", "disk"], none, none, none, some []] ∧
      LookUp archiveBlocks .allBlocks .skip archiveRows (.ok ⟨rows, none⟩)
        (annotateCalls archive .allBlocks .skip archiveRows ()) ∧
      ((annotate archive .allBlocks .skip (archiveRows.filter fun e => !e.fails archiveBlocks)).exec ()).1 =
        .ok ⟨((archiveRows.zip rows).filter fun pair => !pair.1.fails archiveBlocks).map Prod.snd, none⟩) ∧
    ∃ rows, ((annotate archive .firstBlock .skip archiveRows).exec ()).1 = .ok ⟨rows, none⟩ ∧
      rows.map Entry.locations = [some ["u:9", "v", "disk"], none, none, none, some []] ∧
      LookUp archiveBlocks .firstBlock .skip archiveRows (.ok ⟨rows, none⟩)
        (annotateCalls archive .firstBlock .skip archiveRows ()) := by
  have hblocks : archive.BlocksBy archiveBlocks := fun _ _ => rfl
  have hfresh : ∀ e ∈ archiveRows, e.locations = none := by decide +kernel
  have hrows : ((annotate archive .allBlocks .skip archiveRows).exec ()).1 =
      .ok ⟨archiveRows.map (Entry.located archiveBlocks .allBlocks), none⟩ := by decide +kernel
  have hfirst : ((annotate archive .firstBlock .skip archiveRows).exec ()).1 =
      .ok ⟨archiveRows.map (Entry.located archiveBlocks .firstBlock), none⟩ := by decide +kernel
  obtain ⟨hlook, hothers⟩ := annotate_locates hblocks hfresh .allBlocks .skip ()
  obtain ⟨hlookFirst, -⟩ := annotate_locates hblocks hfresh .firstBlock .skip ()
  exact ⟨hblocks, hfresh, by decide +kernel, ⟨_, hrows, by decide +kernel, hrows ▸ hlook, hothers _ () hrows⟩,
    _, hfirst, by decide +kernel, hfirst ▸ hlookFirst⟩

/-- Where nothing may be skipped, the file that is gone ends the look-up. -/
example : (((annotate archive .firstBlock .abort archiveRows).exec ()).1.toOption.bind Annotated.failed) =
    some (.pathNotFound "/g") := by decide +kernel

end ClusterBrowser
