import ClusterBrowser.Proofs.Tree

/-!
# The effects of a call

* `Namespace.IsTree.contains_perform`: a call makes what is missing of its target and of the ancestors.
* `Namespace.hasFile_perform`: it makes at most one file.
* `PopulationCall.outcome`: the value of a call, or its failure.
* **`PopulationCall.fails_and_changes_iff`**: a failing call changes nothing, but for a file that is to be cut into
  blocks of no bytes.
-/

namespace ClusterBrowser

namespace PopulationCall

/-- What a call ends with. -/
def outcome : PopulationCall → Namespace → Except Failure Unit
  | mkdir raw o, ns => ((Namespace.mkdir raw o).exec ns).1.map fun _ => ()
  | addFile raw data o, ns => ((Namespace.addFile raw data o).exec ns).1.map fun _ => ()
  | deny raw, ns => ((Namespace.deny raw).exec ns).1

end PopulationCall

namespace Namespace

variable {ns : Namespace}

/-! ## Paths -/

theorem contains_withFile (ns : Namespace) (p : Path) (now : Int) (data : Bytes) (o : FileOptions) (q : Path) :
    (ns.withFile p now data o).contains q = (decide (p = q) || ns.contains q) := by
  rw [← contains_attach ns p (ns.newFile p now data o), withFile]
  split_ifs
  · rfl
  · exact contains_put (contains_of_find? (find?_attach_self _ _ _)) _ q

theorem IsTree.contains_ensureDirectory (h : ns.IsTree) (now : Int) (o : DirectoryOptions) (p q : Path) :
    (Namespace.ensureDirectory now o p ns).contains q = true ↔ ns.contains q = true ∨ q ∈ p.lineage := by
  induction p with
  | root =>
    rw [ensureDirectory_of_contains h.root, or_iff_left_of_imp (h.contains_of_mem_lineage h.root)]
  | child parent name ih =>
    rcases hp : ns.contains (.child parent name) with _ | _
    · rw [ensureDirectory_child hp, contains_attach, Bool.or_eq_true, decide_eq_true_eq, ih, Path.mem_lineage_child,
        eq_comm]
      exact or_rotate
    · rw [ensureDirectory_of_contains hp, or_iff_left_of_imp (h.contains_of_mem_lineage hp)]

/-- **A call makes what is missing of its target and of the ancestors, and nothing else.** -/
theorem IsTree.contains_perform (h : ns.IsTree) (call : PopulationCall) (q : Path) :
    (call.perform ns).contains q = true ↔ ns.contains q = true ∨ ∃ p, call.target ns = some p ∧ q ∈ p.lineage := by
  rcases perform_cases call ns with ⟨htarget, denied, hperform⟩ | ⟨p, now, o, htarget, -, hperform⟩ |
    ⟨p, now, data, o, htarget, -, hperform⟩
  · rw [hperform, htarget]
    exact (or_iff_left nofun).symm
  · rw [hperform, htarget, h.contains_ensureDirectory]
    simp
  · rw [hperform, htarget, contains_withFile, Bool.or_eq_true, decide_eq_true_eq, h.contains_ensureDirectory]
    simp only [Option.some.injEq, exists_eq_left']
    rw [@Path.mem_lineage_iff_parent q p, eq_comm]
    exact or_rotate

/-! ## Files -/

/-- Whether there is a file at a path. -/
def hasFile (ns : Namespace) (p : Path) : Bool := (ns.find? p).any fun node => !node.info.folder

theorem hasFile_of_find? {p : Path} {node : Node} (h : ns.find? p = some node) :
    ns.hasFile p = !node.info.folder := by
  rw [hasFile, h, Option.any_some]

theorem hasFile_of_absent {p : Path} (h : ns.contains p = false) : ns.hasFile p = false := by
  rw [contains, Option.isSome_eq_false_iff, Option.isNone_iff_eq_none] at h
  rw [hasFile, h, Option.any_none]

theorem hasFile_attach (ns : Namespace) (p : Path) (node : Node) (q : Path) :
    (ns.attach p node).hasFile q = if p = q then !node.info.folder else ns.hasFile q := by
  rw [hasFile, find?_attach]
  by_cases hself : p = q
  · rw [if_pos hself, if_pos hself, Option.any_some]
  · rw [if_neg hself, if_neg hself, Option.any_map]
    rfl

theorem hasFile_withFile (ns : Namespace) (p : Path) (now : Int) (data : Bytes) (o : FileOptions) (q : Path) :
    (ns.withFile p now data o).hasFile q = (decide (p = q) || ns.hasFile q) := by
  have hmade := hasFile_attach ns p (ns.newFile p now data o) q
  have hnew : (!(ns.newFile p now data o).info.folder) = true := rfl
  rw [hnew] at hmade
  rw [withFile]
  split_ifs
  · rw [hmade]
    by_cases hq : p = q <;> simp [hq]
  · rw [hasFile, find?_put]
    by_cases hq : p = q
    · rw [if_pos hq, decide_eq_true hq, Bool.true_or]
      rfl
    · rw [if_neg hq] at hmade ⊢
      rw [decide_eq_false hq, Bool.false_or]
      exact hmade

theorem hasFile_attach_directory {p : Path} (absent : ns.contains p = false) (now : Int) (o : DirectoryOptions)
    (q : Path) : (ns.attach p (ns.newDirectory p now o)).hasFile q = ns.hasFile q := by
  rw [hasFile_attach]
  split_ifs with hq
  · rw [← hq, hasFile_of_absent absent]
    rfl
  · rfl

theorem hasFile_ensureDirectory (now : Int) (o : DirectoryOptions) (p q : Path) (ns : Namespace) :
    (ensureDirectory now o p ns).hasFile q = ns.hasFile q := by
  induction p with
  | root =>
    rw [ensureDirectory]
    split_ifs with h
    · rfl
    · exact hasFile_attach_directory (Bool.eq_false_iff.mpr h) now o q
  | child parent name ih =>
    rcases hp : ns.contains (.child parent name) with _ | _
    · have absent : (ensureDirectory now o parent ns).contains (.child parent name) = false := by
        rw [contains_ensureDirectory (Nat.lt_succ_self _), hp]
      rw [ensureDirectory_child hp, hasFile_attach_directory absent, ih]
    · rw [ensureDirectory_of_contains hp]

/-- **A call to make a file makes one at its target, and no call makes another.** -/
theorem hasFile_perform (call : PopulationCall) (ns : Namespace) (q : Path) :
    (call.perform ns).hasFile q = true ↔
      ns.hasFile q = true ∨ (call.makesFile = true ∧ call.target ns = some q) := by
  rcases perform_cases call ns with ⟨htarget, denied, hperform⟩ | ⟨p, now, o, htarget, hmakes, hperform⟩ |
    ⟨p, now, data, o, htarget, hmakes, hperform⟩
  · rw [hperform, htarget]
    exact (or_iff_left fun h => nomatch h.2).symm
  · rw [hperform, hmakes, hasFile_ensureDirectory]
    exact (or_iff_left fun h => nomatch h.1).symm
  · rw [hperform, htarget, hmakes, hasFile_withFile, hasFile_ensureDirectory, Bool.or_eq_true, decide_eq_true_eq]
    simp [or_comm]

/-! ## Failures -/

theorem nextId_attach (ns : Namespace) (p : Path) (node : Node) : (ns.attach p node).nextId = ns.nextId + 1 := by
  cases p <;> rfl

theorem nextId_le_ensureDirectory (now : Int) (o : DirectoryOptions) (p : Path) (ns : Namespace) :
    ns.nextId ≤ (ensureDirectory now o p ns).nextId := by
  induction p with
  | root =>
    rw [ensureDirectory]
    split_ifs
    · exact Nat.le_refl _
    · rw [nextId_attach]
      exact Nat.le_succ _
  | child parent name ih =>
    rcases hp : ns.contains (.child parent name) with _ | _
    · rw [ensureDirectory_child hp, nextId_attach]
      exact Nat.le_succ_of_le ih
    · exact Nat.le_of_eq (by rw [ensureDirectory_of_contains hp])

theorem nextId_withFile (ns : Namespace) (p : Path) (now : Int) (data : Bytes) (o : FileOptions) :
    (ns.withFile p now data o).nextId = ns.nextId + 1 := by
  rw [withFile]
  split_ifs <;> exact nextId_attach _ _ _

/-- A call that has a target to make a file at uses up an identity. -/
theorem perform_ne_of_makesFile {call : PopulationCall} {p : Path} (hmakes : call.makesFile = true)
    (htarget : call.target ns = some p) : call.perform ns ≠ ns := by
  intro hsame
  rcases perform_cases call ns with ⟨hnone, -⟩ | ⟨-, -, -, -, hno, -⟩ | ⟨q, now, data, o, -, -, hperform⟩
  · rw [htarget] at hnone
    exact nomatch hnone
  · rw [hmakes] at hno
    exact nomatch hno
  · have hle := nextId_le_ensureDirectory now {} q.parent ns
    have hid := congrArg Namespace.nextId (hperform.symm.trans hsame)
    rw [nextId_withFile] at hid
    omega

theorem outcome_mkdir (raw : String) (o : DirectoryOptions) (ns : Namespace) :
    (PopulationCall.mkdir raw o).outcome ns =
      match Path.parse raw with
      | .error e => .error (.browse e.toBrowseError)
      | .ok p => if ns.contains p then .ok () else
        match ns.clock.millis with
        | none => .error .clockTooFar
        | some _ => .ok () := by
  rw [PopulationCall.outcome, mkdir, Action.exec_bind, exec_parse]
  rcases Path.parse raw with e | p
  · rfl
  rw [Action.mapError_ok, Action.andThen_ok, Action.exec_bind_of_ok (Action.exec_get ns)]
  dsimp only
  split_ifs
  · rfl
  · rcases ns.clock.millis with _ | now <;> rfl

theorem outcome_addFile (raw : String) (data : Bytes) (o : FileOptions) (ns : Namespace) :
    (PopulationCall.addFile raw data o).outcome ns =
      match Path.parse raw with
      | .error e => .error (.browse e.toBrowseError)
      | .ok _ =>
        match ns.clock.millis with
        | none => .error .clockTooFar
        | some _ => if o.blockSize = 0 then .error .emptyBlocks else .ok () := by
  rw [PopulationCall.outcome, addFile, Action.exec_bind, exec_parse]
  rcases Path.parse raw with e | p
  · rfl
  rw [Action.mapError_ok, Action.andThen_ok, Action.exec_bind_of_ok (Action.exec_get ns)]
  rcases ns.clock.millis with _ | now
  · rfl
  · dsimp only
    split_ifs <;> rfl

theorem outcome_deny (raw : String) (ns : Namespace) :
    (PopulationCall.deny raw).outcome ns =
      match Path.parse raw with
      | .error e => .error (.browse e.toBrowseError)
      | .ok _ => .ok () := by
  rw [PopulationCall.outcome, deny, Action.exec_bind, exec_parse]
  rcases Path.parse raw with e | p <;> rfl

/-- What fails without a target, or for another reason than blocks of no bytes, leaves everything as it is. -/
theorem perform_eq_of_outcome_eq_error {call : PopulationCall} {f : Failure} (h : call.outcome ns = .error f) :
    call.perform ns = ns ∨ (∃ raw data o p, call = .addFile raw data o ∧ o.blockSize = 0 ∧
      Path.parse raw = .ok p ∧ ns.clock.millis.isSome = true) := by
  cases call with
  | deny raw =>
    rw [outcome_deny] at h
    rw [perform_deny]
    rcases hp : Path.parse raw with e | p
    · exact .inl rfl
    · rw [hp] at h
      exact nomatch h
  | mkdir raw o =>
    rw [outcome_mkdir] at h
    rw [perform_mkdir]
    rcases hp : Path.parse raw with e | p
    · exact .inl rfl
    rcases hnow : ns.clock.millis with _ | now
    · exact .inl rfl
    · rw [hp, hnow] at h
      dsimp only at h
      split_ifs at h
  | addFile raw data o =>
    rw [outcome_addFile] at h
    rw [perform_addFile]
    rcases hp : Path.parse raw with e | p
    · exact .inl rfl
    rcases hnow : ns.clock.millis with _ | now
    · exact .inl rfl
    · rw [hp, hnow] at h
      dsimp only at h
      split_ifs at h with hsize
      exact .inr ⟨raw, data, o, p, rfl, hsize, hp, rfl⟩

end Namespace

/-- **A failing call changes nothing at all, but for one that is to make a file with blocks of no bytes.** -/
theorem PopulationCall.fails_and_changes_iff (call : PopulationCall) (ns : Namespace) :
    (∃ f, call.outcome ns = .error f) ∧ call.perform ns ≠ ns ↔
      ∃ raw data o p, call = .addFile raw data o ∧ o.blockSize = 0 ∧ Path.parse raw = .ok p ∧
        ns.clock.millis.isSome = true := by
  constructor
  · rintro ⟨⟨f, hf⟩, hchanged⟩
    rcases Namespace.perform_eq_of_outcome_eq_error hf with hsame | hblocks
    · exact absurd hsame hchanged
    · exact hblocks
  · rintro ⟨raw, data, o, p, rfl, hsize, hp, hclock⟩
    obtain ⟨now, hnow⟩ := Option.isSome_iff_exists.mp hclock
    refine ⟨⟨.emptyBlocks, ?_⟩, Namespace.perform_ne_of_makesFile (p := p) rfl ?_⟩
    · rw [Namespace.outcome_addFile, hp, hnow]
      exact if_pos hsize
    · rw [target, hp, hnow]

/-- A file that is to be cut into blocks of no bytes is refused, and stays behind with its directory. -/
theorem PopulationCall.addFile_fails_and_stays : ∃ ns, Namespace.empty ⟨some 0⟩ = .ok ns ∧
    (addFile "/d/f" [104, 105] { blockSize := 0 }).outcome ns = .error .emptyBlocks ∧
    ns.nodes.keys.map Path.text = ["/"] ∧ ns.nextId = 2 ∧
    ((addFile "/d/f" [104, 105] { blockSize := 0 }).perform ns).nodes.keys.map Path.text = ["/", "/d", "/d/f"] ∧
    ((addFile "/d/f" [104, 105] { blockSize := 0 }).perform ns).nextId = 4 :=
  ⟨_, rfl, by decide +kernel, by decide +kernel, by decide +kernel, by decide +kernel, by decide +kernel⟩

end ClusterBrowser
