import ClusterBrowser.Namespace.Serving
import ClusterBrowser.Proofs.Window

/-!
# What a namespace answers

* `Namespace.SameContent`: two states that answer alike.
* `Namespace.answer`: what a call gets to see of a path.
* `Namespace.serves_stream`: a stream delivers the bytes of its file.
* **`Namespace.exec_window`**: the window of a file.
-/

namespace ClusterBrowser

/-- What reading a window makes of a node. -/
def Node.window (node : Node) (raw : String) (offset length : Int) : Except BrowseError WindowRead :=
  if node.info.folder then .error (.invalidPath ("Path " ++ raw ++ " is a directory"))
  else .ok (windowOf node.data offset length)

namespace Namespace

/-- Two states with the same nodes, of which the same are denied. -/
structure SameContent (s ns : Namespace) : Prop where
  nodes : s.nodes = ns.nodes
  denied : s.denied = ns.denied

theorem SameContent.refl (ns : Namespace) : SameContent ns ns := ⟨rfl, rfl⟩

theorem SameContent.trans {r s ns : Namespace} (h : SameContent r s) (h' : SameContent s ns) : SameContent r ns :=
  ⟨h.nodes.trans h'.nodes, h.denied.trans h'.denied⟩

theorem SameContent.find?_eq {s ns : Namespace} (h : SameContent s ns) (p : Path) : s.find? p = ns.find? p := by
  rw [find?, find?, h.nodes]

theorem SameContent.lookup_eq {s ns : Namespace} (h : SameContent s ns) (raw : String) :
    s.lookup raw = ns.lookup raw := by
  rw [lookup, lookup, h.denied]
  rcases Path.parse raw with e | p
  · rfl
  · simp only [h.find?_eq p]

theorem SameContent.children_eq {s ns : Namespace} (h : SameContent s ns) (node : Node) :
    s.children node = ns.children node := by
  rw [children, children]
  simp only [h.find?_eq]

/-! ## Calls -/

/-- What is seen of a path: something of its node, or the error that a view reports. -/
def answer {α : Type} (ns : Namespace) (raw : String) (see : Node → α) : Except BrowseError α :=
  ((ns.lookup raw).mapError LookupError.toBrowseError).map see

theorem SameContent.answer_eq {α : Type} {s ns : Namespace} (h : SameContent s ns) (raw : String) (see : Node → α) :
    s.answer raw see = ns.answer raw see := by
  rw [answer, answer, h.lookup_eq]

theorem exec_visit (raw : String) (s : Namespace) :
    (visit raw).exec s = ((s.answer raw id).mapError .browse, s) := by
  rw [visit, Action.exec_bind_of_ok (Action.exec_get s), answer]
  rcases s.lookup raw with e | node <;> rfl

variable {masterAddress : String} {tiers : List String}

theorem exec_status (raw : String) (s : Namespace) :
    ((cluster masterAddress tiers).status raw).exec s = ((s.answer raw Node.info).mapError .browse, s) := by
  change (visit raw >>= fun node => pure node.info).exec s = _
  rw [Action.exec_bind, exec_visit, answer, answer]
  rcases s.lookup raw with e | node <;> rfl

theorem exec_list (raw : String) (s : Namespace) :
    ((cluster masterAddress tiers).list raw).exec s = ((s.answer raw s.children).mapError .browse, s) := by
  change (visit raw >>= fun node => get >>= fun ns : Namespace => pure (ns.children node)).exec s = _
  rw [Action.exec_bind, exec_visit, answer, answer]
  rcases s.lookup raw with e | node <;> rfl

theorem exec_blocks (raw : String) (s : Namespace) :
    ((cluster masterAddress tiers).blocks raw).exec s = ((s.answer raw Node.blocks).mapError .browse, s) := by
  change (visit raw >>= fun node => pure node.blocks).exec s = _
  rw [Action.exec_bind, exec_visit, answer, answer]
  rcases s.lookup raw with e | node <;> rfl

/-! ## Streams -/

/-- The state in which file number `i` has been read up to `pos`. -/
structure ReadUpTo (ns : Namespace) (i : Nat) (data : Bytes) (pos : Nat) (s : Namespace) : Prop where
  same : SameContent s ns
  opened : s.opened[i]? = some { data, position := pos }

theorem exec_useOpened {α : Type} {i : Nat} (idle : α) (use : OpenFile → α × OpenFile) {s : Namespace}
    {file : OpenFile} (h : s.opened[i]? = some file) :
    (useOpened i idle use).exec s = (.ok (use file).1, { s with opened := s.opened.set i (use file).2 }) := by
  rw [useOpened, Action.exec_bind_of_ok (Action.exec_get s), h]
  rfl

theorem ReadUpTo.set {ns s : Namespace} {i : Nat} {data : Bytes} {pos : Nat} (h : ReadUpTo ns i data pos s) (pos' : Nat) :
    ReadUpTo ns i data pos' { s with opened := s.opened.set i { data, position := pos' } } where
  same := ⟨h.same.nodes, h.same.denied⟩
  opened := by
    have hlt := (List.getElem?_eq_some_iff.mp h.opened).1
    simp [hlt]

theorem slice_natCast (data : Bytes) (pos n : Nat) : data.slice pos (pos + n : Int) = (data.drop pos).take n := by
  rw [Bytes.slice]
  simp only [if_neg (Int.not_lt.mpr (Int.natCast_nonneg pos)),
    if_neg (Int.not_lt.mpr (Int.add_nonneg (Int.natCast_nonneg pos) (Int.natCast_nonneg n)))]
  rw [Int.toNat_natCast, ← Int.natCast_add, Int.toNat_natCast, List.drop_take, Nat.add_sub_cancel_left]

theorem skip_openFile (data : Bytes) (pos : Nat) (n : Int) :
    OpenFile.skip { data, position := pos } n =
      (((min n.toNat (data.length - pos) : Nat) : Int),
        ({ data, position := pos + min n.toNat (data.length - pos) } : OpenFile)) := by
  by_cases hn : n ≤ 0
  · rw [OpenFile.skip, if_pos hn, Int.toNat_of_nonpos hn, Nat.zero_min, Nat.add_zero]
    rfl
  · rw [OpenFile.skip, if_neg hn]

theorem read_openFile {data : Bytes} {pos n : Nat} (hn : 0 < n) (hpos : pos < data.length) :
    OpenFile.read { data, position := pos } n =
      (some ((data.drop pos).take (min n (data.length - pos))), { data, position := pos + min n (data.length - pos) }) := by
  have hpiece : (data.drop pos).take n = (data.drop pos).take (min n (data.length - pos)) := by
    rw [List.take_eq_take_iff, List.length_drop, Nat.min_assoc, Nat.min_self]
  have hlength : ((data.drop pos).take (min n (data.length - pos))).length = min n (data.length - pos) := by
    rw [List.length_take, List.length_drop]
    omega
  rw [OpenFile.read, if_neg (by omega), if_neg (Nat.not_le.mpr hpos), slice_natCast, hpiece]
  simp only [hlength]

theorem read_openFile_end {data : Bytes} {pos n : Nat} (hn : 0 < n) (hpos : data.length ≤ pos) :
    OpenFile.read { data, position := pos } n = (none, { data, position := pos }) := by
  rw [OpenFile.read, if_neg (by omega), if_pos hpos]

theorem serves_stream (ns : Namespace) (i : Nat) (data : Bytes) (F : Failure → Prop) :
    (stream i).Serves F data (ReadUpTo ns i data) where
  skip n pos s hs := by
    have hexec := exec_useOpened 0 (·.skip n) hs.opened
    simp only [skip_openFile] at hexec
    exact .of_exec hexec ⟨rfl, hs.set _⟩
  read n pos s hn hpos hs := by
    have hexec := exec_useOpened none (·.read n) hs.opened
    simp only [read_openFile hn hpos] at hexec
    exact .of_exec hexec ⟨_, by omega, Nat.min_le_left _ _, by omega, rfl, hs.set _⟩
  read_end n pos s hn hpos hs := by
    have hexec := exec_useOpened none (·.read n) hs.opened
    simp only [read_openFile_end hn hpos] at hexec
    exact .of_exec hexec ⟨rfl, hs.set pos⟩

theorem exec_close (i : Nat) (s : Namespace) : ∃ t, (stream i).close.exec s = (.ok (), t) ∧ SameContent t s := by
  rcases h : s.opened[i]? with _ | file
  · refine ⟨s, ?_, .refl s⟩
    change (useOpened i () fun file => ((), { file with closed := true })).exec s = _
    rw [useOpened, Action.exec_bind_of_ok (Action.exec_get s), h]
    rfl
  · exact ⟨_, exec_useOpened () (fun file => ((), { file with closed := true })) h, rfl, rfl⟩

theorem exec_openFile (masterAddress : String) (tiers : List String) (raw : String) (mode : ReadMode) (s : Namespace) :
    ((cluster masterAddress tiers).openFile raw mode).exec s =
      match s.answer raw id with
      | .error e => (.error (.browse e), s)
      | .ok node =>
        if node.info.folder then (.error (.browse (.invalidPath ("Path " ++ raw ++ " is a directory"))), s)
        else (.ok (stream s.opened.length), { s with opened := s.opened ++ [OpenFile.mk node.data 0 false] }) := by
  change (openFile raw).exec s = _
  rw [openFile, Action.exec_bind, exec_visit]
  rcases s.answer raw id with e | node
  · rfl
  · rw [Action.mapError_ok, Action.andThen_ok]
    dsimp only
    split_ifs <;> rfl

/-- **The window of a file: the bytes of its node.** -/
theorem exec_window (masterAddress : String) (tiers : List String) (raw : String) (mode : ReadMode) (offset length : Int)
    (s : Namespace) :
    ∃ t, SameContent t s ∧
      ((cluster masterAddress tiers).withFile raw mode (readWindow · offset length)).exec s =
        (((s.answer raw id).bind (·.window raw offset length)).mapError .browse, t) := by
  have hopen := exec_openFile masterAddress tiers raw mode s
  rcases hnode : s.answer raw id with e | node
  · rw [hnode] at hopen
    exact ⟨s, .refl s, Action.exec_bind_of_error hopen⟩
  rw [hnode] at hopen
  dsimp only at hopen
  rw [Except.bind, Node.window]
  split_ifs at hopen with hfolder
  · rw [if_pos hfolder]
    exact ⟨s, .refl s, Action.exec_bind_of_error hopen⟩
  · rw [if_neg hfolder]
    have hat : ReadUpTo s s.opened.length node.data 0 { s with opened := s.opened ++ [OpenFile.mk node.data 0 false] } :=
      ⟨⟨rfl, rfl⟩, by simp⟩
    have hclose : ∀ u, ∃ v, (stream s.opened.length).close.exec u = (.ok (), v) ∧
        ∀ pos, ReadUpTo s s.opened.length node.data pos u → SameContent v s := fun u => by
      obtain ⟨v, hv, hsame⟩ := exec_close s.opened.length u
      exact ⟨v, hv, fun _ hu => hsame.trans hu.same⟩
    rcases withFile_gives hopen (serves_stream s _ _ fun _ => False) hat hclose offset length with
      ⟨_, t, hexec, rfl, ht⟩ | ⟨_, _, _, h⟩
    · exact ⟨t, ht, hexec⟩
    · exact h.elim

end Namespace

end ClusterBrowser
