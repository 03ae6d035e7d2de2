import ClusterBrowser.Proofs.Agreement
import ClusterBrowser.Proofs.Memory
import ClusterBrowser.Proofs.Population
import ClusterBrowser.Proofs.Replies

/-!
# A master that mirrors a namespace

* `Master.Sends`, `Master.serves_stream`: a master that sends a file in pieces, and the stream that delivers its bytes.
* `Master.Mirrors`: a master that replies with what a namespace answers.
* `Master.Mirrors.yields_window`: the window of a file is that of the namespace.
* **`Master.Mirrors.clusters`**: the master and the namespace answer alike.
-/

namespace ClusterBrowser

/-- An open client in which file number `i` has been read up to `pos`. -/
structure Connection.ReadUpTo {τ : Type} (i : Nat) (path : String) (mode : ReadMode) (data : Bytes) (pos : Nat)
    (conn : Connection τ) : Prop where
  isOpen : conn.IsOpen
  opened : conn.opened[i]? = some { path, length := data.length, mode, position := pos }
  within : pos ≤ data.length

theorem Connection.ReadUpTo.put {τ : Type} {i : Nat} {path : String} {mode : ReadMode} {data : Bytes} {pos pos' : Nat}
    {conn : Connection τ} (h : conn.ReadUpTo i path mode data pos) (hwithin : pos' ≤ data.length) (transport : τ) :
    Connection.ReadUpTo i path mode data pos' { conn with
      transport
      opened := conn.opened.set i { path, length := data.length, mode, position := pos' } } where
  isOpen := h.isOpen
  opened := by
    have hlt := (List.getElem?_eq_some_iff.mp h.opened).1
    simp [hlt]
  within := hwithin

namespace Master

variable {τ : Type} {m : Master τ}

/-! ## Files in pieces -/

variable (m) in
/-- What is read of the file at `path` comes as pieces of `data`, each of `maxChunk` bytes at most. -/
def Sends (path : String) (mode : ReadMode) (data : Bytes) (maxChunk : Nat) : Prop :=
  ∀ pos n : Nat, pos < data.length → 0 < n →
    m.Replies readResource [("path", path), ("offset", Decimal.text pos), ("length", Decimal.text n),
      ("readType", mode.word)] fun reply => reply.status < 400 ∧ reply.body = (data.drop pos).take (min n maxChunk)

theorem exec_file {i : Nat} {f : RemoteFile} {conn : Connection τ} (h : conn.opened[i]? = some f) :
    (file i).exec conn = (.ok f, conn) := by
  rw [file, Action.exec_bind_of_ok (Action.exec_get conn), h]
  rfl

theorem exec_putFile (i : Nat) (f : RemoteFile) (conn : Connection τ) :
    (putFile i f).exec conn = (.ok (), { conn with opened := conn.opened.set i f }) := rfl

variable {i : Nat} {path : String} {mode : ReadMode} {data : Bytes}

theorem skip_remoteFile {length pos : Nat} (hwithin : pos ≤ length) (n : Int) :
    RemoteFile.skip { path, length, mode, position := pos } n =
      (((min n.toNat (length - pos) : Nat) : Int),
        ({ path, length, mode, position := ((pos + min n.toNat (length - pos) : Nat) : Int) } : RemoteFile)) := by
  by_cases hn : n ≤ 0
  · rw [RemoteFile.skip, if_pos hn, Int.toNat_of_nonpos hn, Nat.zero_min, Nat.add_zero]
    rfl
  · have hmoved : min n ((length : Int) - pos) = ((min n.toNat (length - pos) : Nat) : Int) := by omega
    rw [RemoteFile.skip, if_neg hn]
    dsimp only
    rw [hmoved, Int.natCast_add]

variable {pos : Nat} {conn : Connection τ}

theorem exec_skip (h : conn.ReadUpTo i path mode data pos) (n : Int) :
    ((m.stream i).skip n).exec conn = (.ok ((min n.toNat (data.length - pos) : Nat) : Int),
      { conn with
        opened := conn.opened.set i
          { path, length := data.length, mode, position := ((pos + min n.toNat (data.length - pos) : Nat) : Int) } }) := by
  change (file i >>= fun f => putFile i (f.skip n).2 >>= fun _ => pure (f.skip n).1).exec conn = _
  rw [Action.exec_bind_of_ok (exec_file h.opened), skip_remoteFile h.within, Action.exec_bind_of_ok (exec_putFile ..)]
  rfl

/-- A read before the end of the file gives what is replied, unless its URL is refused. -/
theorem exec_readFile {n k : Nat} (h : conn.ReadUpTo i path mode data pos) (hn : 0 < n) (hpos : pos < data.length)
    (hk : 0 < k)
    (hreplies : m.Replies readResource [("path", path), ("offset", Decimal.text pos), ("length", Decimal.text n),
      ("readType", mode.word)] fun reply => reply.status < 400 ∧ reply.body = (data.drop pos).take k) :
    (m.Accepts readResource [("path", path), ("offset", Decimal.text pos), ("length", Decimal.text n),
        ("readType", mode.word)] ∧
      ∃ conn', (m.readFile i n).exec conn = (.ok (some ((data.drop pos).take (min k (data.length - pos)))), conn') ∧
        conn'.ReadUpTo i path mode data (pos + min k (data.length - pos))) ∨
    (¬ m.Accepts readResource [("path", path), ("offset", Decimal.text pos), ("length", Decimal.text n),
        ("readType", mode.word)] ∧
      ∃ f conn', (m.readFile i n).exec conn = (.error f, conn') ∧ f.IsRefusal ∧ conn'.ReadUpTo i path mode data pos) := by
  have hinside : ¬ (data.length : Int) ≤ pos := by omega
  rw [readFile, Action.exec_bind_of_ok (exec_file h.opened), if_neg (by omega), if_neg hinside]
  by_cases haccepts : m.Accepts readResource [("path", path), ("offset", Decimal.text pos), ("length", Decimal.text n),
      ("readType", mode.word)]
  · obtain ⟨reply, transport, ⟨hstatus, hbody⟩, hexec⟩ := exec_fetch_of_accepts h.isOpen hreplies haccepts
    have hlength : reply.body.length = min k (data.length - pos) := by
      rw [hbody, List.length_take, List.length_drop]
    have hsome : reply.body.isEmpty = false := by
      rw [List.isEmpty_eq_false_iff, ← List.length_pos_iff]
      omega
    have hpiece : reply.body = (data.drop pos).take reply.body.length := by
      rw [hlength, hbody, List.take_eq_take_iff, List.length_drop]
      omega
    rw [classify_of_lt hstatus] at hexec
    rw [← hlength, ← hpiece]
    refine .inl ⟨haccepts, _, ?_, h.put (by omega) transport⟩
    change (m.fetch readResource [("path", path), ("offset", Decimal.text pos), ("length", Decimal.text n),
      ("readType", mode.word)] >>= _).exec conn = _
    rw [Action.exec_bind_of_ok hexec, hsome, if_neg Bool.false_ne_true, Action.exec_bind_of_ok (exec_putFile ..)]
    rfl
  · obtain ⟨f, transport, hexec, hf⟩ := exec_fetch_of_not_accepts h.isOpen hreplies haccepts
    exact .inr ⟨haccepts, f, _, Action.exec_bind_of_error hexec, hf, h.isOpen, h.opened, h.within⟩

theorem readFile_gives {maxChunk n : Nat} (hsends : m.Sends path mode data maxChunk) (hchunk : 1 ≤ maxChunk)
    (h : conn.ReadUpTo i path mode data pos) (hn : 0 < n) (hpos : pos < data.length) :
    (m.readFile i n).Gives Failure.IsRefusal conn fun piece conn' =>
      ∃ k, 0 < k ∧ k ≤ n ∧ pos + k ≤ data.length ∧ piece = some ((data.drop pos).take k) ∧
        conn'.ReadUpTo i path mode data (pos + k) := by
  rcases exec_readFile h hn hpos (Nat.lt_min.mpr ⟨hn, hchunk⟩) (hsends pos n hpos hn) with
    ⟨-, conn', hexec, hconn⟩ | ⟨-, f, conn', hexec, hf, -⟩
  · exact .inl ⟨_, conn', hexec, _, by omega, by omega, by omega, rfl, hconn⟩
  · exact .inr ⟨f, conn', hexec, hf⟩

theorem exec_readFile_end {n : Nat} (h : conn.ReadUpTo i path mode data pos) (hn : 0 < n) (hpos : data.length ≤ pos) :
    (m.readFile i n).exec conn = (.ok none, conn) := by
  have hend : (data.length : Int) ≤ pos := by omega
  rw [readFile, Action.exec_bind_of_ok (exec_file h.opened), if_neg (by omega), if_pos hend]
  rfl

/-- **A stream delivers the bytes of the file that the master sends.** -/
theorem serves_stream {maxChunk : Nat} (hsends : m.Sends path mode data maxChunk) (hchunk : 1 ≤ maxChunk) :
    (m.stream i).Serves Failure.IsRefusal data (Connection.ReadUpTo i path mode data) where
  skip n pos conn h := by
    have hmoved : pos + min n.toNat (data.length - pos) ≤ data.length := by
      have hwithin := h.within
      omega
    exact .of_exec (exec_skip h n) ⟨rfl, h.put hmoved conn.transport⟩
  read n pos conn hn hpos h := readFile_gives hsends hchunk h hn hpos
  read_end n pos conn hn hpos h := .of_exec (exec_readFile_end h hn hpos) ⟨rfl, h⟩

/-! ## Masters that mirror a namespace -/

variable (m) in
/-- The master replies to every request that reaches it with what the namespace answers, and sends the bytes of files in
pieces of `maxChunk` bytes at most. -/
structure Mirrors (ns : Namespace) (tierNames : List String) (maxChunk : Nat) : Prop where
  status : ∀ path, m.Replies statusResource [("path", path)] (·.Carries FileInfo.ofJson (ns.answer path Node.info))
  list : ∀ path, m.Replies listResource [("path", path)]
    (·.Carries (Json.asList FileInfo.ofJson) (ns.answer path ns.children))
  blocks : ∀ path, m.Replies blocksResource [("path", path)]
    (·.Carries (Json.asList BlockReport.ofJson) (ns.answer path Node.blocks))
  tiers : m.Replies tiersResource [] (·.Carries (Json.asList Json.asText) (.ok tierNames))
  sends : ∀ path mode node, ns.lookup path = .ok node → node.info.folder = false →
    m.Sends path mode node.data maxChunk
  progresses : 1 ≤ maxChunk

/-- A client of the master next to the namespace, each unchanged but for the files that are open. -/
def alongside (ns : Namespace) : Bond (Connection τ) Namespace where
  holds conn s := conn.IsOpen ∧ s.SameContent ns
  ends _ conn s := conn.IsOpen ∧ s.SameContent ns
  stops := Failure.IsRefusal
  unreported_of_stops := by
    rintro _ ⟨e, rfl⟩ h
    exact h
  not_stops_storage := by
    rintro _ _ ⟨e, h⟩
    exact nomatch h
  holds_of_ends_storage _ _ _ _ h := h

variable {ns : Namespace} {α : Type}

theorem relates_of_yields {x : Action (Connection τ) α} {y : Action Namespace α} {outcome : Except BrowseError α}
    (hx : ∀ conn, conn.IsOpen → Yields x conn outcome)
    (hy : ∀ s, s.SameContent ns → ∃ t, t.SameContent ns ∧ y.exec s = (outcome.mapError .browse, t)) :
    (alongside ns).Relates Eq x y := by
  rintro conn s ⟨hopen, hs⟩
  obtain ⟨t, ht, hexec⟩ := hy s hs
  rw [hexec]
  rcases hx conn hopen with ⟨conn', hexec', hopen'⟩ | ⟨f, conn', hexec', hf⟩
  · rw [hexec']
    rcases outcome with e | a
    · exact .reported ⟨hopen', ht⟩
    · exact .ok rfl ⟨hopen', ht⟩
  · rw [hexec']
    exact .stopped hf

theorem relates_display (r : Except DisplayError α) :
    (alongside (τ := τ) ns).Relates Eq (Action.ofExcept .display r) (Action.ofExcept .display r) := by
  intro conn s h
  rcases r with e | a
  · exact .ended id h
  · exact .ok rfl h

end Master

namespace Namespace

/-! ## Errors of a namespace -/

theorem LookupError.isPlainMessage (e : LookupError) : IsPlainMessage e.toBrowseError.message := by
  have hpath : IsPlainMessage "Path " := ⟨'a', "th ".toList, by decide, by decide, by decide⟩
  have hpermission : IsPlainMessage "Permission denied: user may not access " :=
    ⟨'e', "rmission denied: user may not access ".toList, by decide, by decide, by decide +kernel⟩
  rcases e with (raw | raw | raw) | p | p
  · exact (hpath.append _).append _
  · exact (hpath.append _).append _
  · exact (hpath.append _).append _
  · exact hpermission.append _
  · exact (hpath.append _).append _

theorem exists_of_answer_eq_error {ns : Namespace} {raw : String} {α : Type} {see : Node → α} {e : BrowseError}
    (h : ns.answer raw see = .error e) : ∃ cause : LookupError, e = cause.toBrowseError := by
  rw [answer] at h
  rcases hlookup : ns.lookup raw with cause | node
  · rw [hlookup] at h
    exact ⟨cause, (Except.error.inj h).symm⟩
  · rw [hlookup] at h
    cases h

theorem message_ne_empty {ns : Namespace} {raw : String} {α : Type} {see : Node → α} {e : BrowseError}
    (h : ns.answer raw see = .error e) : e.message ≠ "" := by
  obtain ⟨cause, rfl⟩ := exists_of_answer_eq_error h
  exact cause.isPlainMessage.ne_empty

end Namespace

namespace Master

variable {τ : Type} {m : Master τ} {ns : Namespace} {tierNames : List String} {maxChunk : Nat} {clocks : Clock → Prop}
  {calls : PopulationCall → Prop}

/-! ## Calls of a client -/

theorem Mirrors.yields_status (h : m.Mirrors ns tierNames maxChunk) (path : String) {conn : Connection τ}
    (hopen : conn.IsOpen) : Yields (m.status path) conn (ns.answer path Node.info) :=
  exec_fetchValue hopen (h.status path) fun _ => Namespace.message_ne_empty

/-- Opening a path at the master comes to what opening it in the namespace comes to. -/
theorem Mirrors.exec_openFile (h : m.Mirrors ns tierNames maxChunk) (path : String) (mode : ReadMode)
    {conn : Connection τ} (hopen : conn.IsOpen) :
    (∃ conn', conn'.IsOpen ∧ (m.openFile path mode).exec conn =
      match ns.lookup path with
      | .error e => (.error (.browse e.toBrowseError), conn')
      | .ok node =>
        if node.info.folder then (.error (.browse (.invalidPath ("Path " ++ path ++ " is a directory"))), conn')
        else (.ok (m.stream conn'.opened.length), opening node.info mode conn')) ∨
      ∃ f conn', (m.openFile path mode).exec conn = (.error f, conn') ∧ f.IsRefusal := by
  have hexec := m.exec_openFile path mode conn
  rcases h.yields_status path hopen with ⟨conn', hstatus, hopen'⟩ | ⟨f, conn', hstatus, hf⟩
  · refine .inl ⟨conn', hopen', ?_⟩
    rw [hexec, hstatus, Namespace.answer]
    rcases ns.lookup path with e | node
    · rfl
    · simp only [Action.mapError_ok, Except.map, Action.andThen_ok]
      split_ifs <;> rfl
  · rw [hstatus] at hexec
    exact .inr ⟨f, conn', hexec, hf⟩

/-- **The window of a file is that of the namespace.** -/
theorem Mirrors.yields_window (h : m.Mirrors ns tierNames maxChunk) (hns : ns.Reachable clocks calls) (path : String)
    (mode : ReadMode) (offset length : Int) {conn : Connection τ} (hopen : conn.IsOpen) :
    Yields (m.cluster.withFile path mode (readWindow · offset length)) conn
      ((ns.answer path id).bind (·.window path offset length)) := by
  rcases h.exec_openFile path mode hopen with ⟨conn', hopen', hexec⟩ | ⟨f, conn', hexec, hf⟩
  · rw [Namespace.answer]
    rcases hnode : ns.lookup path with e | node
    · rw [hnode] at hexec
      exact .inl ⟨conn', Action.exec_bind_of_error hexec, hopen'⟩
    rw [hnode] at hexec
    dsimp only at hexec
    change Yields _ conn (node.window path offset length)
    rw [Node.window]
    split_ifs at hexec with hfolder
    · rw [if_pos hfolder]
      exact .inl ⟨conn', Action.exec_bind_of_error hexec, hopen'⟩
    rw [if_neg hfolder]
    have hlength : node.info.length = node.data.length := by
      obtain ⟨p, -, -, hp⟩ := Namespace.lookup_eq_ok_iff.mp hnode
      exact (hns.sound hp).length
    have hsends := h.sends node.info.path mode node (hns.lookup_path hnode) (Bool.eq_false_iff.mpr hfolder)
    have hat : (opening node.info mode conn').ReadUpTo conn'.opened.length node.info.path mode node.data 0 :=
      ⟨hopen', by simp [opening, hlength], Nat.zero_le _⟩
    have hclose : ∀ u, ∃ v, (m.stream conn'.opened.length).close.exec u = (.ok (), v) ∧
        ∀ pos, Connection.ReadUpTo conn'.opened.length node.info.path mode node.data pos u → v.IsOpen :=
      fun u => ⟨_, rfl, fun _ hu => hu.isOpen⟩
    rcases withFile_gives (c := m.cluster) hexec (serves_stream hsends h.progresses) hat hclose offset length with
      ⟨_, t, hwindow, rfl, ht⟩ | hrefused
    · exact .inl ⟨t, hwindow, ht⟩
    · exact .inr hrefused
  · exact .inr ⟨f, conn', Action.exec_bind_of_error hexec, hf⟩

/-- The two clusters answer alike. -/
theorem Mirrors.clusters (h : m.Mirrors ns tierNames maxChunk) (hns : ns.Reachable clocks calls)
    (masterAddress : String) : (alongside ns).Clusters m.cluster (Namespace.cluster masterAddress tierNames) where
  resolve p := by
    have hstatus : (alongside ns).Relates Eq (m.cluster.status p.text)
        ((Namespace.cluster masterAddress tierNames).status p.text) := by
      refine relates_of_yields (fun conn hopen => h.yields_status p.text hopen) fun s hs => ⟨s, hs, ?_⟩
      rw [Namespace.exec_status, hs.answer_eq]
    have hresolve : (alongside ns).Relates Eq (resolve m.cluster p)
        (resolve (Namespace.cluster masterAddress tierNames) p) := by
      rw [ClusterBrowser.resolve, ClusterBrowser.resolve]
      refine hstatus.bind_eq fun info => ?_
      split_ifs
      · exact .fail _
      · exact .pure rfl
    rw [resolveShown, resolveShown]
    exact hresolve.bind_eq fun info => (relates_display _).bind_eq fun entry => .pure rfl
  list path := by
    have hlist : (alongside ns).Relates Eq (m.cluster.list path)
        ((Namespace.cluster masterAddress tierNames).list path) := by
      refine relates_of_yields (fun conn hopen => exec_fetchValue hopen (h.list path) fun _ => Namespace.message_ne_empty)
        fun s hs => ⟨s, hs, ?_⟩
      rw [Namespace.exec_list, hs.answer_eq, funext hs.children_eq]
    rw [listDirectory, listDirectory]
    exact hlist.bind_eq fun children => (Bond.Relates.mapM (fun _ => relates_display _) children).bind_eq fun _ => .pure rfl
  blocks path := by
    refine relates_of_yields (fun conn hopen => exec_fetchValue hopen (h.blocks path) fun _ => Namespace.message_ne_empty)
      fun s hs => ⟨s, hs, ?_⟩
    rw [Namespace.exec_blocks, hs.answer_eq]
  tiers :=
    relates_of_yields (fun conn hopen => exec_fetchValue hopen h.tiers fun _ he => nomatch he) fun s hs => ⟨s, hs, rfl⟩
  window path offset length := by
    refine relates_of_yields (fun conn hopen => h.yields_window hns path .noCache offset length hopen) fun s hs => ?_
    obtain ⟨t, ht, hexec⟩ := Namespace.exec_window masterAddress tierNames path .noCache offset length s
    rw [hs.answer_eq] at hexec
    exact ⟨t, ht.trans hs, hexec⟩

end Master

end ClusterBrowser
