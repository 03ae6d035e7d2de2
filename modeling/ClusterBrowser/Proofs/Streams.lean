import ClusterBrowser.Proofs.SameView

/-!
# Streams of remote files

A stream of a remote file is that of the file in memory, but for how much comes at once.

* `FileStream.moves`: calls of a stream, one after the other.
* `Master.SendsRanges`: a master that sends a file in byte ranges, which may be cut.
* `Master.Passes`: what a call gives at a place in the file.
* **`Master.moves_remoteFile`**: what all calls give, and how far they come.
* `Master.read_fails_for_long_path`: a file of which nothing can be read.
-/

namespace ClusterBrowser

/-! ## Calls one after the other -/

/-- Passing over bytes, or reading them. -/
inductive StreamMove where
  | skip (n : Nat)
  | read (n : Nat)

/-- What a move brings: how many bytes are passed over, or the bytes read. -/
inductive StreamGain where
  | skipped (n : Int)
  | piece (bytes : Option Bytes)
  deriving DecidableEq, Repr

/-- By how many bytes the move came on. -/
def StreamGain.distance : Except Failure StreamGain → Int
  | .ok (.skipped n) => n
  | .ok (.piece (some bytes)) => bytes.length
  | .ok (.piece none) => 0
  | .error _ => 0

namespace FileStream

variable {σ : Type} (x : FileStream σ)

def move : StreamMove → Action σ StreamGain
  | .skip n => return .skipped (← x.skip n)
  | .read n => return .piece (← x.read n)

/-- What the moves bring, one after the other; one that fails does not keep the next from being made. -/
def moves : List StreamMove → σ → List (Except Failure StreamGain) × σ
  | [], s => ([], s)
  | move :: rest, s =>
    let (gain, s) := (x.move move).exec s
    let (gains, s) := moves rest s
    (gain :: gains, s)

@[simp] theorem moves_nil (s : σ) : x.moves [] s = ([], s) := rfl

theorem moves_cons {move : StreamMove} {gain : Except Failure StreamGain} {s t : σ}
    (h : (x.move move).exec s = (gain, t)) (rest : List StreamMove) :
    x.moves (move :: rest) s = (gain :: (x.moves rest t).1, (x.moves rest t).2) := by
  simp only [moves, h]

variable {x}

theorem move_skip {n : Nat} {moved : Int} {s t : σ} (h : (x.skip n).exec s = (.ok moved, t)) :
    (x.move (.skip n)).exec s = (.ok (.skipped moved), t) := Action.exec_bind_of_ok h

theorem move_read {n : Nat} {bytes : Option Bytes} {s t : σ} (h : (x.read n).exec s = (.ok bytes, t)) :
    (x.move (.read n)).exec s = (.ok (.piece bytes), t) := Action.exec_bind_of_ok h

theorem move_read_error {n : Nat} {f : Failure} {s t : σ} (h : (x.read n).exec s = (.error f, t)) :
    (x.move (.read n)).exec s = (.error f, t) := Action.exec_bind_of_error h

end FileStream

namespace Master

open StreamGain

/-! ## Byte ranges -/

/-- As many of `n` bytes as come at once. -/
def cut (limit : Option Nat) (n : Nat) : Nat := limit.elim n (min n)

theorem cut_pos {limit : Option Nat} {n : Nat} (hlimit : ∀ c ∈ limit, 1 ≤ c) (hn : 0 < n) : 0 < cut limit n := by
  rcases limit with _ | c
  · exact hn
  · exact Nat.lt_min.mpr ⟨hn, hlimit c rfl⟩

theorem min_cut {limit : Option Nat} {size : Nat} (hlimit : ∀ c ∈ limit, size ≤ c) (n pos : Nat) :
    min (cut limit n) (size - pos) = min n (size - pos) := by
  rcases limit with _ | c
  · rfl
  · have hsize := hlimit c rfl
    change min (min n c) (size - pos) = _
    omega

variable {τ : Type} (m : Master τ)

/-- A request for `n` bytes of the file at `path` from `pos` on brings these bytes of `data`, or as many as come at once. -/
def SendsRanges (path : String) (mode : ReadMode) (data : Bytes) (limit : Option Nat) : Prop :=
  ∀ pos n : Nat, pos < data.length → 0 < n →
    m.Replies readResource [("path", path), ("offset", Decimal.text pos), ("length", Decimal.text n),
      ("readType", mode.word)] fun reply => reply.status < 400 ∧ reply.body = (data.drop pos).take (cut limit n)

/-- The URL of a request for `n` bytes from `pos` on is not refused. -/
def AcceptsRange (path : String) (mode : ReadMode) (pos n : Nat) : Prop :=
  m.Accepts readResource [("path", path), ("offset", Decimal.text pos), ("length", Decimal.text n),
    ("readType", mode.word)]

/-- What a move gives at the place `pos` of a file. -/
inductive Passes (path : String) (mode : ReadMode) (data : Bytes) (limit : Option Nat) (pos : Nat) :
    StreamMove → Except Failure StreamGain → Prop
  | skips (n : Nat) : Passes path mode data limit pos (.skip n) (.ok (.skipped (min n (data.length - pos) : Nat)))
  | readsNothing : Passes path mode data limit pos (.read 0) (.ok (.piece (some [])))
  | ended {n : Nat} (asks : 0 < n) (atEnd : pos = data.length) :
    Passes path mode data limit pos (.read n) (.ok (.piece none))
  | reads {n : Nat} (asks : 0 < n) (inside : pos < data.length) (accepts : m.AcceptsRange path mode pos n) :
    Passes path mode data limit pos (.read n)
      (.ok (.piece (some ((data.drop pos).take (min (cut limit n) (data.length - pos))))))
  | refused {n : Nat} {f : Failure} (asks : 0 < n) (inside : pos < data.length)
    (refuses : ¬ m.AcceptsRange path mode pos n) (refusal : f.IsRefusal) :
    Passes path mode data limit pos (.read n) (.error f)

/-! ## Moves in a remote file -/

variable {m} {i : Nat} {path : String} {mode : ReadMode} {data : Bytes} {limit : Option Nat} {pos : Nat}
  {conn : Connection τ}

theorem distance_piece (data : Bytes) (pos k : Nat) :
    distance (.ok (.piece (some ((data.drop pos).take (min k (data.length - pos)))))) = min k (data.length - pos) := by
  rw [distance, List.length_take, List.length_drop]
  omega

/-- **One move in a remote file.** -/
theorem exec_move (hlimit : ∀ c ∈ limit, 1 ≤ c) (hsends : m.SendsRanges path mode data limit)
    (h : conn.ReadUpTo i path mode data pos) (move : StreamMove) :
    ∃ gain conn' pos', ((m.stream i).move move).exec conn = (gain, conn') ∧ m.Passes path mode data limit pos move gain ∧
      conn'.ReadUpTo i path mode data pos' ∧ (pos' : Int) = pos + distance gain := by
  have hwithin := h.within
  cases move with
  | skip n =>
    have hmoved : pos + min n (data.length - pos) ≤ data.length := by omega
    exact ⟨_, _, _, FileStream.move_skip (exec_skip h n), .skips n, h.put hmoved conn.transport, by rw [distance]; omega⟩
  | read n =>
    rcases Nat.eq_zero_or_pos n with rfl | hn
    · have hnothing : ((m.stream i).read (0 : Nat)).exec conn = (.ok (some []), conn) := by
        change (file i >>= _).exec conn = _
        rw [Action.exec_bind_of_ok (exec_file h.opened), if_pos Int.natCast_zero]
        rfl
      exact ⟨_, _, pos, FileStream.move_read hnothing, .readsNothing, h, by rw [distance]; simp⟩
    · rcases hwithin.lt_or_eq with hpos | hpos
      · rcases exec_readFile h hn hpos (cut_pos hlimit hn) (hsends pos n hpos hn) with
          ⟨haccepts, conn', hexec, hconn⟩ | ⟨hrefuses, f, conn', hexec, hf, hconn⟩
        · exact ⟨_, _, _, FileStream.move_read hexec, .reads hn hpos haccepts, hconn, by rw [distance_piece]; omega⟩
        · exact ⟨_, _, pos, FileStream.move_read_error hexec, .refused hn hpos hrefuses hf, hconn, by rw [distance]; omega⟩
      · exact ⟨_, _, pos, FileStream.move_read (exec_readFile_end h hn hpos.ge), .ended hn hpos, h, by rw [distance]; omega⟩

/-- What a move gives in a remote file that comes as it is asked for, it gives in the file in memory. -/
theorem Passes.exec_memory {ns s : Namespace} {j pos' : Nat} {move : StreamMove} {gain : StreamGain}
    (h : m.Passes path mode data limit pos move (.ok gain)) (hlimit : ∀ c ∈ limit, data.length ≤ c)
    (hs : ns.ReadUpTo j data pos s) (hpos' : (pos' : Int) = pos + distance (.ok gain)) :
    ∃ t, ((Namespace.stream j).move move).exec s = (.ok gain, t) ∧ ns.ReadUpTo j data pos' t := by
  cases h with
  | skips n =>
    have hexec := Namespace.exec_useOpened 0 (·.skip n) hs.opened
    simp only [Namespace.skip_openFile, Int.toNat_natCast] at hexec
    rw [distance] at hpos'
    obtain rfl : pos' = pos + min n (data.length - pos) := by omega
    exact ⟨_, FileStream.move_skip hexec, hs.set _⟩
  | readsNothing =>
    have hexec := Namespace.exec_useOpened none (·.read (0 : Nat)) hs.opened
    rw [distance, List.length_nil] at hpos'
    obtain rfl : pos' = pos := by omega
    exact ⟨_, FileStream.move_read hexec, hs.set _⟩
  | @ended n asks atEnd =>
    have hexec := Namespace.exec_useOpened none (·.read n) hs.opened
    simp only [Namespace.read_openFile_end asks atEnd.ge] at hexec
    rw [distance] at hpos'
    obtain rfl : pos' = pos := by omega
    exact ⟨_, FileStream.move_read hexec, hs.set _⟩
  | @reads n asks inside accepts =>
    have hexec := Namespace.exec_useOpened none (·.read n) hs.opened
    simp only [Namespace.read_openFile asks inside] at hexec
    rw [min_cut hlimit, distance_piece] at hpos'
    obtain rfl : pos' = pos + min n (data.length - pos) := by omega
    rw [min_cut hlimit]
    exact ⟨_, FileStream.move_read hexec, hs.set _⟩

/-- **Moves in a remote file.** All of them together come on to the place where the file has been read up to. -/
theorem exec_moves (hlimit : ∀ c ∈ limit, 1 ≤ c) (hsends : m.SendsRanges path mode data limit)
    (h : conn.ReadUpTo i path mode data pos) (moves : List StreamMove) :
    ∃ gains conn' pos', (m.stream i).moves moves conn = (gains, conn') ∧ conn'.ReadUpTo i path mode data pos' ∧
      (pos' : Int) = pos + (gains.map distance).sum := by
  -- What one move comes on by is where the next one begins.
  induction moves generalizing conn pos with
  | nil => exact ⟨[], conn, pos, rfl, h, by simp⟩
  | cons move rest ih =>
    obtain ⟨gain, conn', pos', hexec, -, hconn', hpos'⟩ := exec_move hlimit hsends h move
    obtain ⟨gains, conn'', pos'', hrest, hconn'', hpos''⟩ := ih hconn'
    refine ⟨gain :: gains, conn'', pos'', ?_, hconn'', ?_⟩
    · rw [FileStream.moves_cons _ hexec, hrest]
    · rw [List.map_cons, List.sum_cons]
      omega

/-- Moves that all succeed in a remote file, which comes as it is asked for, bring the same in the file in memory. -/
theorem moves_memory (hlimit : ∀ c ∈ limit, 1 ≤ c) (hwhole : ∀ c ∈ limit, data.length ≤ c)
    (hsends : m.SendsRanges path mode data limit) (h : conn.ReadUpTo i path mode data pos) {ns s : Namespace} {j : Nat}
    (hs : ns.ReadUpTo j data pos s) {moves : List StreamMove} (hok : ∀ f, .error f ∉ ((m.stream i).moves moves conn).1) :
    ((Namespace.stream j).moves moves s).1 = ((m.stream i).moves moves conn).1 := by
  -- Both files have been read up to the same place, move by move.
  induction moves generalizing conn pos s with
  | nil => rfl
  | cons move rest ih =>
    obtain ⟨gain, conn', pos', hexec, hgain, hconn', hpos'⟩ := exec_move hlimit hsends h move
    rw [FileStream.moves_cons _ hexec] at hok ⊢
    rcases gain with f | gain
    · exact absurd List.mem_cons_self (hok f)
    · obtain ⟨t, ht, hsame⟩ := hgain.exec_memory hwhole hs hpos'
      rw [FileStream.moves_cons _ ht, ih hconn' hsame fun f hf => hok f (List.mem_cons_of_mem _ hf)]

/-- **All moves in a remote file.** They come on to the sum of what they pass over and read, whatever is then asked for is
given as it should be, and if nothing is cut they bring what they bring in the file in memory. -/
theorem moves_remoteFile (hlimit : ∀ c ∈ limit, 1 ≤ c) (hsends : m.SendsRanges path mode data limit)
    (h : conn.ReadUpTo i path mode data 0) (moves : List StreamMove) :
    ∃ pos : Nat, (pos : Int) = (((m.stream i).moves moves conn).1.map distance).sum ∧
      ((m.stream i).moves moves conn).2.ReadUpTo i path mode data pos ∧
      (∀ move, m.Passes path mode data limit pos move
        (((m.stream i).move move).exec ((m.stream i).moves moves conn).2).1) ∧
      ((∀ c ∈ limit, data.length ≤ c) → (∀ f, .error f ∉ ((m.stream i).moves moves conn).1) →
        ∀ (ns : Namespace) (j : Nat), ns.opened[j]? = some { data } →
          ((Namespace.stream j).moves moves ns).1 = ((m.stream i).moves moves conn).1) := by
  obtain ⟨gains, conn', pos, hexec, hconn', hpos⟩ := exec_moves hlimit hsends h moves
  refine ⟨pos, ?_, ?_, fun move => ?_, fun hwhole hok ns j hopened => ?_⟩
  · rw [hexec, hpos, Int.natCast_zero, Int.zero_add]
  · rw [hexec]
    exact hconn'
  · obtain ⟨gain, _, _, hmove, hgain, -⟩ := exec_move hlimit hsends hconn' move
    rw [hexec, hmove]
    exact hgain
  · exact moves_memory hlimit hwhole hsends h ⟨.refl ns, hopened⟩ hok

/-! ## A master with one file -/

/-- A master that sends the one file that it has, whatever the path. -/
def serverOf (data : Bytes) (limit : Option Nat) : Master Unit where
  send r t :=
    let offset := Decimal.digitsValue (parameter r "offset").toList
    let length := Decimal.digitsValue (parameter r "length").toList
    (.ok { body := (data.drop offset).take (cut limit length) }, t)
  endpoint := greetingMirror.endpoint
  address := greetingMirror.address

/-- A client that has opened a file. -/
def clientOf (path : String) (mode : ReadMode) (data : Bytes) : Connection Unit where
  transport := ()
  opened := [{ path, length := data.length, mode }]

theorem sendsRanges_serverOf (path : String) (mode : ReadMode) (data : Bytes) (limit : Option Nat) :
    (serverOf data limit).SendsRanges path mode data limit := by
  intro pos n _ _ url r t hr
  refine ⟨_, rfl, show 200 < 400 by decide, ?_⟩
  have hparameters := parameters_of_request _ hr
  have hoffset : parameter r "offset" = Decimal.text pos := by
    rw [parameter, hparameters]
    rfl
  have hlength : parameter r "length" = Decimal.text n := by
    rw [parameter, hparameters]
    rfl
  dsimp only
  rw [hoffset, hlength, Decimal.digitsValue_text, Decimal.digitsValue_text]

theorem readUpTo_clientOf (path : String) (mode : ReadMode) (data : Bytes) :
    (clientOf path mode data).ReadUpTo 0 path mode data 0 := ⟨rfl, rfl, Nat.zero_le _⟩

/-- Five bytes, of which two come at once. -/
theorem moves_remoteFile_fiveBytes :
    (∀ c ∈ some 2, 1 ≤ c) ∧ (serverOf [1, 2, 3, 4, 5] (some 2)).SendsRanges "/f" .noCache [1, 2, 3, 4, 5] (some 2) ∧
    (clientOf "/f" .noCache [1, 2, 3, 4, 5]).ReadUpTo 0 "/f" .noCache [1, 2, 3, 4, 5] 0 ∧
    (((serverOf [1, 2, 3, 4, 5] (some 2)).stream 0).moves [.skip 1, .read 4, .read 0, .read 4, .read 4]
      (clientOf "/f" .noCache [1, 2, 3, 4, 5])).1 =
        [.ok (.skipped 1), .ok (.piece (some [2, 3])), .ok (.piece (some [])), .ok (.piece (some [4, 5])),
          .ok (.piece none)] ∧
    ∃ pos : Nat, (pos : Int) = ((((serverOf [1, 2, 3, 4, 5] (some 2)).stream 0).moves
        [.skip 1, .read 4, .read 0, .read 4, .read 4] (clientOf "/f" .noCache [1, 2, 3, 4, 5])).1.map distance).sum ∧
      (((serverOf [1, 2, 3, 4, 5] (some 2)).stream 0).moves [.skip 1, .read 4, .read 0, .read 4, .read 4]
        (clientOf "/f" .noCache [1, 2, 3, 4, 5])).2.ReadUpTo 0 "/f" .noCache [1, 2, 3, 4, 5] pos := by
  have hlimit : ∀ c ∈ some 2, 1 ≤ c := by decide
  have hsends := sendsRanges_serverOf "/f" .noCache [1, 2, 3, 4, 5] (some 2)
  have hclient := readUpTo_clientOf "/f" .noCache [1, 2, 3, 4, 5]
  obtain ⟨pos, hpos, hread, -⟩ :=
    moves_remoteFile hlimit hsends hclient [.skip 1, .read 4, .read 0, .read 4, .read 4]
  exact ⟨hlimit, hsends, hclient, by decide +kernel, pos, hpos, hread⟩

/-- Nothing of a file with a long path can be read, since the URL is refused. -/
theorem read_fails_for_long_path :
    (serverOf [0x68, 0x69] none).SendsRanges (Namespace.longPath 65536).text .noCache [0x68, 0x69] none ∧
    (clientOf (Namespace.longPath 65536).text .noCache [0x68, 0x69]).ReadUpTo 0 (Namespace.longPath 65536).text .noCache
      [0x68, 0x69] 0 ∧
    (((serverOf [0x68, 0x69] none).stream 0).moves [.read 2]
      (clientOf (Namespace.longPath 65536).text .noCache [0x68, 0x69])).1 = [.error (.url .tooLong)] := by
  -- The number stays a variable, so that nothing writes out the path.
  obtain ⟨n, hn⟩ : ∃ n, n = 65536 := ⟨_, rfl⟩
  rw [← hn]
  have hclient := readUpTo_clientOf (Namespace.longPath n).text .noCache [0x68, 0x69]
  obtain ⟨base, hbase⟩ := @exists_request_mirrorOf Namespace.greeting Namespace.defaultTiers 1 readResource (by decide +kernel)
  have hrefused : ((serverOf [0x68, 0x69] none).readFile 0 (2 : Nat)).exec
      (clientOf (Namespace.longPath n).text .noCache [0x68, 0x69]) =
        (.error (.url .tooLong), clientOf (Namespace.longPath n).text .noCache [0x68, 0x69]) := by
    have hinside : ¬ (([0x68, 0x69] : Bytes).length : Int) ≤ (0 : Nat) := by decide
    rw [readFile, Action.exec_bind_of_ok (exec_file hclient.opened), if_neg (by decide), if_neg hinside]
    refine Action.exec_bind_of_error (Action.exec_bind_of_error ?_)
    rw [exec_exchange _ _ _ hclient.isOpen]
    have hrequest : ∀ others, (serverOf [0x68, 0x69] none).request readResource
        (some (("path", (Namespace.longPath n).text) :: others)) = .error .tooLong :=
      fun others => request_of_longPath (Nat.le_of_eq hn.symm) hbase others
    rw [RemoteFile.rangeParameters, hrequest]
  have hmove : (((serverOf [0x68, 0x69] none).stream 0).move (.read 2)).exec
      (clientOf (Namespace.longPath n).text .noCache [0x68, 0x69]) =
        (.error (.url .tooLong), clientOf (Namespace.longPath n).text .noCache [0x68, 0x69]) :=
    FileStream.move_read_error hrefused
  refine ⟨sendsRanges_serverOf _ _ _ _, hclient, ?_⟩
  rw [FileStream.moves_cons _ hmove, FileStream.moves_nil]

end Master

end ClusterBrowser
