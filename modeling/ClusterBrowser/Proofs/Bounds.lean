import ClusterBrowser.Proofs.Answers
import ClusterBrowser.Proofs.Shapes

/-!
# The bounds of a preview

A preview is put together from pieces whose sizes the master chooses.

* `ClusterCall.KeepsToRequest`: an answer that brings no more bytes than were asked for.
* `Action.Notes`: what a run and the calls that it notes have to do with each other.
* `FillsWindow`: so many bytes came of a window, by such calls.
* **`Master.bounds_iff_keepsToRequest`**: a preview keeps to its window exactly if the answers keep to the requests.
* `Master.preview_exceeds_file`: a preview of more bytes than the file has.
-/

namespace ClusterBrowser

variable {σ τ α β : Type}

/-- The answer brings no more bytes than were asked for. -/
def ClusterCall.KeepsToRequest : ClusterCall → Prop
  | read n (.ok (some bytes)) => (bytes.length : Int) ≤ n
  | _ => True

/-! ## Runs with their calls -/

namespace Action

/-- A run that gives a value has noted more calls, which have to do with the value as `P` says. -/
def Notes (x : Action (σ × List ClusterCall) α) (P : α → List ClusterCall → Prop) : Prop :=
  ∀ s calls a t, x.exec (s, calls) = (.ok a, t) → ∃ new, t.2 = calls ++ new ∧ P a new

variable {P P' : α → List ClusterCall → Prop} {Q : β → List ClusterCall → Prop} {x : Action (σ × List ClusterCall) α}

theorem Notes.pure {a : α} (h : P a []) : (Pure.pure a : Action (σ × List ClusterCall) α).Notes P := by
  intro s calls b t hb
  obtain ⟨rfl, rfl⟩ := exec_pure_eq_ok.mp hb
  exact ⟨[], (List.append_nil calls).symm, h⟩

theorem Notes.fail (e : BrowseError) : (Action.fail e : Action (σ × List ClusterCall) α).Notes P :=
  fun _ _ _ _ h => nomatch h

theorem Notes.mono (hx : x.Notes P) (h : ∀ a new, P a new → P' a new) : x.Notes P' := by
  intro s calls a t ha
  obtain ⟨new, hnew, hP⟩ := hx s calls a t ha
  exact ⟨new, hnew, h a new hP⟩

theorem Notes.bind {k : α → Action (σ × List ClusterCall) β} (hx : x.Notes P)
    (hk : ∀ a first, P a first → (k a).Notes fun b rest => Q b (first ++ rest)) : (x >>= k).Notes Q := by
  intro s calls b u hb
  obtain ⟨a, ⟨t, noted⟩, ha, hb⟩ := exec_bind_eq_ok.mp hb
  obtain ⟨first, hfirst, hP⟩ := hx s calls a _ ha
  obtain ⟨rest, hrest, hQ⟩ := hk a first hP t noted b u hb
  obtain rfl : noted = calls ++ first := hfirst
  exact ⟨first ++ rest, hrest.trans (List.append_assoc ..), hQ⟩

theorem notes_noting (note : Except Failure α → ClusterCall) (x : Action σ α) :
    (x.noting note).Notes fun a new => new = [note (.ok a)] := by
  intro s calls a t h
  rw [exec_noting] at h
  obtain ⟨hvalue, rfl⟩ := Prod.mk.inj h
  exact ⟨[note (.ok a)], by rw [hvalue], rfl⟩

theorem Notes.mapFailure (hx : x.Notes P) (f : Failure → Failure) : (x.mapFailure f).Notes P := by
  intro s calls a t h
  refine hx s calls a t ?_
  rw [exec_mapFailure] at h
  rcases hr : x.exec (s, calls) with ⟨e | b, u⟩
  · rw [hr] at h
    exact nomatch h
  · rw [hr] at h
    exact h

end Action

open ClusterBrowser.Action

theorem notes_openFile (c : Cluster σ) (path : String) (mode : ReadMode) :
    (c.traced.openFile path mode).Notes fun stream new =>
      (∃ x : FileStream σ, stream = x.traced) ∧ new = [.openFile path mode (.ok ())] := by
  intro s calls stream t h
  have h : (FileStream.traced <$> (c.openFile path mode).noting fun r => .openFile path mode (r.map fun _ => ())).exec
      (s, calls) = (.ok stream, t) := h
  rw [exec_map, exec_noting] at h
  rcases hr : (c.openFile path mode).exec s with ⟨f | x, u⟩
  · rw [hr] at h
    exact nomatch h
  · rw [hr] at h
    obtain ⟨hstream, rfl⟩ := Prod.mk.inj h
    exact ⟨_, rfl, ⟨x, (Except.ok.inj hstream).symm⟩, rfl⟩

theorem notes_close {x : FileStream σ} {y : Action (σ × List ClusterCall) α} {P : α → List ClusterCall → Prop}
    (hy : y.Notes P) :
    (y.observe >>= fun result => x.traced.close >>= fun _ => Action.ofExcept id result).Notes fun a new =>
      ∃ used, P a used ∧ new = used ++ [.close (.ok ())] := by
  intro s calls a t h
  obtain ⟨result, ⟨s₁, noted⟩, hresult, h⟩ := exec_bind_eq_ok.mp h
  obtain ⟨⟨⟩, ⟨s₂, noted'⟩, hclose, h⟩ := exec_bind_eq_ok.mp h
  rcases result with f | b
  · exact nomatch h
  obtain ⟨rfl, rfl⟩ := exec_pure_eq_ok.mp h
  have hvalue : y.exec (s, calls) = (.ok b, s₁, noted) := by
    rw [exec_observe] at hresult
    obtain ⟨hb, hstate⟩ := Prod.mk.inj hresult
    exact Prod.ext (Except.ok.inj hb) hstate
  obtain ⟨used, hused, hP⟩ := hy s calls b _ hvalue
  obtain ⟨closed, hclosed, rfl⟩ := notes_noting .close x.close s₁ noted () _ hclose
  obtain rfl : noted = calls ++ used := hused
  exact ⟨_, hclosed.trans (List.append_assoc ..), used, hP, rfl⟩

theorem notes_withFile {c : Cluster σ} {path : String} {mode : ReadMode}
    {use : FileStream (σ × List ClusterCall) → Action (σ × List ClusterCall) α} {P : α → List ClusterCall → Prop}
    (huse : ∀ x : FileStream σ, (use x.traced).Notes P) :
    (c.traced.withFile path mode use).Notes fun a new =>
      ∃ used, P a used ∧ new = .openFile path mode (.ok ()) :: (used ++ [.close (.ok ())]) := by
  refine Notes.bind (notes_openFile c path mode) fun stream first h => ?_
  obtain ⟨⟨x, rfl⟩, rfl⟩ := h
  refine (notes_close (huse x)).mono fun a new h => ?_
  obtain ⟨used, hP, rfl⟩ := h
  exact ⟨used, hP, rfl⟩

/-! ## Windows -/

/-- So many bytes came of a window by these calls: no more than fit exactly if the answers keep to the requests, and none
if nothing fits. -/
structure FillsWindow (window count : Nat) (calls : List ClusterCall) : Prop where
  fits : count ≤ window ↔ ∀ call ∈ calls, call.KeepsToRequest
  empty : window = 0 → count = 0

theorem FillsWindow.none (window : Nat) : FillsWindow window 0 [] := ⟨by simp, fun _ => rfl⟩

theorem FillsWindow.cons {window count : Nat} {calls : List ClusterCall} (h : FillsWindow window count calls)
    (call : ClusterCall) (hcall : call.KeepsToRequest) : FillsWindow window count (call :: calls) := by
  refine ⟨?_, h.empty⟩
  rw [List.forall_mem_cons, ← h.fits, and_iff_right hcall]

theorem FillsWindow.concat {window count : Nat} {calls : List ClusterCall} (h : FillsWindow window count calls)
    (call : ClusterCall) (hcall : call.KeepsToRequest) : FillsWindow window count (calls ++ [call]) := by
  refine ⟨?_, h.empty⟩
  rw [List.forall_mem_append, ← h.fits, and_iff_left (List.forall_mem_singleton.mpr hcall)]

/-- Reading on adds no more than is missing exactly if the answers keep to the requests. -/
theorem notes_fill (x : FileStream σ) (fuel missing : Nat) (got : Bytes) :
    (fill x.traced fuel missing got).Notes fun data new => got.length ≤ data.length ∧
      (data.length ≤ got.length + missing ↔ ∀ call ∈ new, call.KeepsToRequest) := by
  induction fuel generalizing missing got with
  | zero => exact .pure ⟨le_rfl, by simp⟩
  | succ fuel ih =>
    rw [fill]
    split
    · exact .pure ⟨le_rfl, by simp⟩
    refine Notes.bind (notes_noting (.read missing) (x.read missing)) fun r first hfirst => ?_
    obtain rfl := hfirst
    rcases r with _ | _ | ⟨byte, rest⟩
    · exact .pure ⟨le_rfl, by simp [ClusterCall.KeepsToRequest]⟩
    · exact .pure ⟨le_rfl, by simp [ClusterCall.KeepsToRequest]⟩
    refine (ih _ _).mono fun data new h => ?_
    obtain ⟨hgot, hfits⟩ := h
    rw [List.length_append] at hgot hfits
    refine ⟨by omega, ?_⟩
    rw [List.singleton_append, List.forall_mem_cons, ← hfits, ClusterCall.KeepsToRequest]
    -- A piece that is too long leaves nothing missing, and what it brought beyond the request stays.
    omega

/-- The bytes of a window at a place of a file of the given length. -/
def windowSize (offset length : Int) : Nat := (min windowBytes (length - offset)).toNat

theorem notes_readWindow (x : FileStream σ) (offset length : Int) :
    (readWindow x.traced offset length).Notes fun read new =>
      FillsWindow (windowSize offset length) read.byteCount new := by
  rw [readWindow]
  refine Notes.bind (notes_noting (.skip offset) (x.skip offset)) fun skipped first hfirst => ?_
  obtain rfl := hfirst
  refine Notes.mono (P := fun read new => FillsWindow (windowSize offset length) read.byteCount new) ?_
    fun read new h => h.cons (.skip offset (.ok skipped)) trivial
  split
  · exact .pure (.none _)
  split
  · exact .pure (.none _)
  dsimp only
  split
  · exact .pure (.none _)
  next hsome =>
  refine Notes.bind (notes_noting (.read _) (x.read _)) fun r first hfirst => ?_
  obtain rfl := hfirst
  rcases r with _ | chunk
  · exact .pure ⟨by simp [ClusterCall.KeepsToRequest, WindowRead.byteCount], fun h => absurd h hsome⟩
  refine Notes.bind (notes_fill x _ _ chunk) fun data new h => .pure ⟨?_, fun h => absurd h hsome⟩
  obtain ⟨hgot, hfits⟩ := h
  rw [List.append_nil, List.singleton_append, List.forall_mem_cons, ← hfits, ClusterCall.KeepsToRequest, windowSize,
    WindowRead.byteCount]
  omega

/-! ## Previews -/

theorem notes_readFile (c : Cluster σ) (info : FileInfo) (offset : Int) :
    (readFile c.traced info offset).Notes fun read new => FillsWindow (windowSize offset info.length) read.2 new := by
  rw [readFile]
  split
  · refine Notes.bind ((notes_withFile fun x => notes_readWindow x offset info.length).mapFailure _)
      fun read new h => .pure ?_
    obtain ⟨used, hused, hnew⟩ := h
    rw [hnew, List.append_nil]
    exact (hused.concat (.close (.ok ())) trivial).cons (.openFile info.path .noCache (.ok ())) trivial
  · exact .pure (.none _)

theorem notes_preview (c : Cluster σ) (info : FileInfo) (offset : Int) :
    (preview c.traced info offset).Notes fun result new =>
      result.offset = offset ∧ FillsWindow (windowSize offset info.length) result.byteCount new := by
  rw [preview]
  refine Notes.bind (notes_readFile c info offset) fun read new hnew => ?_
  refine Notes.bind (notes_noting .tiers c.tiers) fun tiers _ htiers => ?_
  refine Notes.bind (notes_noting (.blocks info.path) (c.blocks info.path)) fun blocks _ hblocks => .pure ⟨rfl, ?_⟩
  rw [htiers, hblocks, List.append_nil, ← List.append_assoc]
  exact (hnew.concat (.tiers (.ok tiers)) trivial).concat (.blocks info.path (.ok blocks)) trivial

theorem notes_resolve (c : Cluster σ) (p : Path) :
    (resolve c.traced p).Notes fun info new => new = [.status p.text (.ok info)] := by
  rw [resolve]
  refine Notes.bind (notes_noting (.status p.text) (c.status p.text)) fun info first hfirst => ?_
  obtain rfl := hfirst
  split
  · exact .fail _
  · exact .pure rfl

theorem effectiveOffset_bounds (raw : Option String) (fromEnd : Bool) (length : Int) :
    0 ≤ effectiveOffset raw fromEnd length ∧ effectiveOffset raw fromEnd length ≤ max 0 length := by
  rw [effectiveOffset]
  omega

/-- **A view of a file and the calls that lead to it.** The first call reports the attributes of the file, the offset
lies in the file, and the bytes that are shown fill the window there. -/
theorem Browser.calls_of_file {c : Cluster σ} {I : σ → Prop} {F : Failure → Prop} (hc : c.Steady I F) {s t : σ}
    (hs : I s) {b : Browser} {req : Request} {v : View} (hv : (b.browse c req).exec s = (.ok v, t))
    (hfile : v.kind = .file) :
    ∃ path info rest, b.calls c req s = .status path (.ok info) :: rest ∧ 0 ≤ v.offset ∧ v.offset ≤ max 0 info.length ∧
      FillsWindow (windowSize v.offset info.length) v.fileBytes (b.calls c req s) := by
  have htraced := exec_traced_of_ok hc hs hv
  generalize b.calls c req s = calls at htraced
  cases Exit.of_browse htraced with
  | @file p info _ _ u _ located isFile read =>
    obtain ⟨first, hfirst, rfl⟩ := notes_resolve c p s [] info u located.resolved
    obtain ⟨rest, hrest, hoffset, hfills⟩ := notes_preview c info _ u.1 u.2 _ _ read
    rw [hfirst] at hrest
    obtain rfl : calls = _ := hrest
    obtain ⟨hnonneg, hle⟩ := effectiveOffset_bounds req.offset req.fromEnd.isSome info.length
    rw [fileView, hoffset]
    exact ⟨p.text, info, rest, rfl, hnonneg, hle, hfills.cons (.status p.text (.ok info)) trivial⟩
  | page located isDirectory listed annotated =>
    obtain ⟨-, ⟨herror, -⟩ | hlisting⟩ := pageView_shape (isBare_withAncestors _ _ _) req _
    · exact nomatch herror.kind.symm.trans hfile
    · exact nomatch hlisting.kind.symm.trans hfile
  | _ => exact nomatch hfile

namespace Master

variable {τ : Type}

/-- **A preview keeps to its window exactly if the answers keep to the requests.** The window is that of the file as it is
first reported. -/
theorem bounds_iff_keepsToRequest (m : Master τ) {conn conn' : Connection τ} (hopen : conn.IsOpen) {b : Browser}
    {req : Request} {v : View} (hv : (b.browse m.cluster req).exec conn = (.ok v, conn')) (hfile : v.kind = .file) :
    ∃ path info rest, b.calls m.cluster req conn = .status path (.ok info) :: rest ∧
      0 ≤ v.offset ∧ (0 ≤ info.length → v.offset ≤ info.length) ∧
      ((v.fileBytes ≤ 5120 ∧ (0 ≤ info.length → v.offset + v.fileBytes ≤ info.length)) ↔
        ∀ call ∈ b.calls m.cluster req conn, call.KeepsToRequest) := by
  obtain ⟨path, info, rest, hcalls, hnonneg, hle, hfills⟩ := Browser.calls_of_file m.steady_cluster hopen hv hfile
  refine ⟨path, info, rest, hcalls, hnonneg, fun hlength => ?_, ?_⟩
  · rwa [max_eq_right hlength] at hle
  rw [← hfills.fits]
  have hempty := hfills.empty
  rw [windowSize, windowBytes] at hempty ⊢
  -- A file of negative length has an empty window, so that nothing is shown.
  omega

/-- A preview of a file of two bytes whose master sends both. -/
theorem bounds_iff_keepsToRequest_serving : ∃ v conn', newClient.IsOpen ∧
    (Browser.usual.browse (serving shortFile (.ok { body := [0x68, 0x69] })).cluster { path := some "/f" }).exec
      newClient = (.ok v, conn') ∧ v.kind = .file ∧
    ∃ path info rest, Browser.usual.calls (serving shortFile (.ok { body := [0x68, 0x69] })).cluster
        { path := some "/f" } newClient = .status path (.ok info) :: rest ∧
      0 ≤ v.offset ∧ (0 ≤ info.length → v.offset ≤ info.length) ∧
      ((v.fileBytes ≤ 5120 ∧ (0 ≤ info.length → v.offset + v.fileBytes ≤ info.length)) ↔
        ∀ call ∈ Browser.usual.calls (serving shortFile (.ok { body := [0x68, 0x69] })).cluster
          { path := some "/f" } newClient, call.KeepsToRequest) := by
  have hseen : ((Browser.usual.browse (serving shortFile (.ok { body := [0x68, 0x69] })).cluster
      { path := some "/f" }).exec newClient).1.toOption.map View.kind = some .file := by decide +kernel
  rcases hv : (Browser.usual.browse (serving shortFile (.ok { body := [0x68, 0x69] })).cluster
    { path := some "/f" }).exec newClient with ⟨e | v, conn'⟩
  · rw [hv] at hseen
    exact nomatch hseen
  · rw [hv] at hseen
    have hfile : v.kind = .file := Option.some.inj hseen
    exact ⟨v, conn', isOpen_newClient, rfl, hfile, bounds_iff_keepsToRequest _ isOpen_newClient hv hfile⟩

/-- A preview shows more bytes than the file has, if its master sends more than it is asked for. -/
theorem preview_exceeds_file :
    ((Browser.usual.browse (serving shortFile (.ok { body := [0x61, 0x62, 0x63, 0x64] })).cluster
      { path := some "/f" }).exec newClient).1.toOption.map
      (fun v => (v.kind, v.current.map Entry.length, v.offset, v.fileBytes)) = some (.file, some 2, 0, 4) := by
  decide +kernel

end Master

end ClusterBrowser
