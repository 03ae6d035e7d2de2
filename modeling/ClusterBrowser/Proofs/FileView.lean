import ClusterBrowser.Proofs.Display
import ClusterBrowser.Proofs.Exits
import ClusterBrowser.Proofs.IntegerText
import ClusterBrowser.Proofs.Memory
import ClusterBrowser.Proofs.Population

/-!
# The view of a file

* `ShownAs`: the character that shows a byte.
* `View.ShowsFile`: a view of the window of some bytes that an offset asks for.
* `PopulationCall.IsPlain`, `Clock.IsCivil`: calls and times whose nodes can be shown.
* **`Namespace.browse_file`**: the view of every completed file shows the window that the request asks for.
-/

namespace ClusterBrowser

/-! ## Bytes as characters -/

/-- The bytes that are not shown: control characters, but for tabs and line ends. -/
def IsHidden (b : UInt8) : Prop :=
  (b.toNat < 0x20 ∧ b.toNat ≠ 0x9 ∧ b.toNat ≠ 0xA ∧ b.toNat ≠ 0xD) ∨ (0x7F ≤ b.toNat ∧ b.toNat ≤ 0x9F)

/-- The character that shows a byte: a point for a hidden one, else the character of the same number. -/
def ShownAs (b : UInt8) (c : Char) : Prop := (IsHidden b ∧ c = '.') ∨ (¬ IsHidden b ∧ c.toNat = b.toNat)

theorem shownAs_shownByte (b : UInt8) : ShownAs b (shownByte b) := by
  have hlt : b.toNat < 256 := b.toNat_lt
  have hvalid : (Char.ofNat b.toNat).toNat = b.toNat := by
    have hvalid : b.toNat.isValidChar := .inl (by omega)
    rw [Char.ofNat, dif_pos hvalid]
    rfl
  rw [shownByte, ShownAs, IsHidden]
  simp only [Bool.or_eq_true, Bool.and_eq_true, decide_eq_true_eq, bne_iff_ne]
  split_ifs with hhidden
  · exact .inl ⟨by omega, rfl⟩
  · exact .inr ⟨by omega, hvalid⟩

theorem forall₂_renderBytes (bytes : Bytes) : List.Forall₂ ShownAs bytes (renderBytes bytes).toList := by
  rw [renderBytes, String.toList_ofList]
  induction bytes with
  | nil => exact .nil
  | cons b rest ih => exact .cons (shownAs_shownByte b) ih

/-! ## What is shown of a file -/

/-- The view shows the window of `data` that an offset text asks for, counted from the start or from the end: at most 5120
bytes, one character for each. -/
structure View.ShowsFile (v : View) (data : Bytes) (offset : Option String) (fromEnd : Bool) : Prop where
  kind : v.kind = .file
  pathError : v.pathError = ""
  fatalError : v.fatalError = ""
  window : ∃ (asked : Int) (start : Nat), Decimal.CountsAs offset asked ∧
    (start : Int) = max 0 (min (if fromEnd then data.length - asked else asked) data.length) ∧
    v.offset = start ∧ v.fileBytes = min 5120 (data.length - start) ∧
    ∃ text, v.fileText = some text ∧
      List.Forall₂ ShownAs ((data.drop start).take (min 5120 (data.length - start))) text.toList

theorem windowOf_within {data : Bytes} {start : Nat} (h : start ≤ data.length) :
    windowOf data start data.length = .data ((data.drop start).take (min 5120 (data.length - start))) := by
  have hwindow : (min windowBytes ((data.length : Int) - start)).toNat = min 5120 (data.length - start) := by
    have hsize : windowBytes = 5120 := rfl
    omega
  rw [windowOf, Int.toNat_natCast, Nat.min_eq_left h, hwindow, if_neg (by omega)]
  by_cases hempty : min 5120 (data.length - start) = 0
  · rw [if_pos hempty, hempty, List.take_zero]
  · rw [if_neg hempty, if_neg (by omega)]

/-! ## Nodes that can be shown -/

/-- A clock that shows a time of the years 1 to 9999. -/
def Clock.IsCivil (clock : Clock) : Prop :=
  ∃ ms, clock.millis = some ms ∧ Instant.firstMillis ≤ ms ∧ ms ≤ Instant.lastMillis

/-- A call that denies nothing and makes no file too large to be shown. -/
def PopulationCall.IsPlain : PopulationCall → Prop
  | mkdir .. => True
  | addFile _ data _ => data.length < Size.limit
  | deny _ => False

namespace Namespace

variable {ns : Namespace}

theorem Reachable.showable (h : Reachable Clock.IsCivil PopulationCall.IsPlain ns) {p : Path} {node : Node}
    (hp : ns.find? p = some node) : node.info.Showable := by
  have hcivil : ∀ clock now, Clock.IsCivil clock → clock.millis = some now →
      Instant.firstMillis ≤ now ∧ now ≤ Instant.lastMillis := by
    rintro clock now ⟨ms, hms, hrange⟩ hnow
    obtain rfl := Option.some.inj (hms.symm.trans hnow)
    exact hrange
  have hall : ∀ p node, ns.find? p = some node → (fun _ node => node.info.Showable) p node := by
    refine h.allNodes (fun _ _ _ h => h) (fun clock now _ _ _ hclock hnow => ?_)
      fun clock now _ _ _ data _ hclock hnow hcall => ?_
    · exact ⟨fun h => (nomatch h), hcivil clock now hclock hnow, hcivil clock now hclock hnow⟩
    · have hsize : (data.length : Int) < Size.limit := by exact_mod_cast hcall
      exact ⟨⟨fun _ => hsize, hcivil clock now hclock hnow, hcivil clock now hclock hnow⟩,
        ⟨fun _ => hsize, hcivil clock now hclock hnow, hcivil clock now hclock hnow⟩⟩
  exact hall p node hp

theorem answer_text (h : Reachable Clock.IsCivil PopulationCall.IsPlain ns) {p : Path} {node : Node}
    (hp : ns.find? p = some node) {α : Type} (see : Node → α) : ns.answer p.text see = .ok (see node) := by
  rw [answer, h.lookup_text (fun _ h => h) hp]
  rfl

theorem exec_preview (h : Reachable Clock.IsCivil PopulationCall.IsPlain ns) {p : Path} {node : Node}
    (hp : ns.find? p = some node) (hfile : node.info.folder = false) (hcompleted : node.info.completed = true)
    (masterAddress : String) (tiers : List String) {start : Nat} (hstart : start ≤ node.data.length) :
    ∃ result t, (preview (cluster masterAddress tiers) node.info start).exec ns = (.ok result, t) ∧
      result.offset = start ∧ result.byteCount = min 5120 (node.data.length - start) ∧
      result.text = renderBytes ((node.data.drop start).take (min 5120 (node.data.length - start))) := by
  have hsound := h.sound hp
  obtain ⟨t, ht, hwindow⟩ := exec_window masterAddress tiers node.info.path .noCache start node.info.length ns
  rw [hsound.path, answer_text h hp, hsound.length] at hwindow
  have hnode : node.window p.text start node.data.length =
      .ok (.data ((node.data.drop start).take (min 5120 (node.data.length - start)))) := by
    rw [Node.window, hfile, if_neg Bool.false_ne_true, windowOf_within hstart]
  have hlength : ((node.data.drop start).take (min 5120 (node.data.length - start))).length =
      min 5120 (node.data.length - start) := by
    rw [List.length_take, List.length_drop]
    omega
  generalize (node.data.drop start).take (min 5120 (node.data.length - start)) = window at hnode hlength
  have hread : (readFile (cluster masterAddress tiers) node.info start).exec ns =
      (.ok (renderBytes window, window.length), t) := by
    have hmapped : (((cluster masterAddress tiers).withFile p.text .noCache
        (readWindow · start node.data.length)).mapFailure storageUnavailable).exec ns = (.ok (.data window), t) := by
      rw [Action.exec_mapFailure, hwindow, Except.bind, id, hnode]
      rfl
    rw [readFile, if_pos hcompleted, hsound.path, hsound.length, Action.exec_bind_of_ok hmapped]
    rfl
  have hblocks : ((cluster masterAddress tiers).blocks node.info.path).exec t = (.ok node.blocks, t) := by
    rw [exec_blocks, hsound.path, ht.answer_eq, answer_text h hp]
    rfl
  refine ⟨⟨start, window.length, renderBytes window, node.blocks.map (BlockView.ofReport · (tiers.headD "")),
    tiers.headD ""⟩, t, ?_, rfl, hlength, rfl⟩
  rw [preview, Action.exec_bind_of_ok hread]
  change ((cluster masterAddress tiers).blocks node.info.path >>= _).exec t = _
  rw [Action.exec_bind_of_ok hblocks]
  rfl

/-- **The view of every completed file shows the window that the request asks for.** -/
theorem browse_file (h : Reachable Clock.IsCivil PopulationCall.IsPlain ns) {req : Request} {p : Path} {node : Node}
    (hreq : Path.parseRequest req.path = .ok p) (hp : ns.find? p = some node) (hfile : node.info.folder = false)
    (hcompleted : node.info.completed = true) (b : Browser) (masterAddress : String) (tiers : List String) :
    ∃ v t, (b.browse (cluster masterAddress tiers) req).exec ns = (.ok v, t) ∧
      v.ShowsFile node.data req.offset req.fromEnd.isSome := by
  have hsound := h.sound hp
  obtain ⟨current, hcurrent⟩ := (Entry.ofInfo_isOk_iff node.info).mpr (h.showable hp)
  have hresolve : (resolve (cluster masterAddress tiers) p).exec ns = (.ok node.info, ns) := by
    have hstatus : ((cluster masterAddress tiers).status p.text).exec ns = (.ok node.info, ns) := by
      rw [exec_status, answer_text h hp]
      rfl
    rw [resolve, Action.exec_bind_of_ok hstatus, if_neg]
    · rfl
    · rw [hsound.path]
      exact Path.text_ne_empty p
  have located : Browser.Locates (cluster masterAddress tiers) req ns p node.info current ns := ⟨hreq, hresolve, hcurrent⟩
  have isFile : current.isDirectory = false := (Entry.isDirectory_of_ofInfo hcurrent).trans hfile
  -- The offset that the request asks for lies in the file.
  obtain ⟨start, hstart⟩ : ∃ start : Nat, Browser.offsetIn req node.info = start :=
    ⟨_, (Int.toNat_of_nonneg (Int.le_max_left _ _)).symm⟩
  have hclamped : (start : Int) = max 0 (min (if req.fromEnd.isSome then node.data.length - Decimal.readOrZero req.offset
      else Decimal.readOrZero req.offset) node.data.length) := by
    rw [← hstart, Browser.offsetIn, effectiveOffset, hsound.length]
  obtain ⟨result, t, hpreview, hoffset, hcount, htext⟩ :=
    exec_preview h hp hfile hcompleted masterAddress tiers (show start ≤ node.data.length by omega)
  rw [← hstart] at hpreview
  refine ⟨_, t, (Browser.Exit.file located isFile hpreview).exec, rfl, rfl, rfl,
    Decimal.readOrZero req.offset, start, Decimal.countsAs_readOrZero req.offset, hclamped, hoffset, hcount, ?_⟩
  exact ⟨result.text, rfl, htext ▸ forall₂_renderBytes _⟩

/-- A namespace with one short file, `/d/hi`. -/
def greeting : Namespace :=
  (PopulationCall.addFile "/d/hi" [72, 105] {}).perform (ensureDirectory 0 {} .root { clock := ⟨some 0⟩ })

theorem reachable_greeting : Reachable Clock.IsCivil PopulationCall.IsPlain greeting := by
  have hcivil : Clock.IsCivil ⟨some 0⟩ := ⟨0, rfl, by decide, by decide⟩
  have hplain : PopulationCall.IsPlain (.addFile "/d/hi" [72, 105] {}) := by
    change [72, 105].length < Size.limit
    decide +kernel
  exact .call (.empty hcivil rfl) hcivil hplain

/-- The last byte of the short file, asked for under another spelling of its path. -/
theorem browse_file_greeting : ∃ p node, Reachable Clock.IsCivil PopulationCall.IsPlain greeting ∧
    Path.parseRequest (some "/d//hi") = .ok p ∧ greeting.find? p = some node ∧ node.info.folder = false ∧
    node.info.completed = true ∧ node.data = [72, 105] ∧
    ∃ v t, (Browser.usual.browse (cluster "master:19998" defaultTiers)
      { path := some "/d//hi", offset := some "1", fromEnd := some "" }).exec greeting = (.ok v, t) ∧
      v.ShowsFile node.data (some "1") true := by
  let p : Path := .child (.child .root ⟨"d", by decide⟩) ⟨"hi", by decide⟩
  have hreq : Path.parseRequest (some "/d//hi") = .ok p := by decide +kernel
  have hseen : (greeting.find? p).map (fun node => (node.info.folder, node.info.completed, node.data)) =
      some (false, true, [72, 105]) := by decide +kernel
  obtain ⟨node, hp, hnode⟩ := Option.map_eq_some_iff.mp hseen
  obtain ⟨hfile, hnode⟩ := Prod.mk.inj hnode
  obtain ⟨hcompleted, hdata⟩ := Prod.mk.inj hnode
  exact ⟨p, node, reachable_greeting, hreq, hp, hfile, hcompleted, hdata,
    @browse_file _ reachable_greeting { path := some "/d//hi", offset := some "1", fromEnd := some "" } _ _ hreq hp hfile
      hcompleted _ _ _⟩

end Namespace

end ClusterBrowser
