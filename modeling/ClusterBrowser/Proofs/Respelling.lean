import ClusterBrowser.Proofs.FileView
import ClusterBrowser.Proofs.Order
import ClusterBrowser.Proofs.Spelling
import ClusterBrowser.Proofs.Trace

/-!
# One path in several spellings

A view gives the canonical spelling of its path, and under that spelling the same view is found again.

* `FileStream.Alike`: two open files that answer all calls alike.
* `Cluster.AnswersByCall`: a cluster whose answers depend only on the call.
* `Cluster.AnswersByCall.fixed_browse`: so do then the views.
* `Namespace.answersByCall`: a namespace is such a cluster while it is not populated.
* `Browser.browse_respelled`, `Browser.currentPath_of_browse`: a browse under the canonical spelling.
* **`Path.parseRequest_canonical`**: what spells a path, how it is spelt canonically, and what is browsed then.
-/

namespace ClusterBrowser

variable {σ α : Type}

/-! ## Open files -/

/-- A call of an open file. -/
inductive FileCall where
  | skip (n : Int)
  | read (n : Int)
  | close

/-- Makes a call of an open file. -/
def FileStream.call (x : FileStream σ) : FileCall → σ → ClusterCall × σ
  | .skip n, s => (.skip n ((x.skip n).exec s).1, ((x.skip n).exec s).2)
  | .read n, s => (.read n ((x.read n).exec s).1, ((x.read n).exec s).2)
  | .close, s => (.close (x.close.exec s).1, (x.close.exec s).2)

/-- Makes calls of an open file one after another, whatever comes of them. -/
def FileStream.calls (x : FileStream σ) : List FileCall → σ → List ClusterCall
  | [], _ => []
  | call :: rest, s => (x.call call s).1 :: x.calls rest (x.call call s).2

/-- Two open files, each in a state, that answer all calls alike, one after another. -/
def FileStream.Alike (x : FileStream σ) (s : σ) (y : FileStream σ) (t : σ) : Prop :=
  ∀ calls, x.calls calls s = y.calls calls t

/-- All calls of an open file leave the states within a set. -/
def FileStream.StaysIn (I : σ → Prop) (x : FileStream σ) : Prop := ∀ call s, I s → I (x.call call s).2

theorem FileStream.Alike.call {x y : FileStream σ} {s t : σ} (h : x.Alike s y t) (call : FileCall) :
    (x.call call s).1 = (y.call call t).1 ∧ x.Alike (x.call call s).2 y (y.call call t).2 :=
  ⟨(List.cons.inj (h [call])).1, fun rest => (List.cons.inj (h (call :: rest))).2⟩

/-! ## Answers that depend only on the call -/

/-- An action that comes to the same in all states of a set, and leaves one of them behind. -/
structure Action.Fixed (I : σ → Prop) (x : Action σ α) : Prop where
  answer : ∀ s t, I s → I t → (x.exec s).1 = (x.exec t).1
  stays : ∀ s, I s → I (x.exec s).2

/-- A file is opened alike from two states, or fails to be so. -/
inductive OpenedAlike (I : σ → Prop) : Except Failure (FileStream σ) × σ → Except Failure (FileStream σ) × σ → Prop
  | failed (f : Failure) {s t : σ} (left : I s) (right : I t) : OpenedAlike I (.error f, s) (.error f, t)
  | opened {x y : FileStream σ} {s t : σ} (left : I s) (right : I t) (alike : x.Alike s y t) (staysLeft : x.StaysIn I)
    (staysRight : y.StaysIn I) : OpenedAlike I (.ok x, s) (.ok y, t)

/-- A cluster whose answers depend only on the call, as long as it is in one of the states of a set, where all calls leave
it. What an open file answers depends on what it has been asked before, and on nothing else. -/
structure Cluster.AnswersByCall (I : σ → Prop) (c : Cluster σ) : Prop where
  status : ∀ path, (c.status path).Fixed I
  list : ∀ path, (c.list path).Fixed I
  blocks : ∀ path, (c.blocks path).Fixed I
  tiers : c.tiers.Fixed I
  openFile : ∀ path mode s t, I s → I t → OpenedAlike I ((c.openFile path mode).exec s) ((c.openFile path mode).exec t)

namespace Bond

/-- Two states of a set. -/
def Both (I : σ → Prop) (s t : σ) : Prop := I s ∧ I t

variable {I : σ → Prop} {R : σ → σ → Prop}

theorem Outcome.lockstep_of_eq {r q : Except Failure α × σ} (answers : r.1 = q.1) (states : R r.2 q.2) :
    (lockstep R).Outcome Eq r q := by
  obtain ⟨a, s⟩ := r
  obtain ⟨b, t⟩ := q
  obtain rfl : a = b := answers
  rcases a with f | a
  · exact Relates.lockstep_throw f s t states
  · exact .ok rfl states

theorem relates_both_iff {x : Action σ α} : (lockstep (Both I)).Relates Eq x x ↔ x.Fixed I := by
  constructor
  · intro h
    exact ⟨fun s t hs ht => (h s t ⟨hs, ht⟩).lockstep_eq, fun s hs => (h s s ⟨hs, hs⟩).lockstep_holds.1⟩
  · intro h s t hst
    exact .lockstep_of_eq (h.answer s t hst.1 hst.2) ⟨h.stays s hst.1, h.stays t hst.2⟩

/-- Two open files that have been asked the same so far. -/
def BothAlike (I : σ → Prop) (x y : FileStream σ) (s t : σ) : Prop := Both I s t ∧ x.Alike s y t

theorem sameFile_bothAlike {x y : FileStream σ} (hx : x.StaysIn I) (hy : y.StaysIn I) :
    (lockstep (BothAlike I x y)).SameFile x y where
  skip n s t := by
    rintro ⟨⟨hs, ht⟩, halike⟩
    obtain ⟨hcall, hrest⟩ := halike.call (.skip n)
    exact .lockstep_of_eq (ClusterCall.skip.inj hcall).2 ⟨⟨hx (.skip n) s hs, hy (.skip n) t ht⟩, hrest⟩
  read n s t := by
    rintro ⟨⟨hs, ht⟩, halike⟩
    obtain ⟨hcall, hrest⟩ := halike.call (.read n)
    exact .lockstep_of_eq (ClusterCall.read.inj hcall).2 ⟨⟨hx (.read n) s hs, hy (.read n) t ht⟩, hrest⟩
  close s t := by
    rintro ⟨⟨hs, ht⟩, halike⟩
    obtain ⟨hcall, hrest⟩ := halike.call .close
    exact .lockstep_of_eq (ClusterCall.close.inj hcall) ⟨⟨hx .close s hs, hy .close t ht⟩, hrest⟩

end Bond

namespace Cluster.AnswersByCall

open Bond

variable {I : σ → Prop} {c : Cluster σ} (h : c.AnswersByCall I)
include h

theorem relates_withFile (path : String) (mode : ReadMode) {use : FileStream σ → Action σ α}
    (huse : ∀ (B : Bond σ σ) x y, B.SameFile x y → B.Relates Eq (use x) (use y)) :
    (lockstep (Both I)).Relates Eq (c.withFile path mode use) (c.withFile path mode use) := by
  rintro s t ⟨hs, ht⟩
  have hopen := h.openFile path mode s t hs ht
  rw [withFile, Action.exec_bind, Action.exec_bind]
  generalize (c.openFile path mode).exec s = r at hopen
  generalize (c.openFile path mode).exec t = q at hopen
  cases hopen with
  | failed f left right => exact .lockstep_of_eq rfl ⟨left, right⟩
  | @opened x y s t left right alike staysLeft staysRight =>
    have hfile := sameFile_bothAlike staysLeft staysRight
    -- While the file is open, the two runs have asked it the same.
    have hused : (lockstep (BothAlike I x y)).Relates Eq
        (do let result ← (use x).observe; x.close; Action.ofExcept id result)
        (do let result ← (use y).observe; y.close; Action.ofExcept id result) :=
      (huse _ x y hfile).lockstep_observe.bind_eq fun result => hfile.close.bind_eq fun _ => .lockstep_ofExcept id result
    have houtcome := hused s t ⟨⟨left, right⟩, alike⟩
    exact .lockstep_of_eq houtcome.lockstep_eq houtcome.lockstep_holds.1

theorem clusters : (lockstep (Both I)).Clusters c c where
  resolve := .lockstep_resolveShown fun path => relates_both_iff.mpr (h.status path)
  list path := .lockstep_listDirectory ((relates_both_iff.mpr (h.list path)).mono fun _ _ heq => .inl heq)
  blocks path := relates_both_iff.mpr (h.blocks path)
  tiers := relates_both_iff.mpr h.tiers
  window path offset length :=
    h.relates_withFile path .noCache fun _ _ _ hfile => .readWindow hfile.skip hfile.read offset length

/-- **If all answers depend only on the call, so do the views.** -/
theorem fixed_browse (b : Browser) (req : Request) : (b.browse c req).Fixed I := by
  refine relates_both_iff.mp ((Relates.browse h.clusters b req).mono ?_)
  rintro _ _ ⟨v, rfl, rfl⟩
  rfl

end Cluster.AnswersByCall

/-! ## Namespaces -/

/-- What a file in memory answers, and how it is left behind. -/
def OpenFile.call (file : OpenFile) : FileCall → ClusterCall × OpenFile
  | .skip n => (.skip n (.ok (file.skip n).1), (file.skip n).2)
  | .read n => (.read n (.ok (file.read n).1), (file.read n).2)
  | .close => (.close (.ok ()), { file with closed := true })

namespace Namespace

theorem call_stream {s : Namespace} {i : Nat} {file : OpenFile} (h : s.opened[i]? = some file) (call : FileCall) :
    (stream i).call call s = ((file.call call).1, { s with opened := s.opened.set i (file.call call).2 }) := by
  cases call with
  | skip n =>
    have hexec := exec_useOpened 0 (·.skip n) h
    exact Prod.ext (congrArg (ClusterCall.skip n) (congrArg Prod.fst hexec)) (congrArg Prod.snd hexec :)
  | read n =>
    have hexec := exec_useOpened none (·.read n) h
    exact Prod.ext (congrArg (ClusterCall.read n) (congrArg Prod.fst hexec)) (congrArg Prod.snd hexec :)
  | close =>
    have hexec := exec_useOpened () (fun file => ((), { file with closed := true })) h
    exact Prod.ext (congrArg ClusterCall.close (congrArg Prod.fst hexec)) (congrArg Prod.snd hexec :)

/-- Files with the same data that have been read up to the same place answer alike, whatever their numbers. -/
theorem alike_stream {s t : Namespace} {i j : Nat} {file : OpenFile} (hs : s.opened[i]? = some file)
    (ht : t.opened[j]? = some file) : (stream i).Alike s (stream j) t := by
  intro calls
  induction calls generalizing s t file with
  | nil => rfl
  | cons call rest ih =>
    obtain ⟨hi, -⟩ := List.getElem?_eq_some_iff.mp hs
    obtain ⟨hj, -⟩ := List.getElem?_eq_some_iff.mp ht
    rw [FileStream.calls, FileStream.calls, call_stream hs, call_stream ht]
    exact congrArg _ (ih (List.getElem?_set_self hi) (List.getElem?_set_self hj))

theorem sameContent_useOpened {α : Type} (i : Nat) (idle : α) (use : OpenFile → α × OpenFile) (s : Namespace) :
    SameContent ((useOpened i idle use).exec s).2 s := by
  rw [useOpened, Action.exec_bind_of_ok (Action.exec_get s)]
  rcases s.opened[i]? with _ | file
  · exact .refl s
  · exact ⟨rfl, rfl⟩

theorem staysIn_stream (ns : Namespace) (i : Nat) : (stream i).StaysIn (SameContent · ns) := by
  rintro (n | n | _) s hs
  · exact (sameContent_useOpened i 0 (·.skip n) s).trans hs
  · exact (sameContent_useOpened i none (·.read n) s).trans hs
  · exact (sameContent_useOpened i () (fun file => ((), { file with closed := true })) s).trans hs

/-- **A namespace answers by the call** as long as nothing is added to it and nothing more is denied. -/
theorem answersByCall (ns : Namespace) (masterAddress : String) (tiers : List String) :
    (cluster masterAddress tiers).AnswersByCall (SameContent · ns) where
  status path := by
    refine ⟨fun s t hs ht => ?_, fun s hs => ?_⟩
    · rw [exec_status, exec_status, hs.answer_eq, ht.answer_eq]
    · rwa [exec_status]
  list path := by
    have hlist : ∀ s, SameContent s ns → s.answer path s.children = ns.answer path ns.children := by
      intro s hs
      rw [hs.answer_eq, funext hs.children_eq]
    refine ⟨fun s t hs ht => ?_, fun s hs => ?_⟩
    · rw [Namespace.exec_list, Namespace.exec_list, hlist s hs, hlist t ht]
    · rwa [Namespace.exec_list]
  blocks path := by
    refine ⟨fun s t hs ht => ?_, fun s hs => ?_⟩
    · rw [Namespace.exec_blocks, Namespace.exec_blocks, hs.answer_eq, ht.answer_eq]
    · rwa [Namespace.exec_blocks]
  tiers := ⟨fun _ _ _ _ => rfl, fun _ hs => hs⟩
  openFile path mode s t hs ht := by
    rw [exec_openFile, exec_openFile, hs.answer_eq, ht.answer_eq]
    rcases ns.answer path id with e | node
    · exact .failed _ hs ht
    dsimp only
    split_ifs
    · exact .failed _ hs ht
    · have halike : (stream s.opened.length).Alike { s with opened := s.opened ++ [OpenFile.mk node.data 0 false] }
          (stream t.opened.length) { t with opened := t.opened ++ [OpenFile.mk node.data 0 false] } :=
        alike_stream List.getElem?_concat_length List.getElem?_concat_length
      exact .opened ⟨hs.nodes, hs.denied⟩ ⟨ht.nodes, ht.denied⟩ halike (staysIn_stream ns _) (staysIn_stream ns _)

end Namespace

/-! ## Browsing under another spelling -/

namespace Browser

/-- A browse under the canonical spelling is the same browse. -/
theorem browse_respelled (b : Browser) (c : Cluster σ) (req : Request) {p : Path}
    (spelled : Path.parseRequest req.path = .ok p) : b.browse c { req with path := some p.text } = b.browse c req := by
  have hcanonical : Path.parseRequest ({ req with path := some p.text } : Request).path = .ok p := Path.parse_text p
  rw [browse_eq b c _ hcanonical, browse_eq b c req spelled]
  rfl

theorem currentPath_pageView (v : View) (req : Request) (rows : List Entry) :
    (pageView v req rows).currentPath = v.currentPath := by
  rw [pageView]
  rcases paginate rows req.offset req.limit with (_ | _) | page <;> rfl

/-- **A view gives the canonical spelling of its path.** -/
theorem currentPath_of_browse {b : Browser} {c : Cluster σ} {req : Request} {p : Path} {s t : σ} {v : View}
    (spelled : Path.parseRequest req.path = .ok p) (h : (b.browse c req).exec s = (.ok v, t)) :
    v.currentPath = p.text := by
  have hsame : ∀ q, Path.parseRequest req.path = .ok q → q.text = p.text := fun q hq => by
    rw [Except.ok.inj (hq.symm.trans spelled)]
  cases browse_eq_ok_iff.mp h with
  | misspelt parsed => exact nomatch parsed.symm.trans spelled
  | unresolved parsed failed => exact hsame _ parsed
  | unread located isFile failed => exact hsame _ located.parsed
  | file located isFile read => exact hsame _ located.parsed
  | rootless located isDirectory failed => exact hsame _ located.parsed
  | unlisted located isDirectory crumbs failed => exact hsame _ located.parsed
  | unlocated located isDirectory listed failed => exact hsame _ located.parsed
  | page located isDirectory listed annotated => exact (currentPath_pageView ..).trans (hsame _ located.parsed)

end Browser

theorem Path.parseRequest_eq (raw : Option String) : parseRequest raw = parse (raw.getD "") := by
  cases raw <;> rfl

/-- **Paths are spelt by a grammar, and canonically in one way.** A request has a path exactly if its text is missing, empty
or of the grammar; otherwise the path is invalid. The canonical spelling is a separator followed by the segments that are
not empty, with separators between them. It leads back to the path, is the same for two texts exactly if their segments are,
and where answers depend only on the call, whatever is browsed shows it and is found again under it. -/
theorem Path.parseRequest_canonical (raw : Option String) :
    ((∃ p, parseRequest raw = .ok p) ↔ raw = none ∨ raw = some "" ∨ ∃ text, raw = some text ∧ Text.IsSpelling text) ∧
    (∀ e, parseRequest raw = .error e → ∃ message, e.toBrowseError = .invalidPath message) ∧
    ∀ p, parseRequest raw = .ok p →
      p.text = String.ofList (separator :: [separator].intercalate (Text.segments (raw.getD ""))) ∧
      (∀ other q, parseRequest other = .ok q →
        (p.text = q.text ↔ Text.segments (raw.getD "") = Text.segments (other.getD ""))) ∧
      parseRequest (some p.text) = .ok p ∧
      ∀ (σ : Type) (c : Cluster σ) (I : σ → Prop), c.AnswersByCall I → ∀ (b : Browser) (offset fromEnd limit : Option String)
        (s s' : σ) (v : View), I s → (b.browse c ⟨raw, offset, fromEnd, limit⟩).exec s = (.ok v, s') →
        v.currentPath = p.text ∧ I s' ∧
          ∀ t, I t → ((b.browse c ⟨some v.currentPath, offset, fromEnd, limit⟩).exec t).1 = .ok v := by
  refine ⟨?_, fun e _ => ⟨e.message, rfl⟩, fun p hp => ?_⟩
  · rw [parseRequest_eq, parse_isOk_iff]
    cases raw <;> simp
  have hsegments : ∀ {other q}, parseRequest other = .ok q → q.segments = Text.segments (other.getD "") :=
    fun {other q} hq => segments_of_parse (parseRequest_eq other ▸ hq)
  refine ⟨?_, fun other q hq => ?_, parse_text p, ?_⟩
  · rw [text_eq, hsegments hp]
  · rw [text_eq_text_iff, hsegments hp, hsegments hq]
  · intro σ c I hc b offset fromEnd limit s s' v hs hv
    have hpath : v.currentPath = p.text := Browser.currentPath_of_browse hp hv
    have hfixed := hc.fixed_browse b ⟨raw, offset, fromEnd, limit⟩
    have hleft := hfixed.stays s hs
    rw [hv] at hleft
    refine ⟨hpath, hleft, fun t ht => ?_⟩
    have hrespelled : b.browse c ⟨some p.text, offset, fromEnd, limit⟩ = b.browse c ⟨raw, offset, fromEnd, limit⟩ :=
      b.browse_respelled c ⟨raw, offset, fromEnd, limit⟩ hp
    rw [hpath, hrespelled, hfixed.answer t s ht hs, hv]

/-- The end of the short file, browsed under one spelling and then under the one that the view gives. -/
theorem Path.parseRequest_canonical_greeting : ∃ p v s', parseRequest (some "//d///hi/") = .ok p ∧ p.text = "/d/hi" ∧
    (Browser.usual.browse (Namespace.cluster "" Namespace.defaultTiers) ⟨some "//d///hi/", some "1", some "", none⟩).exec
      Namespace.greeting = (.ok v, s') ∧ v.fileText = some "i" ∧ v.currentPath = p.text ∧
    ((Browser.usual.browse (Namespace.cluster "" Namespace.defaultTiers) ⟨some v.currentPath, some "1", some "", none⟩).exec
      s').1 = .ok v := by
  let p : Path := .child (.child .root ⟨"d", by decide⟩) ⟨"hi", by decide⟩
  have hp : parseRequest (some "//d///hi/") = .ok p := by decide +kernel
  have htext : ((Browser.usual.browse (Namespace.cluster "" Namespace.defaultTiers)
      ⟨some "//d///hi/", some "1", some "", none⟩).exec Namespace.greeting).1.map View.fileText = .ok (some "i") := by
    decide +kernel
  rcases hv : (Browser.usual.browse (Namespace.cluster "" Namespace.defaultTiers)
      ⟨some "//d///hi/", some "1", some "", none⟩).exec Namespace.greeting with ⟨f | v, s'⟩
  · rw [hv] at htext
    cases htext
  rw [hv] at htext
  obtain ⟨-, -, hcanonical⟩ := parseRequest_canonical (some "//d///hi/")
  obtain ⟨-, -, -, hbrowse⟩ := hcanonical p hp
  obtain ⟨hpath, hs', hagain⟩ := hbrowse Namespace _ (Namespace.SameContent · Namespace.greeting)
    (Namespace.answersByCall Namespace.greeting "" Namespace.defaultTiers) .usual (some "1") (some "") none
    Namespace.greeting s' v (.refl _) hv
  exact ⟨p, v, s', hp, by decide +kernel, rfl, Except.ok.inj htext, hpath, hagain s' hs'⟩

end ClusterBrowser
