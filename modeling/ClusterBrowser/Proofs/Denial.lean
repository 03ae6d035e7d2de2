import ClusterBrowser.Proofs.FileView
import ClusterBrowser.Proofs.Order

/-!
# Denied paths

What is stored at a denied path makes no difference to anything that can be asked.

* `Namespace.AgreeBut`: two states that differ in the content of one node at most.
* `Namespace.Hides`: two such states, in both of which that node is denied.
* `Namespace.SharesOpened`: related states that have opened the same files, which are read alike.
* `Namespace.inquire_eq_of_relates`: what related states answer alike one by one, they answer alike one after another.
* `Hides.relates_ask`: every inquiry is answered alike by the two.
* **`Namespace.inquire_eq_of_agreeBut`**: and so are all inquiries one after another.
-/

namespace ClusterBrowser

/-- A node without its data and blocks. -/
def Node.withoutContent (node : Node) : Node := { node with data := [], blocks := [] }

namespace Namespace

/-! ## Two states -/

/-- Two states that agree on everything but the data and the blocks of the node at one path. -/
structure AgreeBut (p : Path) (s t : Namespace) : Prop where
  elsewhere : ∀ q, q ≠ p → s.find? q = t.find? q
  here : (s.find? p).map Node.withoutContent = (t.find? p).map Node.withoutContent
  denied : s.denied = t.denied
  opened : s.opened = t.opened
  nextId : s.nextId = t.nextId
  clock : s.clock = t.clock

theorem agreeBut_adjust (ns : Namespace) (p : Path) (data : Bytes) (blocks : List BlockReport) :
    AgreeBut p ns { ns with nodes := ns.nodes.adjust p fun node => { node with data, blocks } } where
  elsewhere q hq := by simp [find?, Table.find?_adjust, hq.symm]
  here := by
    simp only [find?, Table.find?_adjust, if_true, Option.map_map]
    rfl
  denied := rfl
  opened := rfl
  nextId := rfl
  clock := rfl

/-- Two states that differ in the content of a node that is denied in both. -/
structure Hides (p : Path) (s t : Namespace) : Prop extends AgreeBut p s t where
  isDenied : p ∈ s.denied

section

variable {p : Path} {s t : Namespace} (h : Hides p s t)
include h

/-- Whatever a text leads to is the same in both: the denied path leads nowhere, in whatever spelling. -/
theorem Hides.lookup_eq (raw : String) : s.lookup raw = t.lookup raw := by
  unfold lookup
  cases Path.parse raw with
  | error e => rfl
  | ok q =>
    by_cases hq : q = p
    · simp [hq, ← h.denied, h.isDenied]
    · simp only [h.denied, h.elsewhere q hq]

theorem Hides.info_eq (q : Path) : (s.find? q).map Node.info = (t.find? q).map Node.info := by
  by_cases hq : q = p
  · have hhere := congrArg (Option.map Node.info) h.here
    simpa [hq, Node.withoutContent, Function.comp_def] using hhere
  · rw [h.elsewhere q hq]

theorem Hides.children_eq (node : Node) : s.children node = t.children node := by
  unfold children
  simp only [h.info_eq]

theorem Hides.setOpened (opened : List OpenFile) : Hides p { s with opened } { t with opened } :=
  ⟨⟨h.elsewhere, h.here, h.denied, rfl, h.nextId, h.clock⟩, h.isDenied⟩

end

/-! ## Calls in lockstep -/

open Bond

/-- Related states have opened the same files, and stay related whatever is opened in both. -/
structure SharesOpened (R : Namespace → Namespace → Prop) : Prop where
  opened : ∀ {s t : Namespace}, R s t → s.opened = t.opened
  setOpened : ∀ {s t : Namespace}, R s t → ∀ opened, R { s with opened } { t with opened }

section

variable {R : Namespace → Namespace → Prop} (hR : SharesOpened R)
include hR

theorem SharesOpened.relates_useOpened {α : Type} (i : Nat) (idle : α) (use : OpenFile → α × OpenFile) :
    (lockstep R).Relates Eq (useOpened i idle use) (useOpened i idle use) := by
  intro s t h
  have hopened := hR.opened h
  cases hfile : t.opened[i]? with
  | none =>
    have hs : (useOpened i idle use).exec s = (.ok idle, s) := by
      rw [useOpened, Action.exec_bind_of_ok (Action.exec_get s), hopened, hfile]
      rfl
    have ht : (useOpened i idle use).exec t = (.ok idle, t) := by
      rw [useOpened, Action.exec_bind_of_ok (Action.exec_get t), hfile]
      rfl
    rw [hs, ht]
    exact .ok rfl h
  | some file =>
    rw [exec_useOpened idle use hfile, exec_useOpened idle use (hopened ▸ hfile), hopened]
    exact .ok rfl (hR.setOpened h _)

theorem SharesOpened.sameFile_stream (i : Nat) : (lockstep R).SameFile (stream i) (stream i) where
  skip n := hR.relates_useOpened i 0 (·.skip n)
  read n := hR.relates_useOpened i none (·.read n)
  close := hR.relates_useOpened i () fun file => ((), { file with closed := true })

/-- A file is opened under the same number in both states, or in neither. -/
theorem SharesOpened.relates_openFile {raw : String}
    (visited : (lockstep R).Relates (fun x y => x.info = y.info ∧ x.data = y.data) (visit raw) (visit raw)) :
    (lockstep R).Relates (fun x y => ∃ i, x = stream i ∧ y = stream i) (openFile raw) (openFile raw) := by
  unfold openFile
  refine visited.bind fun node node' ⟨hinfo, hdata⟩ => ?_
  rw [hinfo, hdata]
  split
  · exact .fail _
  · intro s t h
    have hopened : s.opened ++ [OpenFile.mk node'.data 0 false] = t.opened ++ [OpenFile.mk node'.data 0 false] := by
      rw [hR.opened h]
    refine .ok ⟨s.opened.length, rfl, by rw [hR.opened h]⟩ ?_
    show R { s with opened := s.opened ++ _ } { t with opened := t.opened ++ _ }
    rw [hopened]
    exact hR.setOpened h _

end

variable (p : Path)

theorem sharesOpened_hides : SharesOpened (Hides p) where
  opened h := h.opened
  setOpened h opened := h.setOpened opened

theorem relates_visit (raw : String) : (lockstep (Hides p)).Relates Eq (visit raw) (visit raw) := by
  intro s t h
  rw [exec_visit, exec_visit, answer, answer, h.lookup_eq raw]
  cases t.lookup raw with
  | error e => exact .reported h
  | ok node => exact .ok rfl h

theorem relates_openFile (raw : String) : (lockstep (Hides p)).Relates (fun x y => ∃ i, x = stream i ∧ y = stream i)
    (openFile raw) (openFile raw) :=
  (sharesOpened_hides p).relates_openFile <| (relates_visit p raw).mono fun _ _ h => ⟨h ▸ rfl, h ▸ rfl⟩

variable (masterAddress : String) (tiers : List String)

theorem sameButOrder_cluster :
    (lockstep (Hides p)).SameButOrder (cluster masterAddress tiers) (cluster masterAddress tiers) where
  masterAddress := rfl
  status raw := (relates_visit p raw).bind_eq fun _ => .pure rfl
  list raw := by
    refine (relates_visit p raw).bind_eq fun node s t h => ?_
    exact .ok (.inl (h.children_eq node)) h
  blocks raw := (relates_visit p raw).bind_eq fun _ => .pure rfl
  tiers := .pure rfl
  openFile raw mode := by
    refine (relates_openFile p raw).mono ?_
    rintro x y ⟨i, rfl, rfl⟩
    exact (sharesOpened_hides p).sameFile_stream i

/-! ## Inquiries -/

/-- Something that can be asked of a namespace. Open files are numbered in the order in which they are opened. -/
inductive Inquiry where
  | status (raw : String)
  | list (raw : String)
  | blocks (raw : String)
  | tiers
  | openFile (raw : String) (mode : ReadMode)
  | skip (file : Nat) (n : Int)
  | read (file : Nat) (n : Int)
  | close (file : Nat)
  | browse (b : Browser) (req : Request)

/-- What an inquiry is about to learn. -/
def Inquiry.Answer : Inquiry → Type
  | .status _ => FileInfo
  | .list _ => List FileInfo
  | .blocks _ => List BlockReport
  | .tiers => List String
  | .openFile .. => FileStream Namespace
  | .skip .. => Int
  | .read .. => Option Bytes
  | .close _ => Unit
  | .browse .. => View

/-- The call that an inquiry makes. -/
def Inquiry.ask (masterAddress : String) (tiers : List String) : (inquiry : Inquiry) → Action Namespace inquiry.Answer
  | .status raw => (cluster masterAddress tiers).status raw
  | .list raw => (cluster masterAddress tiers).list raw
  | .blocks raw => (cluster masterAddress tiers).blocks raw
  | .tiers => (cluster masterAddress tiers).tiers
  | .openFile raw mode => (cluster masterAddress tiers).openFile raw mode
  | .skip file n => (stream file).skip n
  | .read file n => (stream file).read n
  | .close file => (stream file).close
  | .browse b req => b.browse (cluster masterAddress tiers) req

/-- **Every inquiry is answered alike**, and leaves two such states again. -/
theorem Hides.relates_ask (inquiry : Inquiry) :
    (lockstep (Hides p)).Relates Eq (inquiry.ask masterAddress tiers) (inquiry.ask masterAddress tiers) := by
  have hcluster := sameButOrder_cluster p masterAddress tiers
  cases inquiry with
  | status raw => exact hcluster.status raw
  | list raw =>
    -- The field of `hcluster` would allow the listings to differ in their order.
    refine (relates_visit p raw).bind_eq fun node s t h => ?_
    exact .ok (h.children_eq node) h
  | blocks raw => exact hcluster.blocks raw
  | tiers => exact hcluster.tiers
  | openFile raw mode =>
    refine (relates_openFile p raw).mono ?_
    rintro x y ⟨i, rfl, rfl⟩
    rfl
  | skip file n => exact ((sharesOpened_hides p).sameFile_stream file).skip n
  | read file n => exact ((sharesOpened_hides p).sameFile_stream file).read n
  | close file => exact ((sharesOpened_hides p).sameFile_stream file).close
  | browse b req =>
    refine (Relates.browse hcluster.clusters b req).mono ?_
    rintro v w ⟨u, rfl, rfl⟩
    rfl

/-- The outcomes of inquiries one after another, failures included. -/
def inquire (masterAddress : String) (tiers : List String) :
    List Inquiry → Namespace → List ((inquiry : Inquiry) × Except Failure inquiry.Answer)
  | [], _ => []
  | inquiry :: rest, ns =>
    let (outcome, ns) := (inquiry.ask masterAddress tiers).exec ns
    ⟨inquiry, outcome⟩ :: inquire masterAddress tiers rest ns

theorem inquire_eq_of_relates {R : Namespace → Namespace → Prop} {s t : Namespace} (h : R s t) {inquiries : List Inquiry}
    (hask : ∀ inquiry ∈ inquiries,
      (lockstep R).Relates Eq (inquiry.ask masterAddress tiers) (inquiry.ask masterAddress tiers)) :
    inquire masterAddress tiers inquiries s = inquire masterAddress tiers inquiries t := by
  induction inquiries generalizing s t with
  | nil => rfl
  | cons inquiry rest ih =>
    obtain ⟨hfirst, hrest⟩ := List.forall_mem_cons.mp hask
    have hasked := hfirst s t h
    simp only [inquire]
    rw [hasked.lockstep_eq, ih hasked.lockstep_holds hrest]

variable {p}

theorem Hides.inquire_eq {s t : Namespace} (h : Hides p s t) (inquiries : List Inquiry) :
    inquire masterAddress tiers inquiries s = inquire masterAddress tiers inquiries t :=
  inquire_eq_of_relates masterAddress tiers h fun inquiry _ => relates_ask p masterAddress tiers inquiry

/-- **The content of a denied node makes no difference to anything that is asked**, in whatever order and whatever comes
of it. -/
theorem inquire_eq_of_agreeBut {s t : Namespace} (agree : AgreeBut p s t) (denied : p ∈ s.denied ∧ p ∈ t.denied)
    (inquiries : List Inquiry) :
    inquire masterAddress tiers inquiries s = inquire masterAddress tiers inquiries t :=
  Hides.inquire_eq masterAddress tiers ⟨agree, denied.1⟩ inquiries

/-- The namespace with one short file, which is denied. -/
def vault : Namespace := (PopulationCall.deny "/d/hi").perform greeting

/-- The denied file is opened and read, its blocks are asked for in another spelling, and it is browsed, as is its
directory. -/
def search : List Inquiry :=
  [.openFile "/d/hi" .noCache, .read 0 2, .blocks "/d//hi/", .list "/d", .browse .usual { path := some "/d/hi" },
    .browse .usual { path := some "/d" }]

/-- The search does not tell the vault from one that holds other bytes. -/
theorem inquire_eq_of_agreeBut_vault : ∃ p t, Path.text p = "/d/hi" ∧ AgreeBut p vault t ∧
    (p ∈ vault.denied ∧ p ∈ t.denied) ∧ (vault.find? p).map Node.data = some [72, 105] ∧
    (t.find? p).map Node.data = some [1, 2, 3] ∧
    inquire "master:19998" defaultTiers search vault = inquire "master:19998" defaultTiers search t := by
  let p : Path := .child (.child .root ⟨"d", by decide⟩) ⟨"hi", by decide⟩
  have agree := agreeBut_adjust vault p [1, 2, 3] []
  have isDenied : p ∈ vault.denied := by decide +kernel
  exact ⟨p, _, by decide, agree, ⟨isDenied, isDenied⟩, by decide +kernel, by decide +kernel,
    inquire_eq_of_agreeBut _ _ agree ⟨isDenied, isDenied⟩ search⟩

end Namespace

end ClusterBrowser
