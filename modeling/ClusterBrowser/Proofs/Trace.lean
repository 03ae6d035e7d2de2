import ClusterBrowser.Proofs.Agreement
import ClusterBrowser.Proofs.Exits

/-!
# What a browse asks

The calls of a cluster are noted with their answers.  Noting them changes nothing in what a browse does.

* `ClusterCall`: a call and its answer.
* `Cluster.traced`: the cluster that notes its calls.
* `ClusterCall.Raises`: an answer that ends a browse.
* `Cluster.Steady`: a cluster of which is known how it fails.
* **`Browser.browse_ok_iff_calls`**: a browse gives a view exactly if no answer ends it.
-/

namespace ClusterBrowser

variable {σ τ α : Type}

/-- A call of a cluster, or of a stream that it opened, and its answer. -/
inductive ClusterCall where
  | status (path : String) (answer : Except Failure FileInfo)
  | list (path : String) (answer : Except Failure (List FileInfo))
  | blocks (path : String) (answer : Except Failure (List BlockReport))
  | tiers (answer : Except Failure (List String))
  | openFile (path : String) (mode : ReadMode) (answer : Except Failure Unit)
  | skip (n : Int) (answer : Except Failure Int)
  | read (n : Int) (answer : Except Failure (Option Bytes))
  | close (answer : Except Failure Unit)

/-- The failure of an outcome. -/
def failureOf : Except Failure α → Option Failure
  | .ok _ => none
  | .error f => some f

/-- The failure that a call ended with. -/
def ClusterCall.failure? : ClusterCall → Option Failure
  | status _ r => failureOf r
  | list _ r => failureOf r
  | blocks _ r => failureOf r
  | tiers r => failureOf r
  | openFile _ _ r => failureOf r
  | skip _ r => failureOf r
  | read _ r => failureOf r
  | close r => failureOf r

/-- The attributes in an answer. Attributes without a path say that there is nothing. -/
def ClusterCall.infos : ClusterCall → List FileInfo
  | status _ (.ok info) => if info.path = "" then [] else [info]
  | list _ (.ok infos) => infos
  | _ => []

/-- Whether an answer ends a browse: the call failed in one of the ways `F`, or what it reports cannot be shown. -/
def ClusterCall.Raises (F : Failure → Prop) (call : ClusterCall) (f : Failure) : Prop :=
  (call.failure? = some f ∧ F f) ∨ ∃ e, call.infos.mapM Entry.ofInfo = .error e ∧ f = .display e

/-! ## Noting calls -/

/-- An action that notes a call. -/
def Action.noting (note : Except Failure α → ClusterCall) (x : Action σ α) : Action (σ × List ClusterCall) α :=
  Action.ofFunction fun (s, calls) => ((x.exec s).1, (x.exec s).2, calls ++ [note (x.exec s).1])

/-- The stream that notes its calls. -/
def FileStream.traced (x : FileStream σ) : FileStream (σ × List ClusterCall) where
  skip n := (x.skip n).noting (.skip n)
  read n := (x.read n).noting (.read n)
  close := x.close.noting .close

/-- The cluster that notes its calls, but for those that a browse does not make. -/
def Cluster.traced (c : Cluster σ) : Cluster (σ × List ClusterCall) where
  masterAddress := c.masterAddress
  status path := (c.status path).noting (.status path)
  list path := (c.list path).noting (.list path)
  blocks path := (c.blocks path).noting (.blocks path)
  tiers := c.tiers.noting .tiers
  openFile path mode :=
    FileStream.traced <$> (c.openFile path mode).noting fun r => .openFile path mode (r.map fun _ => ())
  ping := c.ping.onPart Prod.fst fun s t => (t, s.2)
  close := c.close.onPart Prod.fst fun s t => (t, s.2)

/-- The calls of a browse. -/
def Browser.calls (b : Browser) (c : Cluster σ) (req : Request) (s : σ) : List ClusterCall :=
  ((b.browse c.traced req).exec (s, [])).2.2

/-! ## How a cluster fails -/

/-- Ways to fail that no view reports, not even as a failure of the storage. -/
structure Failure.Fatal (F : Failure → Prop) : Prop where
  unreported : ∀ f, F f → ¬ f.IsReported
  not_storage : ∀ timedOut message, ¬ F (.storage timedOut message)

/-- An action that keeps an invariant and fails with what a view reports or in one of the ways `F`. -/
structure Action.Keeps (I : σ → Prop) (F : Failure → Prop) (x : Action σ α) : Prop where
  holds : ∀ s, I s → I (x.exec s).2
  fails : ∀ s f, I s → (x.exec s).1 = .error f → f.IsReported ∨ F f

namespace Action.Keeps

variable {β : Type} {I : σ → Prop} {F : Failure → Prop} {x : Action σ α}

theorem pure (a : α) : (Pure.pure a : Action σ α).Keeps I F := ⟨fun _ hs => hs, fun _ _ _ h => nomatch h⟩

theorem fail (e : BrowseError) : (Action.fail e : Action σ α).Keeps I F :=
  ⟨fun _ hs => hs, fun _ _ _ h => Except.error.inj h ▸ .inl trivial⟩

theorem modify {g : σ → σ} (hg : ∀ s, I s → I (g s)) : (modify g : Action σ PUnit).Keeps I F :=
  ⟨hg, fun _ _ _ h => nomatch h⟩

theorem set {t : σ} (ht : I t) : (set t : Action σ PUnit).Keeps I F := ⟨fun _ _ => ht, fun _ _ _ h => nomatch h⟩

theorem ofExcept_browse (r : Except BrowseError α) : (Action.ofExcept .browse r : Action σ α).Keeps I F := by
  rcases r with e | a
  · exact .fail e
  · exact .pure a

theorem bind {k : α → Action σ β} (hx : x.Keeps I F) (hk : ∀ a, (k a).Keeps I F) : (x >>= k).Keeps I F := by
  constructor
  · intro s hs
    have hholds := hx.holds s hs
    rw [exec_bind]
    rcases h : x.exec s with ⟨f | a, t⟩
    · simpa [h] using hholds
    · exact (hk a).holds t (by simpa [h] using hholds)
  · intro s f hs hf
    rw [exec_bind] at hf
    rcases h : x.exec s with ⟨g | a, t⟩
    · rw [h, andThen_error] at hf
      obtain rfl := Except.error.inj hf
      exact hx.fails s g hs (by rw [h])
    · rw [h, andThen_ok] at hf
      have hholds := hx.holds s hs
      exact (hk a).fails t f (by simpa [h] using hholds) hf

theorem bind_get {k : σ → Action σ β} (hk : ∀ s, I s → (k s).Keeps I F) : (get >>= k).Keeps I F :=
  ⟨fun s hs => (hk s hs).holds s hs, fun s f hs hf => (hk s hs).fails s f hs hf⟩

theorem ofExcept {ε : Type} {wrap : ε → Failure} (hwrap : ∀ e, (wrap e).IsReported ∨ F (wrap e)) (r : Except ε α) :
    (Action.ofExcept wrap r : Action σ α).Keeps I F := by
  cases r with
  | ok a => exact .pure a
  | error e =>
    refine ⟨fun _ hs => hs, fun s f _ hf => ?_⟩
    obtain rfl := Except.error.inj hf
    exact hwrap e

theorem attempt (hx : x.Keeps I F) : x.attempt.Keeps I F := by
  constructor
  · intro s hs
    have hholds := hx.holds s hs
    rw [exec_attempt]
    rcases h : x.exec s with ⟨f | a, t⟩
    · rw [h] at hholds
      cases f <;> exact hholds
    · rw [h] at hholds
      exact hholds
  · intro s f hs hf
    have hfails := hx.fails s f hs
    rw [exec_attempt] at hf
    rcases h : x.exec s with ⟨g | a, t⟩
    · rw [h] at hf hfails
      cases g with
      | browse e => exact nomatch hf
      | _ => exact hfails (congrArg Except.error (Except.error.inj hf))
    · rw [h] at hf
      exact nomatch hf

theorem mapM {ι : Type} {f : ι → Action σ α} (h : ∀ i, (f i).Keeps I F) (is : List ι) : (is.mapM f).Keeps I F := by
  induction is with
  | nil => exact .pure []
  | cons i is ih =>
    rw [List.mapM_cons]
    exact (h i).bind fun a => ih.bind fun as => .pure (a :: as)

end Action.Keeps

/-- A stream that keeps an invariant, fails in known ways, and can always be closed. -/
structure FileStream.Steady (I : σ → Prop) (F : Failure → Prop) (x : FileStream σ) : Prop where
  skip : ∀ n, (x.skip n).Keeps I F
  read : ∀ n, (x.read n).Keeps I F
  close : ∀ s, ∃ t, x.close.exec s = (.ok (), t) ∧ (I s → I t)

/-- A cluster that keeps an invariant and fails in known ways. -/
structure Cluster.Steady (I : σ → Prop) (F : Failure → Prop) (c : Cluster σ) : Prop where
  status : ∀ path, (c.status path).Keeps I F
  list : ∀ path, (c.list path).Keeps I F
  blocks : ∀ path, (c.blocks path).Keeps I F
  tiers : c.tiers.Keeps I F
  openFile : ∀ path mode, (c.openFile path mode).Keeps I F
  streams : ∀ path mode s x t, I s → (c.openFile path mode).exec s = (.ok x, t) → x.Steady I F
  fatal : Failure.Fatal F

/-- A run with its calls noted, and the run itself. -/
def noted (I : σ → Prop) (F : Failure → Prop) (hF : Failure.Fatal F) : Bond (σ × List ClusterCall) σ where
  holds s t := s.1 = t ∧ I t ∧ ∀ call ∈ s.2, ∀ f, ¬ call.Raises F f
  ends f s t := s.1 = t ∧ ∃ call ∈ s.2, call.Raises F f
  stops _ := False
  unreported_of_stops _ h := h.elim
  not_stops_storage _ _ h := h
  holds_of_ends_storage _ _ _ _ h := by
    obtain ⟨-, call, -, ⟨-, h⟩ | ⟨e, -, h⟩⟩ := h
    · exact absurd h (hF.not_storage _ _)
    · exact nomatch h

theorem Action.exec_noting (note : Except Failure α → ClusterCall) (x : Action σ α) (s : σ) (calls : List ClusterCall) :
    (x.noting note).exec (s, calls) = ((x.exec s).1, (x.exec s).2, calls ++ [note (x.exec s).1]) := rfl

theorem ClusterCall.not_raises {F : Failure → Prop} {call : ClusterCall} (hf : ∀ f, call.failure? = some f → ¬ F f)
    (hi : ∀ e, call.infos.mapM Entry.ofInfo ≠ .error e) (f : Failure) : ¬ call.Raises F f := by
  rintro (⟨h, hF⟩ | ⟨e, he, -⟩)
  · exact hf f h hF
  · exact hi e he

section

variable {I : σ → Prop} {F : Failure → Prop} {hF : Failure.Fatal F}

theorem holds_noted {s : σ} {calls : List ClusterCall} {t u : σ} (h : (noted I F hF).holds (s, calls) t) (hu : I u)
    {call : ClusterCall} (hcall : ∀ f, ¬ call.Raises F f) : (noted I F hF).holds (u, calls ++ [call]) u := by
  obtain ⟨-, -, hquiet⟩ := h
  refine ⟨rfl, hu, fun other hother => ?_⟩
  rcases List.mem_append.mp hother with hother | hother
  · exact hquiet other hother
  · obtain rfl := List.mem_singleton.mp hother
    exact hcall

theorem ends_noted {calls : List ClusterCall} {u : σ} {call : ClusterCall} {f : Failure} (hcall : call.Raises F f) :
    (noted I F hF).ends f (u, calls ++ [call]) u :=
  ⟨rfl, call, List.mem_append.mpr (.inr (List.mem_singleton.mpr rfl)), hcall⟩

theorem outcome_of_failure {β γ : Type} {P : β → γ → Prop} {x : Action σ α} (hx : x.Keeps I F) {s u : σ}
    {calls : List ClusterCall} (hs : (noted I F hF).holds (s, calls) s) {f : Failure} (h : x.exec s = (.error f, u))
    {call : ClusterCall} (hcall : call.failure? = some f) (hinfos : call.infos = []) :
    (noted I F hF).Outcome P (.error f, u, calls ++ [call]) (.error f, u) := by
  have hu : I u := by simpa [h] using hx.holds s hs.2.1
  have hf := hx.fails s f hs.2.1 (by rw [h])
  by_cases hreported : f.IsReported
  · obtain ⟨e, rfl⟩ := Failure.isReported_iff.mp hreported
    refine .reported (holds_noted hs hu (ClusterCall.not_raises (fun g hg => ?_) fun e => ?_))
    · obtain rfl := Option.some.inj (hcall.symm.trans hg)
      exact fun h => hF.unreported _ h hreported
    · rw [hinfos]
      exact fun h => nomatch h
  · exact .ended hreported (ends_noted (.inl ⟨hcall, hf.resolve_left hreported⟩))

theorem relates_noting {x : Action σ α} (hx : x.Keeps I F) {note : Except Failure α → ClusterCall}
    (hfailure : ∀ r, (note r).failure? = failureOf r) (hinfos : ∀ r, (note r).infos = []) :
    (noted I F hF).Relates Eq (x.noting note) x := by
  rintro ⟨s, calls⟩ _ hs
  obtain rfl : s = _ := hs.1
  rw [Action.exec_noting]
  rcases h : x.exec s with ⟨f | a, u⟩
  · exact outcome_of_failure hx hs h (hfailure _) (hinfos _)
  · have hu : I u := by simpa [h] using hx.holds s hs.2.1
    refine .ok rfl (holds_noted hs hu (ClusterCall.not_raises (fun f hf => ?_) fun e => ?_))
    · rw [hfailure] at hf
      exact nomatch hf
    · rw [hinfos]
      exact fun h => nomatch h

theorem relates_resolveShown {c : Cluster σ} (hc : c.Steady I F) (p : Path) :
    (noted I F hF).Relates Eq (resolveShown c.traced p) (resolveShown c p) := by
  rintro ⟨s, calls⟩ _ hs
  obtain rfl : s = _ := hs.1
  have hx := hc.status p.text
  rw [exec_resolveShown, exec_resolveShown]
  simp only [Cluster.traced, Action.exec_noting]
  rcases h : (c.status p.text).exec s with ⟨f | info, u⟩
  · exact outcome_of_failure hx hs h rfl rfl
  have hu : I u := by simpa [h] using hx.holds s hs.2.1
  simp only [Action.andThen_ok]
  by_cases hpath : info.path = ""
  · have hinfos : (ClusterCall.status p.text (.ok info)).infos = [] := if_pos hpath
    rw [if_pos hpath, if_pos hpath]
    refine .reported (holds_noted hs hu (ClusterCall.not_raises (fun f hf => nomatch hf) fun e he => ?_))
    rw [hinfos] at he
    exact nomatch he
  · have hinfos : (ClusterCall.status p.text (.ok info)).infos.mapM Entry.ofInfo = (Entry.ofInfo info).map ([·]) := by
      rw [ClusterCall.infos, if_neg hpath, List.mapM_cons]
      rcases Entry.ofInfo info with e | entry <;> rfl
    rw [if_neg hpath, if_neg hpath]
    rcases hentry : Entry.ofInfo info with e | entry
    · exact .ended id (ends_noted (.inr ⟨e, by rw [hinfos, hentry]; rfl, rfl⟩))
    · refine .ok rfl (holds_noted hs hu (ClusterCall.not_raises (fun f hf => nomatch hf) fun e he => ?_))
      rw [hinfos, hentry] at he
      exact nomatch he

theorem relates_listDirectory {c : Cluster σ} (hc : c.Steady I F) (path : String) :
    (noted I F hF).Relates Eq (listDirectory c.traced path) (listDirectory c path) := by
  rintro ⟨s, calls⟩ _ hs
  obtain rfl : s = _ := hs.1
  have hx := hc.list path
  rw [exec_listDirectory, exec_listDirectory]
  simp only [Cluster.traced, Action.exec_noting]
  rcases h : (c.list path).exec s with ⟨f | infos, u⟩
  · exact outcome_of_failure hx hs h rfl rfl
  have hu : I u := by simpa [h] using hx.holds s hs.2.1
  simp only [Action.andThen_ok, rowsOf]
  rcases hrows : infos.mapM Entry.ofInfo with e | rows
  · exact .ended id (ends_noted (.inr ⟨e, hrows, rfl⟩))
  · refine .ok rfl (holds_noted hs hu (ClusterCall.not_raises (fun f hf => ?_) fun e => ?_))
    · cases hf
    · simp [ClusterCall.infos, hrows]

theorem streams_traced {x : FileStream σ} (hx : x.Steady I F) : (noted I F hF).Streams x.traced x where
  skip n := relates_noting (hx.skip n) (fun _ => rfl) fun _ => rfl
  read n := relates_noting (hx.read n) (fun _ => rfl) fun _ => rfl
  close := by
    rintro ⟨s, calls⟩ t
    obtain ⟨s', hs', hI⟩ := hx.close s
    obtain ⟨t', ht', -⟩ := hx.close t
    have hquiet : ∀ f, ¬ (ClusterCall.close (.ok ())).Raises F f :=
      ClusterCall.not_raises (fun f hf => nomatch hf) fun e h => nomatch h
    refine ⟨(s', calls ++ [.close (.ok ())]), t', ?_, ht', fun h => ?_, fun f h => ?_⟩
    · simp only [FileStream.traced, Action.exec_noting, hs']
    · obtain rfl : s = t := h.1
      obtain rfl : s' = t' := by simpa [hs'] using ht'
      exact holds_noted h (hI h.2.1) hquiet
    · obtain rfl : s = t := h.1
      obtain rfl : s' = t' := by simpa [hs'] using ht'
      obtain ⟨-, call, hcall, hraises⟩ := h
      exact ⟨rfl, call, List.mem_append_left _ hcall, hraises⟩

theorem relates_openFile {c : Cluster σ} (hc : c.Steady I F) (path : String) (mode : ReadMode) :
    (noted I F hF).Relates (noted I F hF).Streams (c.traced.openFile path mode) (c.openFile path mode) := by
  rintro ⟨s, calls⟩ _ hs
  obtain rfl : s = _ := hs.1
  have hx := hc.openFile path mode
  simp only [Cluster.traced, Action.exec_map, Action.exec_noting]
  rcases h : (c.openFile path mode).exec s with ⟨f | x, u⟩
  · exact outcome_of_failure hx hs h rfl rfl
  have hu : I u := by simpa [h] using hx.holds s hs.2.1
  exact .ok (streams_traced (hc.streams path mode s x u hs.2.1 h))
    (holds_noted hs hu (ClusterCall.not_raises (fun f hf => nomatch hf) fun e h => nomatch h))

theorem clusters_traced {c : Cluster σ} (hc : c.Steady I F) : (noted I F hF).Clusters c.traced c where
  resolve := relates_resolveShown hc
  list := relates_listDirectory hc
  blocks path := relates_noting (hc.blocks path) (fun _ => rfl) fun _ => rfl
  tiers := relates_noting hc.tiers (fun _ => rfl) fun _ => rfl
  window path offset length := Bond.Relates.withFile (relates_openFile hc path .noCache)
    fun _ _ h => Bond.Relates.readWindow h.skip h.read offset length

end

/-! ## The calls of a browse -/

section

variable {I : σ → Prop} {F : Failure → Prop} {c : Cluster σ} {s : σ}

theorem outcome_traced (hc : c.Steady I F) (hs : I s) (b : Browser) (req : Request) :
    (noted I F hc.fatal).Outcome Eq ((b.browse c.traced req).exec (s, [])) ((b.browse c req).exec s) := by
  have hclusters : (noted I F hc.fatal).Clusters c.traced c := clusters_traced hc
  have hbrowse := Bond.Relates.browse hclusters b req
  exact (hbrowse.mono fun v w ⟨_, hv, hw⟩ => hv.trans hw.symm) (s, []) s ⟨rfl, hs, fun _ h => nomatch h⟩

theorem Browser.exec_traced_of_ok (hc : c.Steady I F) (hs : I s) {b : Browser} {req : Request} {v : View} {t : σ}
    (h : (b.browse c req).exec s = (.ok v, t)) : (b.browse c.traced req).exec (s, []) = (.ok v, t, b.calls c req s) := by
  have houtcome := outcome_traced hc hs b req
  rw [h] at houtcome
  rw [calls]
  generalize (b.browse c.traced req).exec (s, []) = r at houtcome
  cases houtcome with
  | @ok _ _ u _ values states =>
    obtain rfl := values
    exact Prod.ext rfl (Prod.ext states.1 rfl)
  | stopped stops => exact stops.elim

/-- **A browse gives a view exactly if no answer ends it.** -/
theorem Browser.browse_ok_iff_calls (hc : c.Steady I F) (hs : I s) (b : Browser) (req : Request) :
    (∃ v, ((b.browse c req).exec s).1 = .ok v) ↔ ∀ call ∈ b.calls c req s, ∀ f, ¬ call.Raises F f := by
  have hcatches := catches_browse b c req s
  have houtcome := outcome_traced hc hs b req
  rw [calls]
  generalize (b.browse c.traced req).exec (s, []) = r at houtcome
  generalize (b.browse c req).exec s = q at houtcome hcatches
  cases houtcome with
  | ok values states => exact ⟨fun _ => states.2.2, fun _ => ⟨_, rfl⟩⟩
  | reported states => exact absurd rfl (hcatches _)
  | ended unreported states =>
    obtain ⟨-, call, hcall, hraises⟩ := states
    exact ⟨fun ⟨_, h⟩ => (nomatch h), fun h => absurd hraises (h call hcall _)⟩
  | stopped stops => exact stops.elim

/-- **A browse that fails does so with the failure that one of its calls raises.** -/
theorem Browser.raises_of_browse_error (hc : c.Steady I F) (hs : I s) {b : Browser} {req : Request} {f : Failure}
    (h : ((b.browse c req).exec s).1 = .error f) : ∃ call ∈ b.calls c req s, call.Raises F f := by
  have hcatches := catches_browse b c req s
  have houtcome := outcome_traced hc hs b req
  rw [calls]
  generalize (b.browse c.traced req).exec (s, []) = r at houtcome
  generalize (b.browse c req).exec s = q at houtcome hcatches h
  cases houtcome with
  | ok values states => exact nomatch h
  | reported states => exact absurd rfl (hcatches _)
  | ended unreported states =>
    obtain rfl := Except.error.inj h
    exact states.2
  | stopped stops => exact stops.elim

end

end ClusterBrowser
