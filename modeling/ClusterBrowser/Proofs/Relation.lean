import ClusterBrowser.Browse.Preview
import ClusterBrowser.Proofs.Action

/-!
# Actions side by side

Two actions over different states are compared run by run: from related states they give related outcomes and leave
related states.

* `Bond`: a relation between two states, during a run and after a failure that no view reports.
* `Bond.Outcome`, `Bond.Relates`: related outcomes, and actions that always have them.
* `Relates.bind`, `attempt`, `mapM`, `withFile`: related actions put together are related.
* **`Relates.readWindow`**: related streams give the same window.
-/

namespace ClusterBrowser

/-- Whether a view can report a failure. -/
def Failure.IsReported : Failure → Prop
  | .browse _ => True
  | _ => False

theorem Failure.isReported_iff {f : Failure} : f.IsReported ↔ ∃ e, f = .browse e := by
  cases f <;> simp [IsReported]

/-- A relation between the states of two runs. -/
structure Bond (σ τ : Type) where
  /-- While both runs go on. -/
  holds : σ → τ → Prop
  /-- After both runs have ended with a failure that no view reports. -/
  ends : Failure → σ → τ → Prop
  /-- The failures at which the run on the left may stop whatever the other one does. -/
  stops : Failure → Prop
  unreported_of_stops : ∀ f, stops f → ¬ f.IsReported
  not_stops_storage : ∀ timedOut message, ¬ stops (.storage timedOut message)
  holds_of_ends_storage : ∀ timedOut message s t, ends (.storage timedOut message) s t → holds s t

namespace Bond

variable {σ τ α β γ δ : Type} (B : Bond σ τ)

/-- Related outcomes of two runs. -/
inductive Outcome (P : α → β → Prop) : Except Failure α × σ → Except Failure β × τ → Prop
  /-- Related values. -/
  | ok {a : α} {b : β} {s : σ} {t : τ} (values : P a b) (states : B.holds s t) : Outcome P (.ok a, s) (.ok b, t)
  /-- The same error, which a view can report. -/
  | reported {e : BrowseError} {s : σ} {t : τ} (states : B.holds s t) :
    Outcome P (.error (.browse e), s) (.error (.browse e), t)
  /-- The same failure, which ends both runs. -/
  | ended {f : Failure} {s : σ} {t : τ} (unreported : ¬ f.IsReported) (states : B.ends f s t) :
    Outcome P (.error f, s) (.error f, t)
  /-- A failure that stops the run on the left. -/
  | stopped {f : Failure} {s : σ} {r : Except Failure β × τ} (stops : B.stops f) : Outcome P (.error f, s) r

/-- From related states the two actions have related outcomes. -/
def Relates (P : α → β → Prop) (x : Action σ α) (y : Action τ β) : Prop :=
  ∀ s t, B.holds s t → B.Outcome P (x.exec s) (y.exec t)

variable {B} {P : α → β → Prop} {Q : γ → δ → Prop} {x : Action σ α} {y : Action τ β}

/-! ## Putting actions together -/

theorem Relates.pure {a : α} {b : β} (h : P a b) : B.Relates P (Pure.pure a) (Pure.pure b) :=
  fun _ _ hst => .ok h hst

theorem Relates.fail (e : BrowseError) : B.Relates P (Action.fail e) (Action.fail e) :=
  fun _ _ hst => .reported hst

theorem Relates.bind {k : α → Action σ γ} {l : β → Action τ δ} (hx : B.Relates P x y)
    (hk : ∀ a b, P a b → B.Relates Q (k a) (l b)) : B.Relates Q (x >>= k) (y >>= l) := by
  intro s t hst
  rw [Action.exec_bind, Action.exec_bind]
  have hxy := hx s t hst
  generalize x.exec s = r at hxy
  generalize y.exec t = q at hxy
  cases hxy with
  | ok values states => exact hk _ _ values _ _ states
  | reported states => exact .reported states
  | ended unreported states => exact .ended unreported states
  | stopped stops => exact .stopped stops

theorem Relates.bind_eq {x : Action σ α} {y : Action τ α} {k : α → Action σ γ} {l : α → Action τ δ}
    (hx : B.Relates Eq x y) (hk : ∀ a, B.Relates Q (k a) (l a)) : B.Relates Q (x >>= k) (y >>= l) :=
  hx.bind fun a _ hab => hab ▸ hk a

theorem Relates.mono {P' : α → β → Prop} (hx : B.Relates P x y) (h : ∀ a b, P a b → P' a b) : B.Relates P' x y := by
  intro s t hst
  have hxy := hx s t hst
  generalize x.exec s = r at hxy
  generalize y.exec t = q at hxy
  cases hxy with
  | ok values states => exact .ok (h _ _ values) states
  | reported states => exact .reported states
  | ended unreported states => exact .ended unreported states
  | stopped stops => exact .stopped stops

theorem Relates.attempt {x : Action σ α} {y : Action τ α} (hx : B.Relates Eq x y) :
    B.Relates Eq x.attempt y.attempt := by
  intro s t hst
  rw [Action.exec_attempt, Action.exec_attempt]
  have hxy := hx s t hst
  generalize x.exec s = r at hxy
  generalize y.exec t = q at hxy
  cases hxy with
  | ok values states => exact .ok (congrArg _ values) states
  | reported states => exact .ok rfl states
  | @ended f _ _ unreported states =>
    cases f with
    | browse e => exact absurd trivial unreported
    | _ => exact .ended unreported states
  | @stopped f _ _ stops =>
    have hf := B.unreported_of_stops _ stops
    cases f with
    | browse e => exact absurd trivial hf
    | _ => exact .stopped stops

theorem Relates.mapM {f : γ → Action σ α} {g : γ → Action τ α} (h : ∀ c, B.Relates Eq (f c) (g c)) (cs : List γ) :
    B.Relates Eq (cs.mapM f) (cs.mapM g) := by
  induction cs with
  | nil => exact .pure rfl
  | cons c cs ih =>
    rw [List.mapM_cons, List.mapM_cons]
    exact (h c).bind_eq fun a => ih.bind_eq fun as => .pure rfl

theorem Relates.storageUnavailable (hx : B.Relates P x y) :
    B.Relates P (x.mapFailure storageUnavailable) (y.mapFailure storageUnavailable) := by
  intro s t hst
  rw [Action.exec_mapFailure, Action.exec_mapFailure]
  have hxy := hx s t hst
  generalize x.exec s = r at hxy
  generalize y.exec t = q at hxy
  cases hxy with
  | ok values states => exact .ok values states
  | reported states => exact .reported states
  | @ended f _ _ unreported states =>
    cases f with
    | storage timedOut message => exact .reported (B.holds_of_ends_storage _ _ _ _ states)
    | _ => exact .ended unreported states
  | @stopped f _ _ stops =>
    cases f with
    | storage timedOut message => exact absurd stops (B.not_stops_storage _ _)
    | _ => exact .stopped stops

/-! ## Streams -/

variable (B) in
/-- Two streams that are related call by call. Both can be closed in every state. -/
structure Streams (x : FileStream σ) (y : FileStream τ) : Prop where
  skip : ∀ n, B.Relates Eq (x.skip n) (y.skip n)
  read : ∀ n, B.Relates Eq (x.read n) (y.read n)
  close : ∀ s t, ∃ s' t', x.close.exec s = (.ok (), s') ∧ y.close.exec t = (.ok (), t') ∧
    (B.holds s t → B.holds s' t') ∧ ∀ f, B.ends f s t → B.ends f s' t'

/-- Opening, using and closing related files gives related outcomes. -/
theorem Relates.withFile {c : Cluster σ} {d : Cluster τ} {path : String} {mode : ReadMode}
    {use : FileStream σ → Action σ α} {use' : FileStream τ → Action τ β}
    (hopen : B.Relates B.Streams (c.openFile path mode) (d.openFile path mode))
    (huse : ∀ x y, B.Streams x y → B.Relates P (use x) (use' y)) :
    B.Relates P (c.withFile path mode use) (d.withFile path mode use') := by
  refine hopen.bind fun x y hxy => ?_
  intro s t hst
  have huse := huse x y hxy s t hst
  obtain ⟨s', t', hclose, hclose', hholds, hends⟩ := hxy.close ((use x).exec s).2 ((use' y).exec t).2
  rw [Action.exec_bind, Action.exec_bind, Action.exec_observe, Action.exec_observe, Action.andThen_ok,
    Action.andThen_ok, Action.exec_bind_of_ok hclose, Action.exec_bind_of_ok hclose']
  generalize (use x).exec s = r at huse hholds hends
  generalize (use' y).exec t = q at huse hholds hends
  cases huse with
  | ok values states => exact .ok values (hholds states)
  | reported states => exact .reported (hholds states)
  | ended unreported states => exact .ended unreported (hends _ states)
  | stopped stops => exact .stopped stops

theorem Relates.fill {x : FileStream σ} {y : FileStream τ} (hread : ∀ n, B.Relates Eq (x.read n) (y.read n))
    (fuel missing : Nat) (got : Bytes) : B.Relates Eq (fill x fuel missing got) (fill y fuel missing got) := by
  induction fuel generalizing missing got with
  | zero => exact .pure rfl
  | succ fuel ih =>
    rw [ClusterBrowser.fill, ClusterBrowser.fill]
    split
    · exact .pure rfl
    · refine (hread missing).bind_eq fun r => ?_
      rcases r with _ | _ | ⟨byte, rest⟩
      · exact .pure rfl
      · exact .pure rfl
      · exact ih _ _

/-- **Related streams give the same window.** -/
theorem Relates.readWindow {x : FileStream σ} {y : FileStream τ} (hskip : ∀ n, B.Relates Eq (x.skip n) (y.skip n))
    (hread : ∀ n, B.Relates Eq (x.read n) (y.read n)) (offset length : Int) :
    B.Relates Eq (readWindow x offset length) (readWindow y offset length) := by
  rw [ClusterBrowser.readWindow, ClusterBrowser.readWindow]
  refine (hskip offset).bind_eq fun skipped => ?_
  split
  · exact .pure rfl
  split
  · exact .pure rfl
  dsimp only
  split
  · exact .pure rfl
  refine (hread _).bind_eq fun r => ?_
  rcases r with _ | chunk
  · exact .pure rfl
  · exact (Relates.fill hread _ _ _).bind_eq fun data => .pure rfl

end Bond

end ClusterBrowser
