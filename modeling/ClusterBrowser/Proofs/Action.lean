import ClusterBrowser.Failure

/-!
# Runs of actions

What `Action.exec` does to each way of putting actions together.

* `exec_bind`, `exec_bind_eq_ok`: one action after another.
* `exec_attempt`, `exec_attempt_eq_ok`: errors that a view reports become values, other failures pass.
-/

namespace ClusterBrowser

namespace Action

variable {σ τ α β : Type}

theorem ext {x y : Action σ α} (h : ∀ s, x.exec s = y.exec s) : x = y := funext h

/-! ## Steps -/

@[simp] theorem exec_pure (a : α) (s : σ) : (pure a : Action σ α).exec s = (.ok a, s) := rfl

theorem exec_pure_eq_ok {a b : α} {s t : σ} : (pure a : Action σ α).exec s = (.ok b, t) ↔ a = b ∧ s = t := by
  simp

@[simp] theorem exec_get (s : σ) : (get : Action σ σ).exec s = (.ok s, s) := rfl

@[simp] theorem exec_set (t s : σ) : (set t : Action σ PUnit).exec s = (.ok ⟨⟩, t) := rfl

@[simp] theorem exec_modify (g : σ → σ) (s : σ) : (modify g : Action σ PUnit).exec s = (.ok ⟨⟩, g s) := rfl

@[simp] theorem exec_ofFunction (g : σ → Except Failure α × σ) (s : σ) : (ofFunction g).exec s = g s := rfl

@[simp] theorem exec_ofExcept_ok {ε : Type} (wrap : ε → Failure) (a : α) (s : σ) :
    (ofExcept wrap (.ok a) : Action σ α).exec s = (.ok a, s) := rfl

@[simp] theorem exec_ofExcept_error {ε : Type} (wrap : ε → Failure) (e : ε) (s : σ) :
    (ofExcept wrap (.error e) : Action σ α).exec s = (.error (wrap e), s) := rfl

@[simp] theorem mapError_ok {ε ε' : Type} (g : ε → ε') (a : α) : (Except.ok a : Except ε α).mapError g = .ok a := rfl

@[simp] theorem exec_observe (x : Action σ α) (s : σ) : x.observe.exec s = (.ok (x.exec s).1, (x.exec s).2) := rfl

@[simp] theorem exec_mapFailure (g : Failure → Failure) (x : Action σ α) (s : σ) :
    (x.mapFailure g).exec s = ((x.exec s).1.mapError g, (x.exec s).2) := rfl

/-! ## Sequences -/

/-- What follows an outcome: the next action after a value, and nothing after a failure. -/
def andThen (r : Except Failure α × σ) (k : α → Action σ β) : Except Failure β × σ :=
  match r with
  | (.ok a, s) => (k a).exec s
  | (.error f, s) => (.error f, s)

@[simp] theorem andThen_ok (a : α) (s : σ) (k : α → Action σ β) : andThen (.ok a, s) k = (k a).exec s := rfl

@[simp] theorem andThen_error (f : Failure) (s : σ) (k : α → Action σ β) :
    andThen (.error f, s) k = (.error f, s) := rfl

theorem exec_bind (x : Action σ α) (k : α → Action σ β) (s : σ) : (x >>= k).exec s = andThen (x.exec s) k := by
  change (ExceptT.bind x k) s = andThen (x s) k
  simp only [ExceptT.bind, ExceptT.mk, bind, StateT.bind]
  rcases h : x s with ⟨_ | a, t⟩ <;> rfl

/-- **A sequence gives a value exactly if both of its parts do.** -/
theorem exec_bind_eq_ok {x : Action σ α} {k : α → Action σ β} {s u : σ} {b : β} :
    (x >>= k).exec s = (.ok b, u) ↔ ∃ a t, x.exec s = (.ok a, t) ∧ (k a).exec t = (.ok b, u) := by
  rw [exec_bind]
  rcases x.exec s with ⟨f | a, t⟩
  · simp
  · rw [andThen_ok]
    constructor
    · intro h
      exact ⟨a, t, rfl, h⟩
    · rintro ⟨_, _, ⟨⟩, h⟩
      exact h

theorem exec_bind_of_ok {x : Action σ α} {k : α → Action σ β} {s t : σ} {a : α} (h : x.exec s = (.ok a, t)) :
    (x >>= k).exec s = (k a).exec t := by rw [exec_bind, h, andThen_ok]

theorem exec_bind_of_error {x : Action σ α} {k : α → Action σ β} {s t : σ} {f : Failure}
    (h : x.exec s = (.error f, t)) : (x >>= k).exec s = (.error f, t) := by rw [exec_bind, h, andThen_error]

theorem exec_map (g : α → β) (x : Action σ α) (s : σ) : (g <$> x).exec s = ((x.exec s).1.map g, (x.exec s).2) := by
  change (x >>= fun a => pure (g a)).exec s = _
  rw [exec_bind]
  rcases x.exec s with ⟨f | a, t⟩ <;> rfl

/-! ## Attempts -/

theorem exec_attempt (x : Action σ α) (s : σ) :
    x.attempt.exec s = match x.exec s with
      | (.ok a, t) => (.ok (.ok a), t)
      | (.error (.browse e), t) => (.ok (.error e), t)
      | (.error f, t) => (.error f, t) := by
  rw [attempt, exec_bind, exec_observe]
  rcases x.exec s with ⟨f | a, t⟩
  · cases f <;> rfl
  · rfl

theorem exec_attempt_snd (x : Action σ α) (s : σ) : (x.attempt.exec s).2 = (x.exec s).2 := by
  rw [exec_attempt]
  rcases x.exec s with ⟨f | a, t⟩
  · cases f <;> rfl
  · rfl

theorem exec_attempt_of_ok {x : Action σ α} {s t : σ} {a : α} (h : x.exec s = (.ok a, t)) :
    x.attempt.exec s = (.ok (.ok a), t) := by rw [exec_attempt, h]

theorem exec_attempt_of_error {x : Action σ α} {s t : σ} {e : BrowseError} (h : x.exec s = (.error (.browse e), t)) :
    x.attempt.exec s = (.ok (.error e), t) := by rw [exec_attempt, h]

theorem exec_attempt_eq_ok {x : Action σ α} {s t : σ} {r : Except BrowseError α} :
    x.attempt.exec s = (.ok r, t) ↔ x.exec s = (r.mapError Failure.browse, t) := by
  rw [exec_attempt]
  cases r with
  | error e =>
    change _ ↔ x.exec s = (.error (.browse e), t)
    rcases x.exec s with ⟨f | a, u⟩
    · cases f <;> simp
    · simp
  | ok a =>
    change _ ↔ x.exec s = (.ok a, t)
    rcases x.exec s with ⟨f | b, u⟩
    · cases f <;> simp
    · simp

end Action

end ClusterBrowser
