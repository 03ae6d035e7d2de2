import ClusterBrowser.Proofs.Trace

/-!
# How a window is read

A stream may answer as it likes: with pieces of any size, with nothing, or not at all.

* `gathered`: the bytes that some reads brought.
* `ReadsWindow`: the reads of a window: what each asks for, which is the last, and what comes of them.
* `Continuation`: the reads after the first, one by one.
* `readFrom`: the reads of a window by themselves.
* **`readWindow_calls`**: the calls of reading a window, on every stream.
-/

namespace ClusterBrowser

variable {σ : Type}

/-! ## Reads -/

/-- A read: how many bytes are asked for, and the answer. -/
abbrev StreamRead := Int × Except Failure (Option Bytes)

def StreamRead.toCall (r : StreamRead) : ClusterCall := .read r.1 r.2

/-- The bytes of an answer. -/
def bytesOf : Except Failure (Option Bytes) → Bytes
  | .ok (some chunk) => chunk
  | _ => []

/-- The bytes that reads brought, in their order. -/
def gathered (reads : List StreamRead) : Bytes := reads.flatMap fun r => bytesOf r.2

@[simp] theorem gathered_nil : gathered [] = [] := rfl

@[simp] theorem gathered_cons (r : StreamRead) (reads : List StreamRead) :
    gathered (r :: reads) = bytesOf r.2 ++ gathered reads := rfl

@[simp] theorem gathered_append (reads more : List StreamRead) : gathered (reads ++ more) = gathered reads ++ gathered more :=
  List.flatMap_append

/-- With this answer reading stops: the read failed, there is nothing more, or the window is full. A first piece without bytes
does not count as the end. -/
def EndsWindow (window : Int) (before : List StreamRead) : Except Failure (Option Bytes) → Prop
  | .error _ => True
  | .ok none => True
  | .ok (some chunk) => (chunk = [] ∧ before ≠ []) ∨ window ≤ (gathered before ++ chunk).length

/-- The reads of a window of `window` bytes, and what came of them. -/
structure ReadsWindow (window : Int) (reads : List StreamRead) (outcome : Except Failure WindowRead) : Prop where
  nonempty : reads ≠ []
  atMost : reads.length ≤ window + 1
  asks : ∀ before n answer after, reads = before ++ (n, answer) :: after → n = window - (gathered before).length ∧ 1 ≤ n
  ends : ∀ before n answer after, reads = before ++ (n, answer) :: after → (after = [] ↔ EndsWindow window before answer)
  failed : ∀ n f, (n, .error f) ∈ reads → outcome = .error f
  unreadable : ∀ n, reads = [(n, .ok none)] → outcome = .ok .unreadable
  data : (∀ n f, (n, .error f) ∉ reads) → (∀ n, reads ≠ [(n, .ok none)]) → outcome = .ok (.data (gathered reads))

/-- What comes of the answer to the skip: the reads that follow, and the outcome. -/
inductive FollowsSkip (offset length : Int) :
    Except Failure Int → List StreamRead → Except Failure WindowRead → Prop
  | failed (f : Failure) : FollowsSkip offset length (.error f) [] (.error f)
  | refused {skipped : Int} (negative : skipped < 0) : FollowsSkip offset length (.ok skipped) [] (.ok .emptyFile)
  | beyond {skipped : Int} (nonneg : 0 ≤ skipped) (short : skipped < offset) :
    FollowsSkip offset length (.ok skipped) [] (.ok (.beyondEnd skipped))
  | nothing {skipped : Int} (reached : offset ≤ skipped) (empty : min 5120 (length - offset) ≤ 0) :
    FollowsSkip offset length (.ok skipped) [] (.ok (.data []))
  | reads {skipped : Int} {reads : List StreamRead} {outcome : Except Failure WindowRead} (reached : offset ≤ skipped)
    (some : 0 < min 5120 (length - offset)) (window : ReadsWindow (min 5120 (length - offset)) reads outcome) :
    FollowsSkip offset length (.ok skipped) reads outcome

/-! ## Reading on -/

/-- The reads that follow those `before`, and what is gathered in the end. -/
inductive Continuation (window : Nat) : List StreamRead → List StreamRead → Except Failure Bytes → Prop
  | full {before : List StreamRead} (full : window ≤ (gathered before).length) :
    Continuation window before [] (.ok (gathered before))
  | failed {before : List StreamRead} {n : Int} {f : Failure} (missing : (gathered before).length < window)
    (asks : n = window - (gathered before).length) : Continuation window before [(n, .error f)] (.error f)
  | ended {before : List StreamRead} {n : Int} {answer : Option Bytes} (missing : (gathered before).length < window)
    (asks : n = window - (gathered before).length) (nothing : answer = none ∨ answer = some []) :
    Continuation window before [(n, .ok answer)] (.ok (gathered before))
  | more {before reads : List StreamRead} {n : Int} {chunk : Bytes} {outcome : Except Failure Bytes}
    (missing : (gathered before).length < window) (asks : n = window - (gathered before).length) (brings : chunk ≠ [])
    (rest : Continuation window (before ++ [(n, .ok (some chunk))]) reads outcome) :
    Continuation window before ((n, .ok (some chunk)) :: reads) outcome

theorem exec_fill_traced (x : FileStream σ) {window fuel : Nat} {before : List StreamRead}
    (hfuel : window - (gathered before).length ≤ fuel) (s : σ) (calls : List ClusterCall) :
    ∃ reads outcome t,
      (fill x fuel (window - (gathered before).length) (gathered before)).exec s = (outcome, t) ∧
      (fill x.traced fuel (window - (gathered before).length) (gathered before)).exec (s, calls) =
        (outcome, t, calls ++ reads.map StreamRead.toCall) ∧ Continuation window before reads outcome := by
  induction fuel generalizing before s calls with
  | zero => exact ⟨[], .ok (gathered before), s, rfl, by simp [fill], .full (by omega)⟩
  | succ fuel ih =>
    rw [fill, fill]
    by_cases hfull : window - (gathered before).length = 0
    · rw [if_pos hfull, if_pos hfull]
      exact ⟨[], .ok (gathered before), s, rfl, by simp, .full (by omega)⟩
    rw [if_neg hfull, if_neg hfull]
    have hmissing : (gathered before).length < window := by omega
    have hasks : ((window - (gathered before).length : Nat) : Int) = window - (gathered before).length := by omega
    generalize hn : window - (gathered before).length = n at hfuel hasks
    have hnoted : (x.traced.read n).exec (s, calls) =
        (((x.read n).exec s).1, ((x.read n).exec s).2, calls ++ [.read n ((x.read n).exec s).1]) := rfl
    rcases hr : (x.read n).exec s with ⟨f | _ | _ | ⟨byte, bytes⟩, t⟩
    · rw [hr] at hnoted
      exact ⟨[(n, .error f)], .error f, t, Action.exec_bind_of_error hr, Action.exec_bind_of_error hnoted,
        .failed hmissing hasks⟩
    · rw [hr] at hnoted
      exact ⟨[(n, .ok none)], .ok (gathered before), t, Action.exec_bind_of_ok hr, Action.exec_bind_of_ok hnoted,
        .ended hmissing hasks (.inl rfl)⟩
    · rw [hr] at hnoted
      exact ⟨[(n, .ok (some []))], .ok (gathered before), t, Action.exec_bind_of_ok hr, Action.exec_bind_of_ok hnoted,
        .ended hmissing hasks (.inr rfl)⟩
    · rw [hr] at hnoted
      have hgathered : gathered (before ++ [((n : Int), .ok (some (byte :: bytes)))]) = gathered before ++ byte :: bytes := by
        simp [bytesOf]
      have hrest : window - (gathered before ++ byte :: bytes).length = n - (byte :: bytes).length := by
        rw [List.length_append]
        omega
      have hih := @ih (before ++ [((n : Int), .ok (some (byte :: bytes)))])
      rw [hgathered, hrest] at hih
      obtain ⟨reads, outcome, u, hplain, htraced, hreads⟩ :=
        hih (by rw [List.length_cons]; omega) t (calls ++ [.read n (.ok (some (byte :: bytes)))])
      refine ⟨(n, .ok (some (byte :: bytes))) :: reads, outcome, u, ?_, ?_, .more hmissing hasks (List.cons_ne_nil _ _) hreads⟩
      · rw [Action.exec_bind_of_ok hr]
        exact hplain
      · rw [Action.exec_bind_of_ok hnoted]
        exact htraced.trans (by rw [List.append_assoc]; rfl)

namespace Continuation

variable {window : Nat} {before reads : List StreamRead} {outcome : Except Failure Bytes}

theorem eq_nil_iff (h : Continuation window before reads outcome) : reads = [] ↔ window ≤ (gathered before).length := by
  cases h with
  | full full => exact iff_of_true rfl full
  | failed missing => exact iff_of_false (List.cons_ne_nil _ _) (by omega)
  | ended missing => exact iff_of_false (List.cons_ne_nil _ _) (by omega)
  | more missing => exact iff_of_false (List.cons_ne_nil _ _) (by omega)

theorem length_le (h : Continuation window before reads outcome) : reads.length ≤ window - (gathered before).length := by
  induction h with
  | full full => exact Nat.zero_le _
  | failed missing =>
    rw [List.length_singleton]
    omega
  | ended missing =>
    rw [List.length_singleton]
    omega
  | @more before reads n chunk outcome missing asks brings rest ih =>
    have hchunk := List.length_pos_iff.mpr brings
    rw [gathered_append, gathered_cons, gathered_nil, List.append_nil, bytesOf, List.length_append] at ih
    rw [List.length_cons]
    omega

theorem step (h : Continuation window before reads outcome) (hbefore : before ≠ []) {first after : List StreamRead}
    {n : Int} {answer : Except Failure (Option Bytes)} (hreads : reads = first ++ (n, answer) :: after) :
    (n = window - (gathered (before ++ first)).length ∧ 1 ≤ n) ∧
      (after = [] ↔ EndsWindow window (before ++ first) answer) := by
  induction h generalizing first with
  | full => simp at hreads
  | failed missing asks =>
    rcases first with _ | ⟨r, first⟩
    · obtain ⟨⟨rfl, rfl⟩, rfl⟩ := by simpa using hreads
      rw [List.append_nil]
      exact ⟨⟨asks, by omega⟩, iff_of_true rfl trivial⟩
    · simp at hreads
  | ended missing asks nothing =>
    rcases first with _ | ⟨r, first⟩
    · obtain ⟨⟨rfl, rfl⟩, rfl⟩ := by simpa using hreads
      rw [List.append_nil]
      refine ⟨⟨asks, by omega⟩, iff_of_true rfl ?_⟩
      rcases nothing with rfl | rfl
      · trivial
      · exact .inl ⟨rfl, hbefore⟩
    · simp at hreads
  | @more before reads n' chunk outcome missing asks brings rest ih =>
    rcases first with _ | ⟨r, first⟩
    · obtain ⟨⟨rfl, rfl⟩, rfl⟩ := by simpa using hreads
      rw [List.append_nil, rest.eq_nil_iff, EndsWindow, gathered_append, gathered_cons, gathered_nil, List.append_nil,
        bytesOf]
      refine ⟨⟨asks, by omega⟩, fun hfull => .inr (by exact_mod_cast hfull), ?_⟩
      rintro (⟨hchunk, -⟩ | hfull)
      · exact absurd hchunk brings
      · exact_mod_cast hfull
    · obtain ⟨rfl, rfl⟩ := by simpa using hreads
      rw [List.append_cons before]
      exact ih (by simp) rfl

/-- A read that fails is what comes of all of them; else it is what has been gathered. -/
theorem outcome_eq (h : Continuation window before reads outcome) :
    (∀ n f, (n, .error f) ∈ reads → outcome = .error f) ∧
      ((∀ n f, (n, .error f) ∉ reads) → outcome = .ok (gathered (before ++ reads))) := by
  induction h with
  | full => simp
  | failed => simp
  | ended missing asks nothing =>
    rcases nothing with rfl | rfl <;> simp [bytesOf]
  | more missing asks brings rest ih => simpa using ih

end Continuation

/-! ## Reading a window -/

theorem readsWindow_cons {window : Nat} (hwindow : 0 < window) {chunk : Bytes} {reads : List StreamRead}
    {outcome : Except Failure Bytes} (h : Continuation window [(window, .ok (some chunk))] reads outcome) :
    ReadsWindow window ((window, .ok (some chunk)) :: reads) (outcome.map .data) := by
  have hstep : ∀ (before : List StreamRead) (n : Int) answer after,
      ((window : Int), .ok (some chunk)) :: reads = before ++ (n, answer) :: after →
        (n = window - (gathered before).length ∧ 1 ≤ n) ∧ (after = [] ↔ EndsWindow window before answer) := by
    intro before n answer after hreads
    rcases before with _ | ⟨r, before⟩
    · obtain ⟨⟨rfl, rfl⟩, rfl⟩ := by simpa using hreads
      rw [h.eq_nil_iff]
      simp [EndsWindow, bytesOf]
      omega
    · obtain ⟨rfl, rfl⟩ := by simpa using hreads
      exact h.step (List.cons_ne_nil _ _) rfl
  have hlength := h.length_le
  exact {
    nonempty := List.cons_ne_nil _ _
    atMost := by
      rw [List.length_cons]
      omega
    asks := fun before n answer after hreads => (hstep before n answer after hreads).1
    ends := fun before n answer after hreads => (hstep before n answer after hreads).2
    failed := fun n f hmem => by
      rw [h.outcome_eq.1 n f (by simpa using hmem)]
      rfl
    unreadable := fun n hreads => by simp at hreads
    data := fun hfine _ => by
      rw [h.outcome_eq.2 fun n f hmem => hfine n f (List.mem_cons_of_mem _ hmem)]
      rfl }

theorem readsWindow_singleton {window : Nat} (hwindow : 0 < window) (answer : Except Failure (Option Bytes))
    (hends : EndsWindow window [] answer) {outcome : Except Failure WindowRead}
    (hfailed : ∀ f, answer = .error f → outcome = .error f) (hnone : answer = .ok none → outcome = .ok .unreadable)
    (hsome : ∀ chunk, answer ≠ .ok (some chunk)) : ReadsWindow window [((window : Int), answer)] outcome := by
  have hstep : ∀ (before : List StreamRead) (n : Int) answer' after,
      [((window : Int), answer)] = before ++ (n, answer') :: after →
        before = [] ∧ n = window ∧ answer' = answer ∧ after = [] := by
    intro before n answer' after hreads
    rcases before with _ | ⟨r, before⟩
    · obtain ⟨⟨rfl, rfl⟩, rfl⟩ := by simpa using hreads
      exact ⟨rfl, rfl, rfl, rfl⟩
    · simp at hreads
  refine ⟨List.cons_ne_nil _ _, ?_, ?_, ?_, ?_, ?_, ?_⟩
  · rw [List.length_singleton]
    omega
  · intro before n answer' after hreads
    obtain ⟨rfl, rfl, -, -⟩ := hstep before n answer' after hreads
    simp
    omega
  · intro before n answer' after hreads
    obtain ⟨rfl, -, rfl, rfl⟩ := hstep before n answer' after hreads
    exact iff_of_true rfl hends
  · intro n f hmem
    obtain ⟨-, hf⟩ := Prod.mk.inj (List.mem_singleton.mp hmem)
    exact hfailed f hf.symm
  · intro n hreads
    obtain ⟨-, hnothing⟩ := Prod.mk.inj (List.singleton_inj.mp hreads)
    exact hnone hnothing
  · intro hfine hsome'
    rcases answer with f | _ | chunk
    · exact absurd (List.mem_singleton.mpr rfl) (hfine _ f)
    · exact absurd rfl (hsome' _)
    · exact absurd rfl (hsome chunk)

/-- The reads of a window, once the stream is where it begins. -/
def readFrom (x : FileStream σ) (window : Nat) : Action σ WindowRead := do
  match ← x.read window with
  | none => return .unreadable
  | some chunk => return .data (← fill x window (window - chunk.length) chunk)

theorem exec_readFrom_traced (x : FileStream σ) {window : Nat} (hpos : 0 < window) (s : σ) (calls : List ClusterCall) :
    ∃ reads outcome t, (readFrom x window).exec s = (outcome, t) ∧
      (readFrom x.traced window).exec (s, calls) = (outcome, t, calls ++ reads.map StreamRead.toCall) ∧
      ReadsWindow window reads outcome := by
  have hread : (x.traced.read window).exec (s, calls) = (((x.read window).exec s).1, ((x.read window).exec s).2,
      calls ++ [.read window ((x.read window).exec s).1]) := rfl
  rcases hr : (x.read window).exec s with ⟨f | _ | chunk, t⟩
  · rw [hr] at hread
    exact ⟨[(window, .error f)], .error f, t, Action.exec_bind_of_error hr, Action.exec_bind_of_error hread,
      readsWindow_singleton hpos (.error f) trivial (by rintro _ ⟨⟩; rfl) (by rintro ⟨⟩) (by rintro _ ⟨⟩)⟩
  · rw [hr] at hread
    exact ⟨[(window, .ok none)], .ok .unreadable, t, Action.exec_bind_of_ok hr, Action.exec_bind_of_ok hread,
      readsWindow_singleton hpos (.ok none) trivial (by rintro _ ⟨⟩) (fun _ => rfl) (by rintro _ ⟨⟩)⟩
  -- A first piece is where the filling begins, even if it has no bytes.
  · rw [hr] at hread
    obtain ⟨reads, outcome, u, hplain, htraced, hmore⟩ :=
      @exec_fill_traced σ x window window [((window : Int), .ok (some chunk))] (Nat.sub_le _ _) t
        (calls ++ [.read window (.ok (some chunk))])
    have hchunk : gathered [((window : Int), .ok (some chunk))] = chunk := List.append_nil chunk
    rw [hchunk] at hplain htraced
    refine ⟨(window, .ok (some chunk)) :: reads, outcome.map .data, u, ?_, ?_, readsWindow_cons hpos hmore⟩
    · rw [readFrom, Action.exec_bind_of_ok hr]
      dsimp only
      rw [Action.exec_bind, hplain]
      rcases outcome with f | data <;> rfl
    · rw [readFrom, Action.exec_bind_of_ok hread]
      dsimp only
      rw [Action.exec_bind, htraced, List.append_assoc]
      rcases outcome with f | data <;> rfl

/-- **The calls of reading a window, on every stream.** First the stream is asked to skip; what follows depends on the answer,
and each read on those before it. -/
theorem readWindow_calls (x : FileStream σ) (s : σ) (offset length : Int) : ∃ skipped reads outcome t,
    (readWindow x offset length).exec s = (outcome, t) ∧
    (readWindow x.traced offset length).exec (s, []) =
      (outcome, t, .skip offset skipped :: reads.map StreamRead.toCall) ∧
    FollowsSkip offset length skipped reads outcome := by
  have hskip : (x.traced.skip offset).exec (s, []) =
      (((x.skip offset).exec s).1, ((x.skip offset).exec s).2, [.skip offset ((x.skip offset).exec s).1]) := rfl
  rw [readWindow, readWindow]
  rcases hr : (x.skip offset).exec s with ⟨f | skipped, t⟩
  · rw [hr] at hskip
    exact ⟨.error f, [], .error f, t, Action.exec_bind_of_error hr, Action.exec_bind_of_error hskip, .failed f⟩
  rw [hr] at hskip
  rw [Action.exec_bind_of_ok hr, Action.exec_bind_of_ok hskip]
  refine ⟨.ok skipped, ?_⟩
  by_cases hnegative : skipped < 0
  · rw [if_pos hnegative, if_pos hnegative]
    exact ⟨[], .ok .emptyFile, t, rfl, rfl, .refused hnegative⟩
  rw [if_neg hnegative, if_neg hnegative]
  by_cases hshort : skipped < offset
  · rw [if_pos hshort, if_pos hshort]
    exact ⟨[], .ok (.beyondEnd skipped), t, rfl, rfl, .beyond (by omega) hshort⟩
  rw [if_neg hshort, if_neg hshort]
  dsimp only
  by_cases hempty : (min windowBytes (length - offset)).toNat = 0
  · rw [if_pos hempty, if_pos hempty]
    rw [windowBytes] at hempty
    exact ⟨[], .ok (.data []), t, rfl, rfl, .nothing (by omega) (by omega)⟩
  rw [if_neg hempty, if_neg hempty]
  obtain ⟨reads, outcome, u, hplain, htraced, hreads⟩ :=
    exec_readFrom_traced x (Nat.pos_of_ne_zero hempty) t [.skip offset (.ok skipped)]
  have hwindow : ((min windowBytes (length - offset)).toNat : Int) = min 5120 (length - offset) := by
    rw [windowBytes] at hempty ⊢
    omega
  rw [hwindow] at hreads
  exact ⟨reads, outcome, u, hplain, htraced, .reads (by omega) (by rw [windowBytes] at hempty; omega) hreads⟩

end ClusterBrowser
