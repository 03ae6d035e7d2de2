import ClusterBrowser.Proofs.Action
import ClusterBrowser.Registry
import Mathlib.Data.List.Induction
import Mathlib.Data.List.Infix
import Mathlib.Tactic.SplitIfs

/-!
# The life of clients

Starting puts a new client in service, and stopping closes the one that is in service. No client is closed twice, but
one that is still in service as the next one comes is not closed at all.

* `RegistryCall`: the calls that begin and end a service; `Registry.run`: what comes of them.
* `LeavesRunning`: a client has been built, and no stop has come since.
* `Alternates`: no client is built while another one is in service.
* `Registry.inService_run_iff`: whether a client is in service.
* `Registry.allClosed_run_iff`: whether all others have been closed.
* **`Registry.closed_once_iff`**: both, and what comes of asking for the client in service.
-/

namespace ClusterBrowser

variable {τ : Type}

/-! ## Calls -/

/-- A call that begins or ends a service. -/
inductive RegistryCall (τ : Type) where
  | start (settings : Settings) (clock : Clock) (send : Transport τ) (transport : τ)
  | stop

namespace RegistryCall

/-- The registry after a call, also after one that fails. -/
def perform : RegistryCall τ → Registry τ → Registry τ
  | start s clock send transport, r => ((Registry.start s clock send transport).exec r).2
  | stop, r => (Registry.stop.exec r).2

/-- The client that a call builds, if it builds one. -/
def built? : RegistryCall τ → Option (Client τ)
  | start s clock send transport => (Client.build s clock send transport).toOption
  | stop => none

/-- A call that builds a client. -/
def Builds (call : RegistryCall τ) : Prop := call.built?.isSome = true

instance (call : RegistryCall τ) : Decidable call.Builds := inferInstanceAs (Decidable (_ = true))

theorem not_builds_stop : ¬ (stop : RegistryCall τ).Builds := nofun

theorem perform_of_builds {call : RegistryCall τ} (h : call.Builds) (r : Registry τ) :
    ∃ client, call.perform r = r.enter client := by
  cases call with
  | stop => exact absurd h not_builds_stop
  | start s clock send transport =>
    unfold Builds built? at h
    cases hbuild : Client.build s clock send transport with
    | error f => simp [hbuild, Except.toOption] at h
    | ok client =>
      refine ⟨client, ?_⟩
      rw [perform, Registry.start, hbuild, Action.exec_bind_of_ok (Action.exec_ofExcept_ok ..)]
      rfl

theorem perform_of_not_builds {call : RegistryCall τ} (h : ¬ call.Builds) (hstop : call ≠ stop) (r : Registry τ) :
    call.perform r = r := by
  cases call with
  | stop => exact absurd rfl hstop
  | start s clock send transport =>
    unfold Builds built? at h
    cases hbuild : Client.build s clock send transport with
    | ok client => simp [hbuild, Except.toOption] at h
    | error f =>
      rw [perform, Registry.start, hbuild, Action.exec_bind_of_error (Action.exec_ofExcept_error ..)]

/-- A call puts a new client in service, lets go of the one in service, or changes nothing. -/
theorem perform_cases (call : RegistryCall τ) (r : Registry τ) :
    (call.Builds ∧ ∃ client, call.perform r = r.enter client) ∨
      (call = stop ∧ ∃ i, r.inService = some i ∧
        call.perform r = { built := r.built.modify i Registry.closeClient, inService := none }) ∨
      (¬ call.Builds ∧ (call = stop → r.inService = none) ∧ call.perform r = r) := by
  by_cases hbuilds : call.Builds
  · exact .inl ⟨hbuilds, perform_of_builds hbuilds r⟩
  by_cases hstop : call = stop
  · subst hstop
    cases hi : r.inService with
    | none => exact .inr (.inr ⟨hbuilds, fun _ => rfl, by rw [perform, Registry.stop, Action.exec_modify, hi]⟩)
    | some i => exact .inr (.inl ⟨rfl, i, rfl, by rw [perform, Registry.stop, Action.exec_modify, hi]⟩)
  · exact .inr (.inr ⟨hbuilds, fun h => absurd h hstop, perform_of_not_builds hbuilds hstop r⟩)

end RegistryCall

/-! ## Histories -/

/-- A client has been built, and no stop has come since. -/
def LeavesRunning (history : List (RegistryCall τ)) : Prop :=
  ∃ call rest, call :: rest <:+ history ∧ call.Builds ∧ .stop ∉ rest

/-- No client is built while another one is in service. -/
def Alternates (history : List (RegistryCall τ)) : Prop :=
  ∀ before call, before ++ [call] <+: history → call.Builds → ¬ LeavesRunning before

theorem not_leavesRunning_nil : ¬ LeavesRunning ([] : List (RegistryCall τ)) := by
  rintro ⟨call, rest, hsuffix, -⟩
  exact nomatch List.suffix_nil.mp hsuffix

theorem alternates_nil : Alternates ([] : List (RegistryCall τ)) := by
  intro before call hprefix
  exact absurd (List.prefix_nil.mp hprefix) (by simp)

section

variable {history : List (RegistryCall τ)} {call : RegistryCall τ}

theorem leavesRunning_snoc :
    LeavesRunning (history ++ [call]) ↔ call.Builds ∨ (call ≠ .stop ∧ LeavesRunning history) := by
  constructor
  · rintro ⟨first, rest, hsuffix, hbuilds, hstop⟩
    obtain hnil | ⟨others, heq, hothers⟩ := List.suffix_concat_iff.mp hsuffix
    · exact nomatch hnil
    cases others with
    | nil =>
      obtain ⟨rfl, rfl⟩ := List.cons.inj heq
      exact .inl hbuilds
    | cons other others =>
      obtain ⟨rfl, hrest⟩ := List.cons.inj heq
      have happend : rest = others ++ [call] := hrest
      rw [happend, List.mem_append, List.mem_singleton, not_or] at hstop
      exact .inr ⟨fun h => hstop.2 h.symm, first, others, hothers, hbuilds, hstop.1⟩
  · rintro (hbuilds | ⟨hcall, first, rest, hsuffix, hbuilds, hstop⟩)
    · exact ⟨call, [], List.suffix_concat_iff.mpr (.inr ⟨[], rfl, List.nil_suffix⟩), hbuilds, List.not_mem_nil⟩
    · refine ⟨first, rest ++ [call], List.suffix_concat_iff.mpr (.inr ⟨first :: rest, rfl, hsuffix⟩), hbuilds, ?_⟩
      simp only [List.mem_append, List.mem_singleton, not_or]
      exact ⟨hstop, fun h => hcall h.symm⟩

theorem alternates_snoc :
    Alternates (history ++ [call]) ↔ Alternates history ∧ (call.Builds → ¬ LeavesRunning history) := by
  constructor
  · intro h
    refine ⟨?_, h history call (List.prefix_refl _)⟩
    intro before other hprefix
    exact h before other (List.prefix_concat_iff.mpr (.inr hprefix))
  · rintro ⟨hhistory, hlast⟩ before other hprefix
    obtain heq | hprefix := List.prefix_concat_iff.mp hprefix
    · obtain ⟨rfl, rfl⟩ := List.append_singleton_inj.mp heq
      exact hlast
    · exact hhistory before other hprefix

end

/-! ## Registries -/

namespace Registry

variable {r : Registry τ} {history : List (RegistryCall τ)}

/-- What comes of a history of calls. -/
def run (history : List (RegistryCall τ)) : Registry τ := history.foldl (fun r call => call.perform r) {}

theorem run_snoc (history : List (RegistryCall τ)) (call : RegistryCall τ) :
    run (history ++ [call]) = call.perform (run history) := by
  rw [run, List.foldl_append, List.foldl_cons, List.foldl_nil, run]

/-- The client in service has not been closed, and no client has been closed twice. -/
structure Sound (r : Registry τ) : Prop where
  current : ∀ i, r.inService = some i → ∃ b : BuiltClient τ, r.built[i]? = some b ∧ b.timesClosed = 0
  once : ∀ (i : ℕ) (b : BuiltClient τ), r.built[i]? = some b → b.timesClosed ≤ 1

/-- All clients that are not in service have been closed, once. -/
def AllClosed (r : Registry τ) : Prop :=
  ∀ (i : ℕ) (b : BuiltClient τ), r.built[i]? = some b → r.inService ≠ some i → b.timesClosed = 1

theorem getElem?_enter_of_some (client : Client τ) {i : ℕ} {b : BuiltClient τ} (h : r.built[i]? = some b) :
    (r.enter client).built[i]? = some b := by
  have hlt := (List.getElem?_eq_some_iff.mp h).1
  rw [enter, List.getElem?_append, if_pos hlt, h]

theorem getElem?_enter_eq_some {client : Client τ} {i : ℕ} {b : BuiltClient τ}
    (h : (r.enter client).built[i]? = some b) :
    r.built[i]? = some b ∨ ((r.enter client).inService = some i ∧ b.timesClosed = 0) := by
  rw [enter, List.getElem?_append] at h
  split_ifs at h with hlt
  · exact .inl h
  · rw [List.getElem?_singleton] at h
    split_ifs at h with hi
    obtain rfl := Option.some.inj h
    have heq : i = r.built.length := by omega
    exact .inr ⟨by rw [enter, heq], rfl⟩

theorem getElem?_stop {i j : ℕ} {b : BuiltClient τ} (h : (r.built.modify i closeClient)[j]? = some b) :
    ∃ old, r.built[j]? = some old ∧ b.timesClosed = old.timesClosed + if i = j then 1 else 0 := by
  rw [List.getElem?_modify] at h
  obtain ⟨old, hold, rfl⟩ := Option.map_eq_some_iff.mp h
  refine ⟨old, hold, ?_⟩
  split_ifs
  · rfl
  · rfl

theorem Sound.enter (h : r.Sound) (client : Client τ) : (r.enter client).Sound where
  current := by
    rintro i hi
    obtain rfl : r.built.length = i := Option.some.inj hi
    exact ⟨{ client }, by simp [Registry.enter], rfl⟩
  once := by
    intro i b hb
    cases getElem?_enter_eq_some hb with
    | inl hb => exact h.once i b hb
    | inr hnew => omega

theorem Sound.stop (h : r.Sound) {i : ℕ} (hi : r.inService = some i) :
    Sound { built := r.built.modify i closeClient, inService := none } where
  current := nofun
  once := by
    intro j b hb
    obtain ⟨old, hold, hcount⟩ := getElem?_stop hb
    have honce := h.once j old hold
    by_cases hij : i = j
    · obtain ⟨b', hb', hopen⟩ := h.current i hi
      rw [hij, hold] at hb'
      obtain rfl := Option.some.inj hb'
      rw [if_pos hij] at hcount
      omega
    · rw [if_neg hij] at hcount
      omega

/-- A new client leaves one behind that has not been closed, if there was one in service. -/
theorem Sound.allClosed_enter_iff (h : r.Sound) (client : Client τ) :
    (r.enter client).AllClosed ↔ r.AllClosed ∧ r.inService = none := by
  constructor
  · intro hclosed
    have hbefore : ∀ (i : ℕ) (b : BuiltClient τ), r.built[i]? = some b → b.timesClosed = 1 := by
      intro i b hb
      refine hclosed i b (getElem?_enter_of_some client hb) ?_
      have hlt := (List.getElem?_eq_some_iff.mp hb).1
      intro hi
      have heq : r.built.length = i := Option.some.inj hi
      omega
    refine ⟨fun i b hb _ => hbefore i b hb, ?_⟩
    cases hi : r.inService with
    | none => rfl
    | some i =>
      obtain ⟨b, hb, hopen⟩ := h.current i hi
      have := hbefore i b hb
      omega
  · rintro ⟨hclosed, hnone⟩ i b hb hi
    cases getElem?_enter_eq_some hb with
    | inl hb => exact hclosed i b hb (by rw [hnone]; exact nofun)
    | inr hnew => exact absurd hnew.1 hi

theorem Sound.allClosed_stop_iff (h : r.Sound) {i : ℕ} (hi : r.inService = some i) :
    AllClosed { built := r.built.modify i closeClient, inService := none } ↔ r.AllClosed := by
  obtain ⟨current, hcurrent, hopen⟩ := h.current i hi
  constructor
  · intro hclosed j b hb hj
    have hij : i ≠ j := fun hij => hj (hi.trans (congrArg some hij))
    refine hclosed j b ?_ nofun
    show (r.built.modify i closeClient)[j]? = some b
    rw [List.getElem?_modify, hb]
    simp [hij]
  · intro hclosed j b hb _
    obtain ⟨old, hold, hcount⟩ := getElem?_stop hb
    by_cases hij : i = j
    · rw [← hij, hcurrent] at hold
      obtain rfl := Option.some.inj hold
      rw [if_pos hij] at hcount
      omega
    · rw [if_neg hij] at hcount
      have := hclosed j old hold fun hj => hij (Option.some.inj (hi.symm.trans hj))
      omega

/-! ## Runs -/

theorem Sound.perform (h : r.Sound) (call : RegistryCall τ) : (call.perform r).Sound := by
  obtain ⟨-, client, hperform⟩ | ⟨-, i, hi, hperform⟩ | ⟨-, -, hperform⟩ := call.perform_cases r
  · rw [hperform]
    exact h.enter client
  · rw [hperform]
    exact h.stop hi
  · rw [hperform]
    exact h

theorem inService_perform_iff (call : RegistryCall τ) (r : Registry τ) :
    (call.perform r).inService ≠ none ↔ call.Builds ∨ (call ≠ .stop ∧ r.inService ≠ none) := by
  obtain ⟨hbuilds, client, hperform⟩ | ⟨rfl, i, -, hperform⟩ | ⟨hbuilds, hnone, hperform⟩ := call.perform_cases r
  · rw [hperform]
    simp [enter, hbuilds]
  · rw [hperform]
    simp [RegistryCall.not_builds_stop]
  · rw [hperform]
    constructor
    · intro h
      exact .inr ⟨fun hstop => h (hnone hstop), h⟩
    · intro h
      exact (h.resolve_left hbuilds).2

theorem Sound.allClosed_perform_iff (h : r.Sound) (call : RegistryCall τ) :
    (call.perform r).AllClosed ↔ r.AllClosed ∧ (call.Builds → r.inService = none) := by
  obtain ⟨hbuilds, client, hperform⟩ | ⟨rfl, i, hi, hperform⟩ | ⟨hbuilds, -, hperform⟩ := call.perform_cases r
  · rw [hperform, h.allClosed_enter_iff]
    simp [hbuilds]
  · rw [hperform, h.allClosed_stop_iff hi]
    simp [RegistryCall.not_builds_stop]
  · rw [hperform]
    simp [hbuilds]

theorem sound_run (history : List (RegistryCall τ)) : (run history).Sound := by
  induction history using List.reverseRecOn with
  | nil => exact ⟨nofun, nofun⟩
  | append_singleton history call ih =>
    rw [run_snoc]
    exact ih.perform call

/-- **A client is in service exactly if one has been built and no stop has come since.** -/
theorem inService_run_iff (history : List (RegistryCall τ)) :
    (run history).inService ≠ none ↔ LeavesRunning history := by
  induction history using List.reverseRecOn with
  | nil => exact iff_of_false (fun h => h rfl) not_leavesRunning_nil
  | append_singleton history call ih => rw [run_snoc, inService_perform_iff, ih, leavesRunning_snoc]

/-- **All other clients have been closed exactly if none was built while another one was in service.** -/
theorem allClosed_run_iff (history : List (RegistryCall τ)) : (run history).AllClosed ↔ Alternates history := by
  induction history using List.reverseRecOn with
  | nil => exact iff_of_true nofun alternates_nil
  | append_singleton history call ih =>
    rw [run_snoc, (sound_run history).allClosed_perform_iff, ih, alternates_snoc, ← inService_run_iff, not_not]

theorem exec_current_iff (h : r.Sound) : (current.exec r).1 = .error .noClient ↔ r.inService = none := by
  rw [current, Action.exec_bind_of_ok (Action.exec_get r), current?]
  cases hi : r.inService with
  | none => exact iff_of_true rfl rfl
  | some i =>
    obtain ⟨b, hb, -⟩ := h.current i hi
    simp [hb]

/-- **No client is closed twice or in service, and the client in service is missing exactly if no client has been built
since the last stop.** The others have all been closed exactly if none was built while another one was in service. -/
theorem closed_once_iff (history : List (RegistryCall τ)) :
    (∀ (i : ℕ) (b : BuiltClient τ), (run history).built[i]? = some b → b.timesClosed ≤ 1) ∧
    (∀ (i : ℕ) (b : BuiltClient τ), (run history).inService = some i → (run history).built[i]? = some b →
      b.timesClosed = 0) ∧
    ((∀ (i : ℕ) (b : BuiltClient τ), (run history).built[i]? = some b → (run history).inService ≠ some i →
      b.timesClosed = 1) ↔ Alternates history) ∧
    ((current.exec (run history)).1 = .error .noClient ↔ ¬ LeavesRunning history) := by
  have hsound := sound_run history
  refine ⟨hsound.once, ?_, allClosed_run_iff history, ?_⟩
  · intro i b hi hb
    obtain ⟨b', hb', hopen⟩ := hsound.current i hi
    rw [hb] at hb'
    obtain rfl := Option.some.inj hb'
    exact hopen
  · rw [exec_current_iff hsound, ← inService_run_iff, not_not]

/-- A start over a master that never answers. -/
def startRemote (masterUrl : String) : RegistryCall Unit :=
  .start { mode := "prod", masterUrl } ⟨some 0⟩ (fun _ transport => (.error "refused", transport)) ()

/-- A service that ends, a start that fails for the port in its URL, and another service. -/
def twoServices : List (RegistryCall Unit) :=
  [startRemote "http://h", .stop, startRemote "http://h:port", startRemote "http://h"]

theorem closed_once_iff_twoServices : Alternates twoServices ∧ LeavesRunning twoServices ∧
    (run twoServices).inService = some 1 ∧ ∃ first second : BuiltClient Unit,
      (run twoServices).built[0]? = some first ∧ (run twoServices).built[1]? = some second ∧
      first.timesClosed = 1 ∧ second.timesClosed = 0 := by
  have builds : (startRemote "http://h").Builds := by decide +kernel
  have fails : ¬ (startRemote "http://h:port").Builds := by decide +kernel
  have stopped : ¬ LeavesRunning [startRemote "http://h", .stop] := by
    show ¬ LeavesRunning ([startRemote "http://h"] ++ [.stop])
    rw [leavesRunning_snoc]
    exact fun h => h.elim RegistryCall.not_builds_stop fun h => h.1 rfl
  have refused : ¬ LeavesRunning [startRemote "http://h", .stop, startRemote "http://h:port"] := by
    show ¬ LeavesRunning ([startRemote "http://h", .stop] ++ [startRemote "http://h:port"])
    rw [leavesRunning_snoc]
    exact fun h => h.elim fails fun h => stopped h.2
  have alternates : Alternates twoServices := by
    show Alternates ([] ++ [startRemote "http://h"] ++ [.stop] ++ [startRemote "http://h:port"] ++
      [startRemote "http://h"])
    rw [alternates_snoc, alternates_snoc, alternates_snoc, alternates_snoc]
    exact ⟨⟨⟨⟨alternates_nil, fun _ => not_leavesRunning_nil⟩, fun h => absurd h RegistryCall.not_builds_stop⟩,
      fun h => absurd h fails⟩, fun _ => refused⟩
  have running : LeavesRunning twoServices := by
    show LeavesRunning ([startRemote "http://h", .stop, startRemote "http://h:port"] ++ [startRemote "http://h"])
    exact leavesRunning_snoc.mpr (.inl builds)
  have service : (run twoServices).inService = some 1 := by decide +kernel
  have count : (run twoServices).built.length = 2 := by decide +kernel
  obtain ⟨-, hcurrent, hothers, -⟩ := closed_once_iff twoServices
  refine ⟨alternates, running, service, (run twoServices).built[0], (run twoServices).built[1], by simp, by simp, ?_,
    ?_⟩
  · exact hothers.mpr alternates 0 _ (by simp) (by rw [service]; decide)
  · exact hcurrent 1 _ service (by simp)

/-- A client that is in service as the next one comes is never closed; and after a start that fails there is none. -/
theorem second_start_leaves_first_open :
    (run [startRemote "http://h", startRemote "http://h"]).built.map BuiltClient.timesClosed = [0, 0] ∧
    (run [startRemote "http://h", startRemote "http://h"]).inService = some 1 ∧
    (run [startRemote "http://h", startRemote "http://h", .stop]).built.map BuiltClient.timesClosed = [0, 1] ∧
    (current.exec (run [startRemote "http://h:port"])).1 = .error .noClient := by
  refine ⟨by decide +kernel, by decide +kernel, by decide +kernel, ?_⟩
  rw [exec_current_iff (sound_run _)]
  decide +kernel

end Registry

end ClusterBrowser
