import ClusterBrowser.Proofs.Answers
import ClusterBrowser.Proofs.FileView
import ClusterBrowser.Proofs.Reflection

/-!
# The same view of a namespace and of its mirror

* **`Master.Mirrors.browse_eq_iff`**: over a mirror a browse gives the view of the namespace unless a URL is refused.
* `Namespace.longPath`: a path that cannot be asked for.
* `Master.browse_fails_for_long_path`: a view of the namespace that its mirror does not give.
-/

namespace ClusterBrowser

namespace Master

variable {τ : Type} {m : Master τ} {ns : Namespace} {tierNames : List String} {maxChunk : Nat} {clocks : Clock → Prop}
  {calls : PopulationCall → Prop}

/-- **Over a master that mirrors a namespace a browse gives the view that it gives over the namespace, with the address of
the master, exactly if no URL is refused, and otherwise it fails since one is.** -/
theorem Mirrors.browse_eq_iff (h : m.Mirrors ns tierNames maxChunk) (hns : ns.Reachable clocks calls) {b : Browser}
    {req : Request} {masterAddress : String} {v : View} {ns' : Namespace}
    (hv : (b.browse (Namespace.cluster masterAddress tierNames) req).exec ns = (.ok v, ns')) {conn : Connection τ}
    (hopen : conn.IsOpen) :
    (((b.browse m.cluster req).exec conn).1 = .ok (v.at m.address) ↔
      ∀ call ∈ b.calls m.cluster req conn, ¬ call.IsRefused) ∧
      ∀ f, ((b.browse m.cluster req).exec conn).1 = .error f → f.IsRefusal := by
  have hsame : (∃ w conn', (b.browse m.cluster req).exec conn = (.ok w, conn') ∧ w = v.at m.address) ∨
      ∃ f conn', (b.browse m.cluster req).exec conn = (.error f, conn') ∧ f.IsRefusal := by
    have houtcome := Bond.Relates.browse (h.clusters hns masterAddress) b req conn ns ⟨hopen, .refl ns⟩
    rw [hv] at houtcome
    generalize (b.browse m.cluster req).exec conn = r at houtcome
    cases houtcome with
    | ok values states =>
      obtain ⟨u, rfl, rfl⟩ := values
      exact .inl ⟨_, _, rfl, rfl⟩
    | stopped stops => exact .inr ⟨_, _, rfl, stops⟩
  have husable := Browser.browse_ok_iff_calls m.steady_cluster hopen b req
  rcases hsame with ⟨w, conn', hexec, rfl⟩ | ⟨f, conn', hexec, hf⟩
  · rw [hexec] at husable ⊢
    have hall := husable.mp ⟨_, rfl⟩
    refine ⟨⟨fun _ call hcall hrefused => ?_, fun _ => rfl⟩, fun f hf => nomatch hf⟩
    exact (ClusterCall.isUsable_iff.mpr (hall call hcall)).not_refused hrefused
  · obtain ⟨call, hcall, hraises⟩ := Browser.raises_of_browse_error m.steady_cluster hopen
      (congrArg Prod.fst hexec)
    rw [hexec]
    refine ⟨⟨fun h => (nomatch h), fun hall => ?_⟩, fun g hg => Except.error.inj hg ▸ hf⟩
    rcases hraises with hcause | ⟨e, -, rfl⟩
    · exact absurd ⟨f, hcause⟩ (hall call hcall)
    · obtain ⟨e', he⟩ := hf
      exact nomatch he

theorem readable_greeting : Readable Namespace.greeting Namespace.defaultTiers where
  status := by decide +kernel
  list := by decide +kernel
  blocks := by decide +kernel
  tiers := by decide +kernel

/-- The mirror of a short file, whose bytes it sends one by one. -/
def greetingMirror : Master Unit := mirrorOf Namespace.greeting Namespace.defaultTiers 1

theorem mirrors_greetingMirror : greetingMirror.Mirrors Namespace.greeting Namespace.defaultTiers 1 :=
  mirrors_mirrorOf readable_greeting (Nat.le_refl 1)

theorem browse_eq_iff_greeting : ∃ v ns', greetingMirror.Mirrors Namespace.greeting Namespace.defaultTiers 1 ∧
    Namespace.greeting.Reachable Clock.IsCivil PopulationCall.IsPlain ∧
    (Browser.usual.browse (Namespace.cluster "master:19998" Namespace.defaultTiers) { path := some "/d/hi" }).exec
      Namespace.greeting = (.ok v, ns') ∧ newClient.IsOpen ∧
    (((Browser.usual.browse greetingMirror.cluster { path := some "/d/hi" }).exec newClient).1 =
        .ok (v.at greetingMirror.address) ↔
      ∀ call ∈ Browser.usual.calls greetingMirror.cluster { path := some "/d/hi" } newClient, ¬ call.IsRefused) ∧
    ∀ f, ((Browser.usual.browse greetingMirror.cluster { path := some "/d/hi" }).exec newClient).1 = .error f →
      f.IsRefusal := by
  have hok : ((Browser.usual.browse (Namespace.cluster "master:19998" Namespace.defaultTiers)
      { path := some "/d/hi" }).exec Namespace.greeting).1.isOk = true := by decide +kernel
  rcases hv : (Browser.usual.browse (Namespace.cluster "master:19998" Namespace.defaultTiers)
      { path := some "/d/hi" }).exec Namespace.greeting with ⟨f | v, ns'⟩
  · rw [hv] at hok
    exact nomatch hok
  · exact ⟨v, ns', mirrors_greetingMirror, Namespace.reachable_greeting, rfl, isOpen_newClient,
      mirrors_greetingMirror.browse_eq_iff Namespace.reachable_greeting hv isOpen_newClient⟩

end Master

/-! ## A path that cannot be asked for -/

theorem isSegment_replicate (n : Nat) : isSegment (List.replicate (n + 3) 'a') = true := by
  rw [isSegment, List.all_replicate, List.replicate_succ, List.replicate_succ, List.replicate_succ]
  rfl

/-- A path with one name of `n + 3` letters. -/
def Namespace.longPath (n : Nat) : Path :=
  .child .root ⟨String.ofList (List.replicate (n + 3) 'a'), by
    rw [String.toList_ofList]
    exact isSegment_replicate n⟩

namespace Namespace

theorem toList_longPath (n : Nat) : (longPath n).text.toList = '/' :: List.replicate (n + 3) 'a' := by
  rw [longPath, Path.text, String.toList_ofList, Path.chars, Path.trail, Path.trail, List.nil_append,
    String.toList_ofList]
  · rfl
  · rintro ⟨⟩

theorem lookup_longPath {n : Nat} (hn : 2 ≤ n) :
    greeting.lookup (longPath n).text = .error (.missing (longPath n)) := by
  have hshort : ∀ p ∈ greeting.nodes.keys, p.text.toList.length ≤ 5 := by decide +kernel
  have hdenied : greeting.denied = [] := by decide +kernel
  have habsent : greeting.find? (longPath n) = none := by
    rcases hfind : greeting.find? (longPath n) with _ | node
    · rfl
    · have hlength := hshort _ (List.mem_map.mpr ⟨_, Table.mem_of_find? hfind, rfl⟩)
      rw [toList_longPath, List.length_cons, List.length_replicate] at hlength
      omega
  rw [lookup, Path.parse_text]
  dsimp only
  rw [hdenied, habsent]
  rfl

end Namespace

namespace Master

theorem request_of_longPath {τ : Type} {m : Master τ} {n : Nat} {resource : String} {base : Url × HttpRequest}
    (hn : Url.maxLength ≤ n) (hbase : m.request resource (some []) = .ok base) (others : List (String × String)) :
    m.request resource (some (("path", (Namespace.longPath n).text) :: others)) = .error .tooLong := by
  have hlong : Url.maxLength < (Namespace.longPath n).text.toList.length := by
    rw [Namespace.toList_longPath, List.length_cons, List.length_replicate]
    omega
  rw [m.request_eq hbase, Query.not_fits others hlong, if_neg Bool.false_ne_true]

theorem exists_request_mirrorOf {ns : Namespace} {tierNames : List String} {maxChunk : Nat} {resource : String}
    (h : ((mirrorOf { clock := ⟨none⟩ } [] 0).request resource (some [])).map (·.2.path) = .ok resource) :
    ∃ base, (mirrorOf ns tierNames maxChunk).request resource (some []) = .ok base := by
  have hpath : ((mirrorOf ns tierNames maxChunk).request resource (some [])).map (·.2.path) = .ok resource :=
    request_mirrorOf h
  rcases hbase : (mirrorOf ns tierNames maxChunk).request resource (some []) with e | base
  · rw [hbase] at hpath
    exact nomatch hpath
  · exact ⟨base, rfl⟩

theorem request_longPath {n : Nat} (hn : Url.maxLength ≤ n) (ns : Namespace) (tierNames : List String) (maxChunk : Nat) :
    (mirrorOf ns tierNames maxChunk).request statusResource (some [("path", (Namespace.longPath n).text)]) =
      .error .tooLong := by
  obtain ⟨base, hbase⟩ := @exists_request_mirrorOf ns tierNames maxChunk statusResource (by decide +kernel)
  exact request_of_longPath hn hbase []

/-- The view of a long path is not given over the mirror, since its URL is refused. -/
theorem browse_fails_for_long_path : ∃ v ns', greetingMirror.Mirrors Namespace.greeting Namespace.defaultTiers 1 ∧
    Namespace.greeting.Reachable Clock.IsCivil PopulationCall.IsPlain ∧
    (Browser.usual.browse (Namespace.cluster "master:19998" Namespace.defaultTiers)
      { path := some (Namespace.longPath 65536).text }).exec Namespace.greeting = (.ok v, ns') ∧
    ((Browser.usual.browse greetingMirror.cluster { path := some (Namespace.longPath 65536).text }).exec newClient).1 =
      .error (.url .tooLong) := by
  -- The number stays a variable, so that nothing writes out the path.
  obtain ⟨n, hn⟩ : ∃ n, n = 65536 := ⟨_, rfl⟩
  have hlong : Url.maxLength ≤ n := Nat.le_of_eq hn.symm
  rw [← hn]
  have hparsed : Path.parseRequest (some (Namespace.longPath n).text) = .ok (Namespace.longPath n) := Path.parse_text _
  have hmissing : (resolve (Namespace.cluster "master:19998" Namespace.defaultTiers) (Namespace.longPath n)).exec
      Namespace.greeting = (.error (.browse (Namespace.LookupError.missing (Namespace.longPath n)).toBrowseError),
        Namespace.greeting) := by
    refine Action.exec_bind_of_error ?_
    rw [Namespace.exec_status, Namespace.answer, Namespace.lookup_longPath (by omega)]
    rfl
  have hrefused : (resolve greetingMirror.cluster (Namespace.longPath n)).exec newClient =
      (.error (.url .tooLong), newClient) := by
    refine Action.exec_bind_of_error (Action.exec_bind_of_error (Action.exec_bind_of_error ?_))
    rw [exec_exchange _ _ _ isOpen_newClient, greetingMirror, request_longPath hlong]
  refine ⟨_, _, mirrors_greetingMirror, Namespace.reachable_greeting,
    (Browser.Exit.unresolved hparsed hmissing).exec, ?_⟩
  rw [Browser.browse, hparsed]
  dsimp only
  rw [Action.exec_bind, Action.exec_attempt, hrefused]
  rfl

end Master

end ClusterBrowser
