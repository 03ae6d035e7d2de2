import ClusterBrowser.Json.Writer
import ClusterBrowser.Proofs.Mirror

/-!
# A mirror

* `Master.replyOf`: the reply that carries the outcome of a call, with the error's message as its body.
* `Master.mirrorOf`: a master that replies to each request with what a namespace answers.
* `Master.Readable`: a namespace of which what a mirror writes can be read back.
* **`Master.mirrors_mirrorOf`**: a mirror of such a namespace.
-/

namespace ClusterBrowser

theorem Decimal.digitsValue_text (n : Nat) : digitsValue (text n).toList = n := by
  rw [text, String.toList_ofList]
  exact Nat.ofDigitChars_ten_toDigits

deriving instance DecidableEq for Checked

namespace Master

/-! ## Replies of a mirror -/

/-- The reply that carries the outcome of a call. -/
def replyOf {α : Type} (toJson : α → Json) : Except BrowseError α → Reply
  | .ok a => { body := Utf8.encode (toJson a).write }
  | .error e => { status := e.status?.getD 500, body := Utf8.encode e.message.toList }

/-- The value of a parameter of a request, which is empty if there is none. -/
def parameter (r : HttpRequest) (name : String) : String := (r.parameters.lookup name).getD ""

/-- What a mirror replies to a request. -/
def reflect (ns : Namespace) (tierNames : List String) (maxChunk : Nat) (r : HttpRequest) : Reply :=
  if r.path = statusResource then replyOf FileInfo.toJson (ns.answer (parameter r "path") Node.info)
  else if r.path = listResource then
    replyOf (fun infos => .arr (infos.map FileInfo.toJson)) (ns.answer (parameter r "path") ns.children)
  else if r.path = blocksResource then
    replyOf (fun reports => .arr (reports.map BlockReport.toJson)) (ns.answer (parameter r "path") Node.blocks)
  else if r.path = tiersResource then replyOf Json.strings (.ok tierNames)
  else
    let data := match ns.lookup (parameter r "path") with
      | .ok node => node.data
      | .error _ => []
    { body := (data.drop (Decimal.digitsValue (parameter r "offset").toList)).take
        (min (Decimal.digitsValue (parameter r "length").toList) maxChunk) }

/-- A master that mirrors a namespace. -/
def mirrorOf (ns : Namespace) (tierNames : List String) (maxChunk : Nat) : Master Unit where
  send r t := (.ok (reflect ns tierNames maxChunk r), t)
  endpoint.base :=
    { scheme := "http".toList, user := [], host := "master".toList, port := some 19999, path := [], query := none }
  address := "master:19999"

variable {ns : Namespace} {tierNames : List String} {maxChunk : Nat}

theorem parameter_path {r : HttpRequest} {path : String} {rest : List (String × String)}
    (h : r.parameters = ("path", path) :: rest) : parameter r "path" = path := by
  rw [parameter, h, List.lookup_cons_self, Option.getD_some]

theorem request_mirrorOf {resource : String}
    (h : ((mirrorOf { clock := ⟨none⟩ } [] 0).request resource (some [])).map (·.2.path) = .ok resource) :
    ((mirrorOf ns tierNames maxChunk).request resource (some [])).map (·.2.path) = .ok resource := h

theorem replies_mirrorOf {resource : String} {parameters : List (String × String)} {Q : Reply → Prop}
    (hpath : ((mirrorOf ns tierNames maxChunk).request resource (some [])).map (·.2.path) = .ok resource)
    (hQ : ∀ r : HttpRequest, r.path = resource → r.parameters = parameters → Q (reflect ns tierNames maxChunk r)) :
    (mirrorOf ns tierNames maxChunk).Replies resource parameters Q := by
  intro url r t hr
  refine ⟨_, rfl, ?_⟩
  rcases hbase : (mirrorOf ns tierNames maxChunk).request resource (some []) with e | ⟨url₀, r₀⟩
  · rw [hbase] at hpath
    exact nomatch hpath
  rw [hbase] at hpath
  rw [request_eq _ hbase] at hr
  split_ifs at hr
  obtain ⟨-, rfl⟩ := Prod.mk.inj (Except.ok.inj hr)
  exact hQ _ (Except.ok.inj hpath) rfl

theorem carries_replyOf {α : Type} {toJson : α → Json} {value : Json → Checked α} {raw : String} {see : Node → α}
    (h : ∀ node, ns.lookup raw = .ok node → (replyOf toJson (.ok (see node))).decode value = .ok (see node)) :
    (replyOf toJson (ns.answer raw see)).Carries value (ns.answer raw see) := by
  rw [Namespace.answer]
  rcases hlookup : ns.lookup raw with e | node
  · refine ⟨?_, Reply.explanation_of_plain _ e.isPlainMessage⟩
    rcases e with (_ | _ | _) | _ | _ <;> rfl
  · exact ⟨show 200 < 400 by decide, h node hlookup⟩

/-! ## What is read back -/

/-- What a mirror writes of a namespace can be read back. -/
structure Readable (ns : Namespace) (tierNames : List String) : Prop where
  status : ∀ entry ∈ ns.nodes, (replyOf FileInfo.toJson (.ok entry.2.info)).decode FileInfo.ofJson = .ok entry.2.info
  list : ∀ entry ∈ ns.nodes, (replyOf (fun infos => .arr (infos.map FileInfo.toJson)) (.ok (ns.children entry.2))).decode
    (Json.asList FileInfo.ofJson) = .ok (ns.children entry.2)
  blocks : ∀ entry ∈ ns.nodes, (replyOf (fun reports => .arr (reports.map BlockReport.toJson)) (.ok entry.2.blocks)).decode
    (Json.asList BlockReport.ofJson) = .ok entry.2.blocks
  tiers : (replyOf Json.strings (.ok tierNames)).decode (Json.asList Json.asText) = .ok tierNames

theorem replies_answer {α : Type} {resource : String} {toJson : α → Json} {value : Json → Checked α} {see : Node → α}
    (hpath : ((mirrorOf ns tierNames maxChunk).request resource (some [])).map (·.2.path) = .ok resource)
    (hreflect : ∀ r : HttpRequest, r.path = resource →
      reflect ns tierNames maxChunk r = replyOf toJson (ns.answer (parameter r "path") see))
    (hread : ∀ entry ∈ ns.nodes, (replyOf toJson (.ok (see entry.2))).decode value = .ok (see entry.2)) (path : String) :
    (mirrorOf ns tierNames maxChunk).Replies resource [("path", path)] (·.Carries value (ns.answer path see)) := by
  refine replies_mirrorOf hpath fun r hr hparameters => ?_
  rw [hreflect r hr, parameter_path hparameters]
  refine carries_replyOf fun node hnode => ?_
  obtain ⟨p, -, -, hp⟩ := Namespace.lookup_eq_ok_iff.mp hnode
  exact hread (p, node) (Table.mem_of_find? hp)

theorem sends_mirrorOf {path : String} {mode : ReadMode} {node : Node} (hnode : ns.lookup path = .ok node) :
    (mirrorOf ns tierNames maxChunk).Sends path mode node.data maxChunk := by
  intro pos n hpos hn
  refine replies_mirrorOf (request_mirrorOf (by decide +kernel)) fun r hpath hparameters => ?_
  have hoffset : parameter r "offset" = Decimal.text pos := by
    rw [parameter, hparameters]
    rfl
  have hlength : parameter r "length" = Decimal.text n := by
    rw [parameter, hparameters]
    rfl
  rw [reflect, hpath, if_neg (by decide), if_neg (by decide), if_neg (by decide), if_neg (by decide),
    parameter_path hparameters, hoffset, hlength, hnode, Decimal.digitsValue_text, Decimal.digitsValue_text]
  exact ⟨show 200 < 400 by decide, rfl⟩

/-- **A master made to mirror a namespace mirrors it, if what it writes can be read back.** -/
theorem mirrors_mirrorOf (h : Readable ns tierNames) (hchunk : 1 ≤ maxChunk) :
    (mirrorOf ns tierNames maxChunk).Mirrors ns tierNames maxChunk where
  status := by
    refine replies_answer (request_mirrorOf (by decide +kernel)) (fun r hr => ?_) h.status
    rw [reflect, if_pos hr]
  list := by
    refine replies_answer (request_mirrorOf (by decide +kernel)) (fun r hr => ?_) h.list
    rw [reflect, hr, if_neg (by decide), if_pos rfl]
  blocks := by
    refine replies_answer (request_mirrorOf (by decide +kernel)) (fun r hr => ?_) h.blocks
    rw [reflect, hr, if_neg (by decide), if_neg (by decide), if_pos rfl]
  tiers := by
    refine replies_mirrorOf (request_mirrorOf (by decide +kernel)) fun r hr _ => ?_
    rw [reflect, hr, if_neg (by decide), if_neg (by decide), if_neg (by decide), if_pos rfl]
    exact ⟨show 200 < 400 by decide, h.tiers⟩
  sends _ _ _ hnode _ := sends_mirrorOf hnode
  progresses := hchunk

end Master

end ClusterBrowser
