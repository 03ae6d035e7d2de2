import ClusterBrowser.Proofs.Answers
import ClusterBrowser.Proofs.Replies

/-!
# What comes of a reply

A master answers a question with a reply of any status, or not at all.

* `Question`: what a master is asked for, with `Question.Answered` for what comes back.
* `IsProper`: what should come of an answer: a value of a successful reply, and the error of its kind of any other.
* `IsMistaken`: a reply that is neither a success nor an error, and has a value in it.
* **`Question.isProper_iff`**: what comes of an answer is proper unless it is mistaken for a success.
* `Master.redirection_shown`: the body of a redirection, shown as the content of a file.
-/

namespace ClusterBrowser

variable {τ α : Type}

/-! ## Questions -/

def Checked.value? : Checked α → Option α
  | .ok a => some a
  | .wrong _ => none

/-- The opened file number `i`. -/
def Connection.file (conn : Connection τ) (i : Nat) : RemoteFile :=
  conn.opened[i]?.getD { path := "", length := 0, mode := .noCache }

/-- A question to a master: one that is answered in JSON, or one for the next bytes of the opened file number `i`. -/
inductive Question : Type → Type where
  | status (path : String) : Question FileInfo
  | list (path : String) : Question (List FileInfo)
  | blocks (path : String) : Question (List BlockReport)
  | tiers : Question (List String)
  | read (i : Nat) (n : Int) : Question (Option Bytes)

namespace Question

def ask (m : Master τ) : {α : Type} → Question α → Action (Connection τ) α
  | _, status path => m.cluster.status path
  | _, list path => m.cluster.list path
  | _, blocks path => m.cluster.blocks path
  | _, tiers => m.cluster.tiers
  | _, read i n => (m.stream i).read n

def resource : {α : Type} → Question α → String
  | _, status _ => Master.statusResource
  | _, list _ => Master.listResource
  | _, blocks _ => Master.blocksResource
  | _, tiers => Master.tiersResource
  | _, read _ _ => Master.readResource

def parameters (conn : Connection τ) : {α : Type} → Question α → List (String × String)
  | _, status path => [("path", path)]
  | _, list path => [("path", path)]
  | _, blocks path => [("path", path)]
  | _, tiers => []
  | _, read i n => (conn.file i).rangeParameters n

/-- Whether the master is asked. It is not for no bytes, or for bytes after the end of the file. -/
def NeedsReply (conn : Connection τ) : {α : Type} → Question α → Prop
  | _, read i n => n ≠ 0 ∧ (conn.file i).position < (conn.file i).length
  | _, _ => True

/-- The value in the body of a reply. All bytes are content of a file; if there are none, it has ended. -/
def value? : {α : Type} → Question α → Reply → Option α
  | _, status _, r => (r.decode FileInfo.ofJson).value?
  | _, list _, r => (r.decode (Json.asList FileInfo.ofJson)).value?
  | _, blocks _, r => (r.decode (Json.asList BlockReport.ofJson)).value?
  | _, tiers, r => (r.decode (Json.asList Json.asText)).value?
  | _, read _ _, r => some (if r.body.isEmpty then none else some r.body)

/-- An open client sends the request, and this is what comes back: a reply, or what went wrong on the way. -/
structure Answered (m : Master τ) (q : Question α) (conn : Connection τ) (answer : Except String Reply) : Prop where
  isOpen : conn.IsOpen
  needsReply : q.NeedsReply conn
  sent : ∃ url request, m.request q.resource (some (q.parameters conn)) = .ok (url, request) ∧
    url.namesScheme = true ∧ (m.send request conn.transport).1 = answer

end Question

/-! ## What should come of an answer -/

def Reply.IsSuccess (r : Reply) : Prop := 200 ≤ r.status ∧ r.status < 300

/-- What should come of an answer. -/
inductive IsProper (value : Reply → Option α) : Except String Reply → Except Failure α → Prop
  | value {r : Reply} {a : α} (success : r.IsSuccess) (read : value r = some a) : IsProper value (.ok r) (.ok a)
  | undecodable {r : Reply} {message : String} (success : r.IsSuccess) (unread : value r = none) :
    IsProper value (.ok r) (.error (.browse (.unavailable message)))
  | badRequest {r : Reply} {message : String} (status : r.status = 400) :
    IsProper value (.ok r) (.error (.browse (.invalidPath message)))
  | forbidden {r : Reply} {message : String} (status : r.status = 403) :
    IsProper value (.ok r) (.error (.browse (.accessDenied message)))
  | notFound {r : Reply} {message : String} (status : r.status = 404) :
    IsProper value (.ok r) (.error (.browse (.pathNotFound message)))
  | unsuccessful {r : Reply} {message : String} (status : r.status ∉ [400, 403, 404]) (failure : ¬ r.IsSuccess) :
    IsProper value (.ok r) (.error (.browse (.unavailable message)))
  | unreachable {text message : String} : IsProper value (.error text) (.error (.browse (.unavailable message)))

/-- A reply, neither a success nor an error, that has something in it that can be taken for a value. -/
def IsMistaken (value : Reply → Option α) : Except String Reply → Prop
  | .ok r => (r.status < 200 ∨ 300 ≤ r.status ∧ r.status < 400) ∧ (value r).isSome
  | .error _ => False

/-- What comes of a reply that is taken for a success. -/
def decoded (value : Reply → Option α) (resource : String) (r : Reply) : Except Failure α :=
  match value r with
  | some a => .ok a
  | none => .error (.browse (.unavailable ("malformed response from " ++ resource)))

/-- What comes of an answer to a question about a path. -/
def outcomeOf (value : Reply → Option α) (resource path : String) : Except String Reply → Except Failure α
  | .error message => .error (.browse (.unavailable ("master unreachable: " ++ message)))
  | .ok r =>
    match classify path r with
    | .error e => .error (.browse e)
    | .ok r => decoded value resource r

theorem outcomeOf_of_lt {value : Reply → Option α} {resource path : String} {r : Reply} (h : r.status < 400) :
    outcomeOf value resource path (.ok r) = decoded value resource r := by
  rw [outcomeOf, classify_of_lt h]

theorem isProper_outcomeOf_of_ge (value : Reply → Option α) (resource path : String) {r : Reply} (h : 400 ≤ r.status) :
    IsProper value (.ok r) (outcomeOf value resource path (.ok r)) := by
  by_cases h400 : r.status = 400
  · rw [outcomeOf, classify, if_pos h400]
    exact .badRequest h400
  by_cases h403 : r.status = 403
  · rw [outcomeOf, classify, if_neg h400, if_pos h403]
    exact .forbidden h403
  by_cases h404 : r.status = 404
  · rw [outcomeOf, classify, if_neg h400, if_neg h403, if_pos h404]
    exact .notFound h404
  rw [outcomeOf, classify, if_neg h400, if_neg h403, if_neg h404, if_pos h]
  refine .unsuccessful (by simp [h400, h403, h404]) fun hsuccess => ?_
  have := hsuccess.2
  omega

theorem isProper_outcomeOf_iff (value : Reply → Option α) (resource path : String) (answer : Except String Reply) :
    IsProper value answer (outcomeOf value resource path answer) ↔ ¬ IsMistaken value answer := by
  rcases answer with message | r
  · exact iff_of_true .unreachable id
  by_cases herror : 400 ≤ r.status
  · refine iff_of_true (isProper_outcomeOf_of_ge value resource path herror) fun ⟨hstatus, _⟩ => ?_
    omega
  rw [outcomeOf_of_lt (Nat.lt_of_not_le herror), decoded]
  rcases hvalue : value r with _ | a
  · refine iff_of_true ?_ fun ⟨_, hsome⟩ => by simp [hvalue] at hsome
    by_cases hsuccess : r.IsSuccess
    · exact .undecodable hsuccess hvalue
    · refine .unsuccessful (fun hmem => ?_) hsuccess
      simp only [List.mem_cons, List.not_mem_nil, or_false] at hmem
      omega
  · constructor
    · rintro ⟨success, -⟩ ⟨hstatus, -⟩
      rw [Reply.IsSuccess] at success
      omega
    · intro hquiet
      have hsuccess : r.IsSuccess := by
        rw [Reply.IsSuccess]
        by_contra hfail
        exact hquiet ⟨by omega, by rw [hvalue]; rfl⟩
      exact .value hsuccess hvalue

/-! ## Asking -/

theorem Master.exec_fetch_bind {m : Master τ} {conn : Connection τ} {resource : String}
    {parameters : List (String × String)} {url : Url} {request : HttpRequest} {k : Reply → Action (Connection τ) α}
    {value : Reply → Option α} (hk : ∀ r s, ((k r).exec s).1 = decoded value resource r) (hopen : conn.IsOpen)
    (hr : m.request resource (some parameters) = .ok (url, request)) (hscheme : url.namesScheme = true) :
    ((m.fetch resource parameters >>= k).exec conn).1 =
      outcomeOf value resource ((parameters.lookup "path").getD "") (m.send request conn.transport).1 := by
  rw [Action.exec_bind, exec_fetch_of_request hopen hr hscheme]
  rcases (m.send request conn.transport).1 with message | r
  · rfl
  rw [outcomeOf]
  change (Action.andThen ((classify _ r).mapError .browse, _) k).1 = _
  rcases classify ((parameters.lookup "path").getD "") r with e | r
  · rfl
  · exact hk r _

theorem Master.exec_fetchValue_of_request {m : Master τ} {conn : Connection τ} {resource : String}
    {parameters : List (String × String)} {url : Url} {request : HttpRequest} (value : Json → Checked α)
    (hopen : conn.IsOpen) (hr : m.request resource (some parameters) = .ok (url, request))
    (hscheme : url.namesScheme = true) :
    ((m.fetchValue resource parameters value).exec conn).1 =
      outcomeOf (fun r => (r.decode value).value?) resource ((parameters.lookup "path").getD "")
        (m.send request conn.transport).1 := by
  refine exec_fetch_bind (fun r s => ?_) hopen hr hscheme
  rw [decoded]
  rcases r.decode value with a | places <;> rfl

namespace Question

variable {m : Master τ} {conn : Connection τ} {answer : Except String Reply}

theorem exec_ask {q : Question α} (h : q.Answered m conn answer) :
    ((q.ask m).exec conn).1 =
      outcomeOf q.value? q.resource (((q.parameters conn).lookup "path").getD "") answer := by
  obtain ⟨hopen, hneeds, url, r, hr, hscheme, rfl⟩ := h
  cases q with
  | status path => exact Master.exec_fetchValue_of_request _ hopen hr hscheme
  | list path => exact Master.exec_fetchValue_of_request _ hopen hr hscheme
  | blocks path => exact Master.exec_fetchValue_of_request _ hopen hr hscheme
  | tiers => exact Master.exec_fetchValue_of_request _ hopen hr hscheme
  | read i n =>
    obtain ⟨hn, hposition⟩ := hneeds
    have hfile : (Master.file i).exec conn = (.ok (conn.file i), conn) := rfl
    change ((m.readFile i n).exec conn).1 = _
    rw [Master.readFile, Action.exec_bind_of_ok hfile, if_neg hn, if_neg (by omega)]
    -- What is read is the body; what else the read does concerns the file that is open.
    refine Master.exec_fetch_bind (fun r s => ?_) hopen hr hscheme
    rw [decoded, value?]
    split <;> rfl

/-- **What comes of an answer is proper unless it is mistaken for a success**; in that case it is the value in the body. -/
theorem isProper_iff {q : Question α} (h : q.Answered m conn answer) :
    (IsProper q.value? answer ((q.ask m).exec conn).1 ↔ ¬ IsMistaken q.value? answer) ∧
      ∀ r a, answer = .ok r → r.status < 400 → q.value? r = some a → ((q.ask m).exec conn).1 = .ok a := by
  rw [exec_ask h]
  refine ⟨isProper_outcomeOf_iff _ _ _ _, ?_⟩
  rintro r a rfl hstatus hvalue
  rw [outcomeOf_of_lt hstatus, decoded, hvalue]

/-- A client that has opened the file of two bytes. -/
def shortReader : Connection Unit := { transport := (), opened := [⟨"/f", 2, .noCache, 0⟩] }

/-- A reply that says that it is not the whole of what was asked for. -/
def partialContent : Reply := { status := 206, body := [0x68] }

/-- A read that is answered by a part of what was asked for. -/
theorem isProper_iff_partialContent :
    (read 0 2).Answered (Master.serving Master.shortFile (.ok partialContent)) shortReader (.ok partialContent) ∧
    (IsProper (read 0 2).value? (.ok partialContent)
        (((read 0 2).ask (Master.serving Master.shortFile (.ok partialContent))).exec shortReader).1 ↔
      ¬ IsMistaken (read 0 2).value? (.ok partialContent)) ∧
    ∀ r a, (.ok partialContent : Except String Reply) = .ok r → r.status < 400 → (read 0 2).value? r = some a →
      (((read 0 2).ask (Master.serving Master.shortFile (.ok partialContent))).exec shortReader).1 = .ok a := by
  have h : (read 0 2).Answered (Master.serving Master.shortFile (.ok partialContent)) shortReader
      (.ok partialContent) := by
    refine ⟨rfl, ⟨by decide, by decide⟩, ?_⟩
    have hsent : ((Master.serving Master.shortFile (.ok partialContent)).request (read 0 2).resource
        (some ((read 0 2).parameters shortReader))).toOption.map (fun sent => (sent.1.namesScheme, sent.2.path)) =
          some (true, Master.readResource) := by decide +kernel
    rcases hr : (Master.serving Master.shortFile (.ok partialContent)).request (read 0 2).resource
      (some ((read 0 2).parameters shortReader)) with e | ⟨url, request⟩
    · rw [hr] at hsent
      exact nomatch hsent
    · rw [hr] at hsent
      obtain ⟨hscheme, hpath⟩ := Prod.mk.inj (Option.some.inj hsent)
      exact ⟨url, request, rfl, hscheme, congrArg Prod.fst (if_pos hpath)⟩
  exact ⟨h, isProper_iff h⟩

end Question

/-- The body of a redirection is shown as the content of a file. -/
theorem Master.redirection_shown :
    ((Browser.usual.browse (serving { shortFile with length := 5 }
      (.ok { status := 302, body := Utf8.encode "Moved".toList })).cluster { path := some "/f" }).exec
        newClient).1.toOption.map (fun v => (v.kind, v.pathError, v.fatalError, v.fileText)) =
      some (.file, "", "", some "Moved") := by
  decide +kernel

end ClusterBrowser
