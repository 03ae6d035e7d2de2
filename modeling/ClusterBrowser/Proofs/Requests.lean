import ClusterBrowser.Master.Client
import ClusterBrowser.Proofs.Trace
import ClusterBrowser.Proofs.Urls

/-!
# Requests to a master

* `Master.request`: the request for a resource, or why its URL is refused; `request_eq` says when it is.
* `Master.exec_exchange`: what an open client does with it.
* **`Master.steady_cluster`**: the calls of an open client fail with what a view reports or for a URL that is refused.
-/

namespace ClusterBrowser

/-- A URL is refused. -/
def Failure.IsRefusal (f : Failure) : Prop := ∃ e, f = .url e

/-- A client that has not been closed. -/
def Connection.IsOpen {τ : Type} (conn : Connection τ) : Prop := conn.closed = false

namespace Master

/-- A client that has opened nothing. -/
def newClient : Connection Unit := { transport := () }

theorem isOpen_newClient : newClient.IsOpen := rfl

variable {τ : Type} (m : Master τ)

/-- The request for a resource, with its URL. -/
def request (resource : String) (parameters : Option (List (String × String))) : Except UrlError (Url × HttpRequest) :=
  match m.endpoint.locate resource parameters with
  | .error e => .error e
  | .ok url => url.shownAuthority.map fun authority =>
    (url, { authority, path := url.decodedPath, parameters := parameters.getD url.parameters })

/-- **A request is refused if its query is too long, and for no other reason that depends on its parameters.** -/
theorem request_eq {resource : String} {parameters : List (String × String)} {url : Url} {r : HttpRequest}
    (h : m.request resource (some parameters) = .ok (url, r)) (others : List (String × String)) :
    m.request resource (some others) =
      if Url.fits (Query.encode others) then .ok (url.asking others, { r with parameters := others })
      else .error .tooLong := by
  rw [request] at h ⊢
  rcases hu : m.endpoint.locate resource (some parameters) with e | u
  · rw [hu] at h
    exact nomatch h
  rcases ha : u.shownAuthority with e | authority
  · simp only [hu, ha] at h
    exact nomatch h
  simp only [hu, ha, Except.map] at h
  obtain ⟨rfl, rfl⟩ := Prod.mk.inj (Except.ok.inj h)
  have hauthority : (u.asking others).shownAuthority = .ok authority := ha
  rw [Endpoint.locate_eq hu others]
  split_ifs
  · simp only [hauthority]
    rfl
  · rfl

theorem parameters_of_request {resource : String} {parameters : List (String × String)} {url : Url} {r : HttpRequest}
    (h : m.request resource (some parameters) = .ok (url, r)) : r.parameters = parameters := by
  have hself := m.request_eq h parameters
  rw [h] at hself
  split_ifs at hself
  rw [(Prod.mk.inj (Except.ok.inj hself)).2]

/-- What is made of an outcome: a reply from a URL without a scheme is none. -/
def settle (url : Url) : Except String Reply → Except Failure (Except String Reply)
  | .ok reply => if url.namesScheme then .ok (.ok reply) else .error (.url .noScheme)
  | .error message => .ok (.error message)

/-- **What an open client does with a request.** -/
theorem exec_exchange (resource : String) (parameters : Option (List (String × String))) {conn : Connection τ}
    (hopen : conn.IsOpen) :
    (m.exchange resource parameters).exec conn =
      match m.request resource parameters with
      | .error e => (.error (.url e), conn)
      | .ok (url, r) => (settle url (m.send r conn.transport).1, { conn with transport := (m.send r conn.transport).2 }) := by
  have hclosed : conn.closed = false := hopen
  obtain ⟨send, endpoint, address⟩ := m
  rw [exchange, request]
  rcases endpoint.locate resource parameters with e | url
  · rfl
  rw [Action.exec_bind_of_ok (Action.exec_ofExcept_ok ..), Action.exec_bind_of_ok (Action.exec_get _), hclosed,
    if_neg Bool.false_ne_true]
  dsimp only
  rcases url.shownAuthority with e | authority
  · rfl
  rw [Action.exec_bind_of_ok (Action.exec_ofExcept_ok ..)]
  dsimp only [Except.map]
  rcases send { authority, path := url.decodedPath, parameters := parameters.getD url.parameters }
    conn.transport with ⟨message | reply, transport⟩
  · rfl
  · rw [Action.exec_bind_of_ok (Action.exec_set _ _), settle]
    rcases url.namesScheme with _ | _ <;> rfl

/-! ## How the calls fail -/

theorem isRefusal_of_settle {url : Url} {outcome : Except String Reply} {f : Failure}
    (h : settle url outcome = .error f) : f.IsRefusal := by
  rcases outcome with message | reply
  · exact nomatch h
  · rw [settle] at h
    split_ifs at h
    exact ⟨.noScheme, (Except.error.inj h).symm⟩

theorem keeps_exchange (resource : String) (parameters : Option (List (String × String))) :
    (m.exchange resource parameters).Keeps Connection.IsOpen Failure.IsRefusal := by
  constructor
  · intro conn hopen
    rw [m.exec_exchange resource parameters hopen]
    rcases m.request resource parameters with e | ⟨url, r⟩ <;> exact hopen
  · intro conn f hopen hf
    rw [m.exec_exchange resource parameters hopen] at hf
    rcases hr : m.request resource parameters with e | ⟨url, r⟩
    · rw [hr] at hf
      exact .inr ⟨e, (Except.error.inj hf).symm⟩
    · rw [hr] at hf
      exact .inr (isRefusal_of_settle hf)

theorem keeps_fetch (resource : String) (parameters : List (String × String)) :
    (m.fetch resource parameters).Keeps Connection.IsOpen Failure.IsRefusal := by
  refine (m.keeps_exchange resource (some parameters)).bind fun r => ?_
  rcases r with message | reply
  · exact .fail _
  · exact .ofExcept_browse _

theorem keeps_fetchValue {α : Type} (resource : String) (parameters : List (String × String))
    (value : Json → Checked α) : (m.fetchValue resource parameters value).Keeps Connection.IsOpen Failure.IsRefusal := by
  refine (m.keeps_fetch resource parameters).bind fun reply => ?_
  rcases reply.decode value with a | e
  · exact .pure a
  · exact .fail _

theorem keeps_file (i : Nat) : (file i : Action (Connection τ) RemoteFile).Keeps Connection.IsOpen Failure.IsRefusal :=
  .bind_get fun _ _ => .pure _

theorem keeps_putFile (i : Nat) (f : RemoteFile) :
    (putFile i f : Action (Connection τ) Unit).Keeps Connection.IsOpen Failure.IsRefusal :=
  .modify fun _ hopen => hopen

theorem keeps_readFile (i : Nat) (n : Int) : (m.readFile i n).Keeps Connection.IsOpen Failure.IsRefusal := by
  refine (keeps_file i).bind fun f => ?_
  split_ifs
  · exact .pure _
  · exact .pure _
  refine (m.keeps_fetch readResource (f.rangeParameters n)).bind fun reply => ?_
  split_ifs
  · exact .pure _
  · exact (keeps_putFile i _).bind fun _ => .pure _

theorem steady_stream (i : Nat) : (m.stream i).Steady Connection.IsOpen Failure.IsRefusal where
  skip _ := (keeps_file i).bind fun _ => (keeps_putFile i _).bind fun _ => .pure _
  read n := m.keeps_readFile i n
  close _ := ⟨_, rfl, fun hopen => hopen⟩

theorem keeps_openFile (path : String) (mode : ReadMode) :
    (m.openFile path mode).Keeps Connection.IsOpen Failure.IsRefusal := by
  refine (m.keeps_fetchValue statusResource [("path", path)] FileInfo.ofJson).bind fun info => ?_
  split_ifs
  · exact (Action.Keeps.fail _).bind fun _ => .bind_get fun _ hopen => .bind (.set hopen) fun _ => .pure _
  · exact .bind_get fun _ hopen => .bind (.set hopen) fun _ => .pure _

/-- The client with one more file opened. -/
def opening (info : FileInfo) (mode : ReadMode) (conn : Connection τ) : Connection τ :=
  { conn with opened := conn.opened ++ [RemoteFile.mk info.path info.length mode 0] }

theorem exec_openFile (path : String) (mode : ReadMode) (conn : Connection τ) :
    (m.openFile path mode).exec conn = Action.andThen ((m.status path).exec conn) fun info =>
      if info.folder then Action.fail (.invalidPath ("Path " ++ path ++ " is a directory"))
      else Action.ofFunction fun conn => (.ok (m.stream conn.opened.length), opening info mode conn) := by
  rw [openFile, Action.exec_bind]
  rcases (m.status path).exec conn with ⟨f | info, conn'⟩
  · rfl
  · rw [Action.andThen_ok, Action.andThen_ok]
    split_ifs <;> rfl

theorem exists_stream_of_openFile {path : String} {mode : ReadMode} {conn conn' : Connection τ}
    {x : FileStream (Connection τ)} (h : (m.openFile path mode).exec conn = (.ok x, conn')) :
    ∃ i, x = m.stream i := by
  rw [exec_openFile] at h
  rcases hs : (m.status path).exec conn with ⟨f | info, t⟩
  · rw [hs] at h
    exact nomatch h
  rw [hs, Action.andThen_ok] at h
  split_ifs at h
  · exact nomatch h
  · exact ⟨t.opened.length, (Except.ok.inj (Prod.ext_iff.mp h).1).symm⟩

/-- **The calls of an open client fail with what a view reports or for a URL that is refused.** -/
theorem steady_cluster : m.cluster.Steady Connection.IsOpen Failure.IsRefusal where
  status path := m.keeps_fetchValue statusResource [("path", path)] FileInfo.ofJson
  list path := m.keeps_fetchValue listResource [("path", path)] (Json.asList FileInfo.ofJson)
  blocks path := m.keeps_fetchValue blocksResource [("path", path)] (Json.asList BlockReport.ofJson)
  tiers := m.keeps_fetchValue tiersResource [] (Json.asList Json.asText)
  openFile := m.keeps_openFile
  streams path mode conn x conn' _ h := by
    obtain ⟨i, rfl⟩ := m.exists_stream_of_openFile h
    exact m.steady_stream i
  fatal := ⟨fun _ ⟨_, h⟩ => h ▸ id, fun _ _ ⟨_, h⟩ => nomatch h⟩

end Master

end ClusterBrowser
