import ClusterBrowser.Proofs.Requests
import ClusterBrowser.Proofs.Utf8

/-!
# What replies carry

* `Reply.Carries`: a reply with the outcome of a call, its value or the error.
* `IsPlainMessage`, `Reply.explanation_of_plain`: a plain message as the body of a reply is what it has to say.
* `Master.exec_fetch_of_request`: what a client makes of the answer to a request.
* `Master.Replies`: what is known of every reply to a request; `Master.Accepts`: its URL is not refused.
* **`Master.exec_fetchValue`**: the outcome that the reply carries is that of the call, unless its URL is refused.
-/

namespace ClusterBrowser

/-! ## Outcomes in replies -/

/-- The status that reports an error, for the errors that have one. -/
def BrowseError.status? : BrowseError → Option Nat
  | .invalidPath _ => some 400
  | .accessDenied _ => some 403
  | .pathNotFound _ => some 404
  | _ => none

/-- The reply carries the outcome of a call: the value, or the error by its status and its message. -/
def Reply.Carries {α : Type} (r : Reply) (value : Json → Checked α) : Except BrowseError α → Prop
  | .ok a => r.status < 400 ∧ r.decode value = .ok a
  | .error e => e.status? = some r.status ∧ r.explanation = e.message

theorem classify_of_lt {path : String} {r : Reply} (h : r.status < 400) : classify path r = .ok r := by
  rw [classify]
  split_ifs <;> first | omega | rfl

theorem classify_of_error {path : String} {r : Reply} {e : BrowseError} (hstatus : e.status? = some r.status)
    (hmessage : r.explanation = e.message) (hsome : e.message ≠ "") : classify path r = .error e := by
  rw [classify, hmessage, if_neg hsome]
  cases e with
  | invalidPath message => rw [if_pos (Option.some.inj hstatus).symm, BrowseError.message]
  | accessDenied message =>
    have hcode := (Option.some.inj hstatus).symm
    rw [if_neg (by omega), if_pos hcode, BrowseError.message]
  | pathNotFound message =>
    have hcode := (Option.some.inj hstatus).symm
    rw [if_neg (by omega), if_neg (by omega), if_pos hcode, BrowseError.message]
  | unavailable message => exact nomatch hstatus
  | badPagination message => exact nomatch hstatus
  | outOfBounds message => exact nomatch hstatus
  | other message => exact nomatch hstatus

/-! ## Plain messages -/

/-- A message that begins with a capital P and another letter. -/
def IsPlainMessage (message : String) : Prop :=
  ∃ (c : Char) (rest : List Char), c.toNat ≠ 0 ∧ c.toNat < 0x80 ∧ message = String.ofList ('P' :: c :: rest)

theorem IsPlainMessage.append {first : String} (h : IsPlainMessage first) (s : String) :
    IsPlainMessage (first ++ s) := by
  obtain ⟨c, rest, hsome, hascii, rfl⟩ := h
  refine ⟨c, rest ++ s.toList, hsome, hascii, String.toList_inj.mp ?_⟩
  simp

theorem IsPlainMessage.ne_empty {message : String} (h : IsPlainMessage message) : message ≠ "" := by
  obtain ⟨c, rest, -, -, rfl⟩ := h
  rw [Ne, ← String.toList_inj, String.toList_ofList]
  exact List.cons_ne_nil _ _

/-- No JSON text begins with a capital P. -/
theorem readPoints_capital {υ : Type} (d : Json.Dialect υ) (ps : List Point) :
    Json.readPoints d (.char 'P' :: ps) = none := by
  rw [Json.readPoints, Json.readValue]
  rfl

theorem detectEncoding_letters {b : UInt8} (hb : b ≠ 0) (rest : Bytes) :
    detectEncoding (0x50 :: b :: rest) = (.utf8, 0x50 :: b :: rest) := by
  have hletter : (0x50 : UInt8) ≠ 0 := by decide
  rcases rest with _ | ⟨c, _ | ⟨d, rest⟩⟩
  · change (if (0x50 : UInt8) = 0 then (TextEncoding.utf16 true, [0x50, b])
      else if b = 0 then (.utf16 false, [0x50, b]) else (.utf8, [0x50, b])) = _
    rw [if_neg hletter, if_neg hb]
  · rfl
  · change (if (0x50 : UInt8) = 0 then (if b = 0 then TextEncoding.utf32 true else .utf16 true, 0x50 :: b :: c :: d :: rest)
      else if b = 0 then (if c = 0 && d = 0 then .utf32 false else .utf16 false, 0x50 :: b :: c :: d :: rest)
      else (.utf8, 0x50 :: b :: c :: d :: rest)) = _
    rw [if_neg hletter, if_neg hb]

/-- **A plain message as the body of a reply is what it has to say.** -/
theorem Reply.explanation_of_plain (status : Nat) {message : String} (h : IsPlainMessage message) :
    ({ status, body := Utf8.encode message.toList } : Reply).explanation = message := by
  obtain ⟨c, rest, hsome, hascii, rfl⟩ := h
  rw [String.toList_ofList]
  have hbytes : Utf8.encode ('P' :: c :: rest) = 0x50 :: UInt8.ofNat c.toNat :: Utf8.encode rest := by
    have hchar : String.utf8EncodeChar c = [UInt8.ofNat c.toNat] := by
      rw [String.utf8EncodeChar, Char.toNat_val, if_pos (by omega)]
    rw [Utf8.encode, List.flatMap_cons, List.flatMap_cons, hchar]
    rfl
  have hb : UInt8.ofNat c.toNat ≠ 0 := by
    intro h
    have hzero := congrArg UInt8.toNat h
    rw [UInt8.toNat_ofNat'] at hzero
    change c.toNat % 256 = 0 at hzero
    omega
  have hread : (bodyPoints? (Utf8.encode ('P' :: c :: rest))).bind (Json.readPoints .report) = none := by
    rw [hbytes, bodyPoints?, detectEncoding_letters hb]
    dsimp only
    have hfirst : Utf8.decodeFrom Utf8.leadOfPoint none (0x50 :: UInt8.ofNat c.toNat :: Utf8.encode rest) =
        some 0x50 :: Utf8.decodeFrom Utf8.leadOfPoint none (UInt8.ofNat c.toNat :: Utf8.encode rest) := rfl
    rw [Utf8.points?, hfirst, List.mapM_cons]
    rcases (Utf8.decodeFrom Utf8.leadOfPoint none (UInt8.ofNat c.toNat :: Utf8.encode rest)).mapM id with _ | ps
    · rfl
    · exact readPoints_capital .report (ps.map Point.ofNat)
  rw [Reply.explanation, hread]
  dsimp only
  rw [Utf8.decodeLossy_encode, hbytes, List.isEmpty_cons, if_neg Bool.false_ne_true]

/-! ## Replies to a client -/

namespace Master

variable {τ : Type} (m : Master τ)

/-- A request for a resource, unless its URL is refused, is sent and gets a reply of which `Q` holds. -/
def Replies (resource : String) (parameters : List (String × String)) (Q : Reply → Prop) : Prop :=
  ∀ url r t, m.request resource (some parameters) = .ok (url, r) → ∃ reply, (m.send r t).1 = .ok reply ∧ Q reply

/-- The action has an outcome in an open client, or fails since a URL is refused. -/
def Yields {α : Type} (x : Action (Connection τ) α) (conn : Connection τ) (outcome : Except BrowseError α) : Prop :=
  (∃ conn', x.exec conn = (outcome.mapError .browse, conn') ∧ conn'.IsOpen) ∨
    ∃ f conn', x.exec conn = (.error f, conn') ∧ f.IsRefusal

variable {m} {conn : Connection τ}

theorem exec_fetch_of_request {resource : String} {parameters : List (String × String)} {url : Url} {r : HttpRequest}
    (hopen : conn.IsOpen) (hr : m.request resource (some parameters) = .ok (url, r)) (hscheme : url.namesScheme = true) :
    (m.fetch resource parameters).exec conn =
      (match (m.send r conn.transport).1 with
        | .error message => .error (.browse (.unavailable ("master unreachable: " ++ message)))
        | .ok reply => (classify ((parameters.lookup "path").getD "") reply).mapError .browse,
        { conn with transport := (m.send r conn.transport).2 }) := by
  have hexec := m.exec_exchange resource (some parameters) hopen
  rw [hr] at hexec
  dsimp only at hexec
  rcases hanswer : (m.send r conn.transport).1 with message | reply
  · rw [hanswer] at hexec
    exact Action.exec_bind_of_ok hexec
  · rw [hanswer, settle, if_pos hscheme] at hexec
    rw [fetch, Action.exec_bind_of_ok hexec]
    dsimp only
    rcases classify ((parameters.lookup "path").getD "") reply with e | reply <;> rfl

variable (m) in
/-- The URL of a request for a resource is not refused. -/
def Accepts (resource : String) (parameters : List (String × String)) : Prop :=
  ∃ url r, m.request resource (some parameters) = .ok (url, r) ∧ url.namesScheme = true

theorem exec_fetch_of_accepts {resource : String} {parameters : List (String × String)} {Q : Reply → Prop}
    (hopen : conn.IsOpen) (h : m.Replies resource parameters Q) (haccepts : m.Accepts resource parameters) :
    ∃ reply transport, Q reply ∧ (m.fetch resource parameters).exec conn =
      ((classify ((parameters.lookup "path").getD "") reply).mapError .browse, { conn with transport }) := by
  obtain ⟨url, r, hr, hscheme⟩ := haccepts
  obtain ⟨reply, hreply, hQ⟩ := h url r conn.transport hr
  refine ⟨reply, (m.send r conn.transport).2, hQ, ?_⟩
  rw [exec_fetch_of_request hopen hr hscheme, hreply]

theorem exec_fetch_of_not_accepts {resource : String} {parameters : List (String × String)} {Q : Reply → Prop}
    (hopen : conn.IsOpen) (h : m.Replies resource parameters Q) (hrefuses : ¬ m.Accepts resource parameters) :
    ∃ f transport, (m.fetch resource parameters).exec conn = (.error f, { conn with transport }) ∧ f.IsRefusal := by
  have hexec := m.exec_exchange resource (some parameters) hopen
  rcases hr : m.request resource (some parameters) with e | ⟨url, r⟩
  · rw [hr] at hexec
    exact ⟨.url e, conn.transport, Action.exec_bind_of_error hexec, e, rfl⟩
  obtain ⟨reply, hreply, -⟩ := h url r conn.transport hr
  have hscheme : ¬ url.namesScheme = true := fun hscheme => hrefuses ⟨url, r, hr, hscheme⟩
  rw [hr] at hexec
  dsimp only at hexec
  rw [hreply, settle, if_neg hscheme] at hexec
  exact ⟨.url .noScheme, _, Action.exec_bind_of_error hexec, .noScheme, rfl⟩

theorem exec_fetch {resource : String} {parameters : List (String × String)} {Q : Reply → Prop} (hopen : conn.IsOpen)
    (h : m.Replies resource parameters Q) :
    (∃ reply transport, Q reply ∧ (m.fetch resource parameters).exec conn =
      ((classify ((parameters.lookup "path").getD "") reply).mapError .browse, { conn with transport })) ∨
      ∃ f conn', (m.fetch resource parameters).exec conn = (.error f, conn') ∧ f.IsRefusal := by
  by_cases haccepts : m.Accepts resource parameters
  · exact .inl (exec_fetch_of_accepts hopen h haccepts)
  · obtain ⟨f, transport, hexec, hf⟩ := exec_fetch_of_not_accepts hopen h haccepts
    exact .inr ⟨f, _, hexec, hf⟩

/-- **The outcome that the reply carries is that of the call, unless its URL is refused.** -/
theorem exec_fetchValue {α : Type} {resource : String} {parameters : List (String × String)} {value : Json → Checked α}
    {outcome : Except BrowseError α} (hopen : conn.IsOpen)
    (h : m.Replies resource parameters fun reply => reply.Carries value outcome)
    (hsome : ∀ e, outcome = .error e → e.message ≠ "") :
    Yields (m.fetchValue resource parameters value) conn outcome := by
  rcases exec_fetch hopen h with ⟨reply, transport, hcarries, hexec⟩ | ⟨f, conn', hexec, hf⟩
  · refine .inl ⟨{ conn with transport }, ?_, hopen⟩
    rcases outcome with e | a
    · rw [classify_of_error hcarries.1 hcarries.2 (hsome e rfl)] at hexec
      exact Action.exec_bind_of_error hexec
    · rw [classify_of_lt hcarries.1] at hexec
      rw [fetchValue, Action.exec_bind_of_ok hexec, hcarries.2]
      rfl
  · exact .inr ⟨f, conn', Action.exec_bind_of_error hexec, hf⟩

end Master

end ClusterBrowser
