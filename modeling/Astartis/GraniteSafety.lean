import Mathlib.Algebra.Order.BigOperators.Group.List
import Mathlib.Data.List.TakeWhile
import Astartis.GraniteClient
import Astartis.JsonText

/-!
What a `generate` call makes of its exchange.  Both sentinels are written as literals
that start with a zero byte, so the pattern that is searched for is empty and occurs in
every reply.
-/

namespace Astartis.Granite

open Audit

/-- The turns in which the server takes bytes of the request before the deadline. -/
def accepted (deadline : Int) (sends : List Sent) : List Sent :=
  sends.takeWhile fun turn => turn.now < deadline ∧ 0 < turn.sent

/-- The clock at the turn behind the accepted ones. -/
def stoppedAt (deadline closedAt : Int) (sends : List Sent) : Int :=
  match sends.drop (accepted deadline sends).length with
  | [] => closedAt
  | turn :: _ => turn.now

/-- The bytes of the reply that arrive before the deadline. -/
def received (deadline : Int) (recvs : List Received) : ByteString :=
  (recvs.takeWhile fun turn => turn.now < deadline).flatMap Received.bytes

section Loops

variable {deadline closedAt : Int}

theorem accepted_cons_of_pos {turn : Sent} (sends : List Sent) (htimely : turn.now < deadline)
    (hsent : 0 < turn.sent) :
    accepted deadline (turn :: sends) = turn :: accepted deadline sends := by
  simp [accepted, htimely, hsent]

theorem accepted_cons_of_stop {turn : Sent} (sends : List Sent)
    (hstop : deadline ≤ turn.now ∨ turn.sent ≤ 0) :
    accepted deadline (turn :: sends) = [] := by
  simp only [accepted, List.takeWhile_cons]
  rw [if_neg]
  simp only [decide_eq_true_eq]
  omega

theorem sum_accepted_nonneg (deadline : Int) (sends : List Sent) :
    0 ≤ ((accepted deadline sends).map Sent.sent).sum := by
  apply List.sum_nonneg
  intro sent hsent
  obtain ⟨turn, hturn, rfl⟩ := List.mem_map.mp hsent
  have haccepted := List.mem_takeWhile_imp hturn
  simp only [decide_eq_true_eq] at haccepted
  omega

/-- How the send loop ends: everything is sent exactly if the accepted turns take it,
and otherwise the clock of the next turn decides. -/
theorem sendLoop_spec (closedAt : Int) (sends : List Sent) (remaining : Int) :
    sendLoop deadline closedAt sends remaining =
      if remaining ≤ ((accepted deadline sends).map Sent.sent).sum then .complete
      else if deadline ≤ stoppedAt deadline closedAt sends then .late
      else .failed := by
  induction sends generalizing remaining with
  | nil => rfl
  | cons turn sends ih =>
      have hnonneg := sum_accepted_nonneg deadline (turn :: sends)
      simp only [sendLoop]
      by_cases hremaining : remaining ≤ 0
      · rw [if_pos hremaining, if_pos (by omega)]
      rw [if_neg hremaining]
      by_cases hlate : deadline ≤ turn.now
      · have hstop : accepted deadline (turn :: sends) = [] :=
          accepted_cons_of_stop sends (.inl hlate)
        simp [stoppedAt, hstop, hlate, hremaining]
      rw [if_neg hlate]
      by_cases hfailed : turn.sent ≤ 0
      · have hstop : accepted deadline (turn :: sends) = [] :=
          accepted_cons_of_stop sends (.inr hfailed)
        simp [stoppedAt, hstop, hlate, hfailed, hremaining]
      have hnext : accepted deadline (turn :: sends) = turn :: accepted deadline sends :=
        accepted_cons_of_pos sends (not_le.mp hlate) (not_le.mp hfailed)
      have hstopped : stoppedAt deadline closedAt (turn :: sends) =
          stoppedAt deadline closedAt sends := by
        simp only [stoppedAt, hnext, List.length_cons, List.drop_succ_cons]
      rw [if_neg hfailed, ih, hnext, hstopped, List.map_cons, List.sum_cons]
      simp only [sub_le_iff_le_add']

theorem received_cons_of_lt {turn : Received} (recvs : List Received)
    (htimely : turn.now < deadline) :
    received deadline (turn :: recvs) = turn.bytes ++ received deadline recvs := by
  simp [received, htimely]

/-- The receive loop reads what arrives before the deadline, until it exceeds the cap. -/
theorem recvLoop_spec (closedAt : Int) (recvs : List Received) {response : ByteString}
    (hsmall : response.length ≤ maxResponseBytes) :
    ((recvLoop deadline closedAt recvs response).2 = true ↔
        maxResponseBytes < (response ++ received deadline recvs).length) ∧
      ((response ++ received deadline recvs).length ≤ maxResponseBytes →
        (recvLoop deadline closedAt recvs response).1 =
          response ++ received deadline recvs) := by
  induction recvs generalizing response with
  | nil => simp [recvLoop, received, hsmall]
  | cons turn recvs ih =>
      simp only [recvLoop]
      by_cases hlate : deadline ≤ turn.now
      · simp [received, hlate, hsmall]
      rw [if_neg hlate, received_cons_of_lt recvs (not_le.mp hlate), ← List.append_assoc]
      by_cases hexceeds : maxResponseBytes < (response ++ turn.bytes).length
      · rw [if_pos hexceeds]
        have hlength := @List.length_append _ (response ++ turn.bytes)
          (received deadline recvs)
        constructor
        · simp only [true_iff]
          omega
        · omega
      · rw [if_neg hexceeds]
        exact ih (not_lt.mp hexceeds)

end Loops

namespace Exchange

variable (deadline : Int) (exchange : Exchange)

def requestSent (length : Int) : Prop :=
  length ≤ ((accepted deadline exchange.sends).map Sent.sent).sum

instance (length : Int) : Decidable (exchange.requestSent deadline length) :=
  inferInstanceAs (Decidable (_ ≤ _))

def reply : ByteString :=
  received deadline exchange.recvs

/-- Nothing of the body of a reply is read within the cap: the connection fails, a `send`
fails before the deadline, the reply exceeds the cap, or no byte behind its header arrives. -/
def EndsBeforeBody (length : Int) : Prop :=
  exchange.connects = false ∨
    (¬ exchange.requestSent deadline length ∧
      stoppedAt deadline exchange.closedAt exchange.sends < deadline) ∨
    (exchange.requestSent deadline length ∧
      (maxResponseBytes < (exchange.reply deadline).length ∨
        (ByteString.behind? "\r\n\r\n" (exchange.reply deadline)).getD [] = []))

theorem answer_of_not_connects {exchange : Exchange} (hfails : exchange.connects = false)
    (timeoutMs : Int) (request : ByteString) : exchange.answer timeoutMs request = [] := by
  simp only [answer]
  rw [if_pos hfails]

/-- A request that cannot be sent before the deadline leaves the sentinel of the send loop. -/
theorem answer_of_not_sent {exchange : Exchange} {timeoutMs : Int} {request : ByteString}
    (hconnects : exchange.connects = true)
    (hunsent : ¬ exchange.requestSent (exchange.startedAt + timeoutMs)
      (requestLength request)) :
    exchange.answer timeoutMs request =
      if exchange.startedAt + timeoutMs ≤
          stoppedAt (exchange.startedAt + timeoutMs) exchange.closedAt exchange.sends then
        (0 : UInt8) :: ("DEADLINE" : ByteString)
      else [] := by
  simp only [requestSent] at hunsent
  simp only [answer]
  rw [if_neg (by simp [hconnects]), sendLoop_spec, if_neg hunsent]
  by_cases hlate : exchange.startedAt + timeoutMs ≤
      stoppedAt (exchange.startedAt + timeoutMs) exchange.closedAt exchange.sends
  · rw [if_pos hlate, if_pos hlate]
  · rw [if_neg hlate, if_neg hlate]

theorem answer_of_sent {exchange : Exchange} {timeoutMs : Int} {request : ByteString}
    (hconnects : exchange.connects = true)
    (hsent : exchange.requestSent (exchange.startedAt + timeoutMs)
      (requestLength request)) :
    exchange.answer timeoutMs request =
      if maxResponseBytes < (exchange.reply (exchange.startedAt + timeoutMs)).length then []
      else (ByteString.behind? "\r\n\r\n"
        (exchange.reply (exchange.startedAt + timeoutMs))).getD [] := by
  obtain ⟨hexceeds, hresponse⟩ :=
    @recvLoop_spec (exchange.startedAt + timeoutMs) exchange.closedAt exchange.recvs []
      (Nat.zero_le _)
  simp only [requestSent] at hsent
  simp only [List.nil_append] at hexceeds hresponse
  simp only [answer]
  rw [if_neg (by simp [hconnects]), sendLoop_spec, if_pos hsent]
  by_cases hlarge :
      maxResponseBytes < (exchange.reply (exchange.startedAt + timeoutMs)).length
  · rw [if_pos hlarge]
    simp [hexceeds.mpr hlarge]
  · rw [if_neg hlarge]
    have hflag := Bool.eq_false_iff.mpr (mt hexceeds.mp hlarge)
    simp [hflag, hresponse (not_lt.mp hlarge), reply]

theorem answer_eq_nil_iff (exchange : Exchange) (timeoutMs : Int) (request : ByteString) :
    exchange.answer timeoutMs request = [] ↔
      exchange.EndsBeforeBody (exchange.startedAt + timeoutMs) (requestLength request) := by
  cases hconnects : exchange.connects with
  | false => simp [answer_of_not_connects hconnects, EndsBeforeBody, hconnects]
  | true =>
      by_cases hsent : exchange.requestSent (exchange.startedAt + timeoutMs)
          (requestLength request)
      · rw [answer_of_sent hconnects hsent]
        simp only [EndsBeforeBody, hconnects, hsent, not_true_eq_false, false_and, true_and,
          Bool.true_eq_false, false_or]
        split
        · simp [*]
        · simp [*]
      · rw [answer_of_not_sent hconnects hsent]
        simp only [EndsBeforeBody, hconnects, hsent, not_false_eq_true, true_and, false_and,
          Bool.true_eq_false, or_false, false_or]
        split
        · rename_i hlate
          simp [hlate]
        · rename_i htimely
          simp [not_le.mp htimely]

end Exchange

theorem findText_nil (s : ByteString) : ByteString.findText [] s = some 0 := by
  simp [ByteString.findText, List.range_succ_eq_map]

namespace GraniteClient

variable {σ : Type} (json : Json.Library) (auditAdder : AuditAdder σ)

@[simp] theorem request?_incrementInflight (tag : ByteString) (call : Call)
    (model : GraniteModel) (self : GraniteClient) :
    (self.incrementInflight model).request? json tag call = self.request? json tag call := by
  cases model <;> rfl

/-- The response to an answer: the search for the first sentinel succeeds at once. -/
def responseTo (answer : ByteString) : GraniteResponse :=
  if answer = [] then { ok := false, modelUsed := "unavailable" }
  else { ok := false, modelUsed := "truncated_response" }

theorem classify_spec (model : GraniteModel) (raw : ByteString) (self : GraniteClient)
    (world : σ) :
    (classify json auditAdder model raw self world).1 = responseTo raw ∧
      (classify json auditAdder model raw self world).2.1 = self := by
  simp only [classify, responseTo, cString_truncatedLiteral, findText_nil]
  split
  · exact ⟨rfl, rfl⟩
  · exact ⟨rfl, rfl⟩

/-- The request of a call, `none` when the prompts cannot be serialized. -/
def callRequest? (call : Call) (self : GraniteClient) : Option ByteString :=
  self.request? json call.model.tag (effective call)

theorem generate_fst (exchange : Exchange) (call : Call) (self : GraniteClient) (world : σ) :
    (generate json auditAdder exchange call self world).1 =
      (self.callRequest? json call).map fun request =>
        responseTo (exchange.answer call.model.timeout request) := by
  simp only [generate, isAllowedModel_tag, finish, callOllamaApi, request?_incrementInflight,
    callRequest?]
  cases self.request? json call.model.tag (effective call) with
  | none => rfl
  | some request =>
      simp only [Option.map_some]
      exact congrArg some (classify_spec json auditAdder call.model _ _ _).1

end GraniteClient

section Causes

variable (json : Json.Library) (client : GraniteClient) (exchange : Exchange) (call : Call)

/-- The deadline of the tier. -/
def Exchange.deadline : Int :=
  exchange.startedAt + call.model.timeout

/-- The request is built and sent before the deadline. -/
def Asks : Prop :=
  ∃ request, client.callRequest? json call = some request ∧ exchange.connects = true ∧
    exchange.requestSent (exchange.deadline call) (requestLength request)

/-- The text of a reply: a non-empty string `message.content`, or `response` where
there is no `message.content`. -/
def HasText (j : Json) (text : ByteString) : Prop :=
  let content := (j.member? "message").bind (Json.member? "content")
  text ≠ [] ∧
    (content.bind Json.getString? = some text ∨
      (content = none ∧ (j.member? "response").bind Json.getString? = some text))

/-- A complete reply within the cap, received before the deadline, whose body is an object
without key `error` and with this text. -/
structure CompleteReply (text : ByteString) : Prop where
  asks : Asks json client exchange call
  timely : ∀ turn ∈ exchange.recvs, turn.now < exchange.deadline call
  closed : exchange.closedAt < exchange.deadline call
  small : (exchange.reply (exchange.deadline call)).length ≤ maxResponseBytes
  body : ∃ body members,
    ByteString.behind? "\r\n\r\n" (exchange.reply (exchange.deadline call)) = some body ∧
      body ≠ [] ∧ json.parse body = some (.object members) ∧
      (Json.object members).contains "error" = false ∧ HasText (.object members) text

def ReplyExceedsCap : Prop :=
  Asks json client exchange call ∧
    maxResponseBytes < (exchange.reply (exchange.deadline call)).length

/-- A look at the clock during the exchange finds the deadline passed. -/
def DeadlinePassed : Prop :=
  ∃ request, client.callRequest? json call = some request ∧ exchange.connects = true ∧
    if exchange.requestSent (exchange.deadline call) (requestLength request) then
      (∃ turn ∈ exchange.recvs, exchange.deadline call ≤ turn.now) ∨
        exchange.deadline call ≤ exchange.closedAt
    else
      exchange.deadline call ≤
        stoppedAt (exchange.deadline call) exchange.closedAt exchange.sends

/-- The response names the cause of how the exchange went. -/
structure ClassifiedByCause (result : Option GraniteResponse) : Prop where
  complete : ∀ text, CompleteReply json client exchange call text →
    ∃ resp, result = some resp ∧ resp.ok = true ∧ resp.text = text
  truncated : ∀ resp, result = some resp →
    resp.modelUsed = ("truncated_response" : ByteString) →
      ReplyExceedsCap json client exchange call
  timeout : ∀ resp, result = some resp → resp.modelUsed = ("timeout" : ByteString) →
    DeadlinePassed json client exchange call
  otherwise : (∀ text, ¬ CompleteReply json client exchange call text) →
    ¬ ReplyExceedsCap json client exchange call →
    ¬ DeadlinePassed json client exchange call →
    ∃ resp, result = some resp ∧ resp.ok = false ∧
      (resp.modelUsed = ("unavailable" : ByteString) ∨
        resp.modelUsed = ("parse_error" : ByteString))

end Causes

section Classification

variable {json : Json.Library} {client : GraniteClient} {exchange : Exchange} {call : Call}

theorem not_endsBeforeBody_of_completeReply {text request : ByteString}
    (hreply : CompleteReply json client exchange call text)
    (hrequest : client.callRequest? json call = some request) :
    ¬ exchange.EndsBeforeBody (exchange.deadline call) (requestLength request) := by
  obtain ⟨request', hrequest', hconnects, hsent⟩ := hreply.asks
  obtain rfl : request = request' := Option.some.inj (hrequest.symm.trans hrequest')
  obtain ⟨body, members, hbody, hnonempty, -⟩ := hreply.body
  rintro (hfails | ⟨hunsent, -⟩ | ⟨-, hlarge | hempty⟩)
  · simp [hconnects] at hfails
  · exact hunsent hsent
  · exact absurd hlarge (not_lt.mpr hreply.small)
  · rw [hbody] at hempty
    exact hnonempty hempty

/-- A reply with a body is small, so nothing explains `truncated_response`. -/
theorem not_replyExceedsCap_of_answer {request : ByteString}
    (hrequest : client.callRequest? json call = some request)
    (hbody : ¬ exchange.EndsBeforeBody (exchange.deadline call) (requestLength request)) :
    ¬ ReplyExceedsCap json client exchange call := by
  rintro ⟨⟨request', hrequest', hconnects, hsent⟩, hlarge⟩
  obtain rfl : request = request' := Option.some.inj (hrequest.symm.trans hrequest')
  exact hbody (.inr (.inr ⟨hsent, .inl hlarge⟩))

def okDocument : ByteString := "\x7b\"message\":\x7b\"content\":\"ok\"\x7d\x7d"

def okLibrary : Json.Library :=
  Json.sampleLibrary okDocument
    (.object [("message", .object [("content", .string "ok")])])

def okCall : Call := { model := .fast, systemPrompt := "triage", userPrompt := "ping" }

/-- The reply arrives at once and in one piece. -/
def okExchange : Exchange where
  startedAt := 0
  sends := [⟨0, 1024⟩]
  recvs := [{
    now := 1
    bytes := ("HTTP/1.0 200 OK\r\n\r\n" : ByteString) ++ okDocument
    nonempty := by decide
    fits := by decide }]
  closedAt := 2

end Classification

end Astartis.Granite
