import Astartis.AuditChain
import Astartis.Json

namespace Astartis.Granite

open Audit

inductive GraniteModel
  | fast
  | heavy
  | accuracy
  | orchestrator
deriving DecidableEq

/-- `tokens_used` has no value before a reply sets it. -/
structure GraniteResponse where
  ok : Bool
  text : ByteString := []
  modelUsed : ByteString
  tokensUsed : Option Int32 := none
deriving DecidableEq

def fastModelTag : ByteString := "granite3.1-moe:3b"

def heavyModelTag : ByteString := "granite3.1-dense:8b"

def accuracyModelTag : ByteString := "ibm/granite4.1:8b-q5_K_M"

def orchestratorModelTag : ByteString := "ibm/granite4.1:8b-q5_K_M"

def fastTimeoutMs : Int := 30000

def heavyTimeoutMs : Int := 60000

def accuracyTimeoutMs : Int := 360000

def orchestratorTimeoutMs : Int := 360000

def GraniteModel.tag : GraniteModel → ByteString
  | .fast => fastModelTag
  | .heavy => heavyModelTag
  | .accuracy => accuracyModelTag
  | .orchestrator => orchestratorModelTag

def GraniteModel.timeout : GraniteModel → Int
  | .fast => fastTimeoutMs
  | .heavy => heavyTimeoutMs
  | .accuracy => accuracyTimeoutMs
  | .orchestrator => orchestratorTimeoutMs

def allowedModels : List ByteString :=
  [fastModelTag, heavyModelTag, accuracyModelTag]

def isAllowedModel (tag : ByteString) : Bool :=
  allowedModels.contains tag

@[simp] theorem isAllowedModel_tag (model : GraniteModel) :
    isAllowedModel model.tag = true := by
  cases model <;> decide

def orchestratorPromptPrefix : ByteString := .ofLiterals
  ["\nYou are the Astartis Swarm Orchestrator. You coordinate multiple specialized ",
    "security AI agents.\nYour job is to:\n",
    "1. Break complex tasks into sub-tasks assignable to specialist agents\n",
    "2. Track which agents are available and their current load\n",
    "3. Synthesize outputs from multiple agents into coherent plans\n",
    "4. Detect conflicts or gaps in agent outputs\n",
    "5. Escalate to human operator when confidence is low\n\n",
    "When responding, always structure your output as:\n",
    "- EXECUTIVE_SUMMARY: One paragraph\n",
    "- AGENT_ASSIGNMENTS: Which agents should handle which sub-tasks\n",
    "- DEPENDENCIES: Order of operations\n",
    "- RISK_ASSESSMENT: What could go wrong\n",
    "- HUMAN_ESCALATION: Yes/No with reason\n\n"]

/-- A literal handed over as `const char*`, which ends at its first zero byte. -/
def cString (literal : ByteString) : ByteString :=
  literal.takeWhile (· ≠ 0)

def truncatedLiteral : ByteString := 0 :: ("TRUNCATED" : ByteString)

def deadlineLiteral : ByteString := 0 :: ("DEADLINE" : ByteString)

@[simp] theorem cString_truncatedLiteral : cString truncatedLiteral = [] := rfl

@[simp] theorem cString_deadlineLiteral : cString deadlineLiteral = [] := rfl

/-- A turn of the send loop: the clock at its head, and what `send` returns. -/
structure Sent where
  now : Int
  sent : Int

/-- A turn of the receive loop in which `recv` delivers. -/
structure Received where
  now : Int
  bytes : ByteString
  nonempty : bytes ≠ []
  fits : bytes.length ≤ 4095

/-- What the network does during one call.  Behind the listed turns the connection is
gone: `send` fails and `recv` returns nothing, at the clock `closedAt`. -/
structure Exchange where
  startedAt : Int
  resolved : Bool := true
  opened : Bool := true
  connected : Bool := true
  socketError : Int := 0
  sends : List Sent
  recvs : List Received
  closedAt : Int

inductive SendEnd
  | complete
  | late
  | failed
deriving DecidableEq

def sendLoop (deadline closedAt : Int) : List Sent → Int → SendEnd
  | [], remaining =>
      if remaining ≤ 0 then .complete
      else if deadline ≤ closedAt then .late
      else .failed
  | turn :: turns, remaining =>
      if remaining ≤ 0 then .complete
      else if deadline ≤ turn.now then .late
      else if turn.sent ≤ 0 then .failed
      else sendLoop deadline closedAt turns (remaining - turn.sent)

def maxResponseBytes : Nat := 8 * 1024 * 1024

/-- The receive loop: the response, and whether it exceeds the cap. -/
def recvLoop (deadline closedAt : Int) : List Received → ByteString → ByteString × Bool
  | [], response =>
      if deadline ≤ closedAt then (response ++ cString deadlineLiteral, false)
      else (response, false)
  | turn :: turns, response =>
      if deadline ≤ turn.now then (response ++ cString deadlineLiteral, false)
      else if maxResponseBytes < (response ++ turn.bytes).length then
        (response ++ turn.bytes, true)
      else recvLoop deadline closedAt turns (response ++ turn.bytes)

def Exchange.connects (exchange : Exchange) : Bool :=
  exchange.resolved && exchange.opened && exchange.connected && exchange.socketError = 0

/-- `static_cast<int>(request_str.size())` -/
def requestLength (request : ByteString) : Int :=
  (Int32.ofNat request.length).toInt

/-- What `call_ollama_api` returns for a request that is built. -/
def Exchange.answer (timeoutMs : Int) (request : ByteString) (exchange : Exchange) :
    ByteString :=
  let deadline := exchange.startedAt + timeoutMs
  if exchange.connects = false then []
  else
    match sendLoop deadline exchange.closedAt exchange.sends (requestLength request) with
    | .failed => []
    | .late => (0 : UInt8) :: ("DEADLINE" : ByteString)
    | .complete =>
        let (response, sizeExceeded) :=
          recvLoop deadline exchange.closedAt exchange.recvs []
        if sizeExceeded then cString truncatedLiteral
        else (ByteString.behind? "\r\n\r\n" response).getD []

structure GraniteClient where
  host : ByteString := "127.0.0.1"
  port : UInt16 := 11434
  inflightFast : Int32 := 0
  inflightHeavy : Int32 := 0
  inflightAccuracy : Int32 := 0
deriving DecidableEq

/-- The arguments of a `generate` call. -/
structure Call where
  model : GraniteModel
  systemPrompt : ByteString
  userPrompt : ByteString
  maxTokens : Int32 := 256
  temperature : Double := .finite (5404319552844595 / 18014398509481984)

def requestBody (tag : ByteString) (call : Call) : Json := .object
  [("messages", .array
      [.object [("content", .string call.systemPrompt), ("role", .string "system")],
        .object [("content", .string call.userPrompt), ("role", .string "user")]]),
    ("model", .string tag),
    ("options", .object
      [("num_predict", .numberInteger call.maxTokens.toInt),
        ("temperature", .numberFloat call.temperature)]),
    ("stream", .boolean false)]

namespace GraniteClient

variable {σ : Type} (json : Json.Library) (auditAdder : AuditAdder σ)

/-- The counter that a tier shares with its physical model. -/
def inflight (model : GraniteModel) (self : GraniteClient) : Int32 :=
  match model with
  | .fast => self.inflightFast
  | .heavy => self.inflightHeavy
  | .accuracy | .orchestrator => self.inflightAccuracy

def addInflight (d : Int32) (model : GraniteModel) (self : GraniteClient) : GraniteClient :=
  match model with
  | .fast => { self with inflightFast := self.inflightFast + d }
  | .heavy => { self with inflightHeavy := self.inflightHeavy + d }
  | .accuracy | .orchestrator => { self with inflightAccuracy := self.inflightAccuracy + d }

def incrementInflight (model : GraniteModel) (self : GraniteClient) : GraniteClient :=
  self.addInflight 1 model

def decrementInflight (model : GraniteModel) (self : GraniteClient) : GraniteClient :=
  self.addInflight (-1) model

def keepAliveTiers : List GraniteModel :=
  [.fast, .heavy, .accuracy]

def skipsKeepAlive (tier : GraniteModel) (self : GraniteClient) : Bool :=
  0 < self.inflight tier

/-- The tiers that one round of the keep-alive loop pings. -/
def keepAliveRound (self : GraniteClient) : List GraniteModel :=
  keepAliveTiers.filter fun tier => !self.skipsKeepAlive tier

/-- The HTTP request, `none` when serializing its body throws. -/
def request? (tag : ByteString) (call : Call) (self : GraniteClient) : Option ByteString := do
  let body ← json.dump (requestBody tag call)
  return ("POST /api/chat HTTP/1.0\r\n" : ByteString) ++
    ("Host: " : ByteString) ++ self.host ++ (":" : ByteString) ++
    ByteString.decimal self.port.toNat ++ ("\r\n" : ByteString) ++
    ("Content-Type: application/json\r\n" : ByteString) ++
    ("Content-Length: " : ByteString) ++ ByteString.decimal body.length ++
    ("\r\n" : ByteString) ++ ("Connection: close\r\n" : ByteString) ++
    ("\r\n" : ByteString) ++ body

def callOllamaApi (tag : ByteString) (timeoutMs : Int) (exchange : Exchange) (call : Call)
    (self : GraniteClient) : Option ByteString :=
  (self.request? json tag call).map (exchange.answer timeoutMs)

/-- The prompts as they are sent: an orchestrator prompt gets its prefix. -/
def effective (call : Call) : Call :=
  if call.model = .orchestrator then
    { call with systemPrompt := orchestratorPromptPrefix ++ call.systemPrompt }
  else call

def auditPrefix (call : Call) (world : σ) : σ :=
  if call.model = .orchestrator then
    (auditAdder "orchestrator_prefix_injected"
      (("agent_prompt_len=" : ByteString) ++ ByteString.decimal call.systemPrompt.length)
      world).2
  else world

/-- The text of a reply without key `error`, empty when it has none; `none` where
`get` throws. -/
def replyText? (j : Json) : Option ByteString :=
  match (j.member? "message").bind (Json.member? "content") with
  | some content => content.getString?
  | none =>
      match j.member? "response" with
      | some response => response.getString?
      | none => some []

/-- The reply that is parsed in the `try` block. -/
def readReply (tag raw : ByteString) : GraniteResponse :=
  match json.parse raw with
  | none => { ok := false, modelUsed := "parse_error" }
  | some j =>
      if j.contains "error" then { ok := false, modelUsed := "unavailable" }
      else
        match replyText? j with
        | none => { ok := false, modelUsed := "parse_error" }
        | some text =>
            if text = [] then { ok := false, modelUsed := "unavailable" }
            else
              match j.value? Json.getInt32? "eval_count" 0 with
              | none => { ok := false, text := text, modelUsed := "parse_error" }
              | some tokens =>
                  { ok := true, text := text, modelUsed := tag, tokensUsed := some tokens }

/-- `generate` behind the call of `call_ollama_api`. -/
def classify (model : GraniteModel) (raw : ByteString) (self : GraniteClient) (world : σ) :
    GraniteResponse × GraniteClient × σ :=
  let tag := model.tag
  if raw = [] then ({ ok := false, modelUsed := "unavailable" }, self, world)
  else if (ByteString.findText (cString truncatedLiteral) raw).isSome then
    ({ ok := false, modelUsed := "truncated_response" }, self,
      (auditAdder "ollama_response_truncated"
        (("model=" : ByteString) ++ tag ++ (" reason=max_size_exceeded" : ByteString))
        world).2)
  else if (ByteString.findText (cString deadlineLiteral) raw).isSome then
    ({ ok := false, modelUsed := "timeout" }, self,
      (auditAdder "ollama_response_timeout" (("model=" : ByteString) ++ tag) world).2)
  else (readReply json tag raw, self.decrementInflight model, world)

/-- `generate` behind `increment_inflight`: no response when an exception leaves it. -/
def finish (exchange : Exchange) (call : Call) (self : GraniteClient) (world : σ) :
    Option GraniteResponse × GraniteClient × σ :=
  let world := auditPrefix auditAdder call world
  match self.callOllamaApi json call.model.tag call.model.timeout exchange (effective call) with
  | none => (none, self, world)
  | some raw =>
      let (resp, self, world) := classify json auditAdder call.model raw self world
      (some resp, self, world)

def generate (exchange : Exchange) (call : Call) (self : GraniteClient) (world : σ) :
    Option GraniteResponse × GraniteClient × σ :=
  if isAllowedModel call.model.tag = false then
    (some { ok := false, modelUsed := "rejected" }, self,
      (auditAdder "ai_model_rejected" (("requested=" : ByteString) ++ call.model.tag ++
        (" reason=not_local_granite" : ByteString)) world).2)
  else finish json auditAdder exchange call (self.incrementInflight call.model) world

end GraniteClient

end Astartis.Granite
