import Astartis.Json
import Astartis.RuleEngine

namespace Astartis.Ai

open Chaos
open Rules
open Threat

structure TriageInput where
  eventType : ByteString
  source : ByteString
  score : Int
  rawDetail : ByteString

structure FastResult where
  route : ByteString
  severityHint : ByteString
  confidence : Double
  modelUsed : ByteString
  timedOut : Bool
  parseOk : Bool

structure HeavyResult where
  severity : ByteString
  rationale : ByteString
  mitreTechnique : ByteString
  modelUsed : ByteString
  timedOut : Bool
  parseOk : Bool

structure TriageResult where
  input : TriageInput
  fast : FastResult
  heavy : Option HeavyResult
  modelSuggestedTier : ThreatTier
  finalTier : ThreatTier
  ruleEngineOverrode : Bool
  auditEntryId : ByteString

/-- The JSON library, and the exchange with the model server: the pieces received
for a request before the timeout, none when the request cannot be delivered. -/
structure Services where
  json : Json.Library
  exchange : ByteString → UInt16 → ByteString → Int → List ByteString

structure AiTriage where
  host : ByteString := "127.0.0.1"
  port : UInt16 := 11434

def fastModel : ByteString := "granite3.1-moe:3b"

def heavyModel : ByteString := "granite3.1-dense:8b"

def fastTimeoutMs : Int := 15000

def heavyTimeoutMs : Int := 90000

/-- `0.70` as a double. -/
def escalateConfidenceThreshold : Double :=
  .finite (6305039478318694 / 9007199254740992)

/-- `call_ollama`: the body of the reply, `none` when serializing the request throws. -/
def AiTriage.callOllama (services : Services) (self : AiTriage) (model prompt : ByteString)
    (timeoutMs : Int) : Option ByteString := do
  let body ← services.json.dump <| .object
    [("model", .string model),
      ("options", .object [("num_predict", .numberInteger 128)]),
      ("prompt", .string prompt),
      ("stream", .boolean false)]
  let request := ("POST /api/generate HTTP/1.0\r\n" : ByteString) ++
    ("Host: " : ByteString) ++ self.host ++ (":" : ByteString) ++
    ByteString.decimal self.port.toNat ++ ("\r\n" : ByteString) ++
    ("Content-Type: application/json\r\n" : ByteString) ++
    ("Content-Length: " : ByteString) ++ ByteString.decimal body.length ++
    ("\r\n" : ByteString) ++ ("Connection: close\r\n" : ByteString) ++
    ("\r\n" : ByteString) ++ body
  -- every received piece is appended as a C string, so it ends at its first zero byte
  let response := (services.exchange self.host self.port request timeoutMs).flatMap
    (List.takeWhile (· ≠ 0))
  return (ByteString.behind? "\r\n\r\n" response).getD []

def extractResponse (json : Json.Library) (ollamaJson : ByteString) : ByteString :=
  match json.parse ollamaJson with
  | none => []
  | some j => (j.value? Json.getString? "response" []).getD []

/-- The text from the first `{` to the last `}`, with the length in `size_t`. -/
def jsonSpan? (modelJson : ByteString) : Option ByteString := do
  let start ← ByteString.find 123 modelJson
  let stop ← ByteString.rfind 125 modelJson
  return ByteString.substr modelJson start ((stop + 2 ^ 64 + 1 - start) % 2 ^ 64)

/-- `parse_fast`.  The fields are assigned one after the other, so an exception
keeps the fields in front of it. -/
def parseFast (json : Json.Library) (modelJson modelTag : ByteString) (timedOut : Bool) :
    FastResult :=
  let r : FastResult :=
    { route := "handle"
      severityHint := "LOW"
      confidence := .finite 0
      modelUsed := modelTag
      timedOut := timedOut
      parseOk := false }
  if timedOut ∨ modelJson = [] then
    { r with modelUsed := if timedOut then "fallback_timeout" else "fallback_unavailable" }
  else
    match (jsonSpan? modelJson).bind json.parse with
    | none => r
    | some j =>
        match j.value? Json.getString? "route" "handle" with
        | none => r
        | some route =>
            let r := { r with route := route }
            match j.value? Json.getString? "severity_hint" "LOW" with
            | none => r
            | some severityHint =>
                let r := { r with severityHint := severityHint }
                match j.value? Json.getDouble? "confidence" (.finite (1 / 2)) with
                | none => r
                | some confidence => { r with confidence := confidence, parseOk := true }

def parseHeavy (json : Json.Library) (modelJson modelTag : ByteString) (timedOut : Bool) :
    HeavyResult :=
  let r : HeavyResult :=
    { severity := "LOW"
      rationale := ""
      mitreTechnique := ""
      modelUsed := modelTag
      timedOut := timedOut
      parseOk := false }
  if timedOut ∨ modelJson = [] then
    { r with modelUsed := if timedOut then "fallback_timeout" else "fallback_unavailable" }
  else
    match (jsonSpan? modelJson).bind json.parse with
    | none => r
    | some j =>
        match j.value? Json.getString? "severity" "LOW" with
        | none => r
        | some severity =>
            let r := { r with severity := severity }
            match j.value? Json.getString? "rationale" "" with
            | none => r
            | some rationale =>
                let r := { r with rationale := rationale }
                match j.value? Json.getString? "mitre_technique" "" with
                | none => r
                | some mitreTechnique =>
                    { r with mitreTechnique := mitreTechnique, parseOk := true }

def severityToTier (s : ByteString) : ThreatTier :=
  if s = ("CRITICAL" : ByteString) then .critical
  else if s = ("HIGH" : ByteString) then .high
  else if s = ("MEDIUM" : ByteString) then .medium
  else .low

def tierToScore : ThreatTier → Int
  | .critical => 90
  | .high => 76
  | .medium => 50
  | .low => 10

def eventText (input : TriageInput) : ByteString :=
  ("Event: type=" : ByteString) ++ input.eventType ++
    (" source=" : ByteString) ++ input.source ++
    (" score=" : ByteString) ++ ByteString.decimal input.score ++
    (" detail=" : ByteString) ++ ByteString.substr input.rawDetail 0 200

def fastPrompt (input : TriageInput) : ByteString :=
  ("You are a security triage classifier. " : ByteString) ++
    ("Reply ONLY with a single valid JSON object, no other text. " : ByteString) ++
    ("Schema: \x7b\"route\":\"handle|escalate|ignore\"," : ByteString) ++
    ("\"severity_hint\":\"LOW|MEDIUM|HIGH|CRITICAL\"," : ByteString) ++
    ("\"confidence\":0.0-1.0\x7d\n" : ByteString) ++ eventText input

def heavyPrompt (input : TriageInput) (fast : FastResult) : ByteString :=
  ("You are a senior security analyst. " : ByteString) ++
    ("Reply ONLY with a single valid JSON object, no other text. " : ByteString) ++
    ("Schema: \x7b\"severity\":\"LOW|MEDIUM|HIGH|CRITICAL\"," : ByteString) ++
    ("\"rationale\":\"one sentence\"," : ByteString) ++
    ("\"mitre_technique\":\"Txxxx or empty\"\x7d\n" : ByteString) ++ eventText input ++
    ("\nFast-tier hint: severity=" : ByteString) ++ fast.severityHint ++
    (" confidence=" : ByteString) ++ fast.confidence.toStream

def FastResult.callHeavy (fast : FastResult) : Bool :=
  fast.route = ("escalate" : ByteString) ||
    Double.lt fast.confidence escalateConfidenceThreshold || !fast.parseOk

/-- Steps 1 and 2: the parsed replies of the two models, `none` when an exception
leaves `triage`. -/
def AiTriage.consult (services : Services) (self : AiTriage) (input : TriageInput) :
    Option (FastResult × Option HeavyResult) := do
  let fastRaw ← self.callOllama services fastModel (fastPrompt input) fastTimeoutMs
  let fast := parseFast services.json (extractResponse services.json fastRaw) fastModel
    (fastRaw = [])
  if fast.callHeavy then
    let heavyRaw ← self.callOllama services heavyModel (heavyPrompt input fast) heavyTimeoutMs
    let heavy := parseHeavy services.json (extractResponse services.json heavyRaw) heavyModel
      (heavyRaw = [])
    return (fast, some heavy)
  else
    return (fast, none)

def parsedHeavy? (heavy : Option HeavyResult) : Option HeavyResult :=
  heavy.filter HeavyResult.parseOk

def modelSuggestedTier (fast : FastResult) (heavy : Option HeavyResult) : ThreatTier :=
  match parsedHeavy? heavy with
  | some heavy => severityToTier heavy.severity
  | none => severityToTier fast.severityHint

def modelUsable (fast : FastResult) (heavy : Option HeavyResult) : Bool :=
  fast.parseOk || (parsedHeavy? heavy).isSome

def scoreForRuleEngine (input : TriageInput) (fast : FastResult) (heavy : Option HeavyResult) :
    Int :=
  let advisoryScore := tierToScore (modelSuggestedTier fast heavy)
  if modelUsable fast heavy = false ∨ input.score > advisoryScore then input.score
  else advisoryScore

/-- Steps 3 to 5: evaluate the replies against the rule engine and audit. -/
def conclude {σ : Type} (wiring : Wiring σ) (input : TriageInput) (fast : FastResult)
    (heavy : Option HeavyResult) (engine : Engine σ) : TriageResult × Engine σ :=
  let suggested := modelSuggestedTier fast heavy
  let (_, engine) := engine.evaluateThreatScore wiring
    (scoreForRuleEngine input fast heavy) "ai_triage"
  let engineTier := engine.currentTier
  let finalTier := if engineTier.toInt ≥ suggested.toInt then engineTier else suggested
  let overrode : Bool := finalTier ≠ suggested
  let payload := ("event_type=" : ByteString) ++ input.eventType ++
    (" score=" : ByteString) ++ ByteString.decimal input.score ++
    (" fast_route=" : ByteString) ++ fast.route ++
    (" fast_severity=" : ByteString) ++ fast.severityHint ++
    (" fast_confidence=" : ByteString) ++ fast.confidence.toStream ++
    (" fast_model=" : ByteString) ++ fast.modelUsed ++
    (" heavy_ran=" : ByteString) ++ boolText heavy.isSome ++
    (match heavy with
    | none => []
    | some heavy =>
        (" heavy_severity=" : ByteString) ++ heavy.severity ++
          (" heavy_model=" : ByteString) ++ heavy.modelUsed ++
          (" mitre=" : ByteString) ++ heavy.mitreTechnique) ++
    (" model_suggested=" : ByteString) ++ ByteString.decimal suggested.toInt ++
    (" final_tier=" : ByteString) ++ ByteString.decimal finalTier.toInt ++
    (" overrode=" : ByteString) ++ boolText overrode
  let (auditEntryId, world) := wiring.rules.auditAdder "ai_triage" payload engine.world
  ({ input := input
     fast := fast
     heavy := heavy
     modelSuggestedTier := suggested
     finalTier := finalTier
     ruleEngineOverrode := overrode
     auditEntryId := auditEntryId },
    { engine with world := world })

def AiTriage.triage {σ : Type} (services : Services) (wiring : Wiring σ) (self : AiTriage)
    (input : TriageInput) (engine : Engine σ) : Option (TriageResult × Engine σ) := do
  let (fast, heavy) ← self.consult services input
  return conclude wiring input fast heavy engine

end Astartis.Ai
