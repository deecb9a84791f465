import Astartis.FirewallBlocker
import Astartis.Json
import Astartis.Regex

namespace Astartis

namespace PolicyEngine

def firewallBlockAgents : List ByteString :=
  ["incident_responder", "breach_simulator", "red_team_coord", "ransomware_hunter"]

def quarantineAgents : List ByteString :=
  ["malware_analyst", "forensics_agent", "forensics_investigator", "threat_hunter"]

def deceptionAgents : List ByteString :=
  ["deception_engineer", "purple_team"]

def zerotrustDenyAgents : List ByteString :=
  ["zero_trust_engineer", "iam_privilege_auditor"]

def canBlockFirewall (agentName : ByteString) : Bool :=
  firewallBlockAgents.contains agentName

def canQuarantine (agentName : ByteString) : Bool :=
  quarantineAgents.contains agentName

def canDeceive (agentName : ByteString) : Bool :=
  deceptionAgents.contains agentName

def canZerotrustDeny (agentName : ByteString) : Bool :=
  zerotrustDenyAgents.contains agentName

def maxConcurrentBlocks : Nat := 100

/-- The future escalation gate, which nothing consults. -/
def requireHumanApproval (_actionType : ByteString) : Bool := false

end PolicyEngine

namespace ActionDispatcher

open Audit
open Firewall
open PolicyEngine

structure DispatchResult where
  actionTaken : Bool := false
  actionType : ByteString := "advisory"
  target : ByteString := []
  auditEntryId : ByteString := []
  errorMessage : ByteString := []
deriving DecidableEq

inductive TrustDecision
  | allow
  | deny
  | quarantine
  | mfaRequired
  | limited
deriving DecidableEq

def decisionStr : TrustDecision → ByteString
  | .allow => "ALLOW"
  | .deny => "DENY"
  | .quarantine => "QUARANTINE"
  | .mfaRequired => "MFA_REQUIRED"
  | .limited => "LIMITED"

structure AccessContext where
  userId : ByteString
  deviceId : ByteString
  sourceIp : ByteString
  destinationIp : ByteString
  requestedResource : ByteString
  ssidName : ByteString
  trustScore : Int32
deriving DecidableEq

/-- The protective components and the audit chain, over the state they work on.
Quarantine answers with an entry id and the active response with its tier. -/
structure Effectors (σ : Type) where
  block : ByteString → Int32 → σ → BlockResult × σ
  quarantineFile : ByteString → ByteString → σ → ByteString × σ
  serve : ByteString → ByteString → ByteString → σ → Int32 × σ
  evaluate : AccessContext → σ → TrustDecision × σ
  auditAdder : AuditAdder σ

/-- The JSON library, and the texts on which the matcher of the standard library gives up
with an exception. -/
structure Texts where
  json : Json.Library
  givesUp : Regex → ByteString → Bool

def safePrefixes : List ByteString :=
  ["192.168.", "10.", "172.16.", "172.17.", "172.18.", "172.19.", "172.20.", "172.21.",
    "172.22.", "172.23.", "172.24.", "172.25.", "172.26.", "172.27.", "172.28.", "172.29.",
    "172.30.", "172.31."]

def isSafeIp (ip : ByteString) : Bool :=
  ip = ("127.0.0.1" : ByteString) || ip = ("::1" : ByteString) ||
    ip = ("0.0.0.0" : ByteString) ||
    (("::" : ByteString).isPrefixOf ip && ip.length < 6) ||
    safePrefixes.any fun safePrefix => safePrefix.isPrefixOf ip

section Patterns

open Regex

/-- `\b((?:[0-9]\x7b1,3\x7d\.)\x7b3\x7d[0-9]\x7b1,3\x7d)\b` -/
def ipRe : Regex :=
  .sequence .wordBoundary <| .sequence
    (.repeated (.sequence (.repeated (.byte isDigit) 1 3) (literal ".")) 3 3) <|
    .sequence (.repeated (.byte isDigit) 1 3) .wordBoundary

/-- `[^\s\"'<>|*?]` -/
def isPathByte (b : UInt8) : Bool :=
  !isSpace b && b ≠ 34 && b ≠ 39 && b ≠ 60 && b ≠ 62 && b ≠ 124 && b ≠ 42 && b ≠ 63

/-- `[A-Za-z]:\\[^\s\"'<>|*?]+\.[a-zA-Z0-9]\x7b1,6\x7d` in a text of this length. -/
def pathRe (length : Nat) : Regex :=
  .sequence (.byte isLetter) <| .sequence (literal ":\\") <|
    .sequence (.repeated (.byte isPathByte) 1 length) <| .sequence (literal ".") <|
    .repeated (.byte fun b => isLetter b || isDigit b) 1 6

/-- `\b(sess(?:ion)?_?\w\x7b3,20\x7d)\b` without regard to case. -/
def sessRe : Regex :=
  .sequence .wordBoundary <| .sequence (literalIcase "sess") <|
    .sequence (.optional (literalIcase "ion")) <| .sequence (.optional (literal "_")) <|
    .sequence (.repeated (.byte isWord) 3 20) .wordBoundary

/-- `[0-9a-fA-F]\x7b2\x7d(?::[0-9a-fA-F]\x7b2\x7d)\x7b5\x7d` -/
def macRe : Regex :=
  .sequence (.repeated (.byte isHexDigit) 2 2)
    (.repeated (.sequence (literal ":") (.repeated (.byte isHexDigit) 2 2)) 5 5)

end Patterns

section Extract

variable (texts : Texts)

/-- The first match, empty when there is none; `none` where the matcher throws. -/
def regexSearch (r : Regex) (text : ByteString) : Option ByteString :=
  if texts.givesUp r text then none else some ((r.search text).getD [])

def extractIpv4 (text : ByteString) : Option ByteString :=
  if texts.givesUp ipRe text then none
  else some (((ipRe.matchTexts text).find? fun ip => !isSafeIp ip).getD [])

def extractFilepath (text : ByteString) : Option ByteString :=
  regexSearch texts (pathRe text.length) text

/-- The text of an array element: a string as it is, anything else serialized. -/
def elementText (element : Json) : Option ByteString :=
  match element with
  | .string s => some s
  | other => texts.json.dump other

/-- The loop over an array, up to the first element with something to extract. -/
def firstExtracted (extract : ByteString → Option ByteString) :
    List Json → Option ByteString
  | [] => some []
  | element :: rest => do
      let found ← extract (← elementText texts element)
      if found = [] then firstExtracted extract rest else return found

/-- The scan of a member: an array element by element, and a string where the source
takes one. -/
def scanMember (extract : ByteString → Option ByteString) (takesString : Bool)
    (key : ByteString) (j : Json) : Option ByteString :=
  match j.member? key with
  | some (.array elements) => firstExtracted texts extract elements
  | some (.string s) => if takesString then extract s else some []
  | _ => some []

/-- The two passes over an output: the structured members, in which an exception is
caught, and then the raw text. -/
def scanOutput (extract : ByteString → Option ByteString) (first second : ByteString)
    (outputJson : ByteString) : Option ByteString :=
  let structured := do
    let j ← texts.json.parse outputJson
    let found ← scanMember texts extract true first j
    if found = [] then scanMember texts extract false second j else return found
  if structured.getD [] = [] then extract outputJson else structured

/-- The first match in the first element of an array member. -/
def firstElementMatch (r : Regex) (key : ByteString) (j : Json) : Option ByteString :=
  match j.member? key with
  | some (.array (element :: _)) => do regexSearch texts r (← elementText texts element)
  | _ => some []

def sessionOf (outputJson : ByteString) : ByteString :=
  ((texts.json.parse outputJson).bind
    (firstElementMatch texts sessRe "eradication_steps")).getD []

/-- The device and the resource that an output names.  The device is set before the
score is read, so it stays when that throws. -/
def deviceOf (outputJson : ByteString) : ByteString × ByteString :=
  match texts.json.parse outputJson with
  | none => ([], [])
  | some j =>
      match firstElementMatch texts macRe "recovery_checklist" j with
      | none => ([], [])
      | some deviceId =>
          if j.contains "zt_score" = true ∧ deviceId = [] then
            ("device_ai_flagged", (j.value? Json.getString? "zt_score" []).getD [])
          else (deviceId, [])

end Extract

variable {σ : Type} (texts : Texts) (effectors : Effectors σ)

/-- What an attempt returns: whether the action was taken, with the result it filled in,
or nothing when an exception leaves it. -/
abbrev Attempt (σ : Type) := DispatchResult → σ → Option (Bool × DispatchResult) × σ

def boolText (b : Bool) : ByteString :=
  if b then "true" else "false"

def tryFirewallBlock (outputJson agentName : ByteString) : Attempt σ := fun out world =>
  if canBlockFirewall agentName = false then (some (false, out), world)
  else
    match scanOutput texts (extractIpv4 texts) "containment_actions" "iocs_found"
        outputJson with
    | none => (none, world)
    | some [] => (some (false, out), world)
    | some targetIp =>
        let (br, world) := effectors.block targetIp 900 world
        let (auditEntryId, world) := effectors.auditAdder "action_dispatcher_firewall"
          (("agent=" : ByteString) ++ agentName ++ (" ip=" : ByteString) ++ targetIp ++
            (" blocked=" : ByteString) ++ boolText br.blocked ++
            (" reason=" : ByteString) ++ br.reason) world
        (some (br.blocked,
          { actionTaken := br.blocked
            actionType := "firewall_block"
            target := targetIp
            auditEntryId := auditEntryId
            errorMessage := if br.blocked then [] else br.reason }), world)

def tryQuarantine (outputJson agentName : ByteString) : Attempt σ := fun out world =>
  if canQuarantine agentName = false then (some (false, out), world)
  else
    match scanOutput texts (extractFilepath texts) "recommended_detections"
        "eradication_steps" outputJson with
    | none => (none, world)
    | some [] => (some (false, out), world)
    | some filepath =>
        let (entryId, world) := effectors.quarantineFile filepath
          (("AI-flagged by " : ByteString) ++ agentName) world
        let success : Bool := entryId ≠ []
        let (auditEntryId, world) := effectors.auditAdder "action_dispatcher_quarantine"
          (("agent=" : ByteString) ++ agentName ++ (" path=" : ByteString) ++ filepath ++
            (" ok=" : ByteString) ++ boolText success) world
        (some (success,
          { actionTaken := success
            actionType := "quarantine"
            target := filepath
            auditEntryId := auditEntryId
            errorMessage :=
              if success then [] else "Quarantine failed (file may not exist)" }), world)

def tryDeception (outputJson agentName : ByteString) : Attempt σ := fun out world =>
  if canDeceive agentName = false then (some (false, out), world)
  else
    let found := sessionOf texts outputJson
    let sessionId :=
      if found = [] then ("session_ai_" : ByteString) ++ agentName else found
    let (tier, world) := effectors.serve sessionId "/ai_triggered" agentName world
    let (auditEntryId, world) := effectors.auditAdder "action_dispatcher_deception"
      (("agent=" : ByteString) ++ agentName ++ (" session=" : ByteString) ++ sessionId ++
        (" tier=" : ByteString) ++ ByteString.decimal tier.toInt) world
    (some (true,
      { actionTaken := true
        actionType := "deception"
        target := sessionId
        auditEntryId := auditEntryId }), world)

def tryZerotrustDeny (outputJson agentName : ByteString) : Attempt σ := fun out world =>
  if canZerotrustDeny agentName = false then (some (false, out), world)
  else
    let (found, resource) := deviceOf texts outputJson
    let deviceId := if found = [] then ("device_ai_" : ByteString) ++ agentName else found
    let ctx : AccessContext :=
      { userId := agentName ++ ("_assessment" : ByteString)
        deviceId := deviceId
        sourceIp := "0.0.0.0"
        destinationIp := "10.0.200.1"
        requestedResource := if resource = [] then "/ai_flagged_resource" else resource
        ssidName := "ENTERPRISE"
        trustScore := 0 }
    let (decision, world) := effectors.evaluate ctx world
    let denied : Bool := decision = .deny || decision = .quarantine
    let (auditEntryId, world) := effectors.auditAdder "action_dispatcher_zerotrust"
      (("agent=" : ByteString) ++ agentName ++ (" device=" : ByteString) ++ deviceId ++
        (" decision=" : ByteString) ++ decisionStr decision) world
    (some (denied,
      { actionTaken := denied
        actionType := "zerotrust_deny"
        target := deviceId
        auditEntryId := auditEntryId
        errorMessage :=
          if denied then []
          else ("ZeroTrust did not DENY (decision: " : ByteString) ++
            decisionStr decision ++ (")" : ByteString) }), world)

/-- The attempts one after the other, up to the first that takes its action. -/
def firstTaken : List (Attempt σ) → Attempt σ
  | [], out, world => (some (false, out), world)
  | attempt :: rest, out, world =>
      match attempt out world with
      | (none, world) => (none, world)
      | (some (true, out), world) => (some (true, out), world)
      | (some (false, out), world) => firstTaken rest out world

/-- `dispatch`, without a result when an exception leaves it. -/
def dispatch (agentName agentOutputJson : ByteString) (world : σ) :
    Option DispatchResult × σ :=
  if agentOutputJson = [] then (some { errorMessage := "empty agent output" }, world)
  else
    let attempts := [tryFirewallBlock texts effectors agentOutputJson agentName,
      tryQuarantine texts effectors agentOutputJson agentName,
      tryDeception texts effectors agentOutputJson agentName,
      tryZerotrustDeny texts effectors agentOutputJson agentName]
    match firstTaken attempts {} world with
    | (none, world) => (none, world)
    | (some (true, result), world) => (some result, world)
    | (some (false, result), world) =>
        let (auditEntryId, world) := effectors.auditAdder "action_dispatcher_advisory"
          (("agent=" : ByteString) ++ agentName ++
            (" reason=no_actionable_output" : ByteString)) world
        (some { result with auditEntryId := auditEntryId }, world)

/-- The addresses that are extracted can be blocked. -/
theorem extractIpv4_not_isSafeIp {text ip : ByteString}
    (hip : extractIpv4 texts text = some ip) (hfound : ip ≠ []) : isSafeIp ip = false := by
  simp only [extractIpv4] at hip
  split at hip
  · simp at hip
  · cases hfind : (ipRe.matchTexts text).find? fun ip => !isSafeIp ip with
    | none =>
        rw [hfind] at hip
        exact absurd (Option.some.inj hip).symm hfound
    | some found =>
        rw [hfind] at hip
        obtain rfl := Option.some.inj hip
        simpa using List.find?_some hfind

end ActionDispatcher

end Astartis
