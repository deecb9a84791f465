import Astartis.ByteSearch
import Astartis.DataProvider
import Astartis.FieldText
import Astartis.NacWorkflow
import Astartis.StdinLoop
import Astartis.ZeroTrustEngine

/-!
The access decisions of `zerotrust_evaluate` and `nac_simulate_device` on their way through the
audit chain to the dashboard.
-/

namespace Astartis.Dashboard

open ActionDispatcher
open Audit
open ByteString
open FieldText

/-! The commands of the bridge, with what they append to the chain. -/

section Commands

variable {σ : Type}

/-- `result_str` -/
def resultStr : NacWorkflow.NacResult → ByteString
  | .allowFull => "ALLOW_FULL"
  | .allowLimited => "ALLOW_LIMITED"
  | .mfaRequired => "MFA_REQUIRED"
  | .quarantine => "QUARANTINE"
  | .deny => "DENY"

def nacPayload (req : NacWorkflow.AccessRequest) (decision : NacWorkflow.NacDecision) :
    ByteString :=
  ("device=" : ByteString) ++ req.deviceName ++ (" ssid=" : ByteString) ++ req.ssidName ++
    (" user=" : ByteString) ++ req.identity.username ++ (" result=" : ByteString) ++
    resultStr decision.result

def stepJson (step : NacWorkflow.StepResult × Nat) : Json :=
  .object
    [("detail", .string step.1.detail),
      ("duration_ms", .numberInteger step.1.durationMs),
      ("passed", .boolean step.1.passed),
      ("step", .numberInteger (step.2 + 1))]

/-- `nac_simulate_device`, with the event it emits. -/
def nacSimulateDevice (auditAdder : AuditAdder σ) (req : NacWorkflow.AccessRequest) (world : σ) :
    Json × σ :=
  let steps := NacWorkflow.processVerbose req
  let decision := NacWorkflow.process req
  let (_, world) := auditAdder "nac_simulate" (nacPayload req decision) world
  (.object
    [("data", .object
      [("accessible_resources", .array (decision.accessibleResources.map .string)),
        ("assigned_role", .string decision.assignedRole),
        ("assigned_vlan", .string decision.assignedVlan),
        ("device_mac", .string req.deviceMac),
        ("device_name", .string req.deviceName),
        ("reauth_interval_s", .numberInteger decision.reauthInterval),
        ("remediation_reason", .string decision.remediationReason),
        ("result", .string (resultStr decision.result)),
        ("ssid_name", .string req.ssidName),
        ("steps", .array (steps.zipIdx.map stepJson))]),
      ("event", .string "nac_result")], world)

/-- The arguments of `zerotrust_evaluate`. -/
structure AccessQuery where
  userId : ByteString
  deviceId : ByteString
  sourceIp : ByteString
  destinationIp : ByteString
  requestedResource : ByteString
  ssidName : ByteString
deriving DecidableEq

def AccessQuery.unscored (query : AccessQuery) : AccessContext :=
  ⟨query.userId, query.deviceId, query.sourceIp, query.destinationIp, query.requestedResource,
    query.ssidName, 0⟩

def AccessQuery.context (query : AccessQuery) : AccessContext :=
  { query.unscored with
    trustScore := .ofInt (ZeroTrustEngine.calculateTrustScore query.unscored) }

/-- The engine gets an adder of its own, which leaves the chain alone. -/
def AccessQuery.trustDecision (query : AccessQuery) : TrustDecision :=
  (ZeroTrustEngine.evaluate (fun k v (world : Unit) => (k ++ (":" : ByteString) ++ v, world))
    query.context ()).1

def zeroTrustPayload (ctx : AccessContext) (decision : TrustDecision) : ByteString :=
  ("user=" : ByteString) ++ ctx.userId ++ (" src=" : ByteString) ++ ctx.sourceIp ++
    (" dst=" : ByteString) ++ ctx.destinationIp ++ (" resource=" : ByteString) ++
    ctx.requestedResource ++ (" decision=" : ByteString) ++ decisionStr decision

/-- `zerotrust_evaluate`, with the event it emits. -/
def zerotrustEvaluate (auditAdder : AuditAdder σ) (query : AccessQuery) (world : σ) :
    Json × σ :=
  let ctx := query.context
  let decision := query.trustDecision
  let (_, world) := auditAdder "zerotrust_evaluate" (zeroTrustPayload ctx decision) world
  (.object
    [("data", .object
      [("decision", .string (decisionStr decision)),
        ("destination_ip", .string ctx.destinationIp),
        ("device_id", .string ctx.deviceId),
        ("requested_resource", .string ctx.requestedResource),
        ("source_ip", .string ctx.sourceIp),
        ("ssid_name", .string ctx.ssidName),
        ("trust_score", .numberInteger (ZeroTrustEngine.calculateTrustScore query.unscored)),
        ("user_id", .string ctx.userId)]),
      ("event", .string "zerotrust_result")], world)

inductive AccessCommand
  | zerotrustEvaluate (query : AccessQuery)
  | nacSimulateDevice (req : NacWorkflow.AccessRequest)

namespace AccessCommand

/-- The line of stdin that is one of the two commands. -/
def ofRequest? : Stdin.Request → Option AccessCommand
  | .zerotrustEvaluate userId deviceId sourceIp destinationIp requestedResource ssidName =>
      some (.zerotrustEvaluate
        ⟨userId, deviceId, sourceIp, destinationIp, requestedResource, ssidName⟩)
  | .nacSimulateDevice deviceMac deviceName ssidName username domain osUpdated antivirusRunning
      diskEncrypted firewallEnabled =>
      some (.nacSimulateDevice
        ⟨deviceMac, deviceName, ssidName, ⟨username, domain⟩,
          ⟨osUpdated, antivirusRunning, diskEncrypted, firewallEnabled⟩⟩)
  | _ => none

def run (auditAdder : AuditAdder σ) (world : σ) : AccessCommand → σ
  | .zerotrustEvaluate query => (Dashboard.zerotrustEvaluate auditAdder query world).2
  | .nacSimulateDevice req => (Dashboard.nacSimulateDevice auditAdder req world).2

def userId : AccessCommand → ByteString
  | .zerotrustEvaluate query => query.userId
  | .nacSimulateDevice req => req.identity.username

/-- The decision that the command answers with. -/
def decision : AccessCommand → ByteString
  | .zerotrustEvaluate query => decisionStr query.trustDecision
  | .nacSimulateDevice req => resultStr (NacWorkflow.process req).result

/-- A device that joins a network asks for no resource. -/
def resource : AccessCommand → ByteString
  | .zerotrustEvaluate query => query.requestedResource
  | .nacSimulateDevice _ => []

end AccessCommand

end Commands

/-! A chain with the entries of these commands among others. -/

/-- What appends an entry: one of the two commands, or another component with an event of its
own. -/
inductive Entry
  | command (c : AccessCommand)
  | other (eventType payload : ByteString) (hother : isAccessEvent eventType = false)

def Entry.command? : Entry → Option AccessCommand
  | .command c => some c
  | .other _ _ _ => none

def Entry.append (sha256 : Sha256) (draw : Draw) (chain : AuditChain) : Entry → AuditChain
  | .command c => c.run (AuditChain.addEntry sha256 draw) chain
  | .other eventType payload _ => (chain.addEntry sha256 draw eventType payload).2

/-- The chain after these entries, with what each of them draws. -/
def chainOf (sha256 : Sha256) (entries : List (Draw × Entry)) : AuditChain :=
  entries.foldl (fun chain entry => entry.2.append sha256 entry.1 chain) {}

def commandsOf (entries : List (Draw × Entry)) : List AccessCommand :=
  entries.filterMap fun entry => entry.2.command?

/-- The dashboard shows the decision of the command as the command has it. -/
structure Shows (command : AccessCommand) (ztd : ZeroTrustDecisionData) : Prop where
  userId : ztd.userId = command.userId
  decision : ztd.decision = command.decision
  resource : ztd.resource = command.resource

/-- One decision for each of the commands, in their order, and none besides. -/
def DecisionsSurvive (sha256 : Sha256) (entries : List (Draw × Entry)) : Prop :=
  List.Forall₂ Shows (commandsOf entries) (zeroTrustDecisions (chainOf sha256 entries).chain)

end Astartis.Dashboard
