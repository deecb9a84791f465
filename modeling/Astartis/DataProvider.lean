import Astartis.AgentController
import Astartis.AttributionReport
import Astartis.ChaosDetector
import Astartis.DashboardWriter
import Astartis.FirewallBlocker
import Astartis.Quarantine
import Astartis.ThreatLevel

/-!
The data provider of the dashboard: what it gathers from the components of the bridge, and the
readings it makes up where there are none.
-/

namespace Astartis.Dashboard

open Attribution
open Audit
open ByteString
open Threat

/-- What the provider reads.  A component that did not come up is `none`, the others are what
their queries answer. -/
structure Sources where
  degradedSubsystems : List ByteString := []
  currentTier : Option ThreatTier := none
  wormIsLocked : Option Bool := none
  auditEntries : List AuditEntry := []
  auditIsValid : Bool := true
  personaCount : Nat := 0
  queueDepth : Nat := 0
  agentStatuses : Option (List Agents.AgentStatus) := none
  activeBlocks : Option (List Firewall.ActiveBlock) := none
  quarantined : Option (List Containment.QuarantineEntry) := none
  sandboxTree : Option (List SandboxEntry) := none
  chaosHistory : List Double := []
  forensicLog : Option (List Decoy.DecoyEvent) := none
  cpuHistory : List Double := []
  memHistory : List Double := []
  diskHistory : List Double := []
  nowMs : Int64 := 0

/-! What is gathered. -/

/-- The level and the score that stand for a tier. -/
def threatLevel : ThreatTier → ByteString × Int
  | .low => ("LOW", 10)
  | .medium => ("MEDIUM", 45)
  | .high => ("HIGH", 75)
  | .critical => ("CRITICAL", 95)

def agentState : Agents.AgentState → ByteString
  | .running => "busy"
  | .completed => "idle"
  | .failed => "error"
  | .idle => "idle"

/-- The category stands where the tier is displayed. -/
def agentStatus (s : Agents.AgentStatus) : AgentStatus where
  name := s.name
  tier := s.category
  model := []
  status := agentState s.state
  tasksCompleted := s.tasksCompleted.toInt
  lastActive := []

def firewallBlock (ab : Firewall.ActiveBlock) : FirewallBlockData where
  ip := ab.ip
  ruleNameIn := ab.ruleNameIn
  blockedAtMs := ab.blockedAtMs
  expiresAtMs := ab.expiresAtMs

def quarantineEntry (qe : Containment.QuarantineEntry) : QuarantineEntryData where
  entryId := qe.entryId
  virusName := qe.virusName
  quarantinedAtMs := qe.quarantinedAtMs

def sandboxEntry (e : SandboxEntry) : SandboxEntryData where
  relPath := e.relPath
  type := match e.type with
    | .file => "file"
    | .directory => "dir"
  locked := e.locked
  version := e.version

def decoyEvent (de : Decoy.DecoyEvent) : DecoyEventData where
  attackerTag := de.attackerTag
  poisonType := Decoy.poisonTypeName de.poisonType
  action := de.action
  timestampMs := de.timestampMs

def chaosWindow (i : Nat) (K : Double) : ChaosWindowData where
  K := K
  anomalous := Double.lt Chaos.chaosThreshold K
  windowIndex := .ofNat i

/-- `for (i = 0; i + 1 < size; i += 2)`, over what the history holds from `i` on. -/
def chaosLoop (i : Nat) : List Double → List ChaosWindowData
  | K :: _ :: rest => chaosWindow i K :: chaosLoop (i + 2) rest
  | _ => []

/-- `%0*d` -/
def zeroPadded (width : Nat) (n : Int) : ByteString :=
  if n < 0 then ("-" : ByteString) ++ zeroFill (width - 1) (decimal (-n))
  else zeroFill width (decimal n)

/-- `gmtime_s` and `snprintf`, for a time that `gmtime_s` accepts. -/
def isoTimestamp (ms : Int64) : ByteString :=
  let sec := ms.toInt.tdiv 1000
  let (year, month, day) := civilDate (sec / 86400)
  let ofDay := sec % 86400
  zeroPadded 4 year ++ ("-" : ByteString) ++ zeroPadded 2 month ++ ("-" : ByteString) ++
    zeroPadded 2 day ++ ("T" : ByteString) ++ zeroPadded 2 (ofDay / 3600) ++
    (":" : ByteString) ++ zeroPadded 2 (ofDay % 3600 / 60) ++ (":" : ByteString) ++
    zeroPadded 2 (ofDay % 60) ++ ("." : ByteString) ++
    zeroPadded 3 (ms.toInt.tmod 1000) ++ ("Z" : ByteString)

example : isoTimestamp 1785398400007 = ("2026-07-30T08:00:00.007Z" : ByteString) := by
  decide +kernel

def auditEntry (chainValid : Bool) (ae : AuditEntry) : AuditEntryData where
  entryId := ae.entryId
  eventType := ae.eventType
  timestamp := isoTimestamp ae.timestamp
  chainValid := chainValid

/-- The text behind the first `key=` of a payload, up to the next space. -/
def extract (payload key : ByteString) : ByteString :=
  match findText (key ++ ("=" : ByteString)) payload with
  | none => []
  | some pos =>
      let start := pos + key.length + 1
      match find 32 (payload.drop start) with
      | none => payload.drop start
      | some length => substr payload start length

def isAccessEvent (eventType : ByteString) : Bool :=
  eventType = ("zerotrust_evaluate" : ByteString) || eventType = ("nac_simulate" : ByteString)

def zeroTrustDecision (ae : AuditEntry) : ZeroTrustDecisionData where
  userId := extract ae.payload "user"
  decision := extract ae.payload "decision"
  resource := extract ae.payload "resource"
  timestamp := isoTimestamp ae.timestamp

def zeroTrustDecision? (ae : AuditEntry) : Option ZeroTrustDecisionData :=
  if isAccessEvent ae.eventType then
    let ztd := zeroTrustDecision ae
    if !ztd.userId.isEmpty && !ztd.decision.isEmpty then some ztd else none
  else none

/-- The decisions that are derived from the audit entries. -/
def zeroTrustDecisions (entries : List AuditEntry) : List ZeroTrustDecisionData :=
  entries.filterMap zeroTrustDecision?

/-! The seed of the demo mode. -/

/-- A literal with two decimal places. -/
def hundredths (n : Nat) : Double :=
  .ofRat (n / 100)

/-- `eVals` and `eMax` -/
def entropySeed : List (Nat × Nat) :=
  [(412, 498), (435, 512), (467, 543), (489, 567), (502, 581), (521, 602), (543, 624),
    (518, 597), (496, 573), (474, 551), (455, 532), (478, 558), (491, 574), (513, 591),
    (682, 744), (714, 789), (588, 665), (531, 608), (499, 576), (471, 547)]

def entropyWindow (seed : (Nat × Nat) × Nat) : EntropyWindowData where
  meanEntropyBits := hundredths seed.1.1
  maxEntropyBits := hundredths seed.1.2
  anomalous := Double.lt (.finite 6) (hundredths seed.1.1)
  windowIndex := .ofNat seed.2

/-- `kVals` -/
def chaosSeed : List Nat :=
  [31, 35, 38, 42, 45, 48, 51, 47, 44, 41, 38, 43, 46, 52, 78, 82, 55, 48, 44, 41]

def demoChaosWindows : List ChaosWindowData :=
  chaosSeed.zipIdx.map fun seed => chaosWindow seed.2 (hundredths seed.1)

def decoySeed : List (ByteString × ByteString × ByteString × Int64) :=
  [("attacker-0x1a", "credential", "read .env file", -120000),
    ("attacker-0x1a", "id_rsa", "read private key", -105000),
    ("attacker-0x2b", "sysinfo", "ran systeminfo", -90000),
    ("attacker-0x2b", "/etc/passwd", "read user list", -75000),
    ("attacker-0x3c", "local_file", "read documents folder", -60000),
    ("attacker-0x3c", "ssh_connect", "lateral move via ssh", -45000),
    ("attacker-0x4d", "exfil", "C2 upload attempted", -30000),
    ("attacker-0x4d", "renamed_binary", "masquerading as svchost", -15000)]

def demoDecoyEvents (nowMs : Int64) : List DecoyEventData :=
  decoySeed.map fun (tag, ptype, action, dms) => ⟨tag, ptype, action, nowMs + dms⟩

def demoZeroTrustDecisions : List ZeroTrustDecisionData :=
  [⟨"kgosi", "ALLOW_FULL", 95, "/api/admin", "2026-07-30T08:00:00.000Z"⟩,
    ⟨"guest01", "ALLOW_LIMITED", 68, "/api/report", "2026-07-30T08:15:00.000Z"⟩,
    ⟨"unknown", "MFA_REQUIRED", 55, "/api/keys", "2026-07-30T08:30:00.000Z"⟩,
    ⟨"iot-01", "QUARANTINE", 30, "/api/devices", "2026-07-30T09:00:00.000Z"⟩,
    ⟨"scanner", "DENY", 12, "/api/config", "2026-07-30T09:15:00.000Z"⟩,
    ⟨"kgosi", "ALLOW_FULL", 96, "/api/report", "2026-07-30T10:00:00.000Z"⟩]

def seedIfEmpty {β : Type} (seed gathered : List β) : List β :=
  if gathered.isEmpty then seed else gathered

/-- The callback of `set_data_provider`. -/
def dataProvider (sources : Sources) : DashboardData where
  systemMode := if sources.degradedSubsystems.isEmpty then "FULL" else "DEGRADED"
  threatLevel := (sources.currentTier.map fun tier => (threatLevel tier).1).getD "LOW"
  threatScore := (sources.currentTier.map fun tier => (threatLevel tier).2).getD 0
  wormIsLocked := sources.wormIsLocked.getD false
  auditChainValid := sources.auditIsValid
  activeAgents := if sources.agentStatuses.isSome then sources.personaCount else 0
  queueDepth := if sources.agentStatuses.isSome then sources.queueDepth else 0
  agents := (sources.agentStatuses.getD []).map agentStatus
  firewallBlocks := (sources.activeBlocks.getD []).map firewallBlock
  quarantineEntries := (sources.quarantined.getD []).map quarantineEntry
  sandboxEntries := (sources.sandboxTree.getD []).map sandboxEntry
  auditEntries := sources.auditEntries.map (auditEntry sources.auditIsValid)
  cpuHistory := sources.cpuHistory
  memHistory := sources.memHistory
  diskHistory := sources.diskHistory
  -- nothing gathers entropy windows
  entropyWindows := seedIfEmpty (entropySeed.zipIdx.map entropyWindow) []
  chaosWindows := seedIfEmpty demoChaosWindows (chaosLoop 0 sources.chaosHistory)
  decoyEvents :=
    seedIfEmpty (demoDecoyEvents sources.nowMs) ((sources.forensicLog.getD []).map decoyEvent)
  zerotrustDecisions :=
    seedIfEmpty demoZeroTrustDecisions (zeroTrustDecisions sources.auditEntries)

end Astartis.Dashboard
