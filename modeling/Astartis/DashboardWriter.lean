import Astartis.Json

/-!
The snapshot that `DashboardWriter` turns into JSON.  Objects list their members in the order
of their keys, the order of the library's map.
-/

namespace Astartis.Dashboard

structure AgentStatus where
  name : ByteString
  tier : ByteString
  model : ByteString
  status : ByteString
  tasksCompleted : Int := 0
  lastActive : ByteString

structure Alert where
  timestamp : ByteString
  severity : ByteString
  agentName : ByteString
  message : ByteString

structure LogEntry where
  timestamp : ByteString
  level : ByteString
  message : ByteString

structure DepInfo where
  name : ByteString := []
  version : ByteString := []
  status : ByteString := []
  verifiedAt : ByteString := []

structure SystemHealth where
  ollamaOnline : Bool := false
  npcapInstalled : Bool := false
  npcapServiceRunning : Bool := false
  clamdOnline : Bool := false
  isAdmin : Bool := false
  depOllama : DepInfo := {}
  depNpcap : DepInfo := {}
  depClamd : DepInfo := {}
  depGraniteFast : DepInfo := {}
  depGraniteHeavy : DepInfo := {}
  depGraniteAcc : DepInfo := {}

structure SystemMetrics where
  cpuPercent : Double := .finite 0
  memoryPercent : Double := .finite 0
  memoryUsedGb : Double := .finite 0
  memoryTotalGb : Double := .finite 0
  diskPercent : Double := .finite 0
  diskFreeGb : Double := .finite 0
  networkMbps : Double := .finite 0
  cpuCores : Int := 0
  ollamaOnline : Bool := false

structure FirewallBlockData where
  ip : ByteString
  ruleNameIn : ByteString
  blockedAtMs : Int64 := 0
  expiresAtMs : Int64 := 0

structure QuarantineEntryData where
  entryId : ByteString
  virusName : ByteString
  quarantinedAtMs : Int64 := 0

structure DecoyEventData where
  attackerTag : ByteString
  poisonType : ByteString
  action : ByteString
  timestampMs : Int64 := 0
deriving DecidableEq

structure ZeroTrustDecisionData where
  userId : ByteString
  decision : ByteString
  trustScore : Int := 0
  resource : ByteString
  timestamp : ByteString

structure EntropyWindowData where
  meanEntropyBits : Double := .finite 0
  maxEntropyBits : Double := .finite 0
  anomalous : Bool := false
  windowIndex : UInt64 := 0

structure ChaosWindowData where
  K : Double := .finite 0
  anomalous : Bool := false
  windowIndex : UInt64 := 0

structure SandboxEntryData where
  relPath : ByteString
  type : ByteString
  locked : Bool := false
  version : UInt64 := 0

structure AuditEntryData where
  entryId : ByteString
  eventType : ByteString
  timestamp : ByteString
  chainValid : Bool := true

structure DashboardData where
  systemMode : ByteString := "FULL"
  systemStatus : ByteString := "online"
  activeAgents : Int := 0
  queueDepth : Int := 0
  threatLevel : ByteString := "LOW"
  threatScore : Int := 0
  alerts24h : Int := 0
  criticalAlerts : Int := 0
  agents : List AgentStatus := []
  alerts : List Alert := []
  newLogs : List LogEntry := []
  systemMetrics : SystemMetrics := {}
  cpuHistory : List Double := []
  memHistory : List Double := []
  diskHistory : List Double := []
  netHistory : List Double := []
  firewallBlocks : List FirewallBlockData := []
  quarantineEntries : List QuarantineEntryData := []
  decoyEvents : List DecoyEventData := []
  zerotrustDecisions : List ZeroTrustDecisionData := []
  entropyWindows : List EntropyWindowData := []
  chaosWindows : List ChaosWindowData := []
  sandboxEntries : List SandboxEntryData := []
  auditEntries : List AuditEntryData := []
  auditChainValid : Bool := true
  wormIsLocked : Bool := false
  health : SystemHealth := {}

def AgentStatus.toJson (self : AgentStatus) : Json :=
  .object
    [("last_active", .string self.lastActive),
      ("model", .string self.model),
      ("name", .string self.name),
      ("status", .string self.status),
      ("tasks_completed", .numberInteger self.tasksCompleted),
      ("tier", .string self.tier)]

def Alert.toJson (self : Alert) : Json :=
  .object
    [("agent_name", .string self.agentName),
      ("message", .string self.message),
      ("severity", .string self.severity),
      ("timestamp", .string self.timestamp)]

def LogEntry.toJson (self : LogEntry) : Json :=
  .object
    [("level", .string self.level),
      ("message", .string self.message),
      ("timestamp", .string self.timestamp)]

def DepInfo.toJson (self : DepInfo) : Json :=
  .object
    [("name", .string self.name),
      ("status", .string self.status),
      ("verified_at", .string self.verifiedAt),
      ("version", .string (if self.version = [] then "unknown" else self.version))]

def SystemHealth.toJson (self : SystemHealth) : Json :=
  .object
    [("clamd_online", .boolean self.clamdOnline),
      ("is_admin", .boolean self.isAdmin),
      ("npcap_installed", .boolean self.npcapInstalled),
      ("npcap_service_running", .boolean self.npcapServiceRunning),
      ("ollama_online", .boolean self.ollamaOnline)]

def SystemHealth.depsJson (self : SystemHealth) : Json :=
  .object
    [("clamd", self.depClamd.toJson),
      ("granite_acc", self.depGraniteAcc.toJson),
      ("granite_fast", self.depGraniteFast.toJson),
      ("granite_heavy", self.depGraniteHeavy.toJson),
      ("npcap", self.depNpcap.toJson),
      ("ollama", self.depOllama.toJson)]

def SystemMetrics.toJson (self : SystemMetrics) : Json :=
  .object
    [("cpu_cores", .numberInteger self.cpuCores),
      ("cpu_percent", .numberFloat self.cpuPercent),
      ("disk_free_gb", .numberFloat self.diskFreeGb),
      ("disk_percent", .numberFloat self.diskPercent),
      ("memory_percent", .numberFloat self.memoryPercent),
      ("memory_total_gb", .numberFloat self.memoryTotalGb),
      ("memory_used_gb", .numberFloat self.memoryUsedGb),
      ("network_mbps", .numberFloat self.networkMbps),
      ("ollama_online", .boolean self.ollamaOnline)]

def FirewallBlockData.toJson (self : FirewallBlockData) : Json :=
  .object
    [("blocked_at_ms", .numberInteger self.blockedAtMs.toInt),
      ("expires_at_ms", .numberInteger self.expiresAtMs.toInt),
      ("ip", .string self.ip),
      ("rule_name_in", .string self.ruleNameIn)]

def QuarantineEntryData.toJson (self : QuarantineEntryData) : Json :=
  .object
    [("entry_id", .string self.entryId),
      ("quarantined_at_ms", .numberInteger self.quarantinedAtMs.toInt),
      ("virus_name", .string self.virusName)]

def DecoyEventData.toJson (self : DecoyEventData) : Json :=
  .object
    [("action", .string self.action),
      ("attacker_tag", .string self.attackerTag),
      ("poison_type", .string self.poisonType),
      ("timestamp_ms", .numberInteger self.timestampMs.toInt)]

def ZeroTrustDecisionData.toJson (self : ZeroTrustDecisionData) : Json :=
  .object
    [("decision", .string self.decision),
      ("resource", .string self.resource),
      ("timestamp", .string self.timestamp),
      ("trust_score", .numberInteger self.trustScore),
      ("user_id", .string self.userId)]

def EntropyWindowData.toJson (self : EntropyWindowData) : Json :=
  .object
    [("anomalous", .boolean self.anomalous),
      ("max_entropy_bits", .numberFloat self.maxEntropyBits),
      ("mean_entropy_bits", .numberFloat self.meanEntropyBits),
      ("window_index", .numberUnsigned self.windowIndex.toNat)]

def ChaosWindowData.toJson (self : ChaosWindowData) : Json :=
  .object
    [("K", .numberFloat self.K),
      ("anomalous", .boolean self.anomalous),
      ("window_index", .numberUnsigned self.windowIndex.toNat)]

def SandboxEntryData.toJson (self : SandboxEntryData) : Json :=
  .object
    [("locked", .boolean self.locked),
      ("rel_path", .string self.relPath),
      ("type", .string self.type),
      ("version", .numberUnsigned self.version.toNat)]

def AuditEntryData.toJson (self : AuditEntryData) : Json :=
  .object
    [("chain_valid", .boolean self.chainValid),
      ("entry_id", .string self.entryId),
      ("event_type", .string self.eventType),
      ("timestamp", .string self.timestamp)]

namespace DashboardData

variable (self : DashboardData)

def systemJson (timestamp : ByteString) : Json :=
  .object
    [("mode", .string self.systemMode),
      ("status", .string self.systemStatus),
      ("timestamp", .string timestamp),
      ("version", .string "3.2.0")]

def kpiJson : Json :=
  .object
    [("active_agents", .numberInteger self.activeAgents),
      ("alerts_24h", .numberInteger self.alerts24h),
      ("critical_alerts", .numberInteger self.criticalAlerts),
      ("queue_depth", .numberInteger self.queueDepth),
      ("threat_level", .string self.threatLevel),
      ("threat_score", .numberInteger self.threatScore)]

/-- The value `write_json` builds at the time `timestamp`. -/
def toJson (timestamp : ByteString) : Json :=
  .object
    [("agents", .array (self.agents.map AgentStatus.toJson)),
      ("alerts", .array (self.alerts.map Alert.toJson)),
      ("audit_chain_valid", .boolean self.auditChainValid),
      ("audit_entries", .array (self.auditEntries.map AuditEntryData.toJson)),
      ("chaos_windows", .array (self.chaosWindows.map ChaosWindowData.toJson)),
      ("cpu_history", .array (self.cpuHistory.map .numberFloat)),
      ("decoy_events", .array (self.decoyEvents.map DecoyEventData.toJson)),
      ("deps", self.health.depsJson),
      ("disk_history", .array (self.diskHistory.map .numberFloat)),
      ("entropy_windows", .array (self.entropyWindows.map EntropyWindowData.toJson)),
      ("firewall_blocks", .array (self.firewallBlocks.map FirewallBlockData.toJson)),
      ("health", self.health.toJson),
      ("kpi", self.kpiJson),
      ("mem_history", .array (self.memHistory.map .numberFloat)),
      ("net_history", .array (self.netHistory.map .numberFloat)),
      ("new_logs", .array (self.newLogs.map LogEntry.toJson)),
      ("quarantine_entries", .array (self.quarantineEntries.map QuarantineEntryData.toJson)),
      ("sandbox_entries", .array (self.sandboxEntries.map SandboxEntryData.toJson)),
      ("system", self.systemJson timestamp),
      ("system_metrics", self.systemMetrics.toJson),
      ("worm_is_locked", .boolean self.wormIsLocked),
      ("zerotrust_decisions",
        .array (self.zerotrustDecisions.map ZeroTrustDecisionData.toJson))]

/-- What `write_loop` puts in place of what the provider returned. -/
def refresh (metrics : SystemMetrics) (health : SystemHealth) : DashboardData :=
  { self with
    systemMetrics :=
      if self.systemMetrics.cpuPercent = .finite 0 ∨ self.systemMetrics.cpuPercent = .negZero then
        metrics
      else self.systemMetrics
    health := health }

end DashboardData

end Astartis.Dashboard
