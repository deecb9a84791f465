import Astartis.AgentActivity
import Astartis.AgentRegistry
import Astartis.AttackMapping
import Astartis.AuditIntegrity
import Astartis.BlockAllowlist
import Astartis.BridgeSafety
import Astartis.ChainReplay
import Astartis.ChaosBounds
import Astartis.ChaosCandidates
import Astartis.ChaosChart
import Astartis.ChaosListing
import Astartis.ChaosWindows
import Astartis.ClamdFraming
import Astartis.ClamdVerdict
import Astartis.ConfigNumbers
import Astartis.DashboardConfig
import Astartis.DashboardExec
import Astartis.DashboardGate
import Astartis.DashboardPolling
import Astartis.DashboardSegments
import Astartis.DashboardSnapshots
import Astartis.DashboardTables
import Astartis.DecisionCounts
import Astartis.DecoyPlanting
import Astartis.DegradationSafety
import Astartis.DispatchResults
import Astartis.EccFrontmatter
import Astartis.EntryLocks
import Astartis.EventIds
import Astartis.EventProgress
import Astartis.ExecOutput
import Astartis.ExpiryPass
import Astartis.FileNames
import Astartis.FirewallMirror
import Astartis.InflightAccounting
import Astartis.LockNesting
import Astartis.LoopLifecycle
import Astartis.NotificationWalk
import Astartis.OriginCheck
import Astartis.OutputLines
import Astartis.PacketWindows
import Astartis.PersonaBytes
import Astartis.QuarantineRoundTrip
import Astartis.QuarantineSafety
import Astartis.QuarantineSidecar
import Astartis.ReportPaths
import Astartis.Segmentation
import Astartis.SessionIsolation
import Astartis.SignalDrain
import Astartis.StdinSafety
import Astartis.SubscriptionOwnership
import Astartis.TamperLocation
import Astartis.TaskExecution
import Astartis.ThreatHistory
import Astartis.ThreatResponse
import Astartis.TokenHistory
import Astartis.TokenLifetime
import Astartis.TriageDelivery
import Astartis.UnlockReplay
import Astartis.VersionIdentity
import Astartis.WorkerSafety
import Astartis.WriteRaces
import Astartis.ZeroTrustRoles
