import Astartis.AgentController
import Astartis.Bridge
import Astartis.FirewallBlocker
import Astartis.StdinLoop

/-!
The bridge when some of its subsystems are missing.  The pointer of a subsystem is null when its
initialiser threw, and a use of a null pointer ends the process.
-/

namespace Astartis.Degradation

open Audit
open Bridge hiding Action Command Reply dispatch perform onPacketWindow onEventSignal onFsEvent
  dispatchWormTrigger
open Chaos
open Stdin (Request)
open Threat
open TransitionSystem
open Unlock

/-- What `main` constructs in `try_init`, the lock apart. -/
inductive Subsystem
  | sandbox
  | threatLevel
  | ruleEngine
  | chaosDetector
  | decoy
  | activeResponse
  | clamd
  | quarantine
  | firewall
  | unlockProtocol
  | aiTriage
  | veeam
  | agentController
  | packetSensor
  | eventLogMonitor
  | fsMonitor
  | autonomyLoop
deriving DecidableEq

/-- How an initialiser ends.  It can throw after it has set the pointer: when the sandbox is
populated, when an approver is registered, when a monitor is started. -/
inductive InitOutcome
  | completed
  | threw
  | threwInitialised
deriving DecidableEq

def InitOutcome.sets : InitOutcome → Bool
  | .threw => false
  | .completed | .threwInitialised => true

/-- Which pointers are set.  A subsystem that refers to another one is there only if that one
is. -/
structure Pointers where
  isSet : Subsystem → Bool
  threatLevel_set : isSet .ruleEngine = true → isSet .threatLevel = true
  sandbox_set : isSet .decoy = true → isSet .sandbox = true
  ruleEngine_set : isSet .aiTriage = true → isSet .ruleEngine = true
  agentController_set : isSet .autonomyLoop = true → isSet .agentController = true

/-- The initialisers of `main`, each behind the checks in front of it. -/
def Pointers.startUp (outcome : Subsystem → InitOutcome) (protect : Bool) : Pointers where
  isSet
    | .ruleEngine => (outcome .threatLevel).sets && (outcome .ruleEngine).sets
    | .decoy => (outcome .sandbox).sets && (outcome .decoy).sets
    | .aiTriage =>
        ((outcome .threatLevel).sets && (outcome .ruleEngine).sets) && (outcome .aiTriage).sets
    | .packetSensor => protect && (outcome .packetSensor).sets
    | .eventLogMonitor => protect && (outcome .eventLogMonitor).sets
    | .fsMonitor => protect && (outcome .fsMonitor).sets
    | .autonomyLoop =>
        protect && ((outcome .agentController).sets && (outcome .autonomyLoop).sets)
    | subsystem => (outcome subsystem).sets
  threatLevel_set := fun h => (Bool.and_eq_true_iff.mp h).1
  sandbox_set := fun h => (Bool.and_eq_true_iff.mp h).1
  ruleEngine_set := fun h => (Bool.and_eq_true_iff.mp h).1
  agentController_set := fun h =>
    (Bool.and_eq_true_iff.mp (Bool.and_eq_true_iff.mp h).2).1

/-- A use of the pointer.  The error is the null pointer. -/
def Pointers.deref (pointers : Pointers) (subsystem : Subsystem) : Except Subsystem Unit :=
  if pointers.isSet subsystem then .ok () else .error subsystem

/-- What the subsystems outside of `Globals` report to a snapshot. -/
structure Reports where
  quarantineCount : Nat := 0
  activeBlocks : List Firewall.ActiveBlock := []
  agentStatuses : List Agents.AgentStatus := []
  agentQueueDepth : Nat := 0

structure Snapshot where
  threatTier : ThreatTier
  threatTransitions : UInt64
  wormLocked : Bool
  wormReason : ByteString
  wormLockCount : UInt64
  chaosK : Double
  chaosAnomalous : Bool
  chaosWindows : UInt64
  chaosHistory : List Double
  ruleFires : UInt64
  wormTriggers : UInt64
  decoyEvents : Nat
  sandboxEntries : List SandboxEntry
  quarantineCount : Nat
  activeFirewallBlocks : List Firewall.ActiveBlock
  unlock : UnlockStatus
  lastTriage : Option Ai.TriageResult
  veeamLockState : Backup.BackupLockState
  veeamBackupCount : Int
  veeamLockedAtMs : Int64
  veeamIntegrityChecks : Int
  veeamLockedByReason : ByteString
  agentStatuses : List Agents.AgentStatus
  agentQueueDepth : Nat

/-- The lines that are written.  `notAvailable` is the answer for a subsystem that is missing,
`refused` the one for a missing argument. -/
inductive Event
  | reply (reply : Bridge.Reply)
  | snapshot (data : Snapshot)
  | unlockStatus (status : UnlockStatus)
  | notAvailable (missing : Subsystem) (text : ByteString)
  | refused (text : ByteString)
  | unknownCmd (cmd : ByteString)
  | tick (data : Snapshot)
  | rule05FirewallCandidate (K : Double) (anomalous : Bool)
  | chaosWindow (w : ChaosWindow)
  | demoDone

/-- What a command meets outside of the bridge's own state: the clock and the random bytes,
the entries that other subsystems add to the audit chain, whether the file it scans is infected,
whether one of these subsystems throws, and what they report. -/
structure Outside where
  inputs : Inputs
  entries : List (ByteString × ByteString)
  infected : Bool
  threw : Bool
  reports : Reports

inductive Action
  | command (outside : Outside) (request : Request)
  | malformed
  | tick (reports : Reports)
  | packetWindow (flush : PacketFlush)
  | eventLog (signal : EventSignal)
  | fsEvent (event : FsEvent)
  | demoStep (thread : Nat) (now : Int64)
  | background (entries : List (ByteString × ByteString))

def Action.isCommand : Action → Bool
  | .command _ _ | .malformed => true
  | _ => false

/-- The thread that an action runs on is there. -/
def Action.Enabled (pointers : Pointers) : Action → Prop
  | .packetWindow _ => pointers.isSet .packetSensor = true
  | .eventLog _ => pointers.isSet .eventLogMonitor = true
  | .fsEvent _ => pointers.isSet .fsMonitor = true
  | _ => True

section

variable {α : Type} (platform : Platform α) (pointers : Pointers)

def buildSnapshot (reports : Reports) (bridge : Globals α) : Except Subsystem Snapshot := do
  pointers.deref .threatLevel
  let engine := bridge.core.engine
  let veeam := bridge.veeam.status
  return {
    threatTier := engine.currentTier
    threatTransitions := engine.tsm.transitionCount
    wormLocked := bridge.isLocked
    wormReason := bridge.world.worm.lockReason
    wormLockCount := bridge.world.worm.lockdownCount
    chaosK := bridge.core.latestK
    chaosAnomalous := bridge.core.latestAnomalous
    chaosWindows := bridge.core.latestChaosWindows
    chaosHistory := bridge.core.chaosHistory
    ruleFires := if pointers.isSet .ruleEngine then engine.rules.totalFires else 0
    wormTriggers := if pointers.isSet .ruleEngine then engine.rules.wormTriggerCount else 0
    decoyEvents := if pointers.isSet .decoy then bridge.decoy.eventCount else 0
    sandboxEntries := if pointers.isSet .sandbox then bridge.sandbox.getTree else []
    quarantineCount := if pointers.isSet .quarantine then reports.quarantineCount else 0
    activeFirewallBlocks := if pointers.isSet .firewall then reports.activeBlocks else []
    unlock := if pointers.isSet .unlockProtocol then bridge.unlock.status
      else ⟨.idle, 0, demoThreshold, []⟩
    lastTriage := bridge.lastTriage
    veeamLockState := if pointers.isSet .veeam then veeam.lockState else .unlocked
    veeamBackupCount := if pointers.isSet .veeam then veeam.backupCount else 0
    veeamLockedAtMs := if pointers.isSet .veeam then veeam.lockedAtMs else 0
    veeamIntegrityChecks := if pointers.isSet .veeam then veeam.integrityCheckCount else 0
    veeamLockedByReason := if pointers.isSet .veeam then veeam.lockedByReason else []
    agentStatuses := if pointers.isSet .agentController then reports.agentStatuses else []
    agentQueueDepth := if pointers.isSet .agentController then reports.agentQueueDepth else 0 }

/-- What is written, and the bridge afterwards. -/
abbrev Written (α : Type) : Type :=
  List Event × Globals α

/-- `push` of the detector.  For the window it completes it calls `on_chaos_window`, which uses
the rule engine. -/
def pushChaos (value : Double) (synthetic : Bool) (bridge : Globals α) :
    Except Subsystem (Written α) := do
  pointers.deref .chaosDetector
  match bridge.chaos.completedWindow? platform.analysis value synthetic with
  | none => return ([], bridge.pushChaos platform value synthetic)
  | some w =>
      pointers.deref .ruleEngine
      let core := (Core.addEntry platform "chaos_window" w.text bridge.core).2
      let (rr, _) := core.engine.evaluateChaosWindow platform.wiring w
      let candidate :=
        if rr.wormTriggered && !w.synthetic then
          [Event.rule05FirewallCandidate w.K w.anomalous]
        else []
      return (candidate ++ [.chaosWindow w], bridge.pushChaos platform value synthetic)

/-- The loop of `push_chaos_batch`. -/
def pushChaosBatch (synthetic : Bool) : List Double → Globals α → Except Subsystem (Written α)
  | [], bridge => return ([], bridge)
  | value :: values, bridge => do
      let (events, bridge) ← pushChaos platform pointers value synthetic bridge
      let (later, bridge) ← pushChaosBatch synthetic values bridge
      return (events ++ later, bridge)

/-- What follows when `worm_trigger` has engaged the lock. -/
def onLockdown (now : Int64) (reason : ByteString) (bridge : Globals α) :
    Except Subsystem (Globals α) := do
  pointers.deref .sandbox
  let bridge := bridge.lockAll platform "worm_lockdown"
  let bridge := bridge.audit platform "worm_trigger" (("reason=" : ByteString) ++ reason)
  let bridge :=
    if pointers.isSet .unlockProtocol then { bridge with unlock := bridge.unlock.beginSession }
    else bridge
  return if pointers.isSet .veeam then bridge.lockBackups platform now reason else bridge

def dispatchWormTrigger (now : Int64) (reason : ByteString) (bridge : Globals α) :
    Except Subsystem (Written α) := do
  let (changed, bridge) := bridge.triggerLockdown platform reason
  let bridge ← if changed then onLockdown platform pointers now reason bridge else pure bridge
  return ([.reply (.wormStatus bridge.isLocked bridge.world.worm.lockReason)], bridge)

/-- A command of the components in `Globals`, all of which it finds there. -/
def core (outside : Outside) (command : Bridge.Command) (bridge : Globals α) :
    Except Subsystem (Written α) :=
  let (reply, bridge) := Bridge.dispatch platform outside.inputs bridge command
  return ([.reply reply], bridge)

/-- A command of the other subsystems. -/
def peripheral (outside : Outside) (bridge : Globals α) : Except Subsystem (Written α) :=
  return ([.reply (if outside.threw then .parseError else .peripheral)],
    bridge.auditAll platform outside.entries)

/-- `if (!p)` in front of the uses of `p`. -/
def guarded (subsystem : Subsystem) (text : ByteString)
    (serve : Globals α → Except Subsystem (Written α)) (bridge : Globals α) :
    Except Subsystem (Written α) :=
  if pointers.isSet subsystem then serve bridge
  else return ([.notAvailable subsystem text], bridge)

def dispatch (outside : Outside) (request : Request) (bridge : Globals α) :
    Except Subsystem (Written α) :=
  match request with
  | .ping => core platform outside .ping bridge
  | .getSnapshot => do
      let snap ← buildSnapshot pointers outside.reports bridge
      return ([.snapshot snap], bridge)
  | .observeSignal score source => do
      pointers.deref .threatLevel
      pointers.deref .ruleEngine
      core platform outside (.observeSignal score.toInt source) bridge
  | .pushChaos value synthetic => do
      let (events, bridge) ← pushChaos platform pointers value synthetic bridge
      return (events ++ [.reply (.chaosPushed value)], bridge)
  | .pushChaosBatch synthetic values => do
      let (events, bridge) ← pushChaosBatch platform pointers synthetic values bridge
      return (events ++ [.reply (.chaosBatchPushed values.length)], bridge)
  | .wormTrigger reason =>
      dispatchWormTrigger platform pointers outside.inputs.now reason bridge
  | .wormUnlock => core platform outside .wormUnlock bridge
  | .veeamIntegrityCheck =>
      guarded pointers .veeam "veeam_not_initialised" (core platform outside .veeamIntegrityCheck)
        bridge
  | .veeamStatus =>
      guarded pointers .veeam "veeam_not_initialised" (core platform outside .veeamStatus) bridge
  | .sandboxGetTree => do
      pointers.deref .sandbox
      core platform outside .sandboxGetTree bridge
  | .decoyPlant => do
      pointers.deref .decoy
      core platform outside .decoyPlant bridge
  | .decoyTouch path action session detail => do
      pointers.deref .decoy
      core platform outside (.decoyTouch path action session detail) bridge
  | .activeResponseServe _ _ _ => do
      pointers.deref .activeResponse
      peripheral platform outside bridge
  | .runDemo => core platform outside (.runDemo outside.entries) bridge
  | .getAttribution _ => do
      pointers.deref .decoy
      pointers.deref .activeResponse
      peripheral platform outside bridge
  | .scanAndQuarantine path =>
      if path = [] then return ([.refused "no path provided"], bridge)
      else
        guarded pointers .clamd "clamd_not_available" (fun bridge => do
          if outside.infected then pointers.deref .quarantine
          peripheral platform outside bridge) bridge
  | .blockIp ip _ =>
      if ip = [] then return ([.refused "no ip provided"], bridge)
      else guarded pointers .firewall "firewall_not_available" (peripheral platform outside) bridge
  | .unblockIp ip =>
      if ip = [] then return ([.refused []], bridge)
      else guarded pointers .firewall [] (peripheral platform outside) bridge
  | .unlockVote approver =>
      if approver = [] then return ([.refused "no_approver_or_protocol_not_ready"], bridge)
      else
        guarded pointers .unlockProtocol "no_approver_or_protocol_not_ready"
          (core platform outside (.unlockVote approver)) bridge
  | .getUnlockStatus => do
      let snap ← buildSnapshot pointers outside.reports bridge
      return ([.unlockStatus snap.unlock], bridge)
  | .triageEvent eventType source score rawDetail =>
      guarded pointers .aiTriage "ai_triage_not_initialised"
        (core platform outside (.triageEvent ⟨eventType, source, score.toInt, rawDetail⟩)) bridge
  | .agentSubmit agentName input _ =>
      guarded pointers .agentController "agent_controller_not_initialised" (fun bridge =>
        if agentName = [] ∨ input = [] then
          return ([.refused "agent_name and input are required"], bridge)
        else peripheral platform outside bridge) bridge
  | .agentStatus =>
      guarded pointers .agentController "agent_controller_not_initialised"
        (peripheral platform outside) bridge
  | .networkGetSsids => peripheral platform outside bridge
  | .nacSimulateDevice _ _ _ _ _ _ _ _ _ => peripheral platform outside bridge
  | .zerotrustEvaluate _ _ _ _ _ _ => peripheral platform outside bridge
  | .unknown cmd => return ([.unknownCmd cmd], bridge)

/-! The monitor callbacks and the demo thread. -/

/-- `if (g_threat) g_threat->observe_signal(...)`. -/
def observeIfSet (score : Int) (source : ByteString) (bridge : Globals α) : Globals α :=
  if pointers.isSet .threatLevel then (bridge.observeSignal platform score source).2 else bridge

/-- `if (g_rules) g_rules->evaluate_threat_score(...)`. -/
def evaluateIfSet (score : Int) (source : ByteString) (bridge : Globals α) : Globals α :=
  if pointers.isSet .ruleEngine then (bridge.evaluateThreatScore platform score source).2
  else bridge

def onPacketWindow (flush : PacketFlush) (bridge : Globals α) : Except Subsystem (Written α) := do
  let w := flush.window
  let payload := ("window=" : ByteString) ++ ByteString.decimal w.windowIndex.toNat ++
    (" packets=" : ByteString) ++ ByteString.decimal w.packetCount ++
    (" mean_entropy=" : ByteString) ++ w.meanEntropyBits.toFixed 3 ++
    (" score=" : ByteString) ++ ByteString.decimal w.threatScore ++
    (" anomalous=" : ByteString) ++ boolText w.anomalous ++
    (" adapter=" : ByteString) ++ w.adapterName
  let bridge := bridge.audit platform "packet_entropy" payload
  let (events, bridge) ←
    if pointers.isSet .chaosDetector then
      pushChaos platform pointers (w.meanEntropyBits.map (· / 8)) w.synthetic bridge
    else pure ([], bridge)
  return (events,
    if w.anomalous then observeIfSet platform pointers w.threatScore "packet_entropy" bridge
    else bridge)

def onEventSignal (sig : EventSignal) (bridge : Globals α) : Except Subsystem (Written α) :=
  let bridge := observeIfSet platform pointers sig.score sig.source bridge
  let bridge := evaluateIfSet platform pointers sig.score sig.source bridge
  return ([], bridge.audit platform "event_log_signal"
    (("id=" : ByteString) ++ ByteString.decimal sig.eventId.toNat ++
      (" score=" : ByteString) ++ ByteString.decimal sig.score ++
      (" src=" : ByteString) ++ sig.source))

/-- Without a scanner the file is not scanned. -/
def onFsEvent (ev : FsEvent) (bridge : Globals α) : Except Subsystem (Written α) :=
  let bridge := if pointers.isSet .clamd then bridge.auditAll platform ev.entries else bridge
  if pointers.isSet .clamd = true ∧ ev.scan = .threw then return ([], bridge)
  else
    let bridge :=
      if pointers.isSet .clamd = true ∧ ev.scan = .infected then
        observeIfSet platform pointers 90 "clamd_infected_file" bridge
      else bridge
    return ([],
      if hiRisk.contains ev.extension then
        observeIfSet platform pointers 35 "fs_monitor/hi_risk_drop" bridge
      else bridge)

def runDemoOp (now : Int64) (op : DemoOp) (bridge : Globals α) : Except Subsystem (Written α) :=
  match op with
  | .signal score =>
      let bridge := observeIfSet platform pointers score "demo" bridge
      return ([], evaluateIfSet platform pointers score "demo" bridge)
  | .push value => pushChaos platform pointers value true bridge
  | .plant | .touch _ _ => do
      pointers.deref .decoy
      return ([], op.run platform now bridge)
  | .serve _ => do
      pointers.deref .activeResponse
      return ([], op.run platform now bridge)
  | .triggerLockdown => return ([], op.run platform now bridge)
  | .lockAll => do
      pointers.deref .sandbox
      return ([], op.run platform now bridge)
  | .completed => return ([.demoDone], op.run platform now bridge)

def runDemoStep (thread : Nat) (now : Int64) (bridge : Globals α) : Except Subsystem (Written α) :=
  match bridge.nextDemoOp? thread with
  | none => return ([], bridge)
  | some op =>
      runDemoOp platform pointers now op
        { bridge with demos := bridge.demos.modify thread List.tail }

def perform (bridge : Globals α) : Action → Except Subsystem (Written α)
  | .command outside request => dispatch platform pointers outside request bridge
  | .malformed => return ([.reply .parseError], bridge)
  | .tick reports => do
      let snap ← buildSnapshot pointers reports bridge
      return ([.tick snap], bridge)
  | .packetWindow flush => onPacketWindow platform pointers flush bridge
  | .eventLog signal => onEventSignal platform pointers signal bridge
  | .fsEvent event => onFsEvent platform pointers event bridge
  | .demoStep thread now => runDemoStep platform pointers thread now bridge
  | .background entries => return ([], bridge.auditAll platform entries)

/-- The process: its bridge, the lines written so far, and the null pointer it came to use. -/
structure Process (α : Type) where
  bridge : Globals α
  emitted : List Event := []
  fault : Option Subsystem := none

def step (process : Process α) (action : Action) : Process α :=
  match perform platform pointers process.bridge action with
  | .error subsystem => { process with fault := some subsystem }
  | .ok (events, bridge) => { process with bridge := bridge, emitted := process.emitted ++ events }

/-- The runs of the process, until it uses a null pointer. -/
def degradedSystem (start : Globals α) : System (Process α) Action where
  Init := fun process => process = { bridge := start }
  Step := fun process action after =>
    process.fault = none ∧ action.Enabled pointers ∧ after = step platform pointers process action

end

end Astartis.Degradation
