import Astartis.AiTriage
import Astartis.Decoy
import Astartis.RuleSafety
import Astartis.UnlockProtocol
import Astartis.VeeamInterface

namespace Astartis.Bridge

open Access
open Ai
open Audit
open Backup
open Chaos
open Crypto
open Decoy
open Rules
open Sensor
open Threat
open TransitionSystem
open Unlock
open Worm

/-- What the bridge is built on: the adder of its audit chain, the statistics of
the chaos detector and the libraries it links. -/
structure Platform (α : Type) where
  auditAdder : AuditAdder α
  analysis : Analysis
  scheme : SignatureScheme
  json : Json.Library

structure Inputs where
  now : Int64
  challengeDraw : Option (Vector UInt8 32)
  nonce : ByteString
  exchange : ByteString → UInt16 → ByteString → Int → List ByteString

inductive DemoOp
  | signal (score : Int)
  | push (value : Double)
  | plant
  | touch (path action : ByteString)
  | serve (entries : List (ByteString × ByteString))
  | triggerLockdown
  | lockAll
  | completed

/-- The globals `on_chaos_window` works on. -/
structure Core (α : Type) where
  engine : Engine (Lockdown α)
  latestK : Double := .finite 0
  latestAnomalous : Bool := false
  latestChaosWindows : UInt64 := 0
  chaosHistory : List Double := []

/-- The globals of the bridge.  `demos` holds what the detached demo threads still
have to do. -/
structure Globals (α : Type) where
  core : Core α
  sandbox : Sandbox
  chaos : ChaosDetector
  decoy : DecoyEnvironment := {}
  tokens : TokenStore
  unlock : UnlockProtocol
  approverIdentities : Std.TreeMap ByteString Identity
  aiTriage : AiTriage := {}
  veeam : VeeamInterface := {}
  lastTriage : Option TriageResult := none
  demos : List (List DemoOp) := []

/-- The commands of `dispatch`, with their arguments extracted.  A `peripheral`
command is one of a component that shares only the audit chain with the others: it
appends entries of its own.  A `malformed` line raises an exception before it has an
effect. -/
inductive Command
  | ping
  | getSnapshot
  | observeSignal (score : Int) (source : ByteString)
  | pushChaos (value : Double) (synthetic : Bool)
  | pushChaosBatch (values : List Double) (synthetic : Bool)
  | wormTrigger (reason : ByteString)
  | wormUnlock
  | veeamIntegrityCheck
  | veeamStatus
  | sandboxGetTree
  | decoyPlant
  | decoyTouch (path action session detail : ByteString)
  | runDemo (serveEntries : List (ByteString × ByteString))
  | unlockVote (approver : ByteString)
  | getUnlockStatus
  | triageEvent (input : TriageInput)
  | peripheral (entries : List (ByteString × ByteString))
  | malformed

inductive Reply
  | pong
  | snapshot
  | signalResult (tier : ThreatTier) (tierChanged wormTriggered : Bool) (action : ByteString)
  | chaosPushed (value : Double)
  | chaosBatchPushed (count : Nat)
  | wormStatus (locked : Bool) (reason : ByteString)
  | wormUnlockRejected (locked : Bool) (reason error hint : ByteString)
  | veeamCheckResult (result : IntegrityCheckResult)
  | veeamStatus (status : BackupRepoStatus)
  | sandboxTree (entries : List SandboxEntry)
  | decoyPlanted (count : Nat)
  | decoyTouch (hit : Bool) (path : ByteString)
  | demoStartedAsync
  | unlockVoteRefused (reason : ByteString)
  | unlockVoteResult (result : VoteResult)
  | unlockStatus (status : UnlockStatus)
  | triageResult (result : TriageResult)
  | peripheral
  | parseError

def Reply.unlocked : Reply → Bool
  | .unlockVoteResult result => result.unlocked
  | _ => false

structure PacketFlush where
  windowIndex : UInt64
  packetCount : Nat
  mean : Double
  mx : Double
  mn : Double
  synthetic : Bool
  adapterName : ByteString

def PacketFlush.window (flush : PacketFlush) : EntropyWindow :=
  .ofStatistics flush.windowIndex flush.packetCount flush.mean flush.mx flush.mn
    flush.synthetic flush.adapterName

structure EventSignal where
  eventId : UInt16
  score : Int
  source : ByteString

/-- How scanning a file and, when it is infected, moving it to quarantine ends.  The
monitor swallows an exception, which ends the callback. -/
inductive ScanOutcome
  | notInfected
  | infected
  | threw
deriving DecidableEq

/-- An event of the file system monitor, with the entries its scan and quarantine add
to the audit chain. -/
structure FsEvent where
  extension : ByteString
  scan : ScanOutcome
  entries : List (ByteString × ByteString)

/-- What happens to the bridge: a line on stdin, a monitor callback, the next
operation of a demo thread, or an entry of some other thread in the audit chain. -/
inductive Action
  | command (inputs : Inputs) (command : Command)
  | packetWindow (flush : PacketFlush)
  | eventLog (signal : EventSignal)
  | fsEvent (event : FsEvent)
  | demoStep (thread : Nat) (now : Int64)
  | background (entries : List (ByteString × ByteString))

def Action.isMonitorCallback : Action → Bool
  | .packetWindow _ | .eventLog _ | .fsEvent _ => true
  | _ => false

section

variable {α : Type} (platform : Platform α)

namespace Platform

/-- `worm_trigger_fn` and the lock query, for the rule engine and its state machine. -/
def wiring : Wiring (Lockdown α) :=
  .ofLockdown platform.auditAdder

def sandboxCallbacks : Sandbox.Callbacks (Lockdown α) where
  auditAdder := Lockdown.addEntry platform.auditAdder
  lockCheck := Lockdown.isLocked

def unlockCallbacks : Unlock.Callbacks (Lockdown α) :=
  .ofLockdown platform.auditAdder

end Platform

/-- `make_audit_adder` for a component that works on the core. -/
def Core.addEntry : AuditAdder (Core α) := fun eventType payload core =>
  let (entryId, world) :=
    Lockdown.addEntry platform.auditAdder eventType payload core.engine.world
  (entryId, { core with engine := { core.engine with world := world } })

def onChaosWindow (w : ChaosWindow) (core : Core α) : Core α :=
  let (rr, engine) := core.engine.evaluateChaosWindow platform.wiring w
  let engine :=
    if rr.wormTriggered then
      let reason := ("RULE-05 chaos K=" : ByteString) ++ w.K.toText
      { engine with world := engine.world.trigger platform.auditAdder reason }
    else engine
  let history := core.chaosHistory ++ [w.K]
  { engine := engine
    latestK := w.K
    latestAnomalous := w.anomalous
    latestChaosWindows := w.windowIndex + 1
    chaosHistory := if history.length > 100 then history.drop 1 else history }

def Platform.chaosCallbacks : Chaos.Callbacks (Core α) where
  windowCb := onChaosWindow platform
  auditAdder := Core.addEntry platform

namespace Globals

def world (self : Globals α) : Lockdown α :=
  self.core.engine.world

def withEngine (engine : Engine (Lockdown α)) (self : Globals α) : Globals α :=
  { self with core := { self.core with engine := engine } }

def withWorld (world : Lockdown α) (self : Globals α) : Globals α :=
  self.withEngine { self.core.engine with world := world }

def isLocked (self : Globals α) : Bool :=
  self.world.isLocked

def currentTier (self : Globals α) : ThreatTier :=
  self.core.engine.currentTier

def audit (eventType payload : ByteString) (self : Globals α) : Globals α :=
  self.withWorld (Lockdown.addEntry platform.auditAdder eventType payload self.world).2

def auditAll (entries : List (ByteString × ByteString)) (self : Globals α) : Globals α :=
  entries.foldl (fun self entry => self.audit platform entry.1 entry.2) self

def triggerLockdown (reason : ByteString) (self : Globals α) : Bool × Globals α :=
  let (changed, worm, audit) :=
    self.world.worm.triggerLockdown platform.auditAdder reason self.world.audit
  (changed, self.withWorld { worm := worm, audit := audit })

def observeSignal (score : Int) (source : ByteString) (self : Globals α) :
    SignalResult × Globals α :=
  let (result, engine) := self.core.engine.observeSignal platform.wiring score source
  (result, self.withEngine engine)

def evaluateThreatScore (score : Int) (source : ByteString) (self : Globals α) :
    RuleResult × Globals α :=
  let (result, engine) := self.core.engine.evaluateThreatScore platform.wiring score source
  (result, self.withEngine engine)

def pushChaos (value : Double) (synthetic : Bool) (self : Globals α) : Globals α :=
  let (chaos, core) := self.chaos.push platform.analysis platform.chaosCallbacks value
    synthetic self.core
  { self with chaos := chaos, core := core }

def lockAll (reason : ByteString) (self : Globals α) : Globals α :=
  let (_, sandbox, world) := self.sandbox.lockAll platform.sandboxCallbacks reason self.world
  { self with sandbox := sandbox }.withWorld world

def lockBackups (now : Int64) (reason : ByteString) (self : Globals α) : Globals α :=
  let (_, veeam, world) := self.veeam.lockBackups (Lockdown.addEntry platform.auditAdder)
    now reason self.world
  { self with veeam := veeam }.withWorld world

def plant (now : Int64) (self : Globals α) : Nat × Globals α :=
  let (planted, decoy, sandbox, world) := self.decoy.plant
    (Lockdown.addEntry platform.auditAdder) platform.sandboxCallbacks now self.sandbox
    self.world
  (planted, { self with decoy := decoy, sandbox := sandbox }.withWorld world)

def touch (now : Int64) (path action session detail : ByteString) (self : Globals α) :
    Bool × Globals α :=
  let (hit, decoy, world) := self.decoy.touch (Lockdown.addEntry platform.auditAdder)
    now path action session detail self.world
  (hit, { self with decoy := decoy }.withWorld world)

end Globals

/-! The commands. -/

def dispatchObserveSignal (score : Int) (source : ByteString) (bridge : Globals α) :
    Reply × Globals α :=
  let (result, bridge) := bridge.observeSignal platform score source
  let (rule, bridge) := bridge.evaluateThreatScore platform score source
  let wormFired := result.wormTriggered || rule.wormTriggered
  let bridge :=
    if wormFired then
      (bridge.triggerLockdown platform
        (("threat_signal score=" : ByteString) ++ ByteString.decimal score)).2
    else bridge
  (.signalResult result.currentTier result.tierChanged wormFired result.responseDescription,
    bridge)

def dispatchWormTrigger (inputs : Inputs) (reason : ByteString) (bridge : Globals α) :
    Reply × Globals α :=
  let (changed, bridge) := bridge.triggerLockdown platform reason
  let bridge :=
    if changed then
      let bridge := bridge.lockAll platform "worm_lockdown"
      let bridge := bridge.audit platform "worm_trigger" (("reason=" : ByteString) ++ reason)
      let bridge := { bridge with unlock := bridge.unlock.beginSession }
      bridge.lockBackups platform inputs.now reason
    else bridge
  (.wormStatus bridge.isLocked bridge.world.worm.lockReason, bridge)

/-- The double nearest to a product of two finite ones. -/
def mulFinite (a b : Double) : Double :=
  .ofRat (a.toRat * b.toRat)

/-- The values the demo pushes: the logistic map, shifted by a half. -/
def demoSamples : Nat → Double → List Double
  | 0, _ => []
  | n + 1, x =>
      let x := mulFinite (x.map (4 * ·)) (x.map (1 - ·))
      x.map (· - 1 / 2) :: demoSamples n x

def demoScript (serveEntries : List (ByteString × ByteString)) : List DemoOp :=
  [30, 60, 85, 95].map DemoOp.signal ++
    (demoSamples 64 (.ofRat (7 / 10))).map DemoOp.push ++
    [.plant,
      .touch "decoy/credentials/.aws/credentials" "read",
      .touch "decoy/assets/financial-projections-2024.xlsx" "exfil_attempt",
      .serve serveEntries, .triggerLockdown, .lockAll, .completed]

def dispatchRunDemo (serveEntries : List (ByteString × ByteString)) (bridge : Globals α) :
    Reply × Globals α :=
  let bridge := bridge.audit platform "demo_started" "pass=1"
  (.demoStartedAsync, { bridge with demos := bridge.demos ++ [demoScript serveEntries] })

def dispatchUnlockVote (inputs : Inputs) (approver : ByteString) (bridge : Globals α) :
    Reply × Globals α :=
  if approver = [] then (.unlockVoteRefused "no_approver_or_protocol_not_ready", bridge)
  else
    match bridge.approverIdentities[approver]? with
    | none => (.unlockVoteRefused "unknown_approver_identity", bridge)
    | some identity =>
        match bridge.unlock.getChallenge inputs.challengeDraw approver with
        | none => (.parseError, bridge)
        | some (challenge, unlock) =>
            if challenge = [] then
              (.unlockVoteRefused "no_challenge_or_already_voted",
                { bridge with unlock := unlock })
            else
              let signedReq := makeSignedRequest platform.scheme inputs.nonce inputs.now
                identity challenge
              let (vr, unlock, world) := unlock.castVote platform.unlockCallbacks
                platform.scheme bridge.tokens inputs.now approver signedReq bridge.world
              (.unlockVoteResult vr, { bridge with unlock := unlock }.withWorld world)

def truncateDetail (input : TriageInput) : TriageInput :=
  if input.rawDetail.length > 200 then
    { input with rawDetail := ByteString.substr input.rawDetail 0 200 }
  else input

def Platform.services (inputs : Inputs) : Services where
  json := platform.json
  exchange := inputs.exchange

def dispatchTriageEvent (inputs : Inputs) (input : TriageInput) (bridge : Globals α) :
    Reply × Globals α :=
  match bridge.aiTriage.triage (platform.services inputs) platform.wiring
    (truncateDetail input) bridge.core.engine with
  | none => (.parseError, bridge)
  | some (result, engine) =>
      (.triageResult result, { bridge with lastTriage := some result }.withEngine engine)

def dispatch (inputs : Inputs) (bridge : Globals α) : Command → Reply × Globals α
  | .ping => (.pong, bridge)
  | .getSnapshot => (.snapshot, bridge)
  | .observeSignal score source => dispatchObserveSignal platform score source bridge
  | .pushChaos value synthetic =>
      (.chaosPushed value, bridge.pushChaos platform value synthetic)
  | .pushChaosBatch values synthetic =>
      (.chaosBatchPushed values.length,
        values.foldl (fun bridge value => bridge.pushChaos platform value synthetic) bridge)
  | .wormTrigger reason => dispatchWormTrigger platform inputs reason bridge
  | .wormUnlock =>
      let bridge := bridge.audit platform "worm_unlock_rejected"
        "reason=direct_unlock_disabled use_unlock_vote_instead"
      (.wormUnlockRejected bridge.isLocked bridge.world.worm.lockReason
        "Direct unlock disabled. Use unlock_vote with all required approvers."
        "POST cmd=unlock_vote for each approver to reach threshold", bridge)
  | .veeamIntegrityCheck =>
      let (result, veeam, world) := bridge.veeam.integrityCheck
        (Lockdown.addEntry platform.auditAdder) inputs.now bridge.world
      (.veeamCheckResult result, { bridge with veeam := veeam }.withWorld world)
  | .veeamStatus => (.veeamStatus bridge.veeam.status, bridge)
  | .sandboxGetTree => (.sandboxTree bridge.sandbox.getTree, bridge)
  | .decoyPlant =>
      let (count, bridge) := bridge.plant platform inputs.now
      (.decoyPlanted count, bridge)
  | .decoyTouch path action session detail =>
      let (hit, bridge) := bridge.touch platform inputs.now path action session detail
      (.decoyTouch hit path, bridge)
  | .runDemo serveEntries => dispatchRunDemo platform serveEntries bridge
  | .unlockVote approver => dispatchUnlockVote platform inputs approver bridge
  | .getUnlockStatus => (.unlockStatus bridge.unlock.status, bridge)
  | .triageEvent input => dispatchTriageEvent platform inputs input bridge
  | .peripheral entries => (.peripheral, bridge.auditAll platform entries)
  | .malformed => (.parseError, bridge)

/-! The monitor callbacks and the demo thread. -/

/-- `flush_window_locked` of the packet sensor and the callback it fires. -/
def onPacketWindow (flush : PacketFlush) (bridge : Globals α) : Globals α :=
  let w := flush.window
  let payload := ("window=" : ByteString) ++ ByteString.decimal w.windowIndex.toNat ++
    (" packets=" : ByteString) ++ ByteString.decimal w.packetCount ++
    (" mean_entropy=" : ByteString) ++ w.meanEntropyBits.toFixed 3 ++
    (" score=" : ByteString) ++ ByteString.decimal w.threatScore ++
    (" anomalous=" : ByteString) ++ boolText w.anomalous ++
    (" adapter=" : ByteString) ++ w.adapterName
  let bridge := bridge.audit platform "packet_entropy" payload
  let bridge := bridge.pushChaos platform (w.meanEntropyBits.map (· / 8)) w.synthetic
  if w.anomalous then (bridge.observeSignal platform w.threatScore "packet_entropy").2
  else bridge

def onEventSignal (sig : EventSignal) (bridge : Globals α) : Globals α :=
  let (_, bridge) := bridge.observeSignal platform sig.score sig.source
  let (_, bridge) := bridge.evaluateThreatScore platform sig.score sig.source
  bridge.audit platform "event_log_signal"
    (("id=" : ByteString) ++ ByteString.decimal sig.eventId.toNat ++
      (" score=" : ByteString) ++ ByteString.decimal sig.score ++
      (" src=" : ByteString) ++ sig.source)

def hiRisk : List ByteString :=
  [".exe", ".dll", ".bat", ".ps1", ".vbs", ".scr", ".com", ".pif"]

def onFsEvent (ev : FsEvent) (bridge : Globals α) : Globals α :=
  let bridge := bridge.auditAll platform ev.entries
  if ev.scan = .threw then bridge
  else
    let bridge :=
      if ev.scan = .infected then
        (bridge.observeSignal platform 90 "clamd_infected_file").2
      else bridge
    if ev.extension ∈ hiRisk then
      (bridge.observeSignal platform 35 "fs_monitor/hi_risk_drop").2
    else bridge

def DemoOp.run (now : Int64) (bridge : Globals α) : DemoOp → Globals α
  | .signal score =>
      let (_, bridge) := bridge.observeSignal platform score "demo"
      (bridge.evaluateThreatScore platform score "demo").2
  | .push value => bridge.pushChaos platform value true
  | .plant => (bridge.plant platform now).2
  | .touch path action => (bridge.touch platform now path action "demo-atk" "demo").2
  | .serve entries => bridge.auditAll platform entries
  | .triggerLockdown => (bridge.triggerLockdown platform "demo_script").2
  | .lockAll => bridge.lockAll platform "demo_worm"
  | .completed => bridge.audit platform "demo_completed" "pass=1"

def Globals.nextDemoOp? (thread : Nat) (self : Globals α) : Option DemoOp :=
  self.demos[thread]?.bind List.head?

def runDemoStep (thread : Nat) (now : Int64) (bridge : Globals α) : Globals α :=
  match bridge.nextDemoOp? thread with
  | none => bridge
  | some op => op.run platform now { bridge with demos := bridge.demos.modify thread List.tail }

def perform (bridge : Globals α) : Action → Globals α
  | .command inputs command => (dispatch platform inputs bridge command).2
  | .packetWindow flush => onPacketWindow platform flush bridge
  | .eventLog signal => onEventSignal platform signal bridge
  | .fsEvent event => onFsEvent platform event bridge
  | .demoStep thread now => runDemoStep platform thread now bridge
  | .background entries => bridge.auditAll platform entries

/-! `main`. -/

/-- What the start of the bridge draws and reads: the directory of the sandbox, the
clock, the bytes of the three tokens, the keys of the three approvers, and what the
other components add to the audit chain. -/
structure Setup where
  sandboxRoot : ByteString
  now : Int64
  tokenDraws : ByteString → Option (Vector UInt8 16)
  keys : ByteString → ByteString
  entries : List (ByteString × ByteString)

def ttl24h : Int64 := 24 * 60 * 60 * 1000

/-- `try_init("unlock_protocol", ...)`, with the message of the exception. -/
def initUnlock (setup : Setup) (world : Lockdown α) :
    Except ByteString (TokenStore × UnlockProtocol × Lockdown α) := do
  let grant (name : ByteString) (tokens : TokenStore) (world : Lockdown α) :=
    tokens.grant (Lockdown.addEntry platform.auditAdder) (setup.tokenDraws name) setup.now
      name "worm_unlock_vote" ttl24h world
  let key (name : ByteString) := platform.scheme.publicKeyDer (setup.keys name)
  let (tAst, tokens, world) ← grant "astartis-admin-1" {} world
  let (tCl1, tokens, world) ← grant "client-rep-1" tokens world
  let (tCl2, tokens, world) ← grant "client-rep-2" tokens world
  let unlock := UnlockProtocol.construct demoThreshold
  let unlock := unlock.registerApprover "astartis-admin-1" .astartis
    (key "astartis-admin-1") tAst.tokenId
  let unlock := unlock.registerApprover "client-rep-1" .client
    (key "client-rep-1") tCl1.tokenId
  let unlock := unlock.registerApprover "client-rep-2" .client
    (key "client-rep-2") tCl2.tokenId
  return (tokens, unlock, world)

def approverNames : List ByteString :=
  ["astartis-admin-1", "client-rep-1", "client-rep-2"]

/-- The bridge when its threads start, with every component initialised. -/
def launch (setup : Setup) (protect : Bool) (audit : α) : Except ByteString (Globals α) := do
  let (_, sandbox, world) := (Sandbox.construct setup.sandboxRoot).populate
    platform.sandboxCallbacks setup.now { audit := audit }
  let (tokens, unlock, world) ← initUnlock platform setup world
  let bridge : Globals α :=
    { core := { engine := { world := world } }
      sandbox := sandbox
      chaos := { windowSize := 16 }
      tokens := tokens
      unlock := unlock
      approverIdentities := approverNames.foldl
        (fun identities name => identities.insert name ⟨name, setup.keys name⟩) {} }
  let bridge := bridge.auditAll platform setup.entries
  if protect then
    let (planted, bridge) := bridge.plant platform setup.now
    return bridge.audit platform "decoy_plant_startup"
      (("count=" : ByteString) ++ ByteString.decimal planted)
  else
    return bridge

/-- The runs of the bridge: lines on stdin, demo operations and foreign audit entries
in any order, and with `--protect` the monitor callbacks among them. -/
def bridgeSystem (protect : Bool) (audit : α) : System (Globals α) Action where
  Init := fun bridge => ∃ setup, launch platform setup protect audit = .ok bridge
  Step := fun bridge action after =>
    (action.isMonitorCallback = true → protect = true) ∧ after = perform platform bridge action

end

end Astartis.Bridge
