import Astartis.LockOrder

/-!
Which mutexes the code of the bridge takes inside of which.  Of every function only its
scoped locks are kept, the branches it may take and the calls it makes, through the callbacks
that `main` wires.
-/

namespace Astartis.Locks

open LockOrder
open TransitionSystem

inductive Mutex
  | auditChain
  | wormLock
  | threatStateMachine
  | ruleEngine
  | sandbox
  | versionStore
  | decoyEnvironment
  | activeResponse
  | quarantine
  | firewallBlocker
  | tokenStore
  | unlockProtocol
  | aiTriage
  | veeamInterface
  | agentController
  | skillCache
  | autonomySignals
  | autonomyThreat
  | packetWindow
  | extFilter
  | write
  | hist
  | triageSnap
  | metricsHist
deriving DecidableEq

/-- What a function takes ranks higher than what its callers may hold. -/
def Mutex.rank : Mutex → Nat
  | .packetWindow | .aiTriage => 0
  | .ruleEngine => 1
  | .threatStateMachine | .unlockProtocol | .decoyEnvironment => 2
  | .wormLock | .sandbox | .versionStore | .activeResponse | .quarantine | .firewallBlocker
  | .tokenStore | .veeamInterface => 3
  | .auditChain | .agentController | .skillCache | .autonomySignals | .autonomyThreat
  | .extFilter | .write | .hist | .triageSnap | .metricsHist => 4

abbrev Code := LockOrder.Code Mutex

open LockOrder.Code

/-- A function that reads or writes members under one mutex and calls nobody. -/
def guarded (mutex : Mutex) : Code :=
  .locked mutex .skip

def AuditChain.addEntry : Code := guarded .auditChain

namespace WormLock

def isLocked : Code := guarded .wormLock

def triggerLockdown : Code := .locked .wormLock (optional AuditChain.addEntry)

def unlock : Code := .locked .wormLock (optional AuditChain.addEntry)

end WormLock

namespace ThreatStateMachine

def currentTier : Code := guarded .threatStateMachine

/-- Called with the mutex held. -/
def doTransition : Code := block [AuditChain.addEntry, optional WormLock.triggerLockdown]

def observeSignal : Code := .locked .threatStateMachine (optional doTransition)

def forceTier : Code := .locked .threatStateMachine (optional doTransition)

end ThreatStateMachine

namespace RuleEngine

def applyRule04Belt : Code :=
  block
    [ThreatStateMachine.currentTier,
      optional (block
        [WormLock.isLocked,
          optional (block
            [WormLock.triggerLockdown, guarded .ruleEngine, AuditChain.addEntry])])]

def evaluatePacketWindow : Code :=
  block
    [ThreatStateMachine.observeSignal,
      optional (block
        [ThreatStateMachine.forceTier, applyRule04Belt, AuditChain.addEntry,
          guarded .ruleEngine])]

def evaluateThreatScore : Code :=
  block
    [ThreatStateMachine.observeSignal, applyRule04Belt, optional (guarded .ruleEngine)]

def evaluateAuthFailures : Code :=
  optional (block
    [ThreatStateMachine.forceTier, optional applyRule04Belt, AuditChain.addEntry,
      guarded .ruleEngine])

/-- The only rule that calls others with its own mutex held. -/
def evaluateChaosWindow : Code :=
  .locked .ruleEngine
    (optional (block [ThreatStateMachine.forceTier, AuditChain.addEntry]))

end RuleEngine

namespace Sandbox

def populate : Code := .locked .sandbox (optional AuditChain.addEntry)

/-- `lock_check_` comes in front of the mutex. -/
def write : Code :=
  optional (block
    [WormLock.isLocked, optional (.locked .sandbox (optional AuditChain.addEntry))])

def lockEntry : Code := optional (.locked .sandbox (optional AuditChain.addEntry))

def unlockEntry : Code := optional (.locked .sandbox (optional AuditChain.addEntry))

def lockAll : Code := .locked .sandbox AuditChain.addEntry

end Sandbox

def VersionStore.write : Code :=
  optional (block
    [WormLock.isLocked, optional (.locked .versionStore AuditChain.addEntry)])

namespace DecoyEnvironment

def plant : Code :=
  .locked .decoyEnvironment (block [.loop Sandbox.write, AuditChain.addEntry])

def touch : Code := .locked .decoyEnvironment (optional AuditChain.addEntry)

def redirect : Code := .locked .decoyEnvironment AuditChain.addEntry

end DecoyEnvironment

namespace ActiveResponse

def serve : Code :=
  .locked .activeResponse (block [optional AuditChain.addEntry, AuditChain.addEntry])

def checkIoc : Code := .locked .activeResponse (optional AuditChain.addEntry)

end ActiveResponse

def AttributionReporter.generate : Code :=
  block [guarded .decoyEnvironment, guarded .activeResponse, AuditChain.addEntry]

def ClamdScanner.scanFile : Code := AuditChain.addEntry

namespace Quarantine

def quarantineFile : Code := optional (block [AuditChain.addEntry, guarded .quarantine])

def restore : Code := .locked .quarantine (optional AuditChain.addEntry)

end Quarantine

namespace FirewallBlocker

def block : Code := optional (.locked .firewallBlocker (optional AuditChain.addEntry))

def unblock : Code := .locked .firewallBlocker (optional AuditChain.addEntry)

/-- One pass of `expiry_loop`. -/
def expiryPass : Code := .locked .firewallBlocker (.loop AuditChain.addEntry)

end FirewallBlocker

namespace TokenStore

def grant : Code := optional (.locked .tokenStore (optional AuditChain.addEntry))

def revoke : Code := .locked .tokenStore (optional AuditChain.addEntry)

def checkAccess : Code := .locked .tokenStore (optional AuditChain.addEntry)

end TokenStore

namespace UnlockProtocol

def reject : Code := AuditChain.addEntry

def castVote : Code :=
  .locked .unlockProtocol
    (.choice reject
      (block
        [TokenStore.checkAccess,
          .choice reject
            (block
              [AuditChain.addEntry,
                optional (block [AuditChain.addEntry, WormLock.unlock])])]))

end UnlockProtocol

namespace VeeamInterface

def lockBackups : Code := .locked .veeamInterface (optional AuditChain.addEntry)

def unlockBackups : Code := .locked .veeamInterface (optional AuditChain.addEntry)

def integrityCheck : Code := .locked .veeamInterface AuditChain.addEntry

end VeeamInterface

def AiTriage.triage : Code :=
  .locked .aiTriage
    (block
      [RuleEngine.evaluateThreatScore, ThreatStateMachine.currentTier, AuditChain.addEntry])

/-- The bridge's writer of standard output. -/
def emit : Code := guarded .write

def onChaosWindow : Code :=
  block
    [RuleEngine.evaluateChaosWindow, optional WormLock.triggerLockdown, optional emit,
      guarded .hist, emit]

namespace ChaosDetector

/-- The detector has no mutex of its own. -/
def flushWindow : Code := optional (block [AuditChain.addEntry, onChaosWindow])

def push : Code := optional flushWindow

end ChaosDetector

namespace PacketSensor

/-- The callback of `--protect`. -/
def windowCb : Code :=
  block [ChaosDetector.push, optional ThreatStateMachine.observeSignal]

/-- Called with the mutex held, which it keeps during the callback. -/
def flushWindowLocked : Code := optional (block [optional AuditChain.addEntry, windowCb])

def onPacket : Code := .locked .packetWindow (optional flushWindowLocked)

def flushWindow : Code := .locked .packetWindow (optional flushWindowLocked)

end PacketSensor

def GraniteClient.generate : Code := .loop AuditChain.addEntry

/-- The four actions, the first of which to be taken ends the call. -/
def ActionDispatcher.dispatch : Code :=
  block
    [optional (block [FirewallBlocker.block, AuditChain.addEntry]),
      optional (block [Quarantine.quarantineFile, AuditChain.addEntry]),
      optional (block [ActiveResponse.serve, AuditChain.addEntry]),
      optional (block [AuditChain.addEntry, AuditChain.addEntry]),
      optional AuditChain.addEntry]

namespace AgentController

def loadPersona : Code := optional (.choice AuditChain.addEntry (guarded .agentController))

def submitTask : Code := guarded .agentController

def executeTask : Code :=
  block
    [guarded .agentController, .loop (guarded .skillCache), GraniteClient.generate,
      optional ActionDispatcher.dispatch, optional (guarded .agentController)]

/-- One turn of `worker_loop`; a wait gives the mutex back and takes it again. -/
def workerTurn : Code :=
  block
    [.loop (guarded .agentController), guarded .agentController, executeTask,
      guarded .agentController, guarded .agentController, AuditChain.addEntry]

end AgentController

namespace AutonomyLoop

def pushSignal : Code := guarded .autonomySignals

def notifyThreatLevel : Code := guarded .autonomyThreat

def tick : Code :=
  block
    [guarded .autonomyThreat, .loop AgentController.submitTask, guarded .autonomySignals,
      optional AgentController.submitTask, AgentController.submitTask, AuditChain.addEntry]

end AutonomyLoop

/-- The callback of the event log monitor. -/
def onEventSignal : Code :=
  block
    [ThreatStateMachine.observeSignal, RuleEngine.evaluateThreatScore,
      optional AutonomyLoop.pushSignal, AuditChain.addEntry]

/-- The callback of the file monitor, behind `should_fire`. -/
def onFsEvent : Code :=
  block
    [guarded .extFilter,
      optional (block
        [ClamdScanner.scanFile,
          optional (block
            [Quarantine.quarantineFile, ThreatStateMachine.observeSignal,
              optional AutonomyLoop.pushSignal])]),
      optional ThreatStateMachine.observeSignal]

def buildSnapshot : Code :=
  block
    ([.threatStateMachine, .threatStateMachine, .wormLock, .wormLock, .wormLock, .auditChain,
      .auditChain, .auditChain, .hist, .ruleEngine, .ruleEngine, .decoyEnvironment, .sandbox,
      .quarantine, .firewallBlocker, .unlockProtocol, .triageSnap, .veeamInterface,
      .agentController, .agentController].map guarded)

/-- One turn of `tick_loop`. -/
def tick : Code :=
  block [buildSnapshot, emit]

/-- The provider of the dashboard. -/
def dataProvider : Code :=
  block
    ([.threatStateMachine, .wormLock, .auditChain, .agentController, .agentController,
      .agentController, .firewallBlocker, .quarantine, .sandbox, .hist, .auditChain, .auditChain,
      .decoyEnvironment, .auditChain, .metricsHist].map guarded)

/-- The accessors of every component, and all functions that call others. -/
def operations : List Code :=
  [Mutex.auditChain, .wormLock, .threatStateMachine, .ruleEngine, .sandbox, .versionStore,
    .decoyEnvironment, .activeResponse, .quarantine, .firewallBlocker, .tokenStore,
    .unlockProtocol, .veeamInterface, .agentController, .extFilter, .triageSnap].map guarded ++
  [WormLock.triggerLockdown, WormLock.unlock, ThreatStateMachine.observeSignal,
    ThreatStateMachine.forceTier, RuleEngine.evaluatePacketWindow, RuleEngine.evaluateThreatScore,
    RuleEngine.evaluateAuthFailures, RuleEngine.evaluateChaosWindow, Sandbox.populate,
    Sandbox.write, Sandbox.lockEntry, Sandbox.unlockEntry, Sandbox.lockAll, VersionStore.write,
    DecoyEnvironment.plant, DecoyEnvironment.touch, DecoyEnvironment.redirect,
    ActiveResponse.serve, ActiveResponse.checkIoc, AttributionReporter.generate,
    ClamdScanner.scanFile, Quarantine.quarantineFile, Quarantine.restore, FirewallBlocker.block,
    FirewallBlocker.unblock, FirewallBlocker.expiryPass, TokenStore.grant, TokenStore.revoke,
    TokenStore.checkAccess, UnlockProtocol.castVote, VeeamInterface.lockBackups,
    VeeamInterface.unlockBackups, VeeamInterface.integrityCheck, AiTriage.triage, emit,
    ChaosDetector.flushWindow, ChaosDetector.push, PacketSensor.onPacket,
    PacketSensor.flushWindow, AgentController.workerTurn, AgentController.loadPersona,
    AutonomyLoop.pushSignal, AutonomyLoop.notifyThreatLevel, AutonomyLoop.tick, onEventSignal,
    onFsEvent, tick, dataProvider]

theorem operations_ordered : ∀ code ∈ operations, code.Ordered Mutex.rank 0 := by
  decide

theorem rank_lt (mutex : Mutex) : mutex.rank < 5 := by
  cases mutex <;> decide

/-- What a thread of the bridge does to the mutexes: a command, a callback, a worker or a loop
calls one operation after the other, each along some path. -/
def IsProgram (ops : List (Op Mutex)) : Prop :=
  ∃ calls : List (List (Op Mutex)), ops = calls.flatten ∧
    ∀ call ∈ calls, ∃ code ∈ operations, code.Path call

theorem IsProgram.disciplined {ops : List (Op Mutex)} (hprogram : IsProgram ops) :
    Disciplined Mutex.rank [] ops := by
  obtain ⟨calls, rfl, hcalls⟩ := hprogram
  apply disciplined_flatten
  intro call hcall
  obtain ⟨code, hcode, hpath⟩ := hcalls call hcall
  exact ⟨code, operations_ordered code hcode, hpath⟩

variable {Thread : Type} [DecidableEq Thread] [Fintype Thread]

/-- Nobody can move. -/
def Stuck (c : Config Thread Mutex) : Prop :=
  ∀ thread c', ¬ LockOrder.Step c thread c'

/-- Everybody is through, and has left nothing locked. -/
def Finished (c : Config Thread Mutex) : Prop :=
  (∀ thread, c.rest thread = []) ∧ ∀ mutex, c.owner mutex = none

def audited : List (Op Mutex) :=
  [.acquire .auditChain, .release .auditChain]

theorem audited_path : AuditChain.addEntry.Path audited :=
  .locked .skip

def escalation : List (Op Mutex) :=
  .acquire .threatStateMachine :: audited ++ .acquire .wormLock :: audited ++
    [.release .wormLock, .release .threatStateMachine]

theorem escalation_path : ThreatStateMachine.observeSignal.Path escalation := by
  have hlock : WormLock.triggerLockdown.Path
      (.acquire .wormLock :: audited ++ [.release .wormLock]) := .locked (.left audited_path)
  exact Path.locked (.left (.seq audited_path (.seq (.left hlock) .skip)))

def lastVote : List (Op Mutex) :=
  .acquire .unlockProtocol :: [.acquire .tokenStore, .release .tokenStore] ++ audited ++ audited ++
    .acquire .wormLock :: audited ++ [.release .wormLock, .release .unlockProtocol]

theorem lastVote_path : UnlockProtocol.castVote.Path lastVote := by
  have hcheck : TokenStore.checkAccess.Path [.acquire .tokenStore, .release .tokenStore] :=
    .locked (.right .skip)
  have hunlock : WormLock.unlock.Path (.acquire .wormLock :: audited ++ [.release .wormLock]) :=
    .locked (.left audited_path)
  have hgrant : (optional (block [AuditChain.addEntry, WormLock.unlock])).Path
      (audited ++ (.acquire .wormLock :: audited ++ [.release .wormLock] ++ [])) :=
    .left (.seq audited_path (.seq hunlock .skip))
  exact Path.locked
    (.right (.seq hcheck (.seq (.right (.seq audited_path (.seq hgrant .skip))) .skip)))

def votingThreads (votes : Bool) : List (Op Mutex) :=
  if votes then lastVote else escalation

end Astartis.Locks
