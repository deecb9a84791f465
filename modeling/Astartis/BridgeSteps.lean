import Astartis.Bridge
import Astartis.LockdownPosture
import Astartis.TriageAuthority

namespace Astartis.Bridge

open Access
open Ai
open Audit
open Chaos
open Crypto
open Decoy
open Rules
open Threat
open TransitionSystem
open Unlock
open Worm

section

variable {α : Type}

namespace Globals

/-- The lockdown as the components of the bridge record it. -/
def posture (self : Globals α) : Posture where
  locked := self.isLocked
  session := self.unlock.state
  mirrored := self.veeam.isLocked

def ReachesCritical (score : Int) (self : Globals α) : Prop :=
  75 ≤ score ∨ (self.currentTier = .critical ∧ 65 ≤ score)

/-- A `push` completes a chaos window on which RULE-05 fires. -/
def FiresRule05 (platform : Platform α) (value : Double) (synthetic : Bool)
    (self : Globals α) : Prop :=
  ∃ w, self.chaos.completedWindow? platform.analysis value synthetic = some w ∧
    self.core.engine.ChaosFires w

/-- A vote of the approver is accepted and reaches the threshold. -/
def VoteDecides (platform : Platform α) (inputs : Inputs) (approver : ByteString)
    (self : Globals α) : Prop :=
  ∃ identity challenge unlock,
    approver ≠ [] ∧ self.approverIdentities[approver]? = some identity ∧
    self.unlock.getChallenge inputs.challengeDraw approver = some (challenge, unlock) ∧
    challenge ≠ [] ∧
    (∃ record issued, VoteAccepted platform.unlockCallbacks platform.scheme self.tokens
      inputs.now approver
      (makeSignedRequest platform.scheme inputs.nonce inputs.now identity challenge) unlock
      self.world record issued) ∧
    unlock.threshold ≤ countVotes unlock.votes + 1

end Globals

/-- The operation leaves the lock engaged, by the tier or directly. -/
def DemoOp.ReachesLock (bridge : Globals α) : DemoOp → Prop
  | .signal score => bridge.ReachesCritical score
  | .triggerLockdown => True
  | _ => False

namespace Action

variable (platform : Platform α) (bridge : Globals α)

/-- The action leaves the lock engaged, by another path than `worm_trigger`. -/
def ReachesLock : Action → Prop
  | .command _ (.observeSignal score _) => bridge.ReachesCritical score
  | .command inputs (.triageEvent input) =>
      ∃ fast heavy, bridge.aiTriage.consult (platform.services inputs) (truncateDetail input) =
          some (fast, heavy) ∧
        bridge.ReachesCritical (scoreForRuleEngine (truncateDetail input) fast heavy)
  | .packetWindow flush =>
      flush.window.anomalous = true ∧
        (bridge.currentTier = .critical → bridge.FiresRule05 platform
          (flush.window.meanEntropyBits.map (· / 8)) flush.window.synthetic)
  | .eventLog signal => bridge.ReachesCritical signal.score
  | .fsEvent event => event.scan = .infected ∧ bridge.currentTier ≠ .critical
  | .demoStep thread _ =>
      ∃ op, bridge.nextDemoOp? thread = some op ∧ op.ReachesLock bridge
  | _ => False

/-- The lock is engaged from normal by another path than `worm_trigger`. -/
def EngagesElsewhere (action : Action) : Prop :=
  bridge.isLocked = false ∧ action.ReachesLock platform bridge

def Grants (action : Action) : Prop :=
  ∃ inputs approver, action = .command inputs (.unlockVote approver) ∧
    bridge.VoteDecides platform inputs approver

def Triggers (action : Action) : Prop :=
  bridge.isLocked = false ∧ ∃ inputs reason, action = .command inputs (.wormTrigger reason)

open Classical in
noncomputable def move (action : Action) : Posture.Move :=
  if action.Grants platform bridge then .grant
  else if action.Triggers bridge then .trigger
  else if action.EngagesElsewhere platform bridge then .engage
  else .stay

end Action

end

section

variable {α : Type} {platform : Platform α}

namespace Globals

section

variable (self : Globals α)

@[simp] theorem audit_posture (eventType payload : ByteString) :
    (self.audit platform eventType payload).posture = self.posture := rfl

theorem auditAll_keeps (entries : List (ByteString × ByteString)) :
    (self.auditAll platform entries).posture = self.posture ∧
      (self.auditAll platform entries).currentTier = self.currentTier := by
  induction entries generalizing self with
  | nil => exact ⟨rfl, rfl⟩
  | cons entry entries ih => exact ih (self.audit platform entry.1 entry.2)

theorem triggerLockdown_posture (reason : ByteString) :
    (self.triggerLockdown platform reason).2.posture =
      { self.posture with locked := true } :=
  congrArg (fun locked => ({ self.posture with locked := locked } : Posture))
    (WormLock.triggerLockdown_isLocked platform.auditAdder reason self.world.worm
      self.world.audit)

theorem triggerLockdown_fst (reason : ByteString) :
    (self.triggerLockdown platform reason).1 = !self.isLocked :=
  WormLock.triggerLockdown_fst platform.auditAdder reason self.world.worm self.world.audit

theorem observeSignal_isLocked (score : Int) (source : ByteString) :
    (self.observeSignal platform score source).2.isLocked = true ↔
      self.isLocked = true ∨
        (self.currentTier ≠ .critical ∧ nextTier self.currentTier score = .critical) :=
  Engine.observeSignal_isLocked (Wiring.ofLockdown_wired platform.auditAdder) score source
    self.core.engine

/-- A signal for the state machine and then for the rule engine locks whenever it
leaves the tier at CRITICAL. -/
theorem signal_isLocked (score : Int) (source source' : ByteString) :
    ((self.observeSignal platform score source).2.evaluateThreatScore platform score
        source').2.isLocked = true ↔
      self.isLocked = true ∨ self.ReachesCritical score := by
  have hevaluate := Engine.evaluateThreatScore_isLocked
    (Wiring.ofLockdown_wired platform.auditAdder) score source'
    (self.observeSignal platform score source).2.core.engine
  have htier : (self.observeSignal platform score source).2.core.engine.currentTier =
      nextTier self.currentTier score :=
    Engine.observeSignal_currentTier score source self.core.engine
  rw [htier, nextTier_nextTier_eq_critical_iff] at hevaluate
  refine hevaluate.trans ?_
  constructor
  · rintro (h | h)
    · rcases (self.observeSignal_isLocked score source).mp h with h | ⟨-, h⟩
      · exact Or.inl h
      · exact Or.inr ((nextTier_eq_critical_iff _ _).mp h)
    · exact Or.inr ((nextTier_eq_critical_iff _ _).mp h)
  · rintro (h | h)
    · exact Or.inl ((self.observeSignal_isLocked score source).mpr (Or.inl h))
    · exact Or.inr ((nextTier_eq_critical_iff _ _).mpr h)

theorem onChaosWindow_isLocked (w : ChaosWindow) (core : Core α) :
    (onChaosWindow platform w core).engine.world.isLocked =
      core.engine.world.isLocked := by
  simp only [onChaosWindow, Engine.evaluateChaosWindow_wormTriggered]
  exact Engine.evaluateChaosWindow_isLocked (Wiring.ofLockdown_wired platform.auditAdder) w
    core.engine

theorem onChaosWindow_currentTier (w : ChaosWindow) (core : Core α) :
    (onChaosWindow platform w core).engine.currentTier =
      if core.engine.ChaosFires w then .medium else core.engine.currentTier := by
  simp only [onChaosWindow, Engine.evaluateChaosWindow_wormTriggered]
  exact Engine.evaluateChaosWindow_currentTier w core.engine

theorem pushChaos_core (value : Double) (synthetic : Bool) :
    (self.pushChaos platform value synthetic).core =
      match self.chaos.completedWindow? platform.analysis value synthetic with
      | none => self.core
      | some w => onChaosWindow platform w
          (Core.addEntry platform "chaos_window" w.text self.core).2 :=
  ChaosDetector.push_world platform.analysis platform.chaosCallbacks value synthetic
    self.chaos self.core

theorem pushChaos_posture (value : Double) (synthetic : Bool) :
    (self.pushChaos platform value synthetic).posture = self.posture := by
  have hlocked : (self.pushChaos platform value synthetic).isLocked = self.isLocked := by
    change (self.pushChaos platform value synthetic).core.engine.world.isLocked = _
    rw [pushChaos_core]
    split
    · rfl
    · exact onChaosWindow_isLocked _ _
  exact congrArg (fun locked => ({ self.posture with locked := locked } : Posture)) hlocked

theorem pushChaos_currentTier_iff (value : Double) (synthetic : Bool) :
    (self.pushChaos platform value synthetic).currentTier = .critical ↔
      self.currentTier = .critical ∧ ¬ self.FiresRule05 platform value synthetic := by
  change (self.pushChaos platform value synthetic).core.engine.currentTier = _ ↔ _
  rw [pushChaos_core]
  simp only [FiresRule05]
  split
  · rename_i hnone
    simp [hnone, currentTier]
  · rename_i w hsome
    rw [onChaosWindow_currentTier, hsome]
    change (if self.core.engine.ChaosFires w then ThreatTier.medium
      else self.currentTier) = .critical ↔ _
    split
    · rename_i hfires
      simp [hfires]
    · rename_i hfires
      simp [hfires]

theorem pushChaosBatch_posture (values : List Double) (synthetic : Bool) :
    (values.foldl (fun bridge value => bridge.pushChaos platform value synthetic)
      self).posture = self.posture := by
  induction values generalizing self with
  | nil => rfl
  | cons value values ih =>
      exact (ih (self.pushChaos platform value synthetic)).trans
        (self.pushChaos_posture value synthetic)

theorem withWorld_posture {world : Lockdown α} (hworld : world.worm = self.world.worm) :
    (self.withWorld world).posture = self.posture := by
  have hlocked : (self.withWorld world).isLocked = self.isLocked :=
    congrArg WormLock.isLocked hworld
  exact congrArg (fun locked => ({ self.posture with locked := locked } : Posture)) hlocked

theorem addEntry_unseen : Unseen (Lockdown.addEntry platform.auditAdder) Lockdown.worm :=
  fun _ _ _ => rfl

theorem lockAll_posture (reason : ByteString) :
    (self.lockAll platform reason).posture = self.posture :=
  withWorld_posture { self with sandbox := _ }
    (Sandbox.lockAll_observe platform.sandboxCallbacks reason self.sandbox self.world
      addEntry_unseen)

theorem lockBackups_posture (now : Int64) (reason : ByteString) :
    (self.lockBackups platform now reason).posture = { self.posture with mirrored := true } := by
  let outcome := self.veeam.lockBackups (Lockdown.addEntry platform.auditAdder) now reason
    self.world
  have hworld : outcome.2.2.worm = self.world.worm :=
    Backup.VeeamInterface.lockBackups_observe addEntry_unseen now reason self.veeam self.world
  have hmirrored : outcome.2.1.isLocked = true :=
    Backup.VeeamInterface.lockBackups_isLocked _ now reason self.veeam self.world
  calc
    (self.lockBackups platform now reason).posture =
        { self.posture with mirrored := outcome.2.1.isLocked } :=
      withWorld_posture { self with veeam := outcome.2.1 } hworld
    _ = { self.posture with mirrored := true } := by rw [hmirrored]

theorem plant_posture (now : Int64) :
    (self.plant platform now).2.posture = self.posture :=
  withWorld_posture { self with decoy := _, sandbox := _ }
    (DecoyEnvironment.plant_observe addEntry_unseen addEntry_unseen now self.decoy
      self.sandbox self.world)

theorem touch_posture (now : Int64) (path action session detail : ByteString) :
    (self.touch platform now path action session detail).2.posture = self.posture :=
  withWorld_posture { self with decoy := _ }
    (DecoyEnvironment.touch_observe addEntry_unseen now path action session detail
      self.decoy self.world)

end

end Globals

/-- An action that can only engage the lock: the rest of the posture stays, and the lock
is engaged if it was or if the condition holds. -/
structure LocksIf (before after : Globals α) (condition : Prop) : Prop where
  posture : after.posture = { before.posture with locked := after.isLocked }
  isLocked : after.isLocked = true ↔ before.isLocked = true ∨ condition

namespace LocksIf

variable {before mid after : Globals α} {condition condition' : Prop}

theorem of_posture_eq (hposture : after.posture = before.posture)
    (hcondition : ¬ condition) : LocksIf before after condition := by
  have hlocked : after.isLocked = before.isLocked := congrArg Posture.locked hposture
  refine ⟨?_, ?_⟩
  · rw [hposture, hlocked]
    rfl
  · simp [hlocked, hcondition]

theorem of_locked (hposture : after.posture = { before.posture with locked := true })
    (hcondition : condition) : LocksIf before after condition := by
  have hlocked : after.isLocked = true := congrArg Posture.locked hposture
  refine ⟨?_, ?_⟩
  · rw [hposture, hlocked]
  · simp [hlocked, hcondition]

theorem of_iff (h : LocksIf before after condition) (hiff : condition ↔ condition') :
    LocksIf before after condition' :=
  ⟨h.posture, h.isLocked.trans (or_congr Iff.rfl hiff)⟩

theorem comp_left (hposture : mid.posture = before.posture)
    (h : LocksIf mid after condition) : LocksIf before after condition := by
  have hlocked : mid.isLocked = before.isLocked := congrArg Posture.locked hposture
  refine ⟨?_, ?_⟩
  · rw [h.posture, hposture]
  · rw [h.isLocked, hlocked]

theorem comp_right (h : LocksIf before mid condition)
    (hposture : after.posture = mid.posture) : LocksIf before after condition := by
  have hlocked : after.isLocked = mid.isLocked := congrArg Posture.locked hposture
  refine ⟨?_, ?_⟩
  · rw [hposture, h.posture, hlocked]
  · rw [hlocked, h.isLocked]

theorem comp (h : LocksIf before mid condition) (h' : LocksIf mid after condition') :
    LocksIf before after (condition ∨ condition') := by
  refine ⟨?_, ?_⟩
  · rw [h'.posture, h.posture]
  · rw [h'.isLocked, h.isLocked, or_assoc]

end LocksIf

theorem observeSignal_locksIf (score : Int) (source : ByteString) (bridge : Globals α) :
    LocksIf bridge (bridge.observeSignal platform score source).2
      (bridge.currentTier ≠ .critical ∧ nextTier bridge.currentTier score = .critical) :=
  ⟨rfl, bridge.observeSignal_isLocked score source⟩

theorem signal_locksIf (score : Int) (source source' : ByteString) (bridge : Globals α) :
    LocksIf bridge ((bridge.observeSignal platform score source).2.evaluateThreatScore
      platform score source').2 (bridge.ReachesCritical score) :=
  ⟨rfl, bridge.signal_isLocked score source source'⟩

theorem signal_wormTriggered (score : Int) (source source' : ByteString)
    (bridge : Globals α)
    (hfired : ((bridge.observeSignal platform score source).1.wormTriggered ||
      ((bridge.observeSignal platform score source).2.evaluateThreatScore platform score
        source').1.wormTriggered) = true) : bridge.ReachesCritical score := by
  apply (nextTier_eq_critical_iff _ _).mp
  rcases Bool.or_eq_true_iff.mp hfired with h | h
  · exact ThreatStateMachine.observeSignal_wormTriggered score source bridge.core.engine.tsm
      bridge.core.engine.world h
  · have hnext := Engine.evaluateThreatScore_wormTriggered score source'
      (bridge.observeSignal platform score source).2.core.engine h
    have htier : (bridge.observeSignal platform score source).2.core.engine.currentTier =
        nextTier bridge.currentTier score :=
      Engine.observeSignal_currentTier score source bridge.core.engine
    rw [htier] at hnext
    exact (nextTier_nextTier_eq_critical_iff _ _).mp hnext

theorem dispatchObserveSignal_locksIf (score : Int) (source : ByteString)
    (bridge : Globals α) :
    LocksIf bridge (dispatchObserveSignal platform score source bridge).2
      (bridge.ReachesCritical score) := by
  simp only [dispatchObserveSignal]
  split
  · rename_i hfired
    exact .of_locked (Globals.triggerLockdown_posture _ _)
      (signal_wormTriggered score source source bridge hfired)
  · exact signal_locksIf score source source bridge

theorem dispatchTriageEvent_locksIf (inputs : Inputs) (input : TriageInput)
    (bridge : Globals α) :
    LocksIf bridge (dispatchTriageEvent platform inputs input bridge).2
      ((Action.command inputs (.triageEvent input)).ReachesLock platform bridge) := by
  simp only [dispatchTriageEvent, AiTriage.triage, Action.ReachesLock]
  cases hconsult : bridge.aiTriage.consult (platform.services inputs) (truncateDetail input) with
  | none => exact .of_posture_eq rfl (by simp)
  | some replies =>
      refine ⟨rfl, ?_⟩
      have hconclude := conclude_isLocked platform.wiring (truncateDetail input) replies.1
        replies.2 bridge.core.engine (Wiring.ofLockdown_wired platform.auditAdder)
      refine hconclude.trans (or_congr Iff.rfl ?_)
      rw [nextTier_eq_critical_iff]
      constructor
      · intro h
        exact ⟨replies.1, replies.2, rfl, h⟩
      · rintro ⟨fast, heavy, hreplies, h⟩
        obtain rfl := Option.some.inj hreplies
        exact h

theorem onPacketWindow_locksIf (flush : PacketFlush) (bridge : Globals α) :
    LocksIf bridge (onPacketWindow platform flush bridge)
      ((Action.packetWindow flush).ReachesLock platform bridge) := by
  simp only [onPacketWindow, Action.ReachesLock]
  generalize hpushed : Globals.pushChaos platform (flush.window.meanEntropyBits.map (· / 8))
    flush.window.synthetic _ = pushed
  have hposture : pushed.posture = bridge.posture := by
    rw [← hpushed]
    exact Globals.pushChaos_posture _ _ _
  have htier : pushed.currentTier = .critical ↔ bridge.currentTier = .critical ∧
      ¬ bridge.FiresRule05 platform (flush.window.meanEntropyBits.map (· / 8))
        flush.window.synthetic := by
    rw [← hpushed]
    exact Globals.pushChaos_currentTier_iff _ _ _
  split
  · rename_i hanomalous
    have hcritical : nextTier pushed.currentTier flush.window.threatScore = .critical :=
      (nextTier_eq_critical_iff _ _).mpr
        (Or.inl (Sensor.anomalous_threatScore _ _ _ _ _ _ _ hanomalous))
    refine .comp_left hposture
      ((observeSignal_locksIf flush.window.threatScore _ pushed).of_iff ?_)
    simp [hanomalous, hcritical, htier]
  · rename_i hquiet
    exact .of_posture_eq hposture fun h => hquiet h.1

theorem onEventSignal_locksIf (sig : EventSignal) (bridge : Globals α) :
    LocksIf bridge (onEventSignal platform sig bridge) (bridge.ReachesCritical sig.score) := by
  apply (signal_locksIf sig.score sig.source sig.source bridge).comp_right
  exact Globals.audit_posture _ _ _

theorem onFsEvent_locksIf (ev : FsEvent) (bridge : Globals α) :
    LocksIf bridge (onFsEvent platform ev bridge)
      (ev.scan = .infected ∧ bridge.currentTier ≠ .critical) := by
  obtain ⟨hposture, htier⟩ := @Globals.auditAll_keeps α platform bridge ev.entries
  -- a signal of score 35 never leads to CRITICAL
  have hdrop : ∀ mid : Globals α, LocksIf mid
      (mid.observeSignal platform 35 "fs_monitor/hi_risk_drop").2 False := by
    intro mid
    refine (observeSignal_locksIf 35 _ mid).of_iff ?_
    simp [nextTier_eq_critical_iff]
  have hinfected : LocksIf (bridge.auditAll platform ev.entries)
      ((bridge.auditAll platform ev.entries).observeSignal platform 90
        "clamd_infected_file").2 (bridge.currentTier ≠ .critical) := by
    refine (observeSignal_locksIf 90 _ _).of_iff ?_
    simp [nextTier_eq_critical_iff, htier]
  refine .comp_left hposture ?_
  simp only [onFsEvent]
  split
  · rename_i hthrew
    exact .of_posture_eq rfl (by simp [hthrew])
  · by_cases hscan : ev.scan = .infected
    · simp only [hscan, if_true, true_and]
      split
      · exact (hinfected.comp (hdrop _)).of_iff (iff_of_eq (or_false _))
      · exact hinfected
    · simp only [hscan, if_false, false_and]
      split
      · exact hdrop _
      · exact .of_posture_eq rfl not_false

theorem demoOp_locksIf (now : Int64) (op : DemoOp) (bridge : Globals α) :
    LocksIf bridge (op.run platform now bridge) (op.ReachesLock bridge) := by
  cases op with
  | signal score => exact signal_locksIf score _ _ bridge
  | push value => exact .of_posture_eq (bridge.pushChaos_posture value true) not_false
  | plant => exact .of_posture_eq (bridge.plant_posture now) not_false
  | touch path action => exact .of_posture_eq (bridge.touch_posture now _ _ _ _) not_false
  | serve entries => exact .of_posture_eq (bridge.auditAll_keeps entries).1 not_false
  | triggerLockdown => exact .of_locked (bridge.triggerLockdown_posture _) trivial
  | lockAll => exact .of_posture_eq (bridge.lockAll_posture _) not_false
  | completed => exact .of_posture_eq rfl not_false

theorem runDemoStep_locksIf (thread : Nat) (now : Int64) (bridge : Globals α) :
    LocksIf bridge (runDemoStep platform thread now bridge)
      ((Action.demoStep thread now).ReachesLock platform bridge) := by
  simp only [runDemoStep, Action.ReachesLock]
  cases hop : bridge.nextDemoOp? thread with
  | none => exact .of_posture_eq rfl (by simp)
  | some op =>
      let popped : Globals α := { bridge with demos := bridge.demos.modify thread List.tail }
      have hrun : LocksIf bridge (op.run platform now popped) (op.ReachesLock popped) :=
        .comp_left (show popped.posture = bridge.posture from rfl)
          (demoOp_locksIf now op popped)
      refine hrun.of_iff ?_
      simp only [Option.some.injEq, exists_eq_left']
      cases op <;> rfl

theorem getChallenge_keeps {draw : Option (Vector UInt8 32)} {approverName : ByteString}
    {self after : UnlockProtocol} {challenge : ByteString}
    (hget : self.getChallenge draw approverName = some (challenge, after)) :
    after.state = self.state := by
  rcases UnlockProtocol.getChallenge_cases hget with rfl | ⟨bytes, -, -, rfl⟩
  · rfl
  · rfl

/-- What one `unlock_vote` does: it lifts the lock and reports so, or it leaves the
posture as it is and reports nothing of the kind. -/
theorem dispatchUnlockVote_cases (inputs : Inputs) (approver : ByteString)
    (bridge : Globals α) :
    (bridge.VoteDecides platform inputs approver ∧ bridge.unlock.state = .collecting ∧
        (dispatchUnlockVote platform inputs approver bridge).2.posture =
          { bridge.posture with locked := false, session := .granted }) ∨
      (¬ bridge.VoteDecides platform inputs approver ∧
        (dispatchUnlockVote platform inputs approver bridge).2.posture = bridge.posture ∧
        (dispatchUnlockVote platform inputs approver bridge).1.unlocked = false) := by
  simp only [dispatchUnlockVote]
  split
  · rename_i hempty
    refine Or.inr ⟨?_, rfl, rfl⟩
    rintro ⟨_, _, _, hne, -⟩
    exact hne hempty
  rename_i happrover
  split
  · rename_i hunknown
    refine Or.inr ⟨?_, rfl, rfl⟩
    rintro ⟨_, _, _, -, hidentity, -⟩
    exact absurd (hunknown.symm.trans hidentity) (by simp)
  rename_i identity hidentity
  split
  · rename_i hthrew
    refine Or.inr ⟨?_, rfl, rfl⟩
    rintro ⟨_, _, _, -, -, hchallenge, -⟩
    exact absurd (hthrew.symm.trans hchallenge) (by simp)
  rename_i challenge unlock hchallenge
  have hstate := getChallenge_keeps hchallenge
  have hposture : ({ bridge with unlock := unlock } : Globals α).posture = bridge.posture :=
    congrArg (fun session => ({ bridge.posture with session := session } : Posture)) hstate
  split
  · rename_i hnone
    refine Or.inr ⟨?_, hposture, rfl⟩
    rintro ⟨_, _, _, -, -, hother, hne, -⟩
    obtain ⟨rfl, -⟩ := Prod.mk.inj (Option.some.inj (hchallenge.symm.trans hother))
    exact hne hnone
  rename_i hsome
  let signedReq := makeSignedRequest platform.scheme inputs.nonce inputs.now identity challenge
  let outcome := unlock.castVote platform.unlockCallbacks platform.scheme bridge.tokens
    inputs.now approver signedReq bridge.world
  have hwired : platform.unlockCallbacks.Wired Lockdown.isLocked (fun _ => false) :=
    Callbacks.ofLockdown_wired platform.auditAdder
  have hdecides : bridge.VoteDecides platform inputs approver ↔
      outcome.1.unlocked = true := by
    refine Iff.trans ?_ (castVote_unlocked_iff hwired).symm
    constructor
    · rintro ⟨_, _, _, -, hother, hget, -, hvote⟩
      obtain rfl := Option.some.inj (hidentity.symm.trans hother)
      obtain ⟨rfl, rfl⟩ := Prod.mk.inj (Option.some.inj (hchallenge.symm.trans hget))
      exact hvote
    · intro hvote
      exact ⟨identity, challenge, unlock, happrover, hidentity, hchallenge, hsome, hvote⟩
  have hafter : ({ bridge with unlock := outcome.2.1 }.withWorld outcome.2.2).posture =
      ⟨outcome.2.2.isLocked, outcome.2.1.state, bridge.veeam.isLocked⟩ := rfl
  rcases castVote_outcome hwired platform.scheme bridge.tokens inputs.now approver signedReq
    unlock bridge.world with ⟨hunlocked, hcollecting, hgranted, hlifted⟩ |
      ⟨hunlocked, hkept, hobserved⟩
  · refine Or.inl ⟨hdecides.mpr hunlocked, hstate ▸ hcollecting, hafter.trans ?_⟩
    rw [hgranted, hlifted]
    rfl
  · refine Or.inr ⟨fun h => ?_, hafter.trans ?_, hunlocked⟩
    · exact absurd (hunlocked.symm.trans (hdecides.mp h)) (by decide)
    · rw [hkept, hobserved, hstate]
      rfl

theorem dispatchWormTrigger_of_locked (inputs : Inputs) (reason : ByteString)
    (bridge : Globals α) (hlocked : bridge.isLocked = true) :
    (dispatchWormTrigger platform inputs reason bridge).2.posture = bridge.posture := by
  have hchanged : (bridge.triggerLockdown platform reason).1 = !bridge.isLocked :=
    bridge.triggerLockdown_fst reason
  rw [hlocked] at hchanged
  simp only [dispatchWormTrigger, hchanged]
  refine (bridge.triggerLockdown_posture reason).trans ?_
  rw [← hlocked]
  rfl

theorem dispatchWormTrigger_of_unlocked (inputs : Inputs) (reason : ByteString)
    (bridge : Globals α) (hunlocked : bridge.isLocked = false) :
    (dispatchWormTrigger platform inputs reason bridge).2.posture =
      ⟨true, .collecting, true⟩ := by
  have hchanged : (bridge.triggerLockdown platform reason).1 = !bridge.isLocked :=
    bridge.triggerLockdown_fst reason
  rw [hunlocked] at hchanged
  simp only [dispatchWormTrigger, hchanged, Bool.not_false, if_true]
  rw [Globals.lockBackups_posture]
  let locked := ((bridge.triggerLockdown platform reason).2.lockAll platform
    "worm_lockdown").audit platform "worm_trigger" (("reason=" : ByteString) ++ reason)
  have hlocked : locked.posture = { bridge.posture with locked := true } :=
    calc
      locked.posture = ((bridge.triggerLockdown platform reason).2.lockAll platform
          "worm_lockdown").posture := rfl
      _ = (bridge.triggerLockdown platform reason).2.posture := Globals.lockAll_posture _ _
      _ = { bridge.posture with locked := true } := bridge.triggerLockdown_posture reason
  have hopened : ({ locked with unlock := locked.unlock.beginSession } : Globals α).posture =
      { locked.posture with session := .collecting } :=
    congrArg (fun session => ({ locked.posture with session := session } : Posture))
      (UnlockProtocol.beginSession_state locked.unlock)
  change { ({ locked with unlock := locked.unlock.beginSession } : Globals α).posture with
    mirrored := true } = _
  rw [hopened, hlocked]

theorem initUnlock_keeps {setup : Setup} {world after : Lockdown α} {tokens : TokenStore}
    {unlock : UnlockProtocol}
    (hinit : initUnlock platform setup world = .ok (tokens, unlock, after)) :
    unlock.state = .idle ∧ after.worm = world.worm := by
  have hgrant := fun (tokens : TokenStore) (world : Lockdown α) (name : ByteString) tok after
      world' => @TokenStore.grant_observe _ _ _ _ (@Globals.addEntry_unseen α platform)
    (setup.tokenDraws name) setup.now name "worm_unlock_vote" ttl24h tokens after world world' tok
  simp only [initUnlock, bind, Except.bind] at hinit
  split at hinit
  · exact absurd hinit (by simp)
  rename_i granted hast
  split at hinit
  · exact absurd hinit (by simp)
  rename_i granted' hcl1
  split at hinit
  · exact absurd hinit (by simp)
  rename_i granted'' hcl2
  simp only [pure, Except.pure, Except.ok.injEq, Prod.mk.injEq] at hinit
  obtain ⟨-, rfl, rfl⟩ := hinit
  refine ⟨?_, ?_⟩
  · simp only [UnlockProtocol.registerApprover_state]
    rfl
  · exact (hgrant _ _ _ _ _ _ hcl2).trans
      ((hgrant _ _ _ _ _ _ hcl1).trans (hgrant _ _ _ _ _ _ hast))

theorem launch_posture {setup : Setup} {protect : Bool} {audit : α} {bridge : Globals α}
    (hlaunch : launch platform setup protect audit = .ok bridge) :
    bridge.posture = ⟨false, .idle, false⟩ := by
  have hpopulate : ((Sandbox.construct setup.sandboxRoot).populate platform.sandboxCallbacks
      setup.now { audit := audit }).2.2.worm = {} :=
    Sandbox.populate_observe platform.sandboxCallbacks Globals.addEntry_unseen setup.now
      (Sandbox.construct setup.sandboxRoot) { audit := audit }
  simp only [launch, bind, Except.bind] at hlaunch
  generalize (Sandbox.construct setup.sandboxRoot).populate platform.sandboxCallbacks
    setup.now { audit := audit } = populated at hpopulate hlaunch
  split at hlaunch
  · exact absurd hlaunch (by simp)
  rename_i started hinit
  obtain ⟨tokens, unlock, world⟩ := started
  obtain ⟨hidle, hworld⟩ := initUnlock_keeps hinit
  have hbare : ∀ bare : Globals α, bare.world = world → bare.unlock = unlock →
      bare.veeam = {} → bare.posture = ⟨false, .idle, false⟩ := by
    rintro bare rfl rfl hveeam
    simp only [Globals.posture, hidle, hveeam, Posture.mk.injEq, true_and]
    refine ⟨?_, rfl⟩
    change bare.world.worm.isLocked = false
    rw [hworld, hpopulate]
    rfl
  split at hlaunch
  · obtain rfl := Except.ok.inj hlaunch
    rw [Globals.audit_posture, Globals.plant_posture, (Globals.auditAll_keeps _ _).1]
    exact hbare _ rfl rfl rfl
  · obtain rfl := Except.ok.inj hlaunch
    rw [(Globals.auditAll_keeps _ _).1]
    exact hbare _ rfl rfl rfl

end

section

variable {α : Type} (platform : Platform α)

theorem perform_locksIf (bridge : Globals α) (action : Action)
    (hvote : ∀ inputs approver, action ≠ .command inputs (.unlockVote approver))
    (htrigger : ∀ inputs reason, action ≠ .command inputs (.wormTrigger reason)) :
    LocksIf bridge (perform platform bridge action) (action.ReachesLock platform bridge) := by
  cases action with
  | packetWindow flush => exact onPacketWindow_locksIf flush bridge
  | eventLog sig => exact onEventSignal_locksIf sig bridge
  | fsEvent event => exact onFsEvent_locksIf event bridge
  | demoStep thread now => exact runDemoStep_locksIf thread now bridge
  | background entries => exact .of_posture_eq (bridge.auditAll_keeps entries).1 not_false
  | command inputs command =>
      cases command with
      | observeSignal score source => exact dispatchObserveSignal_locksIf score source bridge
      | triageEvent input => exact dispatchTriageEvent_locksIf inputs input bridge
      | unlockVote approver => exact absurd rfl (hvote inputs approver)
      | wormTrigger reason => exact absurd rfl (htrigger inputs reason)
      | pushChaos value synthetic =>
          exact .of_posture_eq (bridge.pushChaos_posture value synthetic) not_false
      | pushChaosBatch values synthetic =>
          exact .of_posture_eq (bridge.pushChaosBatch_posture values synthetic) not_false
      | decoyPlant => exact .of_posture_eq (bridge.plant_posture inputs.now) not_false
      | decoyTouch path action session detail =>
          exact .of_posture_eq (bridge.touch_posture inputs.now path action session detail)
            not_false
      | peripheral entries =>
          exact .of_posture_eq (bridge.auditAll_keeps entries).1 not_false
      | ping => exact .of_posture_eq rfl not_false
      | getSnapshot => exact .of_posture_eq rfl not_false
      | wormUnlock => exact .of_posture_eq rfl not_false
      | veeamIntegrityCheck => exact .of_posture_eq rfl not_false
      | veeamStatus => exact .of_posture_eq rfl not_false
      | sandboxGetTree => exact .of_posture_eq rfl not_false
      | runDemo serveEntries => exact .of_posture_eq rfl not_false
      | getUnlockStatus => exact .of_posture_eq rfl not_false
      | malformed => exact .of_posture_eq rfl not_false

theorem perform_move_unlockVote (bridge : Globals α) (inputs : Inputs)
    (approver : ByteString) :
    bridge.posture.move ((Action.command inputs (.unlockVote approver)).move platform bridge) =
      some (dispatchUnlockVote platform inputs approver bridge).2.posture := by
  rcases @dispatchUnlockVote_cases α platform inputs approver bridge with
    ⟨hdecides, hcollecting, hposture⟩ | ⟨hdecides, hposture, -⟩
  · have hgrants : (Action.command inputs (.unlockVote approver)).Grants platform bridge :=
      ⟨inputs, approver, rfl, hdecides⟩
    have hsession : bridge.posture.session = .collecting := hcollecting
    rw [Action.move, if_pos hgrants, hposture, Posture.move, if_pos hsession]
  · have hgrants : ¬ (Action.command inputs (.unlockVote approver)).Grants platform bridge := by
      rintro ⟨_, _, haction, h⟩
      obtain ⟨rfl, hcommand⟩ := Action.command.inj haction
      obtain rfl := Command.unlockVote.inj hcommand
      exact hdecides h
    have htriggers : ¬ (Action.command inputs (.unlockVote approver)).Triggers bridge := by
      rintro ⟨-, _, _, haction⟩
      simp at haction
    rw [Action.move, if_neg hgrants, if_neg htriggers, if_neg (fun h => h.2), hposture]
    rfl

theorem perform_move_wormTrigger (bridge : Globals α) (inputs : Inputs)
    (reason : ByteString) :
    bridge.posture.move ((Action.command inputs (.wormTrigger reason)).move platform bridge) =
      some (dispatchWormTrigger platform inputs reason bridge).2.posture := by
  have hgrants : ¬ (Action.command inputs (.wormTrigger reason)).Grants platform bridge := by
    rintro ⟨_, _, haction, -⟩
    simp at haction
  cases hlocked : bridge.isLocked with
  | true =>
      have htriggers : ¬ (Action.command inputs (.wormTrigger reason)).Triggers bridge := by
        rintro ⟨hopen, -⟩
        exact absurd (hlocked.symm.trans hopen) (by decide)
      rw [Action.move, if_neg hgrants, if_neg htriggers, if_neg (fun h => h.2),
        dispatchWormTrigger_of_locked inputs reason bridge hlocked]
      rfl
  | false =>
      have htriggers : (Action.command inputs (.wormTrigger reason)).Triggers bridge :=
        ⟨hlocked, inputs, reason, rfl⟩
      have hopen : ¬ bridge.posture.locked = true := Bool.eq_false_iff.mp hlocked
      rw [Action.move, if_neg hgrants, if_pos htriggers,
        dispatchWormTrigger_of_unlocked inputs reason bridge hlocked, Posture.move,
        if_neg hopen]

theorem perform_move (bridge : Globals α) (action : Action) :
    bridge.posture.move (action.move platform bridge) =
      some (perform platform bridge action).posture := by
  by_cases hvote : ∃ inputs approver, action = .command inputs (.unlockVote approver)
  · obtain ⟨inputs, approver, rfl⟩ := hvote
    exact perform_move_unlockVote platform bridge inputs approver
  by_cases htrigger : ∃ inputs reason, action = .command inputs (.wormTrigger reason)
  · obtain ⟨inputs, reason, rfl⟩ := htrigger
    exact perform_move_wormTrigger platform bridge inputs reason
  have hlocks := perform_locksIf platform bridge action
    (fun inputs approver h => hvote ⟨inputs, approver, h⟩)
    (fun inputs reason h => htrigger ⟨inputs, reason, h⟩)
  have hgrants : ¬ action.Grants platform bridge := by
    rintro ⟨inputs, approver, h, -⟩
    exact hvote ⟨inputs, approver, h⟩
  have htriggers : ¬ action.Triggers bridge := fun h => htrigger h.2
  rw [Action.move, if_neg hgrants, if_neg htriggers, hlocks.posture]
  split
  · rename_i hengages
    have hopen : ¬ bridge.posture.locked = true := Bool.eq_false_iff.mp hengages.1
    rw [Posture.move, if_neg hopen, hlocks.isLocked.mpr (Or.inr hengages.2)]
  · rename_i hengages
    have hsame : (perform platform bridge action).isLocked = bridge.isLocked := by
      rw [Bool.eq_iff_iff, hlocks.isLocked]
      constructor
      · rintro (h | h)
        · exact h
        · by_contra hopen
          exact hengages ⟨Bool.eq_false_iff.mpr hopen, h⟩
      · exact Or.inl
    rw [hsame]
    rfl

end

end Astartis.Bridge
