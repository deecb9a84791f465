import Astartis.RuleSafety
import Mathlib.Data.List.TakeWhile

/-!
What the results and the counters of the rule engine say about its calls.
-/

namespace Astartis.Rules

open Audit
open Chaos
open Sensor
open Threat
open TransitionSystem
open Worm

/-! The flag `worm_triggered` against the lock. -/

section Reports

variable {σ : Type} {wiring : Wiring σ}

/-- The lock goes from open to locked. -/
def Engine.Engages (wiring : Wiring σ) (before after : Engine σ) : Prop :=
  before.isLocked wiring = false ∧ after.isLocked wiring = true

def RuleCall.ReportsLock (wiring : Wiring σ) (call : RuleCall) (engine : Engine σ) : Prop :=
  (call.evaluate wiring engine).1.wormTriggered = true ↔
    engine.Engages wiring (call.evaluate wiring engine).2

/-- The call makes the state machine enter CRITICAL, which engages the lock before the
RULE-04 belt looks at it. -/
def RuleCall.EntersCritical (engine : Engine σ) : RuleCall → Prop
  | .packetWindow window =>
      if window.anomalous then engine.currentTier ≠ .critical ∨ window.threatScore < 65
      else engine.currentTier ≠ .critical ∧ 75 ≤ window.threatScore
  | .threatScore score _ => engine.currentTier ≠ .critical ∧ 75 ≤ score
  | .authFailures failuresInWindow _ =>
      engine.currentTier ≠ .critical ∧ rule03CriticalThreshold ≤ failuresInWindow
  | .chaosWindow _ => False

theorem Engine.applyRule04Belt_fst_iff (triggeringRule : ByteString) (self : Engine σ) :
    (self.applyRule04Belt wiring triggeringRule).1 = true ↔
      self.currentTier = .critical ∧ self.isLocked wiring = false := by
  simp only [applyRule04Belt, isLocked]
  split
  · rename_i hbelt
    exact iff_of_true rfl hbelt
  · rename_i hbelt
    exact iff_of_false (by simp) hbelt

section Flags

variable (hwired : wiring.Wired)
include hwired

theorem evaluatePacketWindow_wormTriggered_iff (window : EntropyWindow) (self : Engine σ) :
    (self.evaluatePacketWindow wiring window).1.wormTriggered = true ↔
      window.anomalous = true ∧ self.isLocked wiring = false ∧ self.currentTier = .critical ∧
        nextTier self.currentTier window.threatScore = .critical := by
  simp only [Engine.evaluatePacketWindow]
  cases window.anomalous with
  | false => simp
  | true =>
      simp only [if_true, true_and]
      rw [Engine.applyRule04Belt_fst_iff, Engine.forceTier_currentTier]
      simp only [← Bool.not_eq_true]
      rw [Engine.forceTier_isLocked hwired, Engine.observeSignal_isLocked hwired,
        Engine.observeSignal_currentTier]
      tauto

theorem evaluateThreatScore_wormTriggered_iff (score : Int) (source : ByteString)
    (self : Engine σ) :
    (self.evaluateThreatScore wiring score source).1.wormTriggered = true ↔
      self.isLocked wiring = false ∧ self.currentTier = .critical ∧
        nextTier self.currentTier score = .critical := by
  change ((self.observeSignal wiring score source).2.applyRule04Belt wiring "RULE-02").1 = true ↔ _
  rw [Engine.applyRule04Belt_fst_iff]
  simp only [← Bool.not_eq_true]
  rw [Engine.observeSignal_isLocked hwired, Engine.observeSignal_currentTier]
  tauto

theorem evaluateAuthFailures_wormTriggered_iff (failuresInWindow : Int) (source : ByteString)
    (self : Engine σ) :
    (self.evaluateAuthFailures wiring failuresInWindow source).1.wormTriggered = true ↔
      self.isLocked wiring = false ∧ self.currentTier = .critical ∧
        rule03CriticalThreshold ≤ failuresInWindow := by
  simp only [Engine.evaluateAuthFailures]
  split
  · rename_i hmany
    dsimp only
    rw [Engine.applyRule04Belt_fst_iff, Engine.forceTier_currentTier]
    simp only [← Bool.not_eq_true]
    rw [Engine.forceTier_isLocked hwired]
    have hmany' : rule03CriticalThreshold ≤ failuresInWindow := hmany
    tauto
  · rename_i hmany
    have hfew : ¬ rule03CriticalThreshold ≤ failuresInWindow := hmany
    split <;> simp [hfew]

end Flags

/-- What a call says about the lock is right unless it engages an open lock through the state
machine. -/
theorem reportsLock_iff (hwired : wiring.Wired) (call : RuleCall) (engine : Engine σ) :
    call.ReportsLock wiring engine ↔
      engine.isLocked wiring = true ∨ ¬ call.EntersCritical engine := by
  cases call with
  | packetWindow window =>
      simp only [RuleCall.ReportsLock, Engine.Engages, RuleCall.evaluate, RuleCall.EntersCritical]
      rw [evaluatePacketWindow_wormTriggered_iff hwired,
        Engine.evaluatePacketWindow_isLocked hwired, nextTier_eq_critical_iff,
        ← Bool.not_eq_true]
      cases window.anomalous with
      | false =>
          simp only [Bool.false_eq_true, false_and, if_false, false_or]
          tauto
      | true =>
          simp only [true_and, if_true, true_or, and_true]
          have hscores : window.threatScore < 65 ↔ ¬ 65 ≤ window.threatScore := not_le.symm
          have hhigher : 75 ≤ window.threatScore → 65 ≤ window.threatScore := by omega
          tauto
  | threatScore score source =>
      simp only [RuleCall.ReportsLock, Engine.Engages, RuleCall.evaluate, RuleCall.EntersCritical]
      rw [evaluateThreatScore_wormTriggered_iff hwired,
        Engine.evaluateThreatScore_isLocked hwired, nextTier_eq_critical_iff,
        ← Bool.not_eq_true]
      tauto
  | authFailures failuresInWindow source =>
      simp only [RuleCall.ReportsLock, Engine.Engages, RuleCall.evaluate, RuleCall.EntersCritical]
      rw [evaluateAuthFailures_wormTriggered_iff hwired,
        Engine.evaluateAuthFailures_isLocked hwired, ← Bool.not_eq_true]
      tauto
  | chaosWindow window =>
      simp only [RuleCall.ReportsLock, Engine.Engages, RuleCall.evaluate, RuleCall.EntersCritical]
      rw [Engine.evaluateChaosWindow_wormTriggered, Engine.evaluateChaosWindow_isLocked hwired,
        ← Bool.not_eq_true]
      tauto

end Reports

/-- With a `WormLock`: `worm_triggered` tells whether the call engaged the lock, unless the call
takes the state machine into CRITICAL while the lock is open. -/
theorem reportsLock_ofLockdown_iff {α : Type} (auditAdder : AuditAdder α) (call : RuleCall)
    (engine : Engine (Lockdown α)) :
    call.ReportsLock (Wiring.ofLockdown auditAdder) engine ↔
      ¬ (engine.world.isLocked = false ∧ call.EntersCritical engine) := by
  rw [reportsLock_iff (Wiring.ofLockdown_wired auditAdder), not_and_or, Bool.not_eq_false]
  rfl

/-- The lock is engaged by the state machine, and the flag stays false. -/
theorem critical_score_not_reported :
    let engine := engineAfter noteEntry [] []
    let outcome := (RuleCall.threatScore 90 "manual").evaluate (Wiring.ofLockdown noteEntry) engine
    Reachable (engineSystem noteEntry []) engine ∧
      outcome.1.wormTriggered = false ∧
      engine.Engages (Wiring.ofLockdown noteEntry) outcome.2 ∧
      ¬ (RuleCall.threatScore 90 "manual").ReportsLock (Wiring.ofLockdown noteEntry) engine := by
  intro engine outcome
  have hsilent : outcome.1.wormTriggered = false := by decide +kernel
  have hengages : engine.Engages (Wiring.ofLockdown noteEntry) outcome.2 := by
    constructor <;> decide +kernel
  refine ⟨engineAfter_reachable _ _ _, hsilent, hengages, fun hreports => ?_⟩
  exact absurd (hsilent.symm.trans (hreports.mpr hengages)) (by simp)

/-! Results and counters over whole runs. -/

/-- The world of a rule engine together with the calls its belt has made. -/
structure BeltRecorded (σ : Type) where
  beltTriggers : List ByteString
  world : σ

def Wiring.recording {σ : Type} (wiring : Wiring σ) : Wiring (BeltRecorded σ) where
  rules :=
    { auditAdder := fun eventType payload w =>
        let (entryId, world) := wiring.rules.auditAdder eventType payload w.world
        (entryId, { w with world := world })
      wormTrigger := fun reason w =>
        { beltTriggers := w.beltTriggers ++ [reason]
          world := wiring.rules.wormTrigger reason w.world }
      wormIsLocked := fun w => wiring.rules.wormIsLocked w.world }
  tsm :=
    { auditAdder := fun eventType payload w =>
        let (entryId, world) := wiring.tsm.auditAdder eventType payload w.world
        (entryId, { w with world := world })
      wormTrigger := fun reason w =>
        { w with world := wiring.tsm.wormTrigger reason w.world } }

/-- A call of the rule engine, or whatever the other users of the state machine and of the world
make of them between two calls. -/
inductive EngineEvent (σ : Type)
  | evaluate (call : RuleCall)
  | elsewhere (tsm : ThreatStateMachine) (world : σ)

section Counters

variable {σ : Type} (wiring : Wiring σ)

def EngineEvent.run (engine : Engine (BeltRecorded σ)) :
    EngineEvent σ → Engine (BeltRecorded σ)
  | .evaluate call => (call.evaluate wiring.recording engine).2
  | .elsewhere tsm world =>
      { engine with tsm := tsm, world := { engine.world with world := world } }

def eventSystem (tsm : ThreatStateMachine) (world : σ) :
    System (Engine (BeltRecorded σ)) (EngineEvent σ) :=
  ofFunction { tsm := tsm, world := ⟨[], world⟩ } (EngineEvent.run wiring)

abbrev EventStep (σ : Type) := Transition (Engine (BeltRecorded σ)) (EngineEvent σ)

def result? (t : EventStep σ) : Option RuleResult :=
  match t.label with
  | .evaluate call => some (call.evaluate wiring.recording t.before).1
  | .elsewhere _ _ => none

def chaosWindow? (t : EventStep σ) : Option ChaosWindow :=
  match t.label with
  | .evaluate (.chaosWindow window) => some window
  | _ => none

def chaosWindows (steps : List (EventStep σ)) : List ChaosWindow :=
  steps.filterMap chaosWindow?

def results (steps : List (EventStep σ)) : List RuleResult :=
  steps.filterMap (result? wiring)

def isHigh (window : ChaosWindow) : Bool :=
  Double.lt rule05KThreshold window.K

/-- The windows end in `n` or more windows above the threshold. -/
def EndsHigh (n : Nat) (windows : List ChaosWindow) : Prop :=
  ∃ earlier recent, windows = earlier ++ recent ∧ n ≤ recent.length ∧
    ∀ window ∈ recent, isHigh window = true

structure CountersKept (steps : List (EventStep σ)) (engine : Engine (BeltRecorded σ)) :
    Prop where
  totalFires : engine.rules.totalFires =
    UInt64.ofNat ((results wiring steps).countP RuleResult.fired)
  wormTriggerCount : engine.rules.wormTriggerCount =
    UInt64.ofNat engine.world.beltTriggers.length
  beltReports : engine.world.beltTriggers.length =
    (results wiring steps).countP RuleResult.wormTriggered

end Counters

section Tally

variable {σ : Type} {wiring : Wiring σ} (self : Engine (BeltRecorded σ))

/-- What the counters of the engine and the record of its belt show. -/
def tally (self : Engine (BeltRecorded σ)) : RuleEngine × List ByteString :=
  (self.rules, self.world.beltTriggers)

theorem doTransition_beltTriggers (tier : ThreatTier) (reason : ByteString)
    (tsm : ThreatStateMachine) (world : BeltRecorded σ) :
    (tsm.doTransition wiring.recording.tsm tier reason world).2.2.beltTriggers =
      world.beltTriggers := by
  have htrigger : ∀ (w : BeltRecorded σ) (enters : Bool) (text : ByteString),
      (if enters then wiring.recording.tsm.wormTrigger text w else w).beltTriggers =
        w.beltTriggers := by
    intro w enters text
    cases enters <;> rfl
  exact htrigger _ _ _

@[simp] theorem tally_observeSignal (score : Int) (source : ByteString) :
    tally (self.observeSignal wiring.recording score source).2 = tally self := by
  refine Prod.ext rfl ?_
  simp only [tally, Engine.observeSignal, ThreatStateMachine.observeSignal]
  split
  · exact doTransition_beltTriggers _ _ _ _
  · split
    · exact doTransition_beltTriggers _ _ _ _
    · rfl

@[simp] theorem tally_forceTier (tier : ThreatTier) (reason : ByteString) :
    tally (self.forceTier wiring.recording tier reason).2 = tally self := by
  refine Prod.ext rfl ?_
  simp only [tally, Engine.forceTier, ThreatStateMachine.forceTier]
  split
  · rfl
  · exact doTransition_beltTriggers _ _ _ _

@[simp] theorem tally_audit (eventType payload : ByteString) :
    tally (self.audit wiring.recording eventType payload) = tally self := rfl

/-- What one call adds to the counters. -/
structure Counted (before after : RuleEngine × List ByteString) (fired wormTriggered : Bool) :
    Prop where
  totalFires : after.1.totalFires = before.1.totalFires + if fired then 1 else 0
  wormTriggerCount :
    after.1.wormTriggerCount = before.1.wormTriggerCount + if wormTriggered then 1 else 0
  beltTriggers : after.2.length = before.2.length + if wormTriggered then 1 else 0

theorem Counted.refl (before : RuleEngine × List ByteString) :
    Counted before before false false := by
  constructor <;> simp

theorem Counted.countFire {before : RuleEngine × List ByteString} {wormTriggered : Bool}
    (hcounted : Counted before (tally self) false wormTriggered) :
    Counted before (tally self.countFire) true wormTriggered := by
  refine ⟨?_, hcounted.wormTriggerCount, hcounted.beltTriggers⟩
  have htotal : self.rules.totalFires = before.1.totalFires := by
    simpa [tally] using hcounted.totalFires
  simp [tally, Engine.countFire, htotal]

theorem counted_setChaosHighCount (count : Int) :
    Counted (tally self) (tally (self.setChaosHighCount count)) false false := by
  constructor <;> simp [tally, Engine.setChaosHighCount]

theorem counted_applyRule04Belt (triggeringRule : ByteString) :
    Counted (tally self) (tally (self.applyRule04Belt wiring.recording triggeringRule).2) false
      (self.applyRule04Belt wiring.recording triggeringRule).1 := by
  simp only [Engine.applyRule04Belt]
  split
  · constructor
    · simp [tally, Engine.audit]
    · rfl
    · simp [tally, Engine.audit, Wiring.recording]
  · exact Counted.refl _

theorem counted_packetWindow (window : EntropyWindow) :
    Counted (tally self) (tally (self.evaluatePacketWindow wiring.recording window).2)
      (self.evaluatePacketWindow wiring.recording window).1.fired
      (self.evaluatePacketWindow wiring.recording window).1.wormTriggered := by
  simp only [Engine.evaluatePacketWindow]
  split
  · have hbelt := @counted_applyRule04Belt σ wiring (((self.observeSignal wiring.recording
      window.threatScore "packet_sensor_window").2.forceTier wiring.recording .critical
      (("RULE-01 anomalous_packet entropy=" : ByteString) ++ window.meanEntropyBits.toText)).2)
      "RULE-01"
    rw [tally_forceTier, tally_observeSignal] at hbelt
    dsimp only
    apply Counted.countFire
    rw [tally_audit]
    exact hbelt
  · dsimp only
    rw [tally_observeSignal]
    exact Counted.refl _

theorem counted_threatScore (score : Int) (source : ByteString) :
    Counted (tally self) (tally (self.evaluateThreatScore wiring.recording score source).2)
      (self.evaluateThreatScore wiring.recording score source).1.fired
      (self.evaluateThreatScore wiring.recording score source).1.wormTriggered := by
  have hbelt := @counted_applyRule04Belt σ wiring
    (self.observeSignal wiring.recording score source).2 "RULE-02"
  rw [tally_observeSignal] at hbelt
  simp only [Engine.evaluateThreatScore]
  split
  · rename_i hfired
    rw [hfired]
    exact Counted.countFire _ hbelt
  · rename_i hfired
    rw [Bool.eq_false_iff.mpr hfired]
    exact hbelt

theorem counted_authFailures (failuresInWindow : Int) (source : ByteString) :
    Counted (tally self)
      (tally (self.evaluateAuthFailures wiring.recording failuresInWindow source).2)
      (self.evaluateAuthFailures wiring.recording failuresInWindow source).1.fired
      (self.evaluateAuthFailures wiring.recording failuresInWindow source).1.wormTriggered := by
  simp only [Engine.evaluateAuthFailures]
  split
  · have hbelt := @counted_applyRule04Belt σ wiring ((self.forceTier wiring.recording .critical
      (("RULE-03 auth_failures=" : ByteString) ++ ByteString.decimal failuresInWindow ++
        (" source=" : ByteString) ++ source)).2) "RULE-03"
    rw [tally_forceTier] at hbelt
    exact Counted.countFire _ hbelt
  · split
    · apply Counted.countFire
      rw [tally_audit, tally_forceTier]
      exact Counted.refl _
    · exact Counted.refl _

theorem counted_chaosWindow (window : ChaosWindow) :
    Counted (tally self) (tally (self.evaluateChaosWindow wiring.recording window).2)
      (self.evaluateChaosWindow wiring.recording window).1.fired
      (self.evaluateChaosWindow wiring.recording window).1.wormTriggered := by
  simp only [Engine.evaluateChaosWindow]
  split
  · split
    · dsimp only
      rw [tally_audit, tally_forceTier]
      exact Counted.countFire _ (counted_setChaosHighCount self _)
    · exact counted_setChaosHighCount self _
  · exact counted_setChaosHighCount self _

theorem counted_evaluate (call : RuleCall) :
    Counted (tally self) (tally (call.evaluate wiring.recording self).2)
      (call.evaluate wiring.recording self).1.fired
      (call.evaluate wiring.recording self).1.wormTriggered := by
  cases call with
  | packetWindow window => exact counted_packetWindow self window
  | threatScore score source => exact counted_threatScore self score source
  | authFailures failuresInWindow source =>
      exact counted_authFailures self failuresInWindow source
  | chaosWindow window => exact counted_chaosWindow self window

end Tally

section ChaosRuns

/-- How many of the last windows are above the threshold without a break. -/
def highRun (windows : List ChaosWindow) : Nat :=
  (windows.reverse.takeWhile isHigh).length

theorem highRun_concat (windows : List ChaosWindow) (window : ChaosWindow) :
    highRun (windows ++ [window]) = if isHigh window then highRun windows + 1 else 0 := by
  rw [highRun, List.reverse_append, List.reverse_singleton, List.singleton_append,
    List.takeWhile_cons]
  split
  · rw [List.length_cons, highRun]
  · rfl

theorem highRun_le_length (windows : List ChaosWindow) : highRun windows ≤ windows.length := by
  have hshorter := (List.takeWhile_sublist isHigh (l := windows.reverse)).length_le
  rwa [List.length_reverse] at hshorter

theorem endsHigh_iff (n : Nat) (windows : List ChaosWindow) :
    EndsHigh n windows ↔ n ≤ highRun windows := by
  constructor
  · rintro ⟨earlier, recent, rfl, hlength, hhigh⟩
    rw [highRun, List.reverse_append, List.takeWhile_append_of_pos fun window hwindow =>
      hhigh window (List.mem_reverse.mp hwindow), List.length_append, List.length_reverse]
    omega
  · intro hrun
    refine ⟨(windows.reverse.dropWhile isHigh).reverse,
      (windows.reverse.takeWhile isHigh).reverse, ?_, ?_, fun window hwindow => ?_⟩
    · rw [← List.reverse_append, List.takeWhile_append_dropWhile, List.reverse_reverse]
    · rwa [List.length_reverse]
    · exact List.mem_takeWhile_imp (List.mem_reverse.mp hwindow)

variable {σ : Type} {wiring : Wiring σ} (self : Engine σ)

@[simp] theorem observeSignal_rules (score : Int) (source : ByteString) :
    (self.observeSignal wiring score source).2.rules = self.rules := rfl

@[simp] theorem forceTier_rules (tier : ThreatTier) (reason : ByteString) :
    (self.forceTier wiring tier reason).2.rules = self.rules := rfl

@[simp] theorem audit_rules (eventType payload : ByteString) :
    (self.audit wiring eventType payload).rules = self.rules := rfl

@[simp] theorem countFire_chaosHighCount :
    self.countFire.rules.chaosHighCount = self.rules.chaosHighCount := rfl

@[simp] theorem setChaosHighCount_chaosHighCount (count : Int) :
    (self.setChaosHighCount count).rules.chaosHighCount = count := rfl

@[simp] theorem applyRule04Belt_chaosHighCount (triggeringRule : ByteString) :
    (self.applyRule04Belt wiring triggeringRule).2.rules.chaosHighCount =
      self.rules.chaosHighCount := by
  simp only [Engine.applyRule04Belt]
  split <;> rfl

theorem evaluateChaosWindow_fired_iff (window : ChaosWindow) :
    (self.evaluateChaosWindow wiring window).1.fired = true ↔ self.ChaosFires window := by
  unfold Engine.evaluateChaosWindow Engine.ChaosFires
  split
  · rename_i hK
    simp only [ge_iff_le, hK, true_and]
    split
    · rename_i hcount
      exact iff_of_true rfl hcount
    · rename_i hcount
      exact iff_of_false (by simp) hcount
  · rename_i hK
    exact iff_of_false (by simp) fun hfires => hK hfires.1

theorem evaluateChaosWindow_chaosHighCount (window : ChaosWindow) :
    (self.evaluateChaosWindow wiring window).2.rules.chaosHighCount =
      if isHigh window then self.rules.chaosHighCount + 1 else 0 := by
  unfold Engine.evaluateChaosWindow
  split
  · rename_i hK
    have hhigh : isHigh window = true := hK
    rw [if_pos hhigh]
    dsimp only
    split <;> simp
  · rename_i hK
    have hlow : ¬ isHigh window = true := hK
    simp [hlow]

/-- RULE-05 fires on the window that completes enough windows above the threshold in a row. -/
theorem evaluateChaosWindow_fired_iff_endsHigh {windows : List ChaosWindow}
    (hcount : self.rules.chaosHighCount = highRun windows) (window : ChaosWindow) :
    (self.evaluateChaosWindow wiring window).1.fired = true ↔
      EndsHigh rule05SustainedWindows.toNat (windows ++ [window]) := by
  rw [evaluateChaosWindow_fired_iff, endsHigh_iff, highRun_concat, Engine.ChaosFires, hcount,
    ← isHigh]
  cases isHigh window with
  | false => simp [rule05SustainedWindows]
  | true =>
      simp only [rule05SustainedWindows, true_and, if_true]
      omega

theorem evaluate_chaosHighCount (call : RuleCall) (hcall : ∀ window, call ≠ .chaosWindow window) :
    (call.evaluate wiring self).2.rules.chaosHighCount = self.rules.chaosHighCount := by
  cases call with
  | packetWindow window =>
      simp only [RuleCall.evaluate, Engine.evaluatePacketWindow]
      split <;> simp
  | threatScore score source =>
      simp only [RuleCall.evaluate, Engine.evaluateThreatScore]
      split <;> simp
  | authFailures failuresInWindow source =>
      simp only [RuleCall.evaluate, Engine.evaluateAuthFailures]
      split
      · simp
      · split <;> simp
  | chaosWindow window => exact absurd rfl (hcall window)

end ChaosRuns

section Runs

variable {σ : Type} {wiring : Wiring σ} {tsm : ThreatStateMachine} {world : σ}
  {steps : List (EventStep σ)} {engine : Engine (BeltRecorded σ)}

theorem chaosWindows_concat (t : EventStep σ) :
    chaosWindows (steps ++ [t]) = chaosWindows steps ++ (chaosWindow? t).toList :=
  filterMap_concat chaosWindow? steps t

theorem results_concat (t : EventStep σ) :
    results wiring (steps ++ [t]) = results wiring steps ++ (result? wiring t).toList :=
  filterMap_concat (result? wiring) steps t

theorem chaosWindow?_other {t : EventStep σ} {call : RuleCall} (hlabel : t.label = .evaluate call)
    (hcall : ∀ window, call ≠ .chaosWindow window) : chaosWindow? t = none := by
  rw [chaosWindow?, hlabel]
  cases call with
  | chaosWindow window => exact absurd rfl (hcall window)
  | packetWindow window => rfl
  | threatScore score source => rfl
  | authFailures failuresInWindow source => rfl

theorem chaosHighCount_eq_highRun (htrace : Trace (eventSystem wiring tsm world) steps engine) :
    engine.rules.chaosHighCount = highRun (chaosWindows steps) := by
  refine htrace.history_invariant (I := fun steps engine =>
    engine.rules.chaosHighCount = highRun (chaosWindows steps)) ?_ ?_
  · rintro _ rfl
    rfl
  · rintro steps engine event _ hcount rfl
    rw [chaosWindows_concat]
    cases event with
    | elsewhere tsm world =>
        simp only [chaosWindow?, Option.toList_none, List.append_nil]
        exact hcount
    | evaluate call =>
        by_cases hcall : ∃ window, call = .chaosWindow window
        · obtain ⟨window, rfl⟩ := hcall
          simp only [chaosWindow?, Option.toList_some, highRun_concat]
          apply (evaluateChaosWindow_chaosHighCount engine window).trans
          rw [hcount]
          split <;> simp
        · have hother : ∀ window, call ≠ .chaosWindow window :=
            fun window heq => hcall ⟨window, heq⟩
          rw [chaosWindow?_other rfl hother, Option.toList_none, List.append_nil, ← hcount]
          exact evaluate_chaosHighCount engine call hother

/-- The hidden counter is bounded by the calls made, so that an `int` holds it as long as they
are fewer than 2^31. -/
theorem chaosHighCount_le_length (htrace : Trace (eventSystem wiring tsm world) steps engine) :
    engine.rules.chaosHighCount ≤ (chaosWindows steps).length := by
  rw [chaosHighCount_eq_highRun htrace]
  exact_mod_cast highRun_le_length _

theorem countersKept_of_trace (htrace : Trace (eventSystem wiring tsm world) steps engine) :
    CountersKept wiring steps engine := by
  refine htrace.history_invariant (I := CountersKept wiring) ?_ ?_
  · rintro _ rfl
    exact ⟨rfl, rfl, rfl⟩
  · rintro steps engine event _ hkept rfl
    cases event with
    | elsewhere tsm world =>
        have hresults : results wiring (steps ++ [⟨engine, .elsewhere tsm world,
            EngineEvent.run wiring engine (.elsewhere tsm world)⟩]) = results wiring steps := by
          simp [results_concat, result?]
        refine ⟨?_, hkept.wormTriggerCount, ?_⟩
        · rw [hresults]
          exact hkept.totalFires
        · rw [hresults]
          exact hkept.beltReports
    | evaluate call =>
        have hcounted := @counted_evaluate σ wiring engine call
        have hresults : results wiring (steps ++ [⟨engine, .evaluate call,
            EngineEvent.run wiring engine (.evaluate call)⟩]) =
              results wiring steps ++ [(call.evaluate wiring.recording engine).1] :=
          results_concat _
        constructor
        · rw [hresults, List.countP_append, List.countP_singleton, UInt64.ofNat_add,
            ← hkept.totalFires]
          apply hcounted.totalFires.trans
          cases (call.evaluate wiring.recording engine).1.fired <;> rfl
        · change _ = UInt64.ofNat (tally (call.evaluate wiring.recording engine).2).2.length
          rw [hcounted.beltTriggers, UInt64.ofNat_add]
          apply hcounted.wormTriggerCount.trans
          rw [tally, hkept.wormTriggerCount]
          cases (call.evaluate wiring.recording engine).1.wormTriggered <;> rfl
        · rw [hresults, List.countP_append, List.countP_singleton, ← hkept.beltReports]
          exact hcounted.beltTriggers

/-- In every run RULE-05 fires on the windows that end enough windows above the threshold in a
row, and the counters show the results reported and the belt's calls. -/
theorem trace_ruleReports (htrace : Trace (eventSystem wiring tsm world) steps engine) :
    CountersKept wiring steps engine ∧
      ∀ before t after window, steps = before ++ t :: after →
        t.label = .evaluate (.chaosWindow window) →
        ∃ result, result? wiring t = some result ∧
          (result.fired = true ↔
            EndsHigh rule05SustainedWindows.toNat (chaosWindows before ++ [window])) := by
  refine ⟨countersKept_of_trace htrace, ?_⟩
  rintro before t after window rfl hlabel
  refine ⟨(t.before.evaluateChaosWindow wiring.recording window).1, ?_, ?_⟩
  · rw [result?, hlabel]
    rfl
  · exact evaluateChaosWindow_fired_iff_endsHigh t.before
      (chaosHighCount_eq_highRun htrace.split.1) window

end Runs

def chaosWindowAbove : ChaosWindow := ⟨0, 50, .finite 1, .finite 0, false, false⟩

/-- Two windows above the threshold with another rule between them. -/
def interruptedEvents {α : Type} : List (EngineEvent (Lockdown α)) :=
  [.evaluate (.chaosWindow chaosWindowAbove), .evaluate (.threatScore 90 "manual"),
    .evaluate (.chaosWindow chaosWindowAbove)]

theorem interrupted_ruleReports :
    let wiring := Wiring.ofLockdown noteEntry
    let engine := interruptedEvents.foldl (EngineEvent.run wiring)
      { world := ⟨[], { audit := [] }⟩ }
    ∃ steps, CountersKept wiring steps engine ∧ engine.rules.totalFires = 2 := by
  intro wiring engine
  have htrace : Trace (eventSystem wiring {} { audit := [] }) _ engine :=
    trace_execute _ (EngineEvent.run wiring) interruptedEvents
  exact ⟨_, (trace_ruleReports htrace).1, by decide +kernel⟩

end Astartis.Rules
