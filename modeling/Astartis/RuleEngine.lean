import Astartis.ChaosDetector
import Astartis.PacketSensor
import Astartis.ThreatLevel

namespace Astartis.Rules

open Audit
open Chaos
open Sensor
open Threat
open Worm

structure RuleResult where
  ruleId : ByteString
  fired : Bool
  wormTriggered : Bool
  actionTaken : ByteString
deriving DecidableEq

def rule03FailureThreshold : Int := 5

def rule03CriticalThreshold : Int := 10

/-- `0.7` as a double. -/
def rule05KThreshold : Double :=
  .finite (6305039478318694 / 9007199254740992)

def rule05SustainedWindows : Int := 2

structure Callbacks (σ : Type) where
  auditAdder : AuditAdder σ
  wormTrigger : ByteString → σ → σ
  wormIsLocked : σ → Bool

/-- The callables of a rule engine and of the state machine it refers to. -/
structure Wiring (σ : Type) where
  rules : Callbacks σ
  tsm : Threat.Callbacks σ

structure RuleEngine where
  totalFires : UInt64 := 0
  wormTriggerCount : UInt64 := 0
  chaosHighCount : Int := 0
deriving DecidableEq

/-- A rule engine, its state machine and the world their callables work on. -/
structure Engine (σ : Type) where
  rules : RuleEngine := {}
  tsm : ThreatStateMachine := {}
  world : σ

namespace Engine

variable {σ : Type} (wiring : Wiring σ)

def currentTier (self : Engine σ) : ThreatTier :=
  self.tsm.currentTier

def observeSignal (score : Int) (source : ByteString) (self : Engine σ) :
    SignalResult × Engine σ :=
  let (result, tsm, world) := self.tsm.observeSignal wiring.tsm score source self.world
  (result, { self with tsm := tsm, world := world })

def forceTier (tier : ThreatTier) (reason : ByteString) (self : Engine σ) :
    Bool × Engine σ :=
  let (changed, tsm, world) := self.tsm.forceTier wiring.tsm tier reason self.world
  (changed, { self with tsm := tsm, world := world })

def audit (eventType payload : ByteString) (self : Engine σ) : Engine σ :=
  { self with world := (wiring.rules.auditAdder eventType payload self.world).2 }

def countFire (self : Engine σ) : Engine σ :=
  { self with rules := { self.rules with totalFires := self.rules.totalFires + 1 } }

def setChaosHighCount (count : Int) (self : Engine σ) : Engine σ :=
  { self with rules := { self.rules with chaosHighCount := count } }

def applyRule04Belt (triggeringRule : ByteString) (self : Engine σ) : Bool × Engine σ :=
  if self.currentTier = .critical ∧ wiring.rules.wormIsLocked self.world = false then
    let reason := ("RULE-04 belt: " : ByteString) ++ triggeringRule ++
      (" confirmed CRITICAL, WORM not yet locked" : ByteString)
    let self := { self with
      world := wiring.rules.wormTrigger reason self.world
      rules := { self.rules with wormTriggerCount := self.rules.wormTriggerCount + 1 } }
    (true, self.audit wiring "rule_engine_rule04_belt"
      (("rule=RULE-04 triggered_by=" : ByteString) ++ triggeringRule))
  else (false, self)

def evaluatePacketWindow (window : EntropyWindow) (self : Engine σ) :
    RuleResult × Engine σ :=
  let (_, self) := self.observeSignal wiring window.threatScore "packet_sensor_window"
  if window.anomalous then
    let (changed, self) := self.forceTier wiring .critical
      (("RULE-01 anomalous_packet entropy=" : ByteString) ++ window.meanEntropyBits.toText)
    let (wormHit, self) := self.applyRule04Belt wiring "RULE-01"
    let payload := ("rule=RULE-01" : ByteString) ++
      (" window_index=" : ByteString) ++ ByteString.decimal window.windowIndex.toNat ++
      (" mean_entropy=" : ByteString) ++ window.meanEntropyBits.toStream ++
      (" threat_score=" : ByteString) ++ ByteString.decimal window.threatScore ++
      (" anomalous=true" : ByteString) ++
      (" tier_changed=" : ByteString) ++ boolText changed ++
      (" worm_triggered=" : ByteString) ++ boolText wormHit
    let self := self.audit wiring "rule_engine_rule01_fired" payload
    (⟨"RULE-01", true, wormHit,
      "anomalous packet window detected: forced CRITICAL tier + WORM lockdown check"⟩,
      self.countFire)
  else
    (⟨"RULE-01", false, false, "packet window processed, no anomaly flag"⟩, self)

def evaluateThreatScore (score : Int) (source : ByteString) (self : Engine σ) :
    RuleResult × Engine σ :=
  let (result, self) := self.observeSignal wiring score source
  let (wormHit, self) := self.applyRule04Belt wiring "RULE-02"
  let fired := result.tierChanged || wormHit
  let self := if fired then self.countFire else self
  let action := ("score=" : ByteString) ++ ByteString.decimal score ++
    (" source=" : ByteString) ++ source ++
    (if result.tierChanged then
      (" tier_transition=" : ByteString) ++ tierName result.previousTier ++
        ("->" : ByteString) ++ tierName result.currentTier
    else []) ++
    (if wormHit then (" worm_triggered=true" : ByteString) else [])
  (⟨"RULE-02", fired, wormHit, action⟩, self)

def evaluateAuthFailures (failuresInWindow : Int) (source : ByteString) (self : Engine σ) :
    RuleResult × Engine σ :=
  let reason := ("RULE-03 auth_failures=" : ByteString) ++
    ByteString.decimal failuresInWindow ++ (" source=" : ByteString) ++ source
  let payload := ("rule=RULE-03 failures=" : ByteString) ++
    ByteString.decimal failuresInWindow ++ (" source=" : ByteString) ++ source
  if failuresInWindow ≥ rule03CriticalThreshold then
    let (_, self) := self.forceTier wiring .critical reason
    let (wormHit, self) := self.applyRule04Belt wiring "RULE-03"
    let self := self.audit wiring "rule_engine_rule03_fired"
      (payload ++ (" action=forced_CRITICAL" : ByteString))
    let action := ("auth failure spike (>= " : ByteString) ++
      ByteString.decimal rule03CriticalThreshold ++
      ("): forced CRITICAL + WORM check" : ByteString)
    (⟨"RULE-03", true, wormHit, action⟩, self.countFire)
  else if failuresInWindow ≥ rule03FailureThreshold then
    let (_, self) := self.forceTier wiring .high reason
    let self := self.audit wiring "rule_engine_rule03_fired"
      (payload ++ (" action=forced_HIGH" : ByteString))
    let action := ("auth failure spike (>= " : ByteString) ++
      ByteString.decimal rule03FailureThreshold ++ ("): forced HIGH" : ByteString)
    (⟨"RULE-03", true, false, action⟩, self.countFire)
  else
    let action := ("auth failures=" : ByteString) ++ ByteString.decimal failuresInWindow ++
      (" (below threshold, no action)" : ByteString)
    (⟨"RULE-03", false, false, action⟩, self)

def evaluateChaosWindow (window : ChaosWindow) (self : Engine σ) : RuleResult × Engine σ :=
  if Double.lt rule05KThreshold window.K then
    let count := self.rules.chaosHighCount + 1
    let self := self.setChaosHighCount count
    if count ≥ rule05SustainedWindows then
      let self := self.countFire
      let (_, self) := self.forceTier wiring .medium
        (("RULE-05 chaos_precursor K=" : ByteString) ++ window.K.toText ++
          (" sustained_windows=" : ByteString) ++ ByteString.decimal count)
      let payload := ("rule=RULE-05" : ByteString) ++
        (" window_index=" : ByteString) ++ ByteString.decimal window.windowIndex.toNat ++
        (" K=" : ByteString) ++ window.K.toStream ++
        (" sustained_windows=" : ByteString) ++ ByteString.decimal count ++
        (" action=preemptive_escalation_to_MEDIUM" : ByteString)
      let self := self.audit wiring "rule_engine_rule05_fired" payload
      let action := ("chaos precursor: K=" : ByteString) ++ window.K.toText ++
        (" sustained over " : ByteString) ++ ByteString.decimal count ++
        (" windows -- preemptive escalation to MEDIUM" : ByteString)
      (⟨"RULE-05", true, false, action⟩, self)
    else
      let action := ("chaos signal accumulating: K=" : ByteString) ++ window.K.toText ++
        (" count=" : ByteString) ++ ByteString.decimal count ++
        (" (need " : ByteString) ++ ByteString.decimal rule05SustainedWindows ++
        (")" : ByteString)
      (⟨"RULE-05", false, false, action⟩, self)
  else
    let action := ("chaos K=" : ByteString) ++ window.K.toText ++
      (" (below threshold, no action)" : ByteString)
    (⟨"RULE-05", false, false, action⟩, self.setChaosHighCount 0)

end Engine

/-- Auditing leaves the lock alone, and both triggers leave it locked. -/
structure Wiring.Wired {σ : Type} (wiring : Wiring σ) : Prop where
  tsm : wiring.tsm.Wired wiring.rules.wormIsLocked
  audit : ∀ eventType payload world,
    wiring.rules.wormIsLocked (wiring.rules.auditAdder eventType payload world).2 =
      wiring.rules.wormIsLocked world
  trigger : ∀ reason world,
    wiring.rules.wormIsLocked (wiring.rules.wormTrigger reason world) = true

def Engine.ChaosFires {σ : Type} (self : Engine σ) (window : ChaosWindow) : Prop :=
  Double.lt rule05KThreshold window.K = true ∧
    rule05SustainedWindows ≤ self.rules.chaosHighCount + 1

instance {σ : Type} (self : Engine σ) (window : ChaosWindow) :
    Decidable (self.ChaosFires window) :=
  inferInstanceAs (Decidable (_ ∧ _))

namespace Engine

variable {σ : Type} {wiring : Wiring σ}

def isLocked (wiring : Wiring σ) (self : Engine σ) : Bool :=
  wiring.rules.wormIsLocked self.world

@[simp] theorem observeSignal_currentTier (score : Int) (source : ByteString)
    (self : Engine σ) :
    (self.observeSignal wiring score source).2.currentTier =
      nextTier self.currentTier score :=
  ThreatStateMachine.observeSignal_currentTier score source self.tsm self.world

theorem observeSignal_isLocked (hwired : wiring.Wired) (score : Int) (source : ByteString)
    (self : Engine σ) :
    (self.observeSignal wiring score source).2.isLocked wiring = true ↔
      self.isLocked wiring = true ∨
        (self.currentTier ≠ .critical ∧ nextTier self.currentTier score = .critical) :=
  ThreatStateMachine.observeSignal_isLocked hwired.tsm score source self.tsm self.world

@[simp] theorem forceTier_currentTier (tier : ThreatTier) (reason : ByteString)
    (self : Engine σ) : (self.forceTier wiring tier reason).2.currentTier = tier :=
  ThreatStateMachine.forceTier_currentTier tier reason self.tsm self.world

theorem forceTier_isLocked (hwired : wiring.Wired) (tier : ThreatTier) (reason : ByteString)
    (self : Engine σ) :
    (self.forceTier wiring tier reason).2.isLocked wiring = true ↔
      self.isLocked wiring = true ∨ (self.currentTier ≠ .critical ∧ tier = .critical) :=
  ThreatStateMachine.forceTier_isLocked hwired.tsm tier reason self.tsm self.world

@[simp] theorem audit_currentTier (eventType payload : ByteString) (self : Engine σ) :
    (self.audit wiring eventType payload).currentTier = self.currentTier := rfl

@[simp] theorem audit_isLocked (hwired : wiring.Wired) (eventType payload : ByteString)
    (self : Engine σ) :
    (self.audit wiring eventType payload).isLocked wiring = self.isLocked wiring :=
  hwired.audit eventType payload self.world

@[simp] theorem countFire_currentTier (self : Engine σ) :
    self.countFire.currentTier = self.currentTier := rfl

@[simp] theorem countFire_isLocked (self : Engine σ) :
    self.countFire.isLocked wiring = self.isLocked wiring := rfl

@[simp] theorem setChaosHighCount_currentTier (count : Int) (self : Engine σ) :
    (self.setChaosHighCount count).currentTier = self.currentTier := rfl

@[simp] theorem setChaosHighCount_isLocked (count : Int) (self : Engine σ) :
    (self.setChaosHighCount count).isLocked wiring = self.isLocked wiring := rfl

@[simp] theorem applyRule04Belt_currentTier (triggeringRule : ByteString)
    (self : Engine σ) :
    (self.applyRule04Belt wiring triggeringRule).2.currentTier = self.currentTier := by
  simp only [applyRule04Belt]
  split <;> rfl

theorem applyRule04Belt_isLocked (hwired : wiring.Wired) (triggeringRule : ByteString)
    (self : Engine σ) :
    (self.applyRule04Belt wiring triggeringRule).2.isLocked wiring = true ↔
      self.isLocked wiring = true ∨ self.currentTier = .critical := by
  simp only [applyRule04Belt]
  split
  · rename_i hbelt
    rw [audit_isLocked hwired]
    constructor
    · intro _
      exact Or.inr hbelt.1
    · intro _
      exact hwired.trigger _ _
  · rename_i hbelt
    constructor
    · exact Or.inl
    · rintro (h | h)
      · exact h
      · exact Bool.eq_true_of_not_eq_false fun hlock => hbelt ⟨h, hlock⟩

theorem applyRule04Belt_fst (triggeringRule : ByteString) (self : Engine σ)
    (hhit : (self.applyRule04Belt wiring triggeringRule).1 = true) :
    self.currentTier = .critical := by
  unfold applyRule04Belt at hhit
  split at hhit
  · rename_i hbelt
    exact hbelt.1
  · exact absurd hhit (by simp)

theorem evaluatePacketWindow_currentTier (window : EntropyWindow) (self : Engine σ) :
    (self.evaluatePacketWindow wiring window).2.currentTier =
      if window.anomalous then .critical
      else nextTier self.currentTier window.threatScore := by
  simp only [evaluatePacketWindow]
  cases window.anomalous <;> simp

theorem evaluatePacketWindow_isLocked (hwired : wiring.Wired) (window : EntropyWindow)
    (self : Engine σ) :
    (self.evaluatePacketWindow wiring window).2.isLocked wiring = true ↔
      window.anomalous = true ∨ self.isLocked wiring = true ∨
        (self.currentTier ≠ .critical ∧
          nextTier self.currentTier window.threatScore = .critical) := by
  simp only [evaluatePacketWindow]
  cases window.anomalous
  · simpa using observeSignal_isLocked hwired _ _ self
  · simp [hwired, applyRule04Belt_isLocked hwired]

theorem evaluateThreatScore_currentTier (score : Int) (source : ByteString)
    (self : Engine σ) :
    (self.evaluateThreatScore wiring score source).2.currentTier =
      nextTier self.currentTier score := by
  simp only [evaluateThreatScore]
  split <;> simp

theorem evaluateThreatScore_isLocked (hwired : wiring.Wired) (score : Int)
    (source : ByteString) (self : Engine σ) :
    (self.evaluateThreatScore wiring score source).2.isLocked wiring = true ↔
      self.isLocked wiring = true ∨ nextTier self.currentTier score = .critical := by
  have hbelt : ((self.observeSignal wiring score source).2.applyRule04Belt wiring
      "RULE-02").2.isLocked wiring = true ↔
        self.isLocked wiring = true ∨ nextTier self.currentTier score = .critical := by
    rw [applyRule04Belt_isLocked hwired, observeSignal_isLocked hwired,
      observeSignal_currentTier]
    constructor
    · rintro ((h | ⟨-, h⟩) | h)
      · exact Or.inl h
      · exact Or.inr h
      · exact Or.inr h
    · rintro (h | h)
      · exact Or.inl (Or.inl h)
      · exact Or.inr h
  simp only [evaluateThreatScore]
  split
  · rw [countFire_isLocked]
    exact hbelt
  · exact hbelt

theorem evaluateThreatScore_wormTriggered (score : Int) (source : ByteString)
    (self : Engine σ)
    (htriggered : (self.evaluateThreatScore wiring score source).1.wormTriggered = true) :
    nextTier self.currentTier score = .critical := by
  rw [← @observeSignal_currentTier σ wiring score source self]
  exact applyRule04Belt_fst "RULE-02" _ htriggered

theorem evaluateAuthFailures_currentTier (failuresInWindow : Int) (source : ByteString)
    (self : Engine σ) :
    (self.evaluateAuthFailures wiring failuresInWindow source).2.currentTier =
      if rule03CriticalThreshold ≤ failuresInWindow then .critical
      else if rule03FailureThreshold ≤ failuresInWindow then .high
      else self.currentTier := by
  simp only [evaluateAuthFailures]
  split
  · simp
  · split <;> simp

theorem evaluateAuthFailures_isLocked (hwired : wiring.Wired) (failuresInWindow : Int)
    (source : ByteString) (self : Engine σ) :
    (self.evaluateAuthFailures wiring failuresInWindow source).2.isLocked wiring = true ↔
      self.isLocked wiring = true ∨ rule03CriticalThreshold ≤ failuresInWindow := by
  simp only [evaluateAuthFailures]
  split
  · rename_i hcritical
    simp [hwired, applyRule04Belt_isLocked hwired, ge_iff_le.mp hcritical]
  · rename_i hcritical
    have hlow : ¬ rule03CriticalThreshold ≤ failuresInWindow := hcritical
    split
    · simp [hwired, forceTier_isLocked hwired, hlow]
    · simp [hlow]

theorem evaluateChaosWindow_currentTier (window : ChaosWindow) (self : Engine σ) :
    (self.evaluateChaosWindow wiring window).2.currentTier =
      if self.ChaosFires window then .medium else self.currentTier := by
  unfold evaluateChaosWindow ChaosFires
  split
  · rename_i hK
    simp only [ge_iff_le, hK, true_and]
    split <;> simp
  · rename_i hK
    simp [hK]

theorem evaluateChaosWindow_isLocked (hwired : wiring.Wired) (window : ChaosWindow)
    (self : Engine σ) :
    (self.evaluateChaosWindow wiring window).2.isLocked wiring = self.isLocked wiring := by
  have hforce : ∀ (reason : ByteString) (e : Engine σ),
      (e.forceTier wiring .medium reason).2.isLocked wiring = e.isLocked wiring := by
    intro reason e
    rw [Bool.eq_iff_iff, forceTier_isLocked hwired]
    simp
  simp only [evaluateChaosWindow]
  split
  · simp only [ge_iff_le]
    split <;> simp [hwired, hforce]
  · simp

theorem evaluateChaosWindow_wormTriggered (window : ChaosWindow) (self : Engine σ) :
    (self.evaluateChaosWindow wiring window).1.wormTriggered = false := by
  simp only [evaluateChaosWindow]
  split
  · split <;> rfl
  · rfl

end Engine

end Astartis.Rules
