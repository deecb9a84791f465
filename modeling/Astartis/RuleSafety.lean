import Astartis.RuleEngine
import Astartis.TransitionSystem

namespace Astartis.Rules

open Audit
open Chaos
open Sensor
open Threat
open TransitionSystem
open Worm

/-- `worm_trigger` wired to `WormLock::trigger_lockdown`, for the rule engine and
its state machine, and `worm_is_locked` wired to `WormLock::is_locked`. -/
def Wiring.ofLockdown {α : Type} (auditAdder : AuditAdder α) : Wiring (Lockdown α) where
  rules :=
    { auditAdder := Lockdown.addEntry auditAdder
      wormTrigger := Lockdown.trigger auditAdder
      wormIsLocked := Lockdown.isLocked }
  tsm :=
    { auditAdder := Lockdown.addEntry auditAdder
      wormTrigger := Lockdown.trigger auditAdder }

theorem Wiring.ofLockdown_wired {α : Type} (auditAdder : AuditAdder α) :
    (Wiring.ofLockdown auditAdder).Wired where
  tsm := ⟨fun _ _ _ => rfl, Lockdown.trigger_isLocked auditAdder⟩
  audit := fun _ _ _ => rfl
  trigger := Lockdown.trigger_isLocked auditAdder

inductive RuleCall
  | packetWindow (window : EntropyWindow)
  | threatScore (score : Int) (source : ByteString)
  | authFailures (failuresInWindow : Int) (source : ByteString)
  | chaosWindow (window : ChaosWindow)

def RuleCall.evaluate {σ : Type} (wiring : Wiring σ) :
    RuleCall → Engine σ → RuleResult × Engine σ
  | .packetWindow window => Engine.evaluatePacketWindow wiring window
  | .threatScore score source => Engine.evaluateThreatScore wiring score source
  | .authFailures failuresInWindow source =>
      Engine.evaluateAuthFailures wiring failuresInWindow source
  | .chaosWindow window => Engine.evaluateChaosWindow wiring window

/-- The call takes a branch without the RULE-04 belt that keeps a CRITICAL tier. -/
def RuleCall.SkipsBelt {σ : Type} (engine : Engine σ) : RuleCall → Prop
  | .packetWindow window => window.anomalous = false ∧ 65 ≤ window.threatScore
  | .threatScore _ _ => False
  | .authFailures failuresInWindow _ => failuresInWindow < rule03FailureThreshold
  | .chaosWindow window => ¬ engine.ChaosFires window

section Belt

variable {σ : Type} {wiring : Wiring σ}

/-- Tier CRITICAL with the lock lifted, the state RULE-04 is there to end. -/
def Engine.Exposed (wiring : Wiring σ) (self : Engine σ) : Prop :=
  self.currentTier = .critical ∧ ¬ self.isLocked wiring = true

theorem evaluatePacketWindow_exposed_iff (hwired : wiring.Wired) (window : EntropyWindow)
    (engine : Engine σ) :
    (engine.evaluatePacketWindow wiring window).2.Exposed wiring ↔
      engine.Exposed wiring ∧ window.anomalous = false ∧ 65 ≤ window.threatScore := by
  rw [Engine.Exposed, Engine.evaluatePacketWindow_isLocked hwired,
    Engine.evaluatePacketWindow_currentTier]
  cases window.anomalous
  · simp only [nextTier_eq_critical_iff, Bool.false_eq_true, if_false, false_or, true_and]
    constructor
    · rintro ⟨hcritical, hopen⟩
      have htier : engine.currentTier = .critical := by
        by_contra htier
        exact hopen (Or.inr ⟨htier, hcritical⟩)
      refine ⟨⟨htier, fun h => hopen (Or.inl h)⟩, ?_⟩
      rcases hcritical with h | ⟨-, h⟩
      · omega
      · exact h
    · rintro ⟨⟨htier, hopen⟩, hscore⟩
      refine ⟨Or.inr ⟨htier, hscore⟩, ?_⟩
      rintro (h | ⟨h, -⟩)
      · exact hopen h
      · exact h htier
  · simp

theorem evaluateThreatScore_not_exposed (hwired : wiring.Wired) (score : Int)
    (source : ByteString) (engine : Engine σ) :
    ¬ (engine.evaluateThreatScore wiring score source).2.Exposed wiring := by
  rintro ⟨hcritical, hopen⟩
  rw [Engine.evaluateThreatScore_currentTier] at hcritical
  exact hopen ((Engine.evaluateThreatScore_isLocked hwired score source engine).mpr
    (Or.inr hcritical))

theorem evaluateAuthFailures_exposed_iff (hwired : wiring.Wired) (failuresInWindow : Int)
    (source : ByteString) (engine : Engine σ) :
    (engine.evaluateAuthFailures wiring failuresInWindow source).2.Exposed wiring ↔
      engine.Exposed wiring ∧ failuresInWindow < rule03FailureThreshold := by
  rw [Engine.Exposed, Engine.evaluateAuthFailures_isLocked hwired,
    Engine.evaluateAuthFailures_currentTier]
  unfold rule03CriticalThreshold rule03FailureThreshold
  split
  · rename_i hmany
    constructor
    · rintro ⟨-, hopen⟩
      exact absurd (Or.inr hmany) hopen
    · rintro ⟨-, hfew⟩
      omega
  · rename_i hmany
    split
    · rename_i hsome
      constructor
      · rintro ⟨h, -⟩
        exact absurd h (by decide)
      · rintro ⟨-, hfew⟩
        omega
    · rename_i hsome
      have hfew : failuresInWindow < 5 := not_le.mp hsome
      simp [Engine.Exposed, hmany, hfew]

theorem evaluateChaosWindow_exposed_iff (hwired : wiring.Wired) (window : ChaosWindow)
    (engine : Engine σ) :
    (engine.evaluateChaosWindow wiring window).2.Exposed wiring ↔
      engine.Exposed wiring ∧ ¬ engine.ChaosFires window := by
  rw [Engine.Exposed, Engine.evaluateChaosWindow_isLocked hwired,
    Engine.evaluateChaosWindow_currentTier]
  by_cases hfires : engine.ChaosFires window
  · simp [hfires]
  · simp [hfires, Engine.Exposed]

theorem evaluate_exposed_iff (hwired : wiring.Wired) (call : RuleCall) (engine : Engine σ) :
    (call.evaluate wiring engine).2.Exposed wiring ↔
      engine.Exposed wiring ∧ call.SkipsBelt engine := by
  cases call with
  | packetWindow window => exact evaluatePacketWindow_exposed_iff hwired window engine
  | threatScore score source =>
      constructor
      · intro h
        exact absurd h (evaluateThreatScore_not_exposed hwired score source engine)
      · rintro ⟨-, h⟩
        exact h.elim
  | authFailures failuresInWindow source =>
      exact evaluateAuthFailures_exposed_iff hwired failuresInWindow source engine
  | chaosWindow window => exact evaluateChaosWindow_exposed_iff hwired window engine

end Belt

/-- RULE-04 with a `WormLock`: when an evaluation returns, CRITICAL implies locked
unless the tier was CRITICAL with the lock lifted already and the call takes a branch
that keeps the tier without running the belt. -/
theorem rule04_iff {α : Type} (auditAdder : AuditAdder α) (call : RuleCall)
    (engine : Engine (Lockdown α)) :
    ((call.evaluate (Wiring.ofLockdown auditAdder) engine).2.currentTier = .critical →
      (call.evaluate (Wiring.ofLockdown auditAdder) engine).2.world.isLocked = true) ↔
    ¬ (engine.currentTier = .critical ∧ engine.world.isLocked = false ∧
      call.SkipsBelt engine) := by
  have hexposed := evaluate_exposed_iff (Wiring.ofLockdown_wired auditAdder) call engine
  rw [← not_and_not_right]
  refine not_congr (hexposed.trans ?_)
  simp [Engine.Exposed, Engine.isLocked, Wiring.ofLockdown, and_assoc]

/-- What happens to a rule engine over a `WormLock`: its own calls, calls of the
state machine it refers to, and calls of the lock. -/
inductive EngineCall
  | evaluate (call : RuleCall)
  | observeSignal (score : Int) (source : ByteString)
  | forceTier (tier : ThreatTier) (reason : ByteString)
  | triggerLockdown (reason : ByteString)
  | unlock (authority : ByteString)

def EngineCall.run {α : Type} (auditAdder : AuditAdder α) (engine : Engine (Lockdown α)) :
    EngineCall → Engine (Lockdown α)
  | .evaluate call => (call.evaluate (Wiring.ofLockdown auditAdder) engine).2
  | .observeSignal score source =>
      (engine.observeSignal (Wiring.ofLockdown auditAdder) score source).2
  | .forceTier tier reason =>
      (engine.forceTier (Wiring.ofLockdown auditAdder) tier reason).2
  | .triggerLockdown reason => { engine with world := engine.world.trigger auditAdder reason }
  | .unlock authority => { engine with world := engine.world.lift auditAdder authority }

def engineSystem {α : Type} (auditAdder : AuditAdder α) (audit : α) :
    System (Engine (Lockdown α)) EngineCall :=
  ofFunction { world := { audit := audit } } (EngineCall.run auditAdder)

def engineAfter {α : Type} (auditAdder : AuditAdder α) (audit : α) (calls : List EngineCall) :
    Engine (Lockdown α) :=
  calls.foldl (EngineCall.run auditAdder) { world := { audit := audit } }

theorem engineAfter_reachable {α : Type} (auditAdder : AuditAdder α) (audit : α)
    (calls : List EngineCall) :
    Reachable (engineSystem auditAdder audit) (engineAfter auditAdder audit calls) :=
  reachable_foldl _ _ calls

theorem run_exposed {α : Type} (auditAdder : AuditAdder α) (call : EngineCall)
    (hcall : ∀ authority, call ≠ .unlock authority) (engine : Engine (Lockdown α))
    (hexposed : ¬ engine.Exposed (Wiring.ofLockdown auditAdder)) :
    ¬ (call.run auditAdder engine).Exposed (Wiring.ofLockdown auditAdder) := by
  have hwired := Wiring.ofLockdown_wired auditAdder
  cases call with
  | evaluate call =>
      intro h
      exact hexposed ((evaluate_exposed_iff hwired call engine).mp h).1
  | observeSignal score source =>
      rintro ⟨hcritical, hopen⟩
      simp only [EngineCall.run, Engine.observeSignal_currentTier] at hcritical
      rw [EngineCall.run, Engine.observeSignal_isLocked hwired] at hopen
      refine hexposed ⟨?_, fun h => hopen (Or.inl h)⟩
      by_contra htier
      exact hopen (Or.inr ⟨htier, hcritical⟩)
  | forceTier tier reason =>
      rintro ⟨hcritical, hopen⟩
      simp only [EngineCall.run, Engine.forceTier_currentTier] at hcritical
      rw [EngineCall.run, Engine.forceTier_isLocked hwired] at hopen
      refine hexposed ⟨?_, fun h => hopen (Or.inl h)⟩
      by_contra htier
      exact hopen (Or.inr ⟨htier, hcritical⟩)
  | triggerLockdown reason =>
      rintro ⟨-, hopen⟩
      exact hopen (Lockdown.trigger_isLocked auditAdder reason engine.world)
  | unlock authority => exact absurd rfl (hcall authority)

/-- As long as nobody unlocks, CRITICAL implies locked throughout a run. -/
theorem critical_locked_of_no_unlock {α : Type} (auditAdder : AuditAdder α) (audit : α)
    {steps : List (Transition (Engine (Lockdown α)) EngineCall)}
    {engine : Engine (Lockdown α)}
    (htrace : Trace (engineSystem auditAdder audit) steps engine)
    (hsteps : ∀ t ∈ steps, ∀ authority, t.label ≠ .unlock authority)
    (hcritical : engine.currentTier = .critical) : engine.world.isLocked = true := by
  have hexposed : ¬ engine.Exposed (Wiring.ofLockdown auditAdder) := by
    refine htrace.guarded_invariant
      (I := fun e => ¬ e.Exposed (Wiring.ofLockdown auditAdder))
      (G := fun _ call => ∀ authority, call ≠ .unlock authority) ?_ ?_ hsteps
    · rintro _ rfl ⟨h, -⟩
      simp [Engine.currentTier] at h
    · rintro engine call _ hexposed hcall rfl
      exact run_exposed auditAdder call hcall engine hexposed
  by_contra hopen
  exact hexposed ⟨hcritical, hopen⟩

def quietWindow : EntropyWindow :=
  .ofStatistics 0 50 (.finite 6) (.finite 6) (.finite 6) false "eth0"

/-- The tier reaches CRITICAL, an unlock lifts the lock, and a quiet window leaves it
that way. -/
theorem rule04_fails_after_unlock :
    let engine := engineAfter noteEntry []
      [.evaluate (.threatScore 90 "manual"), .unlock "operator"]
    let after := ((RuleCall.packetWindow quietWindow).evaluate
      (Wiring.ofLockdown noteEntry) engine).2
    Reachable (engineSystem noteEntry []) engine ∧
      after.currentTier = .critical ∧ after.world.isLocked = false :=
  ⟨engineAfter_reachable _ _ _, by decide +kernel⟩

inductive EscalationCall
  | anomalousPacketWindow (window : EntropyWindow) (hanomalous : window.anomalous = true)
  | authFailures (failuresInWindow : Int) (source : ByteString)
  | chaosWindow (window : ChaosWindow)

def EscalationCall.toRuleCall : EscalationCall → RuleCall
  | .anomalousPacketWindow window _ => .packetWindow window
  | .authFailures failuresInWindow source => .authFailures failuresInWindow source
  | .chaosWindow window => .chaosWindow window

def EscalationCall.ForcesLower {σ : Type} (engine : Engine σ) : EscalationCall → Prop
  | .anomalousPacketWindow _ _ => False
  | .authFailures failuresInWindow _ =>
      rule03FailureThreshold ≤ failuresInWindow ∧
        failuresInWindow < rule03CriticalThreshold ∧ engine.currentTier = .critical
  | .chaosWindow window => engine.ChaosFires window ∧ .medium < engine.currentTier

/-- An escalation rule keeps or raises the tier except where it forces a fixed tier
onto a higher one. -/
theorem escalation_monotone_iff {σ : Type} (wiring : Wiring σ) (call : EscalationCall)
    (engine : Engine σ) :
    engine.currentTier ≤ (call.toRuleCall.evaluate wiring engine).2.currentTier ↔
      ¬ call.ForcesLower engine := by
  cases call with
  | anomalousPacketWindow window hanomalous =>
      change engine.currentTier ≤ (engine.evaluatePacketWindow wiring window).2.currentTier ↔ _
      rw [Engine.evaluatePacketWindow_currentTier, if_pos hanomalous]
      simp [EscalationCall.ForcesLower, ThreatTier.le_critical]
  | authFailures failuresInWindow source =>
      change engine.currentTier ≤
        (engine.evaluateAuthFailures wiring failuresInWindow source).2.currentTier ↔ _
      rw [Engine.evaluateAuthFailures_currentTier, EscalationCall.ForcesLower]
      split
      · rename_i hmany
        simp [ThreatTier.le_critical, not_lt.mpr hmany]
      · rename_i hmany
        split
        · rename_i hsome
          simp [hsome, not_le.mp hmany, ThreatTier.le_high_iff]
        · rename_i hsome
          simp [hsome]
  | chaosWindow window =>
      change engine.currentTier ≤ (engine.evaluateChaosWindow wiring window).2.currentTier ↔ _
      rw [Engine.evaluateChaosWindow_currentTier, EscalationCall.ForcesLower]
      split
      · rename_i hfires
        simp [hfires]
      · rename_i hfires
        simp [hfires]

theorem authFailures_lowers_tier :
    let engine := engineAfter noteEntry [] [.evaluate (.threatScore 90 "manual")]
    let after := ((EscalationCall.authFailures 7 "ssh").toRuleCall.evaluate
      (Wiring.ofLockdown noteEntry) engine).2
    Reachable (engineSystem noteEntry []) engine ∧
      ¬ engine.currentTier ≤ after.currentTier :=
  ⟨engineAfter_reachable _ _ _, by decide +kernel⟩

end Astartis.Rules
