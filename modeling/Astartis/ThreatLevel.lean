import Mathlib.Order.Basic
import Astartis.WormLock

namespace Astartis.Threat

open Audit

inductive ThreatTier
  | low
  | medium
  | high
  | critical
deriving DecidableEq

namespace ThreatTier

def toInt : ThreatTier → Int
  | low => 0
  | medium => 1
  | high => 2
  | critical => 3

theorem toInt_injective : Function.Injective toInt := by
  intro a b h
  cases a <;> cases b <;> simp_all [toInt]

instance : LinearOrder ThreatTier :=
  LinearOrder.lift' toInt toInt_injective

theorem le_iff {a b : ThreatTier} : a ≤ b ↔ a.toInt ≤ b.toInt := Iff.rfl

theorem lt_iff {a b : ThreatTier} : a < b ↔ a.toInt < b.toInt := Iff.rfl

theorem le_critical (tier : ThreatTier) : tier ≤ critical := by
  cases tier <;> decide

theorem le_high_iff {tier : ThreatTier} : tier ≤ high ↔ tier ≠ critical := by
  cases tier <;> decide

end ThreatTier

def tierName : ThreatTier → ByteString
  | .low => "LOW"
  | .medium => "MEDIUM"
  | .high => "HIGH"
  | .critical => "CRITICAL"

def tierLowerThreshold : ThreatTier → Int
  | .low => 0
  | .medium => 25
  | .high => 50
  | .critical => 75

structure TierResponse where
  tier : ThreatTier
  description : ByteString

def makeResponse : ThreatTier → TierResponse
  | .low => ⟨.low, "silent logging, behavioral note added, mild rate limiting"⟩
  | .medium =>
      ⟨.medium, ("aggressive rate limiting, CAPTCHA-equivalent challenge, " : ByteString) ++
        ("enhanced forensic logging" : ByteString)⟩
  | .high =>
      ⟨.high, ("immediate session termination, account lockdown, " : ByteString) ++
        ("forensic investigation flag" : ByteString)⟩
  | .critical =>
      ⟨.critical, ("full WORM lockdown triggered, " : ByteString) ++
        ("all non-essential access suspended" : ByteString)⟩

structure SignalResult where
  tierChanged : Bool
  previousTier : ThreatTier
  currentTier : ThreatTier
  responseDescription : ByteString
  wormTriggered : Bool

/-- What a `ThreatStateMachine` is constructed with, over the state the two
callables work on. -/
structure Callbacks (σ : Type) where
  auditAdder : AuditAdder σ
  wormTrigger : ByteString → σ → σ

structure ThreatStateMachine where
  currentTier : ThreatTier := .low
  transitionCount : UInt64 := 0
deriving DecidableEq

def clampScore (score : Int) : Int :=
  let score := if score < 0 then 0 else score
  if score > 100 then 100 else score

def targetTier (score : Int) : ThreatTier :=
  if score ≥ 75 then .critical
  else if score ≥ 50 then .high
  else if score ≥ 25 then .medium
  else .low

namespace ThreatStateMachine

variable {σ : Type} (callbacks : Callbacks σ)

def doTransition (newTier : ThreatTier) (reason : ByteString)
    (self : ThreatStateMachine) (world : σ) : SignalResult × ThreatStateMachine × σ :=
  let prev := self.currentTier
  let self := { self with
    currentTier := newTier
    transitionCount := self.transitionCount + 1 }
  let resp := makeResponse newTier
  let payload := ("from=" : ByteString) ++ tierName prev ++ (" to=" : ByteString) ++
    tierName newTier ++ (" reason=\"" : ByteString) ++ reason ++ ("\"" : ByteString) ++
    (" response=\"" : ByteString) ++ resp.description ++ ("\"" : ByteString)
  let world := (callbacks.auditAdder "threat_tier_transition" payload world).2
  let wormTriggered : Bool := newTier = .critical
  let world :=
    if wormTriggered then
      callbacks.wormTrigger (("threat tier reached CRITICAL — " : ByteString) ++ reason) world
    else world
  (⟨true, prev, newTier, resp.description, wormTriggered⟩, self, world)

def observeSignal (score : Int) (source : ByteString) (self : ThreatStateMachine)
    (world : σ) : SignalResult × ThreatStateMachine × σ :=
  let score := clampScore score
  let target := targetTier score
  let signal := ("score=" : ByteString) ++ ByteString.decimal score ++
    (" source=\"" : ByteString) ++ source ++ ("\"" : ByteString)
  if target.toInt > self.currentTier.toInt then
    self.doTransition callbacks target signal world
  else if target.toInt < self.currentTier.toInt ∧
      score < tierLowerThreshold self.currentTier - 10 then
    self.doTransition callbacks target (("de-escalation: " : ByteString) ++ signal) world
  else
    (⟨false, self.currentTier, self.currentTier, [], false⟩, self, world)

def forceTier (tier : ThreatTier) (reason : ByteString) (self : ThreatStateMachine)
    (world : σ) : Bool × ThreatStateMachine × σ :=
  if tier = self.currentTier then (false, self, world)
  else
    let (_, self, world) :=
      self.doTransition callbacks tier (("forced: " : ByteString) ++ reason) world
    (true, self, world)

end ThreatStateMachine

theorem clampScore_eq (score : Int) : clampScore score = max 0 (min score 100) := by
  simp only [clampScore]
  split <;> split <;> omega

theorem le_targetTier_iff (tier : ThreatTier) (score : Int) :
    tier ≤ targetTier score ↔ tier = .low ∨ tierLowerThreshold tier ≤ score := by
  rw [ThreatTier.le_iff]
  simp only [targetTier]
  cases tier <;> simp only [tierLowerThreshold] <;> repeat' split
  all_goals simp [ThreatTier.toInt]
  all_goals omega

def nextTier (current : ThreatTier) (score : Int) : ThreatTier :=
  if current < targetTier (clampScore score) then targetTier (clampScore score)
  else if targetTier (clampScore score) < current ∧
      clampScore score < tierLowerThreshold current - 10 then
    targetTier (clampScore score)
  else current

/-- A tier is reached or kept when the score is in its band or above, or when the
current tier is at least it and the score is not a full margin below. -/
theorem le_nextTier_iff (tier current : ThreatTier) (score : Int) :
    tier ≤ nextTier current score ↔ tier ≤ targetTier (clampScore score) ∨
      (tier ≤ current ∧ tierLowerThreshold current - 10 ≤ clampScore score) := by
  simp only [nextTier]
  split
  · rename_i hup
    constructor
    · exact Or.inl
    · rintro (h | ⟨h, -⟩)
      · exact h
      · exact h.trans hup.le
  · rename_i hup
    split
    · rename_i hdown
      constructor
      · exact Or.inl
      · rintro (h | ⟨-, h⟩)
        · exact h
        · exact absurd hdown.2 (not_lt.mpr h)
    · rename_i hkeep
      constructor
      · intro h
        rcases (not_lt.mp hup).eq_or_lt with heq | hlt
        · exact Or.inl (heq ▸ h)
        · exact Or.inr ⟨h, not_lt.mp fun hlow => hkeep ⟨hlt, hlow⟩⟩
      · rintro (h | ⟨h, -⟩)
        · exact h.trans (not_lt.mp hup)
        · exact h

/-- A score moves the tier no further than into its own band. -/
theorem nextTier_le (current : ThreatTier) (score : Int) :
    nextTier current score ≤ max current (targetTier (clampScore score)) := by
  rcases le_or_gt (nextTier current score) (targetTier (clampScore score)) with h | h
  · exact le_max_of_le_right h
  · have hkeep := (le_nextTier_iff _ current score).mp le_rfl
    rcases hkeep with hkeep | ⟨hkeep, -⟩
    · exact absurd h (not_lt.mpr hkeep)
    · exact le_max_of_le_left hkeep

theorem eq_critical_iff {tier : ThreatTier} : tier = .critical ↔ .critical ≤ tier := by
  cases tier <;> decide

theorem nextTier_eq_critical_iff (current : ThreatTier) (score : Int) :
    nextTier current score = .critical ↔
      75 ≤ score ∨ (current = .critical ∧ 65 ≤ score) := by
  rw [eq_critical_iff, le_nextTier_iff, le_targetTier_iff, ← eq_critical_iff, clampScore_eq]
  simp only [tierLowerThreshold, reduceCtorEq, false_or]
  constructor
  · rintro (h | ⟨rfl, h⟩)
    · omega
    · exact Or.inr ⟨rfl, by simp only at h; omega⟩
  · rintro (h | ⟨rfl, h⟩)
    · omega
    · exact Or.inr ⟨rfl, by simp only; omega⟩

/-- A second look at the same score changes nothing about CRITICAL. -/
theorem nextTier_nextTier_eq_critical_iff (current : ThreatTier) (score : Int) :
    nextTier (nextTier current score) score = .critical ↔
      nextTier current score = .critical := by
  rw [nextTier_eq_critical_iff]
  constructor
  · rintro (h | ⟨h, -⟩)
    · exact (nextTier_eq_critical_iff current score).mpr (Or.inl h)
    · exact h
  · intro h
    rcases (nextTier_eq_critical_iff current score).mp h with hscore | ⟨-, hscore⟩
    · exact Or.inl hscore
    · exact Or.inr ⟨h, hscore⟩

/-- The callables work on a world with a lock: auditing leaves the lock alone and
the trigger leaves it locked. -/
structure Callbacks.Wired {σ : Type} (callbacks : Callbacks σ) (isLocked : σ → Bool) :
    Prop where
  audit : ∀ eventType payload world,
    isLocked (callbacks.auditAdder eventType payload world).2 = isLocked world
  trigger : ∀ reason world, isLocked (callbacks.wormTrigger reason world) = true

namespace ThreatStateMachine

variable {σ : Type} {callbacks : Callbacks σ}

@[simp] theorem doTransition_currentTier (newTier : ThreatTier) (reason : ByteString)
    (self : ThreatStateMachine) (world : σ) :
    (self.doTransition callbacks newTier reason world).2.1.currentTier = newTier := rfl

theorem doTransition_isLocked {isLocked : σ → Bool} (hwired : callbacks.Wired isLocked)
    (newTier : ThreatTier) (reason : ByteString) (self : ThreatStateMachine) (world : σ) :
    isLocked (self.doTransition callbacks newTier reason world).2.2 = true ↔
      isLocked world = true ∨ newTier = .critical := by
  by_cases hcritical : newTier = .critical
  · simp [doTransition, hcritical, hwired.trigger]
  · simp [doTransition, hcritical, hwired.audit]

@[simp] theorem observeSignal_currentTier (score : Int) (source : ByteString)
    (self : ThreatStateMachine) (world : σ) :
    (self.observeSignal callbacks score source world).2.1.currentTier =
      nextTier self.currentTier score := by
  simp only [observeSignal, nextTier, ThreatTier.lt_iff, gt_iff_lt]
  split
  · rfl
  · split <;> rfl

theorem observeSignal_isLocked {isLocked : σ → Bool} (hwired : callbacks.Wired isLocked)
    (score : Int) (source : ByteString) (self : ThreatStateMachine) (world : σ) :
    isLocked (self.observeSignal callbacks score source world).2.2 = true ↔
      isLocked world = true ∨
        (self.currentTier ≠ .critical ∧ nextTier self.currentTier score = .critical) := by
  simp only [observeSignal, nextTier, ThreatTier.lt_iff, gt_iff_lt]
  split
  · rename_i hup
    rw [doTransition_isLocked hwired]
    have hne : self.currentTier ≠ .critical := by
      intro h
      rw [h] at hup
      revert hup
      cases targetTier (clampScore score) <;> simp [ThreatTier.toInt]
    simp [hne]
  · split
    · rename_i hdown
      rw [doTransition_isLocked hwired]
      have hne : targetTier (clampScore score) ≠ .critical := by
        intro h
        rw [h] at hdown
        revert hdown
        cases self.currentTier <;> simp [ThreatTier.toInt]
      simp [hne]
    · simp

theorem observeSignal_wormTriggered (score : Int) (source : ByteString)
    (self : ThreatStateMachine) (world : σ)
    (htriggered : (self.observeSignal callbacks score source world).1.wormTriggered = true) :
    nextTier self.currentTier score = .critical := by
  rw [← @observeSignal_currentTier σ callbacks score source self world]
  revert htriggered
  simp only [observeSignal]
  split
  · intro h
    exact of_decide_eq_true h
  · split
    · intro h
      exact of_decide_eq_true h
    · intro h
      exact absurd h (by simp)

@[simp] theorem forceTier_currentTier (tier : ThreatTier) (reason : ByteString)
    (self : ThreatStateMachine) (world : σ) :
    (self.forceTier callbacks tier reason world).2.1.currentTier = tier := by
  simp only [forceTier]
  split
  · exact Eq.symm ‹_›
  · rfl

theorem forceTier_isLocked {isLocked : σ → Bool} (hwired : callbacks.Wired isLocked)
    (tier : ThreatTier) (reason : ByteString) (self : ThreatStateMachine) (world : σ) :
    isLocked (self.forceTier callbacks tier reason world).2.2 = true ↔
      isLocked world = true ∨ (self.currentTier ≠ .critical ∧ tier = .critical) := by
  simp only [forceTier]
  split
  · rename_i heq
    subst heq
    simp
  · rename_i hne
    refine (doTransition_isLocked hwired tier _ self world).trans ?_
    constructor
    · rintro (h | rfl)
      · exact Or.inl h
      · exact Or.inr ⟨fun h => hne h.symm, rfl⟩
    · rintro (h | ⟨-, h⟩)
      · exact Or.inl h
      · exact Or.inr h

end ThreatStateMachine

end Astartis.Threat
