import Astartis.Bridge
import Astartis.EventSourcing

/-!
What an auditor who has nothing but the audit chain makes of the bridge: each entry of the
components that hold the posture says how it moves, and can only be written in some of its states.
-/

namespace Astartis.Bridge

open Audit
open Backup
open Decoy
open EventSourcing
open Rules
open Threat
open Unlock
open Worm

/-- The entries that the posture is read from. -/
inductive Kind
  | transition
  | engaged
  | lifted
  | belt
  | chaosWindow
  | wormTrigger
  | vote
  | granted
  | backupLocked
  | integrityCheck
  | decoyEvent
deriving DecidableEq

def Kind.eventType : Kind → ByteString
  | .transition => "threat_tier_transition"
  | .engaged => "worm_lock_engaged"
  | .lifted => "worm_lock_lifted"
  | .belt => "rule_engine_rule04_belt"
  | .chaosWindow => "chaos_window"
  | .wormTrigger => "worm_trigger"
  | .vote => "worm_unlock_vote"
  | .granted => "worm_unlock_granted"
  | .backupLocked => "veeam_backup_locked"
  | .integrityCheck => "veeam_integrity_check"
  | .decoyEvent => "decoy_event"

def kinds : List Kind :=
  [.transition, .engaged, .lifted, .belt, .chaosWindow, .wormTrigger, .vote, .granted,
    .backupLocked, .integrityCheck, .decoyEvent]

def kindOf (eventType : ByteString) : Option Kind :=
  kinds.find? fun kind => kind.eventType = eventType

theorem kindOf_eventType (kind : Kind) : kindOf kind.eventType = some kind := by
  have hall : ∀ kind ∈ kinds, kindOf kind.eventType = some kind := by decide +kernel
  refine hall kind ?_
  cases kind <;> simp [kinds]

/-- What the same components note beside the posture, and what the others note. -/
def otherTypes : List ByteString :=
  ["sandbox_populated", "sandbox_write", "sandbox_worm_lock_all", "decoy_planted",
    "decoy_plant_startup", "token_granted", "token_denied", "worm_unlock_vote_rejected",
    "worm_unlock_rejected", "rule_engine_rule05_fired", "ai_triage", "packet_entropy",
    "event_log_signal", "demo_started", "demo_completed"]

theorem kindOf_other {eventType : ByteString} (hother : eventType ∈ otherTypes) :
    kindOf eventType = none := by
  have hall : ∀ eventType ∈ otherTypes, kindOf eventType = none := by decide +kernel
  exact hall eventType hother

/-- The threat tier, the lock, the unlock session, the backups and the decoys. -/
structure Account where
  threshold : Int
  threat : ThreatStateMachine := {}
  worm : WormLock := {}
  beltTriggers : UInt64 := 0
  chaosWindows : UInt64 := 0
  session : ProtocolState := .idle
  votes : Int := 0
  backupLock : BackupLockState := .unlocked
  integrityChecks : Int := 0
  decoyEvents : List ByteString := []
deriving DecidableEq

def transitionText (prev next : ThreatTier) : ByteString :=
  ("from=" : ByteString) ++ tierName prev ++ (" to=" : ByteString) ++ tierName next ++
    (" reason=\"" : ByteString)

def nextTier? (prev : ThreatTier) (payload : ByteString) : Option ThreatTier :=
  [ThreatTier.low, .medium, .high, .critical].find? fun next =>
    next ≠ prev ∧ (transitionText prev next).isPrefixOf payload = true

def lockdownCountText (count : UInt64) : ByteString :=
  ("\"" : ByteString) ++ (" lockdown_count=" : ByteString) ++ ByteString.decimal count.toNat

def previousReasonText (reason : ByteString) : ByteString :=
  (" previous_reason=\"" : ByteString) ++ reason ++ ("\"" : ByteString)

def votesNowText (votes threshold : Int) : ByteString :=
  (" votes_now=" : ByteString) ++ ByteString.decimal votes ++ ("/" : ByteString) ++
    ByteString.decimal threshold

def grantedText (votes threshold : Int) : ByteString :=
  ("votes=" : ByteString) ++ ByteString.decimal votes ++ (" threshold=" : ByteString) ++
    ByteString.decimal threshold

def windowText (index : UInt64) : ByteString :=
  ("window=" : ByteString) ++ ByteString.decimal index.toNat ++ (" samples=" : ByteString)

theorem windowText_starts_text (w : Chaos.ChaosWindow) : windowText w.windowIndex <+: w.text := by
  simp only [windowText, Chaos.ChaosWindow.text, List.append_assoc]
  simp only [List.prefix_append_right_inj]
  exact List.prefix_append _ _

def checkNumText (count : Int) : ByteString :=
  (" check_num=" : ByteString) ++ ByteString.decimal count

/-- What an entry of a kind does to the account, or that it cannot have come next. -/
def Account.enterKind (self : Account) (payload : ByteString) : Kind → Option Account
  | .transition =>
      (nextTier? self.threat.currentTier payload).map fun tier =>
        { self with threat := ⟨tier, self.threat.transitionCount + 1⟩ }
  | .engaged =>
      let count := self.worm.lockdownCount + 1
      if self.worm.state = .locked then none
      else
        (between? "reason=\"" (lockdownCountText count) payload).map fun reason =>
          { self with worm := ⟨.locked, reason, count⟩ }
  | .lifted =>
      if self.worm.state = .locked ∧ self.session = .granted ∧
          (previousReasonText self.worm.lockReason).isSuffixOf payload = true then
        some { self with worm := { self.worm with state := .normal } }
      else none
  | .belt => some { self with beltTriggers := self.beltTriggers + 1 }
  | .chaosWindow =>
      if (windowText self.chaosWindows).isPrefixOf payload = true then
        some { self with chaosWindows := self.chaosWindows + 1 }
      else none
  | .wormTrigger =>
      if self.worm.state = .locked ∧
          payload = ("reason=" : ByteString) ++ self.worm.lockReason then
        some (if self.session = .collecting then self
          else { self with session := .collecting, votes := 0 })
      else none
  | .vote =>
      if self.session = .collecting ∧
          (votesNowText (self.votes + 1) self.threshold).isSuffixOf payload = true then
        some { self with votes := self.votes + 1 }
      else none
  | .granted =>
      if self.session = .collecting ∧ self.threshold ≤ self.votes ∧
          payload = grantedText self.votes self.threshold then
        some { self with session := .granted }
      else none
  | .backupLocked =>
      if self.backupLock = .unlocked then some { self with backupLock := .immutable } else none
  | .integrityCheck =>
      let count := self.integrityChecks + 1
      if (checkNumText count).isSuffixOf payload = true then
        some { self with integrityChecks := count }
      else none
  | .decoyEvent => some { self with decoyEvents := self.decoyEvents ++ [payload] }

/-- Entries of other kinds say nothing about the posture. -/
def Account.enter (self : Account) (entry : ByteString × ByteString) : Option Account :=
  match kindOf entry.1 with
  | none => some self
  | some kind => self.enterKind entry.2 kind

/-- An adder that puts its entries behind those that are there. -/
def Appends {α : Type} (auditAdder : AuditAdder α)
    (entries : α → List (ByteString × ByteString)) : Prop :=
  ∀ eventType payload world,
    entries (auditAdder eventType payload world).2 = entries world ++ [(eventType, payload)]

def reportOf (entry : AuditEntry) : ByteString × ByteString :=
  (entry.eventType, entry.payload)

/-- What `make_audit_adder` wires the components to. -/
def chainAdder (sha256 : Sha256) (draws : Nat → Draw) : AuditAdder AuditChain :=
  fun eventType payload chain =>
    chain.addEntry sha256 (draws chain.chain.length) eventType payload

theorem chainAdder_appends (sha256 : Sha256) (draws : Nat → Draw) :
    Appends (chainAdder sha256 draws) fun chain => chain.chain.map reportOf :=
  fun eventType payload chain => by
    simp [chainAdder, AuditChain.addEntry, reportOf]

theorem nextTier?_eq {prev next : ThreatTier} (hne : next ≠ prev) (rest : ByteString) :
    nextTier? prev (transitionText prev next ++ rest) = some next := by
  have hself : (transitionText prev next).isPrefixOf (transitionText prev next ++ rest) = true :=
    List.isPrefixOf_iff_prefix.mpr (List.prefix_append _ _)
  have hother : ∀ tier, tier ≠ prev → tier ≠ next →
      (transitionText prev tier).isPrefixOf (transitionText prev next ++ rest) = false := by
    intro tier htier hdiffers
    by_contra hprefix
    have hboth := List.prefix_or_prefix_of_prefix
      (List.isPrefixOf_iff_prefix.mp (Bool.eq_true_of_not_eq_false hprefix))
      (List.prefix_append (transitionText prev next) rest)
    revert hboth
    revert hdiffers
    cases prev <;> cases tier <;> cases next <;> decide +kernel
  have hfinds : (fun tier => decide (tier ≠ prev ∧ (transitionText prev tier).isPrefixOf
      (transitionText prev next ++ rest) = true)) = fun tier => decide (tier = next) := by
    funext tier
    rw [decide_eq_decide]
    by_cases hnext : tier = next
    · subst hnext
      simp [hne, hself]
    · by_cases hprev : tier = prev
      · simp [hprev, Ne.symm hne]
      · simp [hnext, hother tier hprev hnext]
  rw [nextTier?, hfinds]
  cases next <;> rfl

section Components

variable {α : Type} {auditAdder : AuditAdder α} {entries : α → List (ByteString × ByteString)}

/-- The account next to the chain, with the state machine and the lock as they stand. -/
def books (entries : α → List (ByteString × ByteString)) (account : Account)
    (tsm : ThreatStateMachine) (world : Lockdown α) :
    Ledger Account (ByteString × ByteString) :=
  ⟨{ account with threat := tsm, worm := world.worm }, entries world.audit⟩

variable {tsm : ThreatStateMachine} {world : Lockdown α} (happends : Appends auditAdder entries)
  (account : Account)

include happends

theorem note_extends {eventType : ByteString} (hforeign : kindOf eventType = none)
    (payload : ByteString) :
    Extends Account.enter (books entries account tsm world)
      (books entries account tsm (Lockdown.addEntry auditAdder eventType payload world).2) :=
  .entry (happends eventType payload world.audit) (by simp [Account.enter, hforeign, books,
    Lockdown.addEntry])

theorem entry_extends {payload : ByteString} (kind : Kind) {after : Account}
    (hafter : Account.enterKind { account with threat := tsm, worm := world.worm } payload kind =
      some after) :
    Extends Account.enter (books entries account tsm world)
      ⟨after, entries (Lockdown.addEntry auditAdder kind.eventType payload world).2.audit⟩ :=
  .entry (happends kind.eventType payload world.audit) (by
    simpa only [Account.enter, kindOf_eventType, books] using hafter)

theorem trigger_extends (reason : ByteString) :
    Extends Account.enter (books entries account tsm world)
      (books entries account tsm (world.trigger auditAdder reason)) := by
  simp only [Lockdown.trigger, WormLock.triggerLockdown]
  split
  · exact .refl _
  · rename_i hnormal
    refine entry_extends happends _ .engaged ?_
    have hreason : between? "reason=\"" (lockdownCountText (world.worm.lockdownCount + 1))
        (("reason=\"" : ByteString) ++ reason ++ ("\"" : ByteString) ++
          (" lockdown_count=" : ByteString) ++
            ByteString.decimal (world.worm.lockdownCount + 1).toNat) = some reason := by
      have haround := between?_append ("reason=\"" : ByteString) reason
        (lockdownCountText (world.worm.lockdownCount + 1))
      simpa only [lockdownCountText, List.append_assoc] using haround
    simp only [Account.enterKind, if_neg hnormal, hreason, Option.map_some]

/-- The lock is lifted behind a grant. -/
theorem lift_extends (hgranted : account.session = .granted) (authority : ByteString) :
    Extends Account.enter (books entries account tsm world)
      (books entries account tsm (world.lift auditAdder authority)) := by
  simp only [Lockdown.lift, WormLock.unlock]
  split
  · exact .refl _
  · rename_i hstate
    have hlocked : world.worm.state = .locked := by
      cases hcase : world.worm.state with
      | normal => exact absurd hcase hstate
      | locked => rfl
    refine entry_extends happends _ .lifted ?_
    have hsuffix : (previousReasonText world.worm.lockReason).isSuffixOf
        (("authority=\"" : ByteString) ++ authority ++ ("\"" : ByteString) ++
          (" previous_reason=\"" : ByteString) ++ world.worm.lockReason ++
            ("\"" : ByteString)) = true := by
      rw [List.isSuffixOf_iff_suffix]
      refine ⟨("authority=\"" : ByteString) ++ authority ++ ("\"" : ByteString), ?_⟩
      simp only [previousReasonText, List.append_assoc]
    exact if_pos ⟨hlocked, hgranted, hsuffix⟩

theorem doTransition_extends {newTier : ThreatTier} (hne : newTier ≠ tsm.currentTier)
    (reason : ByteString) :
    let outcome := tsm.doTransition (Wiring.ofLockdown auditAdder).tsm newTier reason world
    Extends Account.enter (books entries account tsm world)
      (books entries account outcome.2.1 outcome.2.2) := by
  have hentry : ∀ payload, transitionText tsm.currentTier newTier <+: payload →
      Extends Account.enter (books entries account tsm world)
        (books entries account ⟨newTier, tsm.transitionCount + 1⟩
          (Lockdown.addEntry auditAdder "threat_tier_transition" payload world).2) := by
    rintro _ ⟨rest, rfl⟩
    refine entry_extends happends _ .transition ?_
    simp only [Account.enterKind, nextTier?_eq hne rest, Option.map_some]
    rfl
  simp only [ThreatStateMachine.doTransition]
  have htransition := hentry _ ⟨reason ++ (("\"" : ByteString) ++
    ((" response=\"" : ByteString) ++ ((makeResponse newTier).description ++
      ("\"" : ByteString)))), rfl⟩
  simp only [transitionText, List.append_assoc] at htransition ⊢
  split
  · exact htransition.trans (trigger_extends happends _ _)
  · exact htransition

theorem observeSignal_extends (score : Int) (source : ByteString) :
    let outcome := tsm.observeSignal (Wiring.ofLockdown auditAdder).tsm score source world
    Extends Account.enter (books entries account tsm world)
      (books entries account outcome.2.1 outcome.2.2) := by
  simp only [ThreatStateMachine.observeSignal]
  split
  · rename_i habove
    refine doTransition_extends happends _ (fun hsame => ?_) _
    rw [hsame] at habove
    exact lt_irrefl _ habove
  · split
    · rename_i hbelow
      refine doTransition_extends happends _ (fun hsame => ?_) _
      rw [hsame] at hbelow
      exact lt_irrefl _ hbelow.1
    · exact .refl _

theorem forceTier_extends (tier : ThreatTier) (reason : ByteString) :
    let outcome := tsm.forceTier (Wiring.ofLockdown auditAdder).tsm tier reason world
    Extends Account.enter (books entries account tsm world)
      (books entries account outcome.2.1 outcome.2.2) := by
  simp only [ThreatStateMachine.forceTier]
  split
  · exact .refl _
  · rename_i hne
    exact doTransition_extends happends _ hne _

end Components

section Rules

variable {α : Type} {auditAdder : AuditAdder α} {entries : α → List (ByteString × ByteString)}

/-- The account and the chain of an engine that is wired to the lock. -/
def engineBooks (entries : α → List (ByteString × ByteString)) (account : Account)
    (engine : Engine (Lockdown α)) : Ledger Account (ByteString × ByteString) :=
  books entries { account with beltTriggers := engine.rules.wormTriggerCount } engine.tsm
    engine.world

variable (happends : Appends auditAdder entries) (account : Account)
  (engine : Engine (Lockdown α))

include happends

theorem engine_observeSignal_extends (score : Int) (source : ByteString) :
    Extends Account.enter (engineBooks entries account engine)
      (engineBooks entries account
        (engine.observeSignal (Wiring.ofLockdown auditAdder) score source).2) :=
  observeSignal_extends happends _ score source

theorem engine_forceTier_extends (tier : ThreatTier) (reason : ByteString) :
    Extends Account.enter (engineBooks entries account engine)
      (engineBooks entries account
        (engine.forceTier (Wiring.ofLockdown auditAdder) tier reason).2) :=
  forceTier_extends happends _ tier reason

theorem engine_audit_extends {eventType : ByteString} (hforeign : kindOf eventType = none)
    (payload : ByteString) :
    Extends Account.enter (engineBooks entries account engine)
      (engineBooks entries account
        (engine.audit (Wiring.ofLockdown auditAdder) eventType payload)) :=
  note_extends happends _ hforeign payload

theorem applyRule04Belt_extends (triggeringRule : ByteString) :
    Extends Account.enter (engineBooks entries account engine)
      (engineBooks entries account
        (engine.applyRule04Belt (Wiring.ofLockdown auditAdder) triggeringRule).2) := by
  simp only [Engine.applyRule04Belt]
  split
  · exact (trigger_extends happends _ _).trans (entry_extends happends _ .belt rfl)
  · exact .refl _

theorem evaluateThreatScore_extends (score : Int) (source : ByteString) :
    Extends Account.enter (engineBooks entries account engine)
      (engineBooks entries account
        (engine.evaluateThreatScore (Wiring.ofLockdown auditAdder) score source).2) := by
  have hbelt := (engine_observeSignal_extends happends account engine score
    source).trans (applyRule04Belt_extends happends _
      (engine.observeSignal (Wiring.ofLockdown auditAdder) score source).2 "RULE-02")
  simp only [Engine.evaluateThreatScore]
  split
  · exact hbelt
  · exact hbelt

theorem evaluateChaosWindow_extends (window : Chaos.ChaosWindow) :
    Extends Account.enter (engineBooks entries account engine)
      (engineBooks entries account
        (engine.evaluateChaosWindow (Wiring.ofLockdown auditAdder) window).2) := by
  simp only [Engine.evaluateChaosWindow]
  split
  · split
    · refine Extends.trans ?_ (engine_audit_extends happends _ _
        (kindOf_other (by simp [otherTypes])) _)
      exact engine_forceTier_extends happends _
        (engine.setChaosHighCount (engine.rules.chaosHighCount + 1)).countFire .medium _
    · exact .refl _
  · exact .refl _

theorem conclude_extends (input : Ai.TriageInput) (fast : Ai.FastResult)
    (heavy : Option Ai.HeavyResult) :
    Extends Account.enter (engineBooks entries account engine)
      (engineBooks entries account
        (Ai.conclude (Wiring.ofLockdown auditAdder) input fast heavy engine).2) :=
  (evaluateThreatScore_extends happends _ engine _ _).trans
    (note_extends happends _ (kindOf_other (by simp [otherTypes])) _)

end Rules

end Astartis.Bridge
