import Astartis.BridgeSafety
import Astartis.PostureAccount

/-!
The bridge against its audit chain: whatever happens to it, and in whatever order, the chain can
be replayed, and comes to the tier, the lock, the unlock session, the backups and the decoys as
they stand.
-/

namespace Astartis.Bridge

open Access
open Audit
open Backup
open Chaos
open Crypto
open Decoy
open EventSourcing
open Rules
open Threat
open TransitionSystem
open Unlock
open Worm

section Components

variable {α : Type} {auditAdder : AuditAdder α} {entries : α → List (ByteString × ByteString)}

/-- What happened to the world is in the chain, and does not concern the posture. -/
def Notes (entries : α → List (ByteString × ByteString)) (world after : Lockdown α) : Prop :=
  ∀ account tsm, Extends Account.enter (books entries account tsm world)
    (books entries account tsm after)

theorem Notes.refl (world : Lockdown α) : Notes entries world world :=
  fun _ _ => .refl _

theorem Notes.trans {world mid after : Lockdown α} (hfirst : Notes entries world mid)
    (hsecond : Notes entries mid after) : Notes entries world after :=
  fun account tsm => (hfirst account tsm).trans (hsecond account tsm)

variable (happends : Appends auditAdder entries)

include happends

theorem addEntry_notes {eventType : ByteString} (hforeign : kindOf eventType = none)
    (payload : ByteString) (world : Lockdown α) :
    Notes entries world (Lockdown.addEntry auditAdder eventType payload world).2 :=
  fun _ _ => note_extends happends _ hforeign payload

section Sandboxes

variable (callbacks : Sandbox.Callbacks (Lockdown α))
  (hadder : callbacks.auditAdder = Lockdown.addEntry auditAdder)

include hadder

theorem callback_notes {eventType : ByteString} (hforeign : kindOf eventType = none)
    (payload : ByteString) (world : Lockdown α) :
    Notes entries world (callbacks.auditAdder eventType payload world).2 := by
  rw [hadder]
  exact addEntry_notes happends hforeign payload world

theorem populate_notes (now : Int64) (sandbox : Sandbox) (world : Lockdown α) :
    Notes entries world (sandbox.populate callbacks now world).2.2 := by
  simp only [Sandbox.populate]
  split
  · exact callback_notes happends callbacks hadder (kindOf_other (by simp [otherTypes])) _ _
  · exact .refl _

theorem write_notes (now : Int64) (absPath content author : ByteString) (sandbox : Sandbox)
    (world : Lockdown α) :
    Notes entries world (sandbox.write callbacks now absPath content author world).2.2 := by
  simp only [Sandbox.write]
  split
  · exact .refl _
  · split
    · exact .refl _
    · split
      · exact .refl _
      · split
        · exact .refl _
        · exact callback_notes happends callbacks hadder (kindOf_other (by simp [otherTypes])) _ _

theorem plantFiles_notes (now : Int64) (specs : List PoisonSpec) (planted : Nat)
    (decoy : DecoyEnvironment) (sandbox : Sandbox) (world : Lockdown α) :
    let outcome := DecoyEnvironment.plantFiles callbacks now specs
      (planted, decoy, sandbox, world)
    Notes entries world outcome.2.2.2 ∧ outcome.2.1.forensicLog = decoy.forensicLog := by
  induction specs generalizing planted decoy sandbox world with
  | nil => exact ⟨.refl _, rfl⟩
  | cons spec rest ih =>
      have hwrite := write_notes happends callbacks hadder now
        (sandbox.rootPath ++ ("/" : ByteString) ++ spec.relPath) spec.content "decoy_system"
        sandbox world
      simp only [DecoyEnvironment.plantFiles]
      split
      all_goals
        refine ⟨hwrite.trans (ih _ _ _ _).1, (ih _ _ _ _).2⟩

theorem plant_notes (now : Int64) (decoy : DecoyEnvironment) (sandbox : Sandbox)
    (world : Lockdown α) :
    let outcome := decoy.plant (Lockdown.addEntry auditAdder) callbacks now sandbox world
    Notes entries world outcome.2.2.2 ∧ outcome.2.1.forensicLog = decoy.forensicLog := by
  obtain ⟨hnotes, hlog⟩ := plantFiles_notes happends callbacks hadder now poisonedFiles 0 decoy
    sandbox world
  exact ⟨hnotes.trans (addEntry_notes happends (kindOf_other (by simp [otherTypes])) _ _), hlog⟩

end Sandboxes

theorem checkAccess_notes (tokens : TokenStore) (now : Int64) (tokenId scope : ByteString)
    (world : Lockdown α) :
    Notes entries world
      (tokens.checkAccess (Lockdown.addEntry auditAdder) now tokenId scope world).2 := by
  rcases tokens.checkAccess_world (Lockdown.addEntry auditAdder) now tokenId scope world with
    hsame | ⟨payload, hdenied⟩
  · rw [hsame]
    exact .refl _
  · rw [hdenied]
    exact addEntry_notes happends (kindOf_other (by simp [otherTypes])) _ _

theorem grant_notes {draw : Option (Vector UInt8 16)} {now : Int64}
    {identity scope : ByteString} {ttlMs : Int64} {tokens tokens' : TokenStore}
    {world world' : Lockdown α} {token : AccessToken}
    (hgrant : tokens.grant (Lockdown.addEntry auditAdder) draw now identity scope ttlMs world =
      .ok (token, tokens', world')) : Notes entries world world' := by
  simp only [TokenStore.grant] at hgrant
  split at hgrant
  · exact absurd hgrant (by simp)
  · split at hgrant
    · exact absurd hgrant (by simp)
    · split at hgrant
      · exact absurd hgrant (by simp)
      · split at hgrant
        · exact absurd hgrant (by simp)
        · obtain ⟨-, -, rfl⟩ := Prod.mk.inj (Except.ok.inj hgrant) |>.imp_right Prod.mk.inj
          exact addEntry_notes happends (kindOf_other (by simp [otherTypes])) _ _

end Components

section Votes

/-- Votes are counted by who has voted. -/
theorem countVotes_congr {votes votes' : Std.TreeMap ByteString Bool}
    (hsame : ∀ name : ByteString, votes[name]? = some true ↔ votes'[name]? = some true) :
    countVotes votes = countVotes votes' := by
  have hperm : (voters votes).Perm (voters votes') := by
    rw [List.perm_ext_iff_of_nodup (voters_nodup _) (voters_nodup _)]
    intro name
    rw [mem_voters, mem_voters, hsame]
  rw [countVotes, countVotes, hperm.length_eq]

variable {α : Type} {auditAdder : AuditAdder α} {entries : α → List (ByteString × ByteString)}

/-- The account and the chain, with the unlock session as it stands. -/
def sessionBooks (entries : α → List (ByteString × ByteString)) (account : Account)
    (tsm : ThreatStateMachine) (protocol : UnlockProtocol) (world : Lockdown α) :
    Ledger Account (ByteString × ByteString) :=
  books entries
    { account with
      threshold := protocol.threshold
      session := protocol.state
      votes := countVotes protocol.votes } tsm world

variable (happends : Appends auditAdder entries) (account : Account) (tsm : ThreatStateMachine)

include happends

/-- The vote itself, in front of what it may lead to. -/
theorem vote_extends {approver : ByteString} {protocol : UnlockProtocol}
    (hcollecting : protocol.state = .collecting)
    (hfresh : protocol.votes[approver]? ≠ some true) (world : Lockdown α) :
    let counted : UnlockProtocol := { protocol with
      votes := protocol.votes.insert approver true
      challenges := protocol.challenges.erase approver }
    Extends Account.enter (sessionBooks entries account tsm protocol world)
      (sessionBooks entries account tsm counted (Lockdown.addEntry auditAdder "worm_unlock_vote"
        (("approver=" : ByteString) ++ approver ++ (" votes_now=" : ByteString) ++
          ByteString.decimal (countVotes counted.votes) ++ ("/" : ByteString) ++
          ByteString.decimal counted.threshold) world).2) := by
  intro counted
  have hcount : countVotes counted.votes = countVotes protocol.votes + 1 :=
    countVotes_of_counted ⟨rfl, rfl, rfl, insert_votes _ _⟩ hfresh
  refine entry_extends happends _ .vote ?_
  have hsuffix : (votesNowText (countVotes protocol.votes + 1) protocol.threshold).isSuffixOf
      (("approver=" : ByteString) ++ approver ++ (" votes_now=" : ByteString) ++
        ByteString.decimal (countVotes counted.votes) ++ ("/" : ByteString) ++
        ByteString.decimal counted.threshold) = true := by
    rw [List.isSuffixOf_iff_suffix, hcount]
    refine ⟨("approver=" : ByteString) ++ approver, ?_⟩
    simp only [votesNowText, List.append_assoc]
    rfl
  simp only [Account.enterKind]
  rw [if_pos ⟨hcollecting, hsuffix⟩, hcount]
  rfl

theorem accept_extends {approver : ByteString} {protocol : UnlockProtocol}
    (hcollecting : protocol.state = .collecting)
    (hfresh : protocol.votes[approver]? ≠ some true) (world : Lockdown α) :
    let outcome := protocol.accept (Callbacks.ofLockdown auditAdder) approver world
    Extends Account.enter (sessionBooks entries account tsm protocol world)
      (sessionBooks entries account tsm outcome.2.1 outcome.2.2) := by
  have hvote := vote_extends happends account tsm hcollecting hfresh world
  simp only [UnlockProtocol.accept]
  split
  · rename_i hreached
    refine hvote.trans ?_
    refine Extends.trans ?_ (lift_extends happends _ rfl "12eye_protocol_demo_scale")
    refine entry_extends happends _ .granted ?_
    exact if_pos ⟨hcollecting, hreached, rfl⟩
  · exact hvote

theorem castVote_extends (scheme : SignatureScheme) (tokens : TokenStore) (now : Int64)
    (approver : ByteString) (signedReq : SignedRequest) (protocol : UnlockProtocol)
    (world : Lockdown α) :
    let outcome := protocol.castVote (Callbacks.ofLockdown auditAdder) scheme tokens now
      approver signedReq world
    Extends Account.enter (sessionBooks entries account tsm protocol world)
      (sessionBooks entries account tsm outcome.2.1 outcome.2.2) := by
  have hreject : ∀ (before : UnlockProtocol) (w : Lockdown α) (reason : ByteString),
      Extends Account.enter (sessionBooks entries account tsm before w)
        (sessionBooks entries account tsm before
          (before.reject (Callbacks.ofLockdown auditAdder) approver reason w).2.2) :=
    fun _ _ reason => note_extends happends _ (kindOf_other (by simp [otherTypes])) _
  -- reading the vote of an approver may add an entry, which does not count
  have htouched : sessionBooks entries account tsm
      { protocol with votes := protocol.votes.insertIfNew approver false } world =
        sessionBooks entries account tsm protocol world := by
    rw [sessionBooks, sessionBooks, countVotes_congr (insertIfNew_votes protocol.votes approver)]
  have haccess : ∀ (before : UnlockProtocol) (record : ApproverRecord),
      Extends Account.enter (sessionBooks entries account tsm before world)
        (sessionBooks entries account tsm before (tokens.checkAccess
          (Lockdown.addEntry auditAdder) now record.tokenId "worm_unlock_vote" world).2) :=
    fun _ record => checkAccess_notes happends tokens now record.tokenId "worm_unlock_vote" world
      _ tsm
  simp only [UnlockProtocol.castVote]
  split
  · exact hreject _ _ _
  split
  · exact hreject _ _ _
  rename_i hidle hgranted
  have hcollecting : protocol.state = .collecting := by
    cases hstate : protocol.state with
    | idle => exact absurd hstate hidle
    | collecting => rfl
    | granted => exact absurd hstate hgranted
  split
  · exact hreject _ _ _
  rename_i record hrecord
  rw [← htouched]
  split
  · exact hreject _ _ _
  rename_i hfresh
  split
  · exact (haccess _ record).trans (hreject _ _ _)
  split
  · exact (haccess _ record).trans (hreject _ _ _)
  split
  · refine (haccess _ record).trans (accept_extends happends _ tsm ?_ ?_ _)
    · exact hcollecting
    · exact fun hvoted => hfresh ((getD_votes _ _).mpr hvoted)
  · exact (haccess _ record).trans (hreject _ _ _)

end Votes

/-- What `log_event` puts into the chain. -/
def decoyEventText (ev : DecoyEvent) : ByteString :=
  ("rel=" : ByteString) ++ ev.relPath ++
    (" poison_type=" : ByteString) ++ poisonTypeName ev.poisonType ++
    (" action=" : ByteString) ++ ev.action ++
    (" attacker=" : ByteString) ++ ev.attackerTag ++
    (" detail=\"" : ByteString) ++ ev.detail ++ ("\"" : ByteString)

namespace Globals

variable {α : Type}

/-- The posture as the components hold it. -/
def account (self : Globals α) : Account where
  threshold := self.unlock.threshold
  threat := self.core.engine.tsm
  worm := self.world.worm
  beltTriggers := self.core.engine.rules.wormTriggerCount
  chaosWindows := self.chaos.windowIndex
  session := self.unlock.state
  votes := countVotes self.unlock.votes
  backupLock := self.veeam.repo.lockState
  integrityChecks := self.veeam.repo.integrityCheckCount
  decoyEvents := self.decoy.forensicLog.map decoyEventText

def ledger (entries : α → List (ByteString × ByteString)) (self : Globals α) :
    Ledger Account (ByteString × ByteString) :=
  ⟨self.account, entries self.world.audit⟩

end Globals

section Operations

variable {α : Type} {platform : Platform α} {entries : α → List (ByteString × ByteString)}

/-- The chain has what happened to the bridge. -/
abbrev Follows (entries : α → List (ByteString × ByteString)) (before after : Globals α) : Prop :=
  Extends Account.enter (before.ledger entries) (after.ledger entries)

theorem withEngine_follows {bridge : Globals α} {engine : Engine (Lockdown α)}
    (hengine : Extends Account.enter (engineBooks entries bridge.account bridge.core.engine)
      (engineBooks entries bridge.account engine)) :
    Follows entries bridge (bridge.withEngine engine) :=
  hengine

theorem withWorld_follows (bridge : Globals α) {world : Lockdown α}
    (hnotes : Notes entries bridge.world world) :
    Follows entries bridge (bridge.withWorld world) :=
  hnotes bridge.account bridge.core.engine.tsm

variable (happends : Appends platform.auditAdder entries) (bridge : Globals α)

include happends

theorem audit_follows {eventType : ByteString} (hforeign : kindOf eventType = none)
    (payload : ByteString) : Follows entries bridge (bridge.audit platform eventType payload) :=
  withWorld_follows bridge (addEntry_notes happends hforeign payload bridge.world)

theorem auditAll_follows {noted : List (ByteString × ByteString)}
    (hforeign : ∀ entry ∈ noted, kindOf entry.1 = none) :
    Follows entries bridge (bridge.auditAll platform noted) := by
  induction noted generalizing bridge with
  | nil => exact .refl _
  | cons entry noted ih =>
      obtain ⟨hentry, hnoted⟩ := List.forall_mem_cons.mp hforeign
      exact (audit_follows happends bridge hentry entry.2).trans (ih _ hnoted)

theorem triggerLockdown_follows (reason : ByteString) :
    Follows entries bridge (bridge.triggerLockdown platform reason).2 :=
  trigger_extends happends bridge.account reason

theorem observeSignal_follows (score : Int) (source : ByteString) :
    Follows entries bridge (bridge.observeSignal platform score source).2 :=
  withEngine_follows (engine_observeSignal_extends happends _ bridge.core.engine score source)

theorem globals_evaluateThreatScore_follows (score : Int) (source : ByteString) :
    Follows entries bridge (bridge.evaluateThreatScore platform score source).2 :=
  withEngine_follows (evaluateThreatScore_extends happends _ bridge.core.engine score source)

theorem lockAll_follows (reason : ByteString) :
    Follows entries bridge (bridge.lockAll platform reason) :=
  withWorld_follows { bridge with sandbox := _ }
    (callback_notes happends platform.sandboxCallbacks rfl (kindOf_other (by simp [otherTypes]))
      _ bridge.world)

theorem lockBackups_follows (now : Int64) (reason : ByteString) :
    Follows entries bridge (bridge.lockBackups platform now reason) := by
  simp only [Globals.lockBackups, VeeamInterface.lockBackups]
  split
  · exact .refl _
  · rename_i hunlocked
    refine entry_extends happends bridge.account .backupLocked ?_
    exact if_pos (not_not.mp hunlocked)

theorem integrityCheck_follows (now : Int64) :
    let outcome := bridge.veeam.integrityCheck (Lockdown.addEntry platform.auditAdder) now
      bridge.world
    Follows entries bridge ({ bridge with veeam := outcome.2.1 }.withWorld outcome.2.2) := by
  refine entry_extends happends bridge.account .integrityCheck ?_
  refine if_pos ?_
  rw [List.isSuffixOf_iff_suffix]
  refine ⟨("repo_id=\"" : ByteString) ++ stubRepoId ++ ("\"" : ByteString) ++
    (" checked=" : ByteString) ++ ByteString.decimal bridge.veeam.repo.backupCount ++
    (" violations=0" : ByteString), ?_⟩
  simp only [checkNumText, List.append_assoc]
  rfl

theorem plant_follows (now : Int64) :
    Follows entries bridge (bridge.plant platform now).2 := by
  obtain ⟨hnotes, hlog⟩ := plant_notes happends platform.sandboxCallbacks rfl now bridge.decoy
    bridge.sandbox bridge.world
  have haccount : (bridge.plant platform now).2.account =
      { bridge.account with worm := (bridge.plant platform now).2.world.worm } :=
    congrArg (fun log => { bridge.account with
      worm := (bridge.plant platform now).2.world.worm
      decoyEvents := List.map decoyEventText log }) hlog
  show Extends Account.enter (bridge.ledger entries)
    ⟨(bridge.plant platform now).2.account, entries (bridge.plant platform now).2.world.audit⟩
  rw [haccount]
  exact hnotes bridge.account bridge.core.engine.tsm

theorem logEvent_follows (ev : DecoyEvent) :
    let outcome := bridge.decoy.logEvent (Lockdown.addEntry platform.auditAdder) ev bridge.world
    Follows entries bridge ({ bridge with decoy := outcome.1 }.withWorld outcome.2) := by
  refine entry_extends happends bridge.account .decoyEvent ?_
  have htexts : List.map decoyEventText bridge.decoy.forensicLog ++ [decoyEventText ev] =
      List.map decoyEventText (bridge.decoy.forensicLog ++ [ev]) := by simp
  exact congrArg (fun texts => some { bridge.account with decoyEvents := texts }) htexts

theorem touch_follows (now : Int64) (path action session detail : ByteString) :
    Follows entries bridge (bridge.touch platform now path action session detail).2 := by
  simp only [Globals.touch, DecoyEnvironment.touch]
  split
  · exact .refl _
  · exact logEvent_follows happends bridge _

section Chaos

variable (account : Account)

/-- The account and the chain of the globals behind the chaos detector. -/
def coreBooks (entries : α → List (ByteString × ByteString)) (account : Account)
    (windows : UInt64) (core : Core α) : Ledger Account (ByteString × ByteString) :=
  engineBooks entries { account with chaosWindows := windows } core.engine

omit bridge in
theorem onChaosWindow_extends (windows : UInt64) (w : ChaosWindow) (core : Core α) :
    Extends Account.enter (coreBooks entries account windows core)
      (coreBooks entries account windows (onChaosWindow platform w core)) := by
  simp only [onChaosWindow, Engine.evaluateChaosWindow_wormTriggered]
  exact evaluateChaosWindow_extends happends _ core.engine w

omit bridge in
theorem flushWindow_extends (force : Bool) (detector : ChaosDetector) (core : Core α) :
    let outcome := detector.flushWindow platform.analysis platform.chaosCallbacks force core
    Extends Account.enter (coreBooks entries account detector.windowIndex core)
      (coreBooks entries account outcome.1.windowIndex outcome.2) := by
  simp only [ChaosDetector.flushWindow]
  split
  · exact .refl _
  · split
    · exact .refl _
    · let w := detector.window platform.analysis
      have hnoted : Extends Account.enter (coreBooks entries account detector.windowIndex core)
          (coreBooks entries account (detector.windowIndex + 1)
            (Core.addEntry platform "chaos_window" w.text core).2) := by
        refine entry_extends happends _ .chaosWindow ?_
        exact if_pos (List.isPrefixOf_iff_prefix.mpr (windowText_starts_text w))
      exact hnoted.trans (onChaosWindow_extends happends _ (detector.windowIndex + 1) w _)

theorem pushChaos_follows (value : Double) (synthetic : Bool) :
    Follows entries bridge (bridge.pushChaos platform value synthetic) := by
  simp only [Globals.pushChaos, ChaosDetector.push]
  split
  · exact flushWindow_extends happends bridge.account false
      { bridge.chaos with
        samples := bridge.chaos.samples ++ [value]
        anySynthetic := bridge.chaos.anySynthetic || synthetic } bridge.core
  · exact .refl _

theorem pushChaosBatch_follows (values : List Double) (synthetic : Bool) :
    Follows entries bridge
      (values.foldl (fun bridge value => bridge.pushChaos platform value synthetic) bridge) := by
  induction values generalizing bridge with
  | nil => exact .refl _
  | cons value values ih => exact (pushChaos_follows happends bridge value synthetic).trans (ih _)

end Chaos

end Operations

section Commands

variable {α : Type} {platform : Platform α} {entries : α → List (ByteString × ByteString)}

/-- Entries of components that keep to types of their own. -/
def Foreign (noted : List (ByteString × ByteString)) : Prop :=
  ∀ entry ∈ noted, kindOf entry.1 = none

/-- The entries of other components that an action brings along. -/
def Action.noted : Action → List (ByteString × ByteString)
  | .command _ (.peripheral noted) => noted
  | .command _ (.runDemo noted) => noted
  | .fsEvent event => event.entries
  | .background noted => noted
  | _ => []

theorem triggerLockdown_changed {bridge : Globals α} {reason : ByteString}
    (hchanged : (bridge.triggerLockdown platform reason).1 = true) :
    (bridge.triggerLockdown platform reason).2.world.worm.state = .locked ∧
      (bridge.triggerLockdown platform reason).2.world.worm.lockReason = reason := by
  simp only [Globals.triggerLockdown, WormLock.triggerLockdown] at hchanged ⊢
  split at hchanged
  · exact absurd hchanged (by simp)
  · rename_i hnormal
    rw [if_neg hnormal]
    exact ⟨rfl, rfl⟩

theorem countVotes_eq_zero {votes : Std.TreeMap ByteString Bool}
    (hnone : ∀ name : ByteString, votes[name]? ≠ some true) : countVotes votes = 0 := by
  have hnobody : voters votes = [] := by
    rw [List.eq_nil_iff_forall_not_mem]
    exact fun name hname => hnone name (mem_voters.mp hname)
  rw [countVotes, hnobody]
  rfl

theorem countVotes_cleared (votes : Std.TreeMap ByteString Bool) :
    countVotes (votes.map fun _ _ => false) = 0 := by
  refine countVotes_eq_zero fun name => ?_
  rw [Std.TreeMap.getElem?_map]
  cases votes[name]? <;> simp

variable (happends : Appends platform.auditAdder entries) (bridge : Globals α)

include happends

/-- `worm_trigger` of the chain, and the session that is opened behind it. -/
theorem beginSession_follows {reason : ByteString} (hlocked : bridge.world.worm.state = .locked)
    (hreason : bridge.world.worm.lockReason = reason) :
    let noted := bridge.audit platform "worm_trigger" (("reason=" : ByteString) ++ reason)
    Follows entries bridge { noted with unlock := noted.unlock.beginSession } := by
  refine entry_extends happends bridge.account .wormTrigger ?_
  refine (if_pos ⟨hlocked, by rw [hreason]⟩).trans (congrArg some ?_)
  show _ = ({ bridge with unlock := bridge.unlock.beginSession } : Globals α).account
  by_cases hcollecting : bridge.unlock.state = .collecting
  · rw [UnlockProtocol.beginSession_of_collecting hcollecting]
    exact if_pos hcollecting
  · rw [UnlockProtocol.beginSession, if_neg hcollecting]
    refine (if_neg hcollecting).trans ?_
    exact congrArg (fun votes => { bridge.account with session := .collecting, votes := votes })
      (countVotes_cleared bridge.unlock.votes).symm

theorem dispatchObserveSignal_follows (score : Int) (source : ByteString) :
    Follows entries bridge (dispatchObserveSignal platform score source bridge).2 := by
  have hsignal := (observeSignal_follows happends bridge score source).trans
    (globals_evaluateThreatScore_follows happends _ score source)
  simp only [dispatchObserveSignal]
  split
  · exact hsignal.trans (triggerLockdown_follows happends _ _)
  · exact hsignal

theorem dispatchWormTrigger_follows (inputs : Inputs) (reason : ByteString) :
    Follows entries bridge (dispatchWormTrigger platform inputs reason bridge).2 := by
  have htrigger := triggerLockdown_follows happends bridge reason
  simp only [dispatchWormTrigger]
  split
  · rename_i hchanged
    obtain ⟨hlocked, hreason⟩ := triggerLockdown_changed hchanged
    refine (htrigger.trans (lockAll_follows happends _ "worm_lockdown")).trans ?_
    exact (beginSession_follows happends
      ((bridge.triggerLockdown platform reason).2.lockAll platform "worm_lockdown") hlocked
      hreason).trans (lockBackups_follows happends _ inputs.now reason)
  · exact htrigger

theorem dispatchRunDemo_follows (noted : List (ByteString × ByteString)) :
    Follows entries bridge (dispatchRunDemo platform noted bridge).2 :=
  audit_follows happends bridge (kindOf_other (by simp [otherTypes])) "pass=1"

theorem dispatchUnlockVote_follows (inputs : Inputs) (approver : ByteString) :
    Follows entries bridge (dispatchUnlockVote platform inputs approver bridge).2 := by
  simp only [dispatchUnlockVote]
  split
  · exact .refl _
  split
  · exact .refl _
  rename_i identity hidentity
  split
  · exact .refl _
  rename_i challenge unlock hchallenge
  -- a challenge does not show in the account
  have hsame : Follows entries bridge { bridge with unlock := unlock } := by
    rcases UnlockProtocol.getChallenge_cases hchallenge with rfl | ⟨bytes, -, -, rfl⟩
    · exact .refl _
    · exact .refl _
  split
  · exact hsame
  · exact hsame.trans (castVote_extends happends bridge.account _ platform.scheme
      bridge.tokens inputs.now approver _ unlock bridge.world)

theorem dispatchTriageEvent_follows (inputs : Inputs) (input : Ai.TriageInput) :
    Follows entries bridge (dispatchTriageEvent platform inputs input bridge).2 := by
  simp only [dispatchTriageEvent]
  split
  · exact .refl _
  · rename_i result engine htriage
    simp only [Ai.AiTriage.triage, Option.bind_eq_bind, Option.bind_eq_some_iff] at htriage
    obtain ⟨⟨fast, heavy⟩, -, hconclude⟩ := htriage
    have hengine := congrArg Prod.snd (Option.some.inj hconclude)
    simp only at hengine
    rw [← hengine]
    exact withEngine_follows (conclude_extends happends _ bridge.core.engine _ _ _)

theorem dispatch_follows (inputs : Inputs) (command : Command)
    (hforeign : Foreign (Action.command inputs command).noted) :
    Follows entries bridge (dispatch platform inputs bridge command).2 := by
  cases command with
  | observeSignal score source => exact dispatchObserveSignal_follows happends bridge score source
  | pushChaos value synthetic => exact pushChaos_follows happends bridge value synthetic
  | pushChaosBatch values synthetic => exact pushChaosBatch_follows happends bridge values synthetic
  | wormTrigger reason => exact dispatchWormTrigger_follows happends bridge inputs reason
  | wormUnlock => exact audit_follows happends bridge (kindOf_other (by simp [otherTypes])) _
  | veeamIntegrityCheck => exact integrityCheck_follows happends bridge inputs.now
  | decoyPlant => exact plant_follows happends bridge inputs.now
  | decoyTouch path action session detail =>
      exact touch_follows happends bridge inputs.now path action session detail
  | runDemo noted => exact dispatchRunDemo_follows happends bridge noted
  | unlockVote approver => exact dispatchUnlockVote_follows happends bridge inputs approver
  | triageEvent input => exact dispatchTriageEvent_follows happends bridge inputs input
  | peripheral noted => exact auditAll_follows happends bridge hforeign
  | ping | getSnapshot | veeamStatus | sandboxGetTree | getUnlockStatus | malformed =>
      exact .refl _

end Commands

section Runs

variable {α : Type} {platform : Platform α} {entries : α → List (ByteString × ByteString)}

def DemoOp.noted : DemoOp → List (ByteString × ByteString)
  | .serve noted => noted
  | _ => []

/-- What the demo threads still have to note is of other components. -/
def QuietDemos (bridge : Globals α) : Prop :=
  ∀ script ∈ bridge.demos, ∀ op ∈ script, Foreign (DemoOp.noted op)

theorem demoScript_foreign {noted : List (ByteString × ByteString)} (hforeign : Foreign noted) :
    ∀ op ∈ demoScript noted, Foreign op.noted := by
  intro op hop
  cases op with
  | serve served =>
      simp only [demoScript, List.mem_append, List.mem_map, List.mem_cons] at hop
      have hsame : served = noted := by simpa using hop
      exact hsame ▸ hforeign
  | signal | push | plant | touch | triggerLockdown | lockAll | completed =>
      exact fun _ h => absurd h List.not_mem_nil

section Demos

variable (bridge : Globals α)

theorem auditAll_demos (platform : Platform α) (noted : List (ByteString × ByteString)) :
    (bridge.auditAll platform noted).demos = bridge.demos := by
  induction noted generalizing bridge with
  | nil => rfl
  | cons entry noted ih => exact ih (bridge.audit platform entry.1 entry.2)

theorem pushChaosBatch_demos (values : List Double) (synthetic : Bool) :
    (values.foldl (fun bridge value => bridge.pushChaos platform value synthetic)
      bridge).demos = bridge.demos := by
  induction values generalizing bridge with
  | nil => rfl
  | cons value values ih => exact ih (bridge.pushChaos platform value synthetic)

/-- No other command starts a demo. -/
theorem dispatch_demos (inputs : Inputs) (command : Command)
    (hcommand : ∀ noted, command ≠ .runDemo noted) :
    (dispatch platform inputs bridge command).2.demos = bridge.demos := by
  cases command with
  | observeSignal score source =>
      simp only [dispatch, dispatchObserveSignal]
      split <;> rfl
  | wormTrigger reason =>
      simp only [dispatch, dispatchWormTrigger]
      split <;> rfl
  | unlockVote approver =>
      simp only [dispatch, dispatchUnlockVote]
      split
      · rfl
      · split
        · rfl
        · split
          · rfl
          · split <;> rfl
  | triageEvent input =>
      simp only [dispatch, dispatchTriageEvent]
      split <;> rfl
  | pushChaosBatch values synthetic => exact pushChaosBatch_demos bridge values synthetic
  | peripheral noted => exact auditAll_demos bridge platform noted
  | runDemo noted => exact absurd rfl (hcommand noted)
  | pushChaos | wormUnlock | veeamIntegrityCheck | decoyPlant | decoyTouch => rfl
  | ping | getSnapshot | veeamStatus | sandboxGetTree | getUnlockStatus | malformed => rfl

theorem onPacketWindow_demos (flush : PacketFlush) :
    (onPacketWindow platform flush bridge).demos = bridge.demos := by
  simp only [onPacketWindow]
  split <;> rfl

theorem onFsEvent_demos (event : FsEvent) :
    (onFsEvent platform event bridge).demos = bridge.demos := by
  rw [← auditAll_demos bridge platform event.entries]
  simp only [onFsEvent]
  split
  · rfl
  · split
    · split <;> rfl
    · split <;> rfl

theorem run_demos (now : Int64) (op : DemoOp) :
    (op.run platform now bridge).demos = bridge.demos := by
  cases op with
  | serve noted => exact auditAll_demos bridge platform noted
  | signal | push | plant | touch | triggerLockdown | lockAll | completed => rfl

variable {bridge}

theorem QuietDemos.popped (hquiet : QuietDemos bridge) (thread : Nat) :
    QuietDemos { bridge with demos := bridge.demos.modify thread List.tail } := by
  intro script hscript op hop
  obtain ⟨i, hi⟩ := List.mem_iff_getElem?.mp hscript
  rw [List.getElem?_modify] at hi
  obtain ⟨before, hbefore, rfl⟩ := Option.map_eq_some_iff.mp hi
  have hmem : op ∈ before := by
    split at hop
    · exact List.mem_of_mem_tail hop
    · exact hop
  exact hquiet before (List.mem_of_getElem? hbefore) op hmem

theorem perform_quietDemos {action : Action} (hquiet : QuietDemos bridge)
    (hforeign : Foreign action.noted) : QuietDemos (perform platform bridge action) := by
  have hsame : ∀ after : Globals α, after.demos = bridge.demos → QuietDemos after := by
    intro after hdemos
    rw [QuietDemos, hdemos]
    exact hquiet
  cases action with
  | packetWindow flush => exact hsame _ (onPacketWindow_demos bridge flush)
  | eventLog signal => exact hsame _ rfl
  | fsEvent event => exact hsame _ (onFsEvent_demos bridge event)
  | background noted => exact hsame _ (auditAll_demos bridge platform noted)
  | demoStep thread now =>
      simp only [perform, runDemoStep]
      split
      · exact hquiet
      · rename_i op hop
        rw [QuietDemos, run_demos]
        exact hquiet.popped thread
  | command inputs command =>
      by_cases hrun : ∃ noted, command = .runDemo noted
      · obtain ⟨noted, rfl⟩ := hrun
        intro script hscript
        rcases List.mem_append.mp hscript with hold | hnew
        · exact hquiet script hold
        · obtain rfl := List.mem_singleton.mp hnew
          exact demoScript_foreign hforeign
      · exact hsame _ (dispatch_demos bridge inputs command fun noted h => hrun ⟨noted, h⟩)

end Demos

section Actions

variable (happends : Appends platform.auditAdder entries) (bridge : Globals α)

include happends

theorem onPacketWindow_follows (flush : PacketFlush) :
    Follows entries bridge (onPacketWindow platform flush bridge) := by
  simp only [onPacketWindow]
  have hforeign : kindOf "packet_entropy" = none :=
    kindOf_other (by simp [otherTypes])
  have hpushed := fun payload => (audit_follows happends bridge hforeign payload).trans
    (pushChaos_follows happends _ (flush.window.meanEntropyBits.map (· / 8))
      flush.window.synthetic)
  split
  · exact (hpushed _).trans (observeSignal_follows happends _ _ _)
  · exact hpushed _

theorem onEventSignal_follows (signal : EventSignal) :
    Follows entries bridge (onEventSignal platform signal bridge) :=
  ((observeSignal_follows happends bridge signal.score signal.source).trans
    (globals_evaluateThreatScore_follows happends _ signal.score signal.source)).trans
      (audit_follows happends _ (kindOf_other (by simp [otherTypes])) _)

theorem onFsEvent_follows {event : FsEvent} (hforeign : Foreign event.entries) :
    Follows entries bridge (onFsEvent platform event bridge) := by
  have hnoted := auditAll_follows happends bridge hforeign
  simp only [onFsEvent]
  split
  · exact hnoted
  · have hdrop : ∀ before, Follows entries bridge before → Follows entries bridge
        (if event.extension ∈ hiRisk then
          (before.observeSignal platform 35 "fs_monitor/hi_risk_drop").2 else before) := by
      intro before hbefore
      split
      · exact hbefore.trans (observeSignal_follows happends before _ _)
      · exact hbefore
    apply hdrop
    split
    · exact hnoted.trans (observeSignal_follows happends _ _ _)
    · exact hnoted

theorem run_follows (now : Int64) {op : DemoOp} (hforeign : Foreign op.noted) :
    Follows entries bridge (op.run platform now bridge) := by
  cases op with
  | signal score =>
      exact (observeSignal_follows happends bridge score "demo").trans
        (globals_evaluateThreatScore_follows happends _ score "demo")
  | push value => exact pushChaos_follows happends bridge value true
  | plant => exact plant_follows happends bridge now
  | touch path action => exact touch_follows happends bridge now path action "demo-atk" "demo"
  | serve noted => exact auditAll_follows happends bridge hforeign
  | triggerLockdown => exact triggerLockdown_follows happends bridge "demo_script"
  | lockAll => exact lockAll_follows happends bridge "demo_worm"
  | completed => exact audit_follows happends bridge (kindOf_other (by simp [otherTypes])) "pass=1"

theorem perform_follows {action : Action} (hquiet : QuietDemos bridge)
    (hforeign : Foreign action.noted) :
    Follows entries bridge (perform platform bridge action) := by
  cases action with
  | command inputs command => exact dispatch_follows happends bridge inputs command hforeign
  | packetWindow flush => exact onPacketWindow_follows happends bridge flush
  | eventLog signal => exact onEventSignal_follows happends bridge signal
  | fsEvent event => exact onFsEvent_follows happends bridge hforeign
  | background noted => exact auditAll_follows happends bridge hforeign
  | demoStep thread now =>
      simp only [perform, runDemoStep]
      split
      · exact .refl _
      · rename_i op hop
        have hnoted : Foreign op.noted := by
          obtain ⟨script, hscript, hhead⟩ := Option.bind_eq_some_iff.mp hop
          exact hquiet script (List.mem_of_getElem? hscript) op (List.mem_of_head? hhead)
        have hpopped : Follows entries bridge
            { bridge with demos := bridge.demos.modify thread List.tail } := .refl _
        exact hpopped.trans (run_follows happends _ now hnoted)

end Actions

section Launch

/-- Before anything happened. -/
def freshAccount : Account where
  threshold := demoThreshold

theorem registerApprover_novotes {protocol : UnlockProtocol} (name : ByteString)
    (side : ApproverSide) (key tokenId : ByteString)
    (hnone : ∀ other : ByteString, protocol.votes[other]? ≠ some true) (other : ByteString) :
    (protocol.registerApprover name side key tokenId).votes[other]? ≠ some true :=
  fun hvoted => hnone other
    (UnlockProtocol.registerApprover_votes name side key tokenId protocol hvoted)

variable (happends : Appends platform.auditAdder entries)

include happends

theorem initUnlock_fresh {setup : Setup} {world after : Lockdown α} {tokens : TokenStore}
    {unlock : UnlockProtocol}
    (hinit : initUnlock platform setup world = .ok (tokens, unlock, after)) :
    Notes entries world after ∧ unlock.threshold = demoThreshold ∧ unlock.state = .idle ∧
      countVotes unlock.votes = 0 := by
  simp only [initUnlock, bind, Except.bind] at hinit
  split at hinit
  · exact absurd hinit (by simp)
  rename_i granted hast
  split at hinit
  · exact absurd hinit (by simp)
  rename_i granted' hcl1
  split at hinit
  · exact absurd hinit (by simp)
  rename_i granted'' hcl2
  simp only [pure, Except.pure, Except.ok.injEq, Prod.mk.injEq] at hinit
  obtain ⟨-, rfl, rfl⟩ := hinit
  refine ⟨(grant_notes happends hast).trans ((grant_notes happends hcl1).trans
    (grant_notes happends hcl2)), ?_, ?_, ?_⟩
  · simp only [UnlockProtocol.registerApprover_threshold]
    rfl
  · simp only [UnlockProtocol.registerApprover_state]
    rfl
  · refine countVotes_eq_zero ?_
    apply registerApprover_novotes
    apply registerApprover_novotes
    apply registerApprover_novotes
    intro other
    rw [UnlockProtocol.construct]
    split <;> simp

theorem launch_follows {setup : Setup} {protect : Bool} {audit : α} {bridge : Globals α}
    (hforeign : Foreign setup.entries)
    (hlaunch : launch platform setup protect audit = .ok bridge) :
    Extends Account.enter ⟨freshAccount, entries audit⟩ (bridge.ledger entries) ∧
      QuietDemos bridge := by
  have hpopulated := populate_notes happends platform.sandboxCallbacks rfl setup.now
    (Sandbox.construct setup.sandboxRoot) { audit := audit }
  simp only [launch, bind, Except.bind] at hlaunch
  generalize (Sandbox.construct setup.sandboxRoot).populate platform.sandboxCallbacks
    setup.now { audit := audit } = populated at hpopulated hlaunch
  split at hlaunch
  · exact absurd hlaunch (by simp)
  rename_i started hinit
  obtain ⟨tokens, unlock, world⟩ := started
  obtain ⟨hnotes, hthreshold, hidle, hnone⟩ := initUnlock_fresh happends hinit
  have hbare : ∀ bare : Globals α, bare.core = { engine := { world := world } } →
      bare.unlock = unlock → bare.veeam = {} → bare.chaos = { windowSize := 16 } →
      bare.decoy = {} →
      Extends Account.enter ⟨freshAccount, entries audit⟩ (bare.ledger entries) := by
    intro bare hcore hunlock hveeam hchaos hdecoy
    have haccount : bare.account = { freshAccount with worm := world.worm } := by
      simp [Globals.account, Globals.world, hcore, hunlock, hveeam, hchaos, hdecoy, hthreshold,
        hidle, hnone, freshAccount]
    rw [Globals.ledger, haccount, Globals.world, hcore]
    exact (hpopulated.trans hnotes) freshAccount {}
  have hquiet : ∀ after : Globals α, after.demos = [] → QuietDemos after := by
    intro after hdemos
    simp [QuietDemos, hdemos]
  split at hlaunch
  · obtain rfl := Except.ok.inj hlaunch
    constructor
    · refine Extends.trans ?_ (audit_follows happends _ (kindOf_other (by simp [otherTypes])) _)
      refine Extends.trans ?_ (plant_follows happends _ setup.now)
      refine Extends.trans ?_ (auditAll_follows happends _ hforeign)
      exact hbare _ rfl rfl rfl rfl rfl
    · exact hquiet _ (auditAll_demos _ platform setup.entries)
  · obtain rfl := Except.ok.inj hlaunch
    constructor
    · refine Extends.trans ?_ (auditAll_follows happends _ hforeign)
      exact hbare _ rfl rfl rfl rfl rfl
    · exact hquiet _ (auditAll_demos _ platform setup.entries)

end Launch

/-- The bridge, where every component notes what it does under types of its own. -/
def chainSystem (platform : Platform α) (protect : Bool) (audit : α) :
    System (Globals α) Action where
  Init := fun bridge =>
    ∃ setup, Foreign setup.entries ∧ launch platform setup protect audit = .ok bridge
  Step := fun bridge action after =>
    Foreign action.noted ∧ (bridgeSystem platform protect audit).Step bridge action after

/-- Whoever has the audit chain has the posture: the chain of a run can be replayed entry by
entry, and comes to the tier, the lock, the session, the backups and the decoy log as they are;
and so it was at every step before. -/
theorem chain_replays {sha256 : Sha256} {draws : Nat → Draw} {platform : Platform AuditChain}
    (hadder : platform.auditAdder = chainAdder sha256 draws) {protect : Bool}
    {steps : List (BridgeStep AuditChain)} {bridge : Globals AuditChain}
    (htrace : Trace (chainSystem platform protect {}) steps bridge) :
    replay Account.enter freshAccount (bridge.world.audit.chain.map reportOf) =
        some bridge.account ∧
      ∀ t ∈ steps, ∃ since,
        bridge.world.audit.chain.map reportOf = t.before.world.audit.chain.map reportOf ++ since ∧
          replay Account.enter t.before.account since = some bridge.account := by
  let entries := fun chain : AuditChain => chain.chain.map reportOf
  have happends : Appends platform.auditAdder entries := by
    rw [hadder]
    exact chainAdder_appends sha256 draws
  have hreplays : replay Account.enter freshAccount (bridge.ledger entries).log =
      some (bridge.ledger entries).view ∧
        ∀ t ∈ steps, Follows entries t.before bridge := by
    refine EventSourcing.Trace.replays (I := QuietDemos) ?_ ?_ htrace
    · rintro bridge ⟨setup, hforeign, hlaunch⟩
      obtain ⟨hextends, hquiet⟩ := launch_follows happends hforeign hlaunch
      exact ⟨hquiet, hextends.replays rfl⟩
    · rintro bridge action after hquiet ⟨hforeign, -, rfl⟩
      exact ⟨perform_quietDemos hquiet hforeign,
        perform_follows happends bridge hquiet hforeign⟩
  exact hreplays

def sampleChainPlatform : Platform AuditChain where
  auditAdder := chainAdder (fun _ => Vector.replicate 32 0) fun length => ⟨length.toUInt64, 1000⟩
  analysis := samplePlatform.analysis
  scheme := samplePlatform.scheme
  json := samplePlatform.json

/-- A lockdown that is voted on. -/
theorem voted_lockdown_replays :
    ∃ start, launch sampleChainPlatform sampleSetup false {} = .ok start ∧
      let bridge := [sampleTrigger, sampleVoteOf "client-rep-1"].foldl
        (perform sampleChainPlatform) start
      replay Account.enter freshAccount (bridge.world.audit.chain.map reportOf) =
        some bridge.account := by
  have hany : (launch sampleChainPlatform sampleSetup false {}).toOption.any (fun _ => true) =
      true := by decide +kernel
  obtain ⟨start, hlaunch, -⟩ := exists_ok_of_any hany
  refine ⟨start, hlaunch, ?_⟩
  have htrace : Trace (chainSystem sampleChainPlatform false {})
      (execute (perform sampleChainPlatform) start [sampleTrigger, sampleVoteOf "client-rep-1"])
      ([sampleTrigger, sampleVoteOf "client-rep-1"].foldl
        (perform sampleChainPlatform) start) := by
    apply trace_execute_of
    · exact ⟨sampleSetup, by simp [Foreign, sampleSetup], hlaunch⟩
    · intro bridge action haction
      rcases List.mem_pair.mp haction with rfl | rfl
      all_goals
        exact ⟨by simp [Action.noted, Foreign, sampleTrigger, sampleVoteOf],
          by simp [Action.isMonitorCallback, sampleTrigger, sampleVoteOf], rfl⟩
  have hadder : sampleChainPlatform.auditAdder =
      chainAdder (fun _ => Vector.replicate 32 0) fun length => ⟨length.toUInt64, 1000⟩ := rfl
  exact (chain_replays hadder htrace).1

end Runs

end Astartis.Bridge
