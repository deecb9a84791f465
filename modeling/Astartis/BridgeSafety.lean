import Astartis.BridgeSteps
import Astartis.UnlockSafety

namespace Astartis.Bridge

open Audit
open Threat
open TransitionSystem
open Unlock

abbrev BridgeStep (α : Type) := Transition (Globals α) Action

section

variable {α : Type} (platform : Platform α)

theorem move_eq_engage_iff (bridge : Globals α) (action : Action) :
    action.move platform bridge = .engage ↔ action.EngagesElsewhere platform bridge := by
  simp only [Action.move]
  split
  · rename_i hgrants
    obtain ⟨inputs, approver, rfl, -⟩ := hgrants
    simp [Action.EngagesElsewhere, Action.ReachesLock]
  · split
    · rename_i htriggers
      obtain ⟨-, inputs, reason, rfl⟩ := htriggers
      simp [Action.EngagesElsewhere, Action.ReachesLock]
    · split
      · rename_i hengages
        simp [hengages]
      · rename_i hengages
        simp [hengages]

theorem move_eq_grant_iff (bridge : Globals α) (action : Action) :
    action.move platform bridge = .grant ↔ action.Grants platform bridge := by
  simp only [Action.move]
  split
  · rename_i hgrants
    simp [hgrants]
  · rename_i hgrants
    simp only [hgrants, iff_false]
    split
    · simp
    · split <;> simp

/-- The posture of a run moves as the lockdown of the abstract system. -/
theorem trace_posture {protect : Bool} {audit : α} {steps : List (BridgeStep α)}
    {bridge : Globals α} (htrace : Trace (bridgeSystem platform protect audit) steps bridge) :
    Trace Posture.system
      (steps.map fun t =>
        ⟨t.before.posture, t.label.move platform t.before, t.after.posture⟩)
      bridge.posture := by
  refine htrace.simulate Globals.posture (fun bridge action => action.move platform bridge)
    ?_ ?_
  · rintro bridge ⟨setup, hlaunch⟩
    exact launch_posture hlaunch
  · rintro bridge action _ ⟨-, rfl⟩
    exact perform_move platform bridge action

theorem trace_perform {protect : Bool} {audit : α} {setup : Setup} {start : Globals α}
    (hlaunch : launch platform setup protect audit = .ok start) {actions : List Action}
    (hallowed : ∀ action ∈ actions, action.isMonitorCallback = true → protect = true) :
    Trace (bridgeSystem platform protect audit) (execute (perform platform) start actions)
      (actions.foldl (perform platform) start) := by
  apply trace_execute_of
  · exact ⟨setup, hlaunch⟩
  · intro bridge action haction
    exact ⟨hallowed action haction, rfl⟩

end

/-- A bridge over an audit chain that only notes its entries, without model server. -/
def samplePlatform : Platform (List (ByteString × ByteString)) where
  auditAdder := noteEntry
  analysis := ⟨fun _ => .finite 0, fun _ => .nan⟩
  scheme := sampleScheme
  json := ⟨fun _ => none, fun _ => none⟩

def sampleSetup : Setup where
  sandboxRoot := "/tmp/astartis_demo"
  now := 0
  tokenDraws := fun name => some (Vector.ofFn fun i => name.getD i 0)
  keys := id
  entries := []

def sampleInputs : Inputs where
  now := 1000
  challengeDraw := some (Vector.replicate 32 7)
  nonce := []
  exchange := fun _ _ _ _ => []

def sampleTrigger : Action := .command sampleInputs (.wormTrigger "drill")

def sampleSignal : Action := .command sampleInputs (.observeSignal 90 "elixir")

def sampleVoteOf (approver : ByteString) : Action :=
  .command sampleInputs (.unlockVote approver)

theorem exists_ok_of_any {ε β : Type} {outcome : Except ε β} {p : β → Bool}
    (hany : outcome.toOption.any p = true) : ∃ b, outcome = .ok b ∧ p b = true := by
  cases outcome with
  | error e => exact absurd hany (by simp [Except.toOption])
  | ok b => exact ⟨b, rfl, hany⟩

theorem sample_launches : ∃ start, launch samplePlatform sampleSetup false [] = .ok start := by
  have hany : (launch samplePlatform sampleSetup false []).toOption.any (fun _ => true) =
      true := by decide +kernel
  obtain ⟨start, hlaunch, -⟩ := exists_ok_of_any hany
  exact ⟨start, hlaunch⟩

section

variable {α : Type} (platform : Platform α)

/-- Throughout a run votes can lift the lock whenever it is engaged, exactly if nothing
but `worm_trigger` engages it. -/
theorem lockdown_liftable_iff {protect : Bool} {audit : α} {steps : List (BridgeStep α)}
    {bridge : Globals α} (htrace : Trace (bridgeSystem platform protect audit) steps bridge) :
    (∀ t ∈ steps, t.after.isLocked = true → t.after.unlock.state = .collecting) ↔
      ∀ t ∈ steps, ¬ t.label.EngagesElsewhere platform t.before := by
  have hposture := Posture.liftable_along_iff (trace_posture platform htrace)
  simp only [List.forall_mem_map, ne_eq, move_eq_engage_iff] at hposture
  exact hposture

end

theorem triggered_lockdown_liftable :
    ∃ start, launch samplePlatform sampleSetup false [] = .ok start ∧
      ∀ t ∈ execute (perform samplePlatform) start [sampleTrigger],
        t.after.isLocked = true → t.after.unlock.state = .collecting := by
  obtain ⟨start, hlaunch⟩ := sample_launches
  refine ⟨start, hlaunch, ?_⟩
  apply (lockdown_liftable_iff samplePlatform (trace_perform samplePlatform hlaunch
    (by simp [sampleTrigger, Action.isMonitorCallback]))).mpr
  intro t ht
  obtain rfl := List.mem_singleton.mp ht
  rintro ⟨-, hreaches⟩
  exact hreaches

theorem signalled_lockdown_stuck :
    ∃ start, launch samplePlatform sampleSetup false [] = .ok start ∧
      Reachable (bridgeSystem samplePlatform false [])
        (perform samplePlatform start sampleSignal) ∧
      (perform samplePlatform start sampleSignal).isLocked = true ∧
      (perform samplePlatform start sampleSignal).unlock.state = .idle := by
  obtain ⟨start, hlaunch, hafter⟩ : ∃ start, launch samplePlatform sampleSetup false [] =
      .ok start ∧ _ := exists_ok_of_any (p := fun start =>
        (perform samplePlatform start sampleSignal).isLocked &&
          (perform samplePlatform start sampleSignal).unlock.state = .idle) (by decide +kernel)
  rw [Bool.and_eq_true, decide_eq_true_eq] at hafter
  have hallowed : ∀ action ∈ [sampleSignal], action.isMonitorCallback = true →
      false = true := by simp [sampleSignal, Action.isMonitorCallback]
  have htrace := trace_perform samplePlatform hlaunch hallowed
  exact ⟨start, hlaunch, ⟨_, htrace⟩, hafter⟩

section

variable {α : Type} (platform : Platform α)

def Globals.AcceptsWrite (rel : ByteString) (self : Globals α) : Prop :=
  ∀ now absPath content author,
    Sandbox.isInside absPath self.sandbox.rootPath = true → self.sandbox.toRel absPath = rel →
    (self.sandbox.write platform.sandboxCallbacks now absPath content author
      self.world).1.ok = true

/-- The entry was locked after the current lockdown began; the bridge locks entries
through `lock_all` only. -/
def LockedDuring (steps : List (BridgeStep α)) (bridge : Globals α) (rel : ByteString) :
    Prop :=
  ∃ before engaging segment, steps = before ++ engaging :: segment ∧
    engaging.before.isLocked = false ∧ engaging.after.isLocked = true ∧
    (∀ u ∈ segment, u.after.isLocked = true) ∧
    engaging.before.sandbox.isEntryLocked rel = false ∧
    bridge.sandbox.isEntryLocked rel = true

def ReportsUnlocked (t : BridgeStep α) : Prop :=
  ∃ inputs approver, t.label = .command inputs (.unlockVote approver) ∧
    (dispatch platform inputs t.before (.unlockVote approver)).1.unlocked = true

/-- The backups follow the lock, and a lift reopens the entries of its lockdown. -/
structure MirrorsAgree (steps : List (BridgeStep α)) : Prop where
  backups : ∀ t ∈ steps, t.after.veeam.isLocked = true ↔ t.after.isLocked = true
  entries : ∀ pre t post, steps = pre ++ t :: post → ReportsUnlocked platform t →
    ∀ rel, LockedDuring pre t.before rel → t.after.AcceptsWrite platform rel

theorem grants_of_reportsUnlocked {t : BridgeStep α}
    (hreports : ReportsUnlocked platform t) : t.label.Grants platform t.before := by
  obtain ⟨inputs, approver, hlabel, hunlocked⟩ := hreports
  rcases dispatchUnlockVote_cases inputs approver t.before with ⟨hdecides, -⟩ | ⟨-, -, hkept⟩
  · exact ⟨inputs, approver, hlabel, hdecides⟩
  · exact absurd (hkept.symm.trans hunlocked) (by decide)

/-- Throughout a run the mirrors agree with the lock, exactly if nothing but
`worm_trigger` engages it and no vote lifts it. -/
theorem mirrorsAgree_iff {protect : Bool} {audit : α} {steps : List (BridgeStep α)}
    {bridge : Globals α} (htrace : Trace (bridgeSystem platform protect audit) steps bridge) :
    MirrorsAgree platform steps ↔
      ∀ t ∈ steps, ¬ t.label.EngagesElsewhere platform t.before ∧
        ¬ t.label.Grants platform t.before := by
  have hbackups : (∀ t ∈ steps, t.after.veeam.isLocked = true ↔ t.after.isLocked = true) ↔
      ∀ t ∈ steps, ¬ t.label.EngagesElsewhere platform t.before ∧
        ¬ t.label.Grants platform t.before := by
    have hposture := Posture.agrees_along_iff (trace_posture platform htrace)
    simp only [List.forall_mem_map, ne_eq, move_eq_engage_iff, move_eq_grant_iff] at hposture
    exact hposture
  constructor
  · intro h
    exact hbackups.mp h.backups
  · intro h
    refine ⟨hbackups.mpr h, ?_⟩
    rintro pre t post rfl hreports
    exact absurd (grants_of_reportsUnlocked platform hreports) (h t (by simp)).2

end

theorem triggered_mirrors_agree :
    ∃ start, launch samplePlatform sampleSetup false [] = .ok start ∧
      MirrorsAgree samplePlatform (execute (perform samplePlatform) start [sampleTrigger]) := by
  obtain ⟨start, hlaunch⟩ := sample_launches
  refine ⟨start, hlaunch, ?_⟩
  apply (mirrorsAgree_iff samplePlatform (trace_perform samplePlatform hlaunch
    (by simp [sampleTrigger, Action.isMonitorCallback]))).mpr
  intro t ht
  obtain rfl := List.mem_singleton.mp ht
  refine ⟨?_, ?_⟩
  · rintro ⟨-, hreaches⟩
    exact hreaches
  · rintro ⟨inputs, approver, haction, -⟩
    simp [sampleTrigger] at haction

/-- After a lockdown by `worm_trigger` and three votes the lock is lifted, but the backups
and the entries of the sandbox stay locked. -/
theorem lifted_mirrors_locked :
    ∃ start, launch samplePlatform sampleSetup false [] = .ok start ∧
      let before := [sampleTrigger, sampleVoteOf "astartis-admin-1",
        sampleVoteOf "client-rep-1"].foldl (perform samplePlatform) start
      let after := perform samplePlatform before (sampleVoteOf "client-rep-2")
      Reachable (bridgeSystem samplePlatform false []) after ∧
        ReportsUnlocked samplePlatform ⟨before, sampleVoteOf "client-rep-2", after⟩ ∧
        after.isLocked = false ∧ after.veeam.isLocked = true ∧
        start.sandbox.isEntryLocked "etc/hosts" = false ∧
        ¬ after.AcceptsWrite samplePlatform "etc/hosts" := by
  obtain ⟨start, hlaunch, hafter⟩ : ∃ start, launch samplePlatform sampleSetup false [] =
      .ok start ∧ _ := exists_ok_of_any (p := fun start =>
        let before := [sampleTrigger, sampleVoteOf "astartis-admin-1",
          sampleVoteOf "client-rep-1"].foldl (perform samplePlatform) start
        let reply := (dispatch samplePlatform sampleInputs before
          (.unlockVote "client-rep-2")).1
        let after := perform samplePlatform before (sampleVoteOf "client-rep-2")
        let absPath := ("/tmp/astartis_demo/etc/hosts" : ByteString)
        reply.unlocked && !after.isLocked && after.veeam.isLocked &&
          !start.sandbox.isEntryLocked "etc/hosts" &&
          Sandbox.isInside absPath after.sandbox.rootPath &&
          decide (after.sandbox.toRel absPath = ("etc/hosts" : ByteString)) &&
          !(after.sandbox.write samplePlatform.sandboxCallbacks 0 absPath [] []
            after.world).1.ok) (by decide +kernel)
  simp only [Bool.and_eq_true, Bool.not_eq_true', decide_eq_true_eq] at hafter
  obtain ⟨⟨⟨⟨⟨⟨hunlocked, hlifted⟩, hbackups⟩, hopen⟩, hinside⟩, hrel⟩, hrefused⟩ := hafter
  have hallowed : ∀ action ∈ [sampleTrigger, sampleVoteOf "astartis-admin-1",
      sampleVoteOf "client-rep-1", sampleVoteOf "client-rep-2"],
      action.isMonitorCallback = true → false = true := by
    simp [sampleTrigger, sampleVoteOf, Action.isMonitorCallback]
  have htrace := trace_perform samplePlatform hlaunch hallowed
  refine ⟨start, hlaunch, ⟨_, htrace⟩, ⟨sampleInputs, _, rfl, hunlocked⟩, hlifted, hbackups,
    hopen, ?_⟩
  intro haccepts
  exact absurd (hrefused.symm.trans (haccepts 0 _ [] [] hinside hrel)) (by decide)

section

variable {α : Type} (platform : Platform α)

/-- The deliveries of a CRITICAL-band signal: `observe_signal`, an anomalous entropy
window, an event of the log, an infected file. -/
inductive CriticalDelivery
  | observeSignal (inputs : Inputs) (score : Int) (source : ByteString) (hscore : 75 ≤ score)
  | packetWindow (flush : PacketFlush) (hanomalous : flush.window.anomalous = true)
  | eventLog (signal : EventSignal) (hscore : 75 ≤ signal.score)
  | fsEvent (event : FsEvent) (hinfected : event.scan = .infected)

def CriticalDelivery.toAction : CriticalDelivery → Action
  | .observeSignal inputs score source _ => .command inputs (.observeSignal score source)
  | .packetWindow flush _ => .packetWindow flush
  | .eventLog signal _ => .eventLog signal
  | .fsEvent event _ => .fsEvent event

/-- The delivery reaches only the state machine, and leaves or finds it at CRITICAL
without a transition. -/
def CriticalDelivery.SkipsTransition (bridge : Globals α) : CriticalDelivery → Prop
  | .observeSignal _ _ _ _ => False
  | .packetWindow flush _ =>
      bridge.currentTier = .critical ∧ ¬ bridge.FiresRule05 platform
        (flush.window.meanEntropyBits.map (· / 8)) flush.window.synthetic
  | .eventLog _ _ => False
  | .fsEvent _ _ => bridge.currentTier = .critical

/-- A CRITICAL-band delivery returns with the lock engaged, except exactly when the
lock was lifted before and the delivery makes no transition. -/
theorem criticalDelivery_isLocked_iff (delivery : CriticalDelivery) (bridge : Globals α) :
    (perform platform bridge delivery.toAction).isLocked = true ↔
      ¬ (bridge.isLocked = false ∧ delivery.SkipsTransition platform bridge) := by
  have hlocks := (perform_locksIf platform bridge delivery.toAction
    (by cases delivery <;> simp [CriticalDelivery.toAction])
    (by cases delivery <;> simp [CriticalDelivery.toAction])).isLocked
  have hreaches : delivery.toAction.ReachesLock platform bridge ↔
      ¬ delivery.SkipsTransition platform bridge := by
    cases delivery with
    | observeSignal inputs score source hscore =>
        exact ⟨fun _ => not_false, fun _ => Or.inl hscore⟩
    | packetWindow flush hanomalous =>
        simp only [CriticalDelivery.toAction, Action.ReachesLock, hanomalous, true_and,
          CriticalDelivery.SkipsTransition, not_and_not_right]
    | eventLog signal hscore => exact ⟨fun _ => not_false, fun _ => Or.inl hscore⟩
    | fsEvent event hinfected =>
        simp only [CriticalDelivery.toAction, Action.ReachesLock, hinfected, true_and,
          CriticalDelivery.SkipsTransition, ne_eq]
  rw [hlocks, hreaches]
  cases bridge.isLocked
  · simp
  · simp

end

def sampleFlush : PacketFlush :=
  ⟨0, 50, .finite 8, .finite 8, .finite 8, false, "eth0"⟩

/-- Votes lift the lock while the tier is CRITICAL, and an anomalous window leaves it
lifted. -/
theorem anomalous_window_unlocked :
    ∃ start, launch samplePlatform sampleSetup true [] = .ok start ∧
      let before := ([sampleTrigger, sampleSignal] ++
        approverNames.map sampleVoteOf).foldl (perform samplePlatform) start
      Reachable (bridgeSystem samplePlatform true []) before ∧
        sampleFlush.window.anomalous = true ∧
        (perform samplePlatform before (.packetWindow sampleFlush)).isLocked = false := by
  obtain ⟨start, hlaunch, hafter⟩ : ∃ start, launch samplePlatform sampleSetup true [] =
      .ok start ∧ _ := exists_ok_of_any (p := fun start =>
        !(perform samplePlatform (([sampleTrigger, sampleSignal] ++
          approverNames.map sampleVoteOf).foldl (perform samplePlatform) start)
            (.packetWindow sampleFlush)).isLocked) (by decide +kernel)
  rw [Bool.not_eq_true'] at hafter
  have hallowed : ∀ action ∈ [sampleTrigger, sampleSignal] ++ approverNames.map sampleVoteOf,
      action.isMonitorCallback = true → true = true := fun _ _ _ => rfl
  have htrace := trace_perform samplePlatform hlaunch hallowed
  exact ⟨start, hlaunch, ⟨_, htrace⟩, by decide +kernel, hafter⟩

end Astartis.Bridge
