import Astartis.BridgeSteps

/-!
The locks of single sandbox entries.  The bridge engages them with the lockdown, and
no step of a run lifts one.
-/

namespace Astartis.Bridge

open Decoy
open TransitionSystem
open Worm

section

variable {α : Type} {platform : Platform α}

namespace Globals

/-- Every locked entry of the sandbox is still locked. -/
def KeepsLocks (before after : Globals α) : Prop :=
  ∀ rel, before.sandbox.isEntryLocked rel = true → after.sandbox.isEntryLocked rel = true

theorem KeepsLocks.of_sandbox_eq {before after : Globals α}
    (hsandbox : after.sandbox = before.sandbox) : KeepsLocks before after := by
  intro rel hlocked
  rw [hsandbox]
  exact hlocked

theorem KeepsLocks.trans {before mid after : Globals α} (h : KeepsLocks before mid)
    (h' : KeepsLocks mid after) : KeepsLocks before after :=
  fun rel hlocked => h' rel (h rel hlocked)

section

variable (self : Globals α)

theorem auditAll_sandbox (entries : List (ByteString × ByteString)) :
    (self.auditAll platform entries).sandbox = self.sandbox := by
  induction entries generalizing self with
  | nil => rfl
  | cons entry entries ih => exact ih (self.audit platform entry.1 entry.2)

theorem pushChaosBatch_sandbox (values : List Double) (synthetic : Bool) :
    (values.foldl (fun bridge value => bridge.pushChaos platform value synthetic)
      self).sandbox = self.sandbox := by
  induction values generalizing self with
  | nil => rfl
  | cons value values ih => exact ih (self.pushChaos platform value synthetic)

theorem lockAll_keepsLocks (reason : ByteString) :
    KeepsLocks self (self.lockAll platform reason) := by
  intro rel hlocked
  exact Sandbox.isEntryLocked_lockAll platform.sandboxCallbacks reason self.sandbox self.world
    hlocked

theorem plant_keepsLocks (now : Int64) : KeepsLocks self (self.plant platform now).2 := by
  intro rel hlocked
  have hplant : (self.plant platform now).2.sandbox.isEntryLocked rel =
      self.sandbox.isEntryLocked rel :=
    @DecoyEnvironment.plant_isEntryLocked _ (Lockdown.addEntry platform.auditAdder)
      platform.sandboxCallbacks now self.decoy self.sandbox self.world rel
  exact hplant.trans hlocked

end

end Globals

open Globals

theorem dispatchObserveSignal_sandbox (score : Int) (source : ByteString)
    (bridge : Globals α) :
    (dispatchObserveSignal platform score source bridge).2.sandbox = bridge.sandbox := by
  simp only [dispatchObserveSignal]
  split
  · rfl
  · rfl

theorem dispatchWormTrigger_keepsLocks (inputs : Inputs) (reason : ByteString)
    (bridge : Globals α) :
    KeepsLocks bridge (dispatchWormTrigger platform inputs reason bridge).2 := by
  simp only [dispatchWormTrigger]
  split
  · exact @lockAll_keepsLocks α platform (bridge.triggerLockdown platform reason).2
      "worm_lockdown"
  · exact .of_sandbox_eq rfl

theorem dispatchTriageEvent_sandbox (inputs : Inputs) (input : Ai.TriageInput)
    (bridge : Globals α) :
    (dispatchTriageEvent platform inputs input bridge).2.sandbox = bridge.sandbox := by
  simp only [dispatchTriageEvent]
  split
  · rfl
  · rfl

theorem dispatchUnlockVote_sandbox (inputs : Inputs) (approver : ByteString)
    (bridge : Globals α) :
    (dispatchUnlockVote platform inputs approver bridge).2.sandbox = bridge.sandbox := by
  simp only [dispatchUnlockVote]
  split
  · rfl
  split
  · rfl
  split
  · rfl
  split
  · rfl
  · rfl

theorem onPacketWindow_sandbox (flush : PacketFlush) (bridge : Globals α) :
    (onPacketWindow platform flush bridge).sandbox = bridge.sandbox := by
  simp only [onPacketWindow]
  split
  · rfl
  · rfl

theorem onFsEvent_sandbox (ev : FsEvent) (bridge : Globals α) :
    (onFsEvent platform ev bridge).sandbox = bridge.sandbox := by
  rw [← @auditAll_sandbox α platform bridge ev.entries]
  simp only [onFsEvent]
  split
  · rfl
  · split
    · split
      · rfl
      · rfl
    · split
      · rfl
      · rfl

theorem demoOp_keepsLocks (now : Int64) (op : DemoOp) (bridge : Globals α) :
    KeepsLocks bridge (op.run platform now bridge) := by
  cases op with
  | plant => exact bridge.plant_keepsLocks now
  | lockAll => exact bridge.lockAll_keepsLocks _
  | serve entries => exact .of_sandbox_eq (bridge.auditAll_sandbox entries)
  | signal score => exact .of_sandbox_eq rfl
  | push value => exact .of_sandbox_eq rfl
  | touch path action => exact .of_sandbox_eq rfl
  | triggerLockdown => exact .of_sandbox_eq rfl
  | completed => exact .of_sandbox_eq rfl

theorem runDemoStep_keepsLocks (thread : Nat) (now : Int64) (bridge : Globals α) :
    KeepsLocks bridge (runDemoStep platform thread now bridge) := by
  simp only [runDemoStep]
  split
  · exact .of_sandbox_eq rfl
  · exact demoOp_keepsLocks now _
      { bridge with demos := bridge.demos.modify thread List.tail }

end

section

variable {α : Type} (platform : Platform α)

theorem perform_keepsLocks (bridge : Globals α) (action : Action) :
    Globals.KeepsLocks bridge (perform platform bridge action) := by
  cases action with
  | packetWindow flush => exact .of_sandbox_eq (onPacketWindow_sandbox flush bridge)
  | eventLog sig => exact .of_sandbox_eq rfl
  | fsEvent event => exact .of_sandbox_eq (onFsEvent_sandbox event bridge)
  | demoStep thread now => exact runDemoStep_keepsLocks thread now bridge
  | background entries => exact .of_sandbox_eq (bridge.auditAll_sandbox entries)
  | command inputs command =>
      cases command with
      | observeSignal score source =>
          exact .of_sandbox_eq (dispatchObserveSignal_sandbox score source bridge)
      | wormTrigger reason => exact dispatchWormTrigger_keepsLocks inputs reason bridge
      | triageEvent input =>
          exact .of_sandbox_eq (dispatchTriageEvent_sandbox inputs input bridge)
      | unlockVote approver =>
          exact .of_sandbox_eq (dispatchUnlockVote_sandbox inputs approver bridge)
      | pushChaosBatch values synthetic =>
          exact .of_sandbox_eq (bridge.pushChaosBatch_sandbox values synthetic)
      | decoyPlant => exact bridge.plant_keepsLocks inputs.now
      | peripheral entries => exact .of_sandbox_eq (bridge.auditAll_sandbox entries)
      | pushChaos value synthetic => exact .of_sandbox_eq rfl
      | decoyTouch path action session detail => exact .of_sandbox_eq rfl
      | ping => exact .of_sandbox_eq rfl
      | getSnapshot => exact .of_sandbox_eq rfl
      | wormUnlock => exact .of_sandbox_eq rfl
      | veeamIntegrityCheck => exact .of_sandbox_eq rfl
      | veeamStatus => exact .of_sandbox_eq rfl
      | sandboxGetTree => exact .of_sandbox_eq rfl
      | runDemo serveEntries => exact .of_sandbox_eq rfl
      | getUnlockStatus => exact .of_sandbox_eq rfl
      | malformed => exact .of_sandbox_eq rfl

/-- An entry that is locked before some step of a run refuses every write after it. -/
theorem locked_entry_refuses_write {protect : Bool} {audit : α}
    {steps : List (Transition (Globals α) Action)} {bridge : Globals α}
    (htrace : Trace (bridgeSystem platform protect audit) steps bridge)
    {t : Transition (Globals α) Action} (ht : t ∈ steps) {rel : ByteString}
    (hlocked : t.before.sandbox.isEntryLocked rel = true) (now : Int64)
    (absPath content author : ByteString) (hrel : bridge.sandbox.toRel absPath = rel) :
    (bridge.sandbox.write platform.sandboxCallbacks now absPath content author
      bridge.world).1.ok = false := by
  have hkeeps : t.before.KeepsLocks bridge := by
    refine htrace.before_related (R := Globals.KeepsLocks)
      (fun _ _ _ => Globals.KeepsLocks.trans) ?_ t ht
    rintro bridge action _ ⟨-, rfl⟩
    exact perform_keepsLocks platform bridge action
  have hstill : bridge.sandbox.isEntryLocked rel = true := hkeeps rel hlocked
  apply Bool.eq_false_of_not_eq_true
  intro hok
  obtain ⟨-, -, -, hopen⟩ := (Sandbox.write_ok_iff _ _ _ _ _ _ _).mp hok
  rw [hrel, hstill] at hopen
  exact absurd hopen (by decide)

/-- After a lift by vote exactly the entries that no `lock_all` has reached accept
writes. -/
theorem unlockVote_write_ok_iff (inputs : Inputs) (approver : ByteString)
    (bridge : Globals α) (hdecides : bridge.VoteDecides platform inputs approver)
    (now : Int64) (absPath content author : ByteString) :
    ((dispatchUnlockVote platform inputs approver bridge).2.sandbox.write
        platform.sandboxCallbacks now absPath content author
        (dispatchUnlockVote platform inputs approver bridge).2.world).1.ok = true ↔
      Sandbox.isInside absPath bridge.sandbox.rootPath = true ∧
        bridge.sandbox.toRel absPath ≠ [] ∧
        bridge.sandbox.isEntryLocked (bridge.sandbox.toRel absPath) = false := by
  have hlifted : (dispatchUnlockVote platform inputs approver bridge).2.isLocked = false := by
    rcases @dispatchUnlockVote_cases α platform inputs approver bridge with
      ⟨-, -, hposture⟩ | ⟨hnot, -⟩
    · exact congrArg Posture.locked hposture
    · exact absurd hdecides hnot
  rw [Sandbox.write_ok_iff, dispatchUnlockVote_sandbox]
  constructor
  · rintro ⟨hinside, hrel, -, hentry⟩
    exact ⟨hinside, hrel, hentry⟩
  · rintro ⟨hinside, hrel, hentry⟩
    exact ⟨hinside, hrel, hlifted, hentry⟩

end

end Astartis.Bridge
