import Astartis.AutonomyLoop
import Astartis.StatusSnapshot
import Astartis.TransitionSystem

/-!
The signals of the autonomy loop: monitors push them while the thread of the loop drains a batch
and, in a step of its own, submits a task for it.
-/

namespace Astartis.Autonomy

open Agents
open TransitionSystem

namespace AutonomyLoop

/-- The section of `tick_signal_drain` under the mutex. -/
def drain (self : AutonomyLoop) : List PendingSignal × AutonomyLoop :=
  (self.pendingSignals.take 20, { self with pendingSignals := self.pendingSignals.drop 20 })

/-- What it does with the batch, behind that section. -/
def submitBatch (now : Int64) (batch : List PendingSignal) (self : AutonomyLoop)
    (controller : AgentController) : ByteString × AutonomyLoop × AgentController :=
  let score := maxScore batch
  let (taskId, controller) :=
    controller.submitTask now (agentFor score) (summary batch) (priorityFor score)
  (taskId, if taskId = [] then self else { self with tasksSubmitted := self.tasksSubmitted + 1 },
    controller)

theorem tickSignalDrain_eq {self : AutonomyLoop} (hpending : self.pendingSignals ≠ [])
    (now : Int64) (controller : AgentController) :
    self.tickSignalDrain now controller =
      (submitBatch now self.drain.1 self.drain.2 controller).2 := by
  rw [tickSignalDrain, if_neg hpending, submitBatch]
  dsimp only [drain]
  split <;> rfl

end AutonomyLoop

/-- How signals leave the buffer. -/
inductive Removal
  | evicted (signal : PendingSignal)
  | drained (batch : List PendingSignal)

namespace Removal

def signals : Removal → List PendingSignal
  | .evicted signal => [signal]
  | .drained batch => batch

def batch? : Removal → Option (List PendingSignal)
  | .evicted _ => none
  | .drained batch => some batch

end Removal

/-- A batch with the task that was accepted for it, if one was. -/
structure Submission where
  batch : List PendingSignal
  task : Option TaskEntry

/-- The loop and its controller, with the batch that is drained and not yet submitted, and what
was pushed, removed and submitted, each in its order. -/
structure Feed where
  loop : AutonomyLoop := {}
  controller : Option AgentController
  inHand : Option (List PendingSignal) := none
  pushed : List PendingSignal := []
  removed : List Removal := []
  submissions : List Submission := []

/-- What the loaders, the workers and the other callers do to the controller. -/
inductive ControllerStep : AgentController → AgentController → Prop
  | enterPersona (controller : AgentController) (persona : AgentPersona) :
      ControllerStep controller (controller.enterPersona persona)
  | submitTask (controller : AgentController) (now : Int64) (agentName input : ByteString)
      (priority : Priority) :
      ControllerStep controller (controller.submitTask now agentName input priority).2
  | setRunning (controller : AgentController) (running : Bool) :
      ControllerStep controller { controller with running := running }
  | dequeue {controller : AgentController} {entry : TaskEntry}
      (htop : IsTop controller.queue entry) :
      ControllerStep controller (controller.dequeue entry)
  | markRunning (controller : AgentController) (entry : TaskEntry) :
      ControllerStep controller (controller.markRunning entry)
  | recordResult (controller : AgentController) (clock : Clock) (entry : TaskEntry)
      (result : TaskResult) :
      ControllerStep controller (controller.recordResult clock entry result)

inductive FeedEvent
  | pushSignal (signal : PendingSignal)
  | drain
  | submit (now : Int64)
  | controller

namespace Feed

/-- `push_signal`, with the signals that make room. -/
def pushSignal (s : Feed) (signal : PendingSignal) : Feed :=
  let pending := s.loop.pendingSignals ++ [signal]
  { s with
    loop := s.loop.pushSignal signal
    pushed := s.pushed ++ [signal]
    removed := s.removed ++ (pending.take (pending.length - 100)).map .evicted }

def drain (s : Feed) : Feed :=
  { s with
    loop := s.loop.drain.2
    inHand := some s.loop.drain.1
    removed := s.removed ++ [.drained s.loop.drain.1] }

/-- A task with an id is accepted, and stands in front of the queue. -/
def submit (s : Feed) (now : Int64) (batch : List PendingSignal) (controller : AgentController) :
    Feed :=
  let (taskId, loop, submitted) := s.loop.submitBatch now batch controller
  { s with
    loop := loop
    controller := some submitted
    inHand := none
    submissions :=
      s.submissions ++ [⟨batch, if taskId = [] then none else submitted.queue.head?⟩] }

/-- Without a controller, and with an empty buffer, a tick leaves the signals alone. -/
inductive Step : Feed → FeedEvent → Feed → Prop
  | pushSignal (s : Feed) (signal : PendingSignal) :
      Step s (.pushSignal signal) (s.pushSignal signal)
  | drain {s : Feed} (hcontroller : s.controller ≠ none) (hidle : s.inHand = none)
      (hpending : s.loop.pendingSignals ≠ []) :
      Step s .drain s.drain
  | submit {s : Feed} {now : Int64} {batch : List PendingSignal} {controller : AgentController}
      (hcontroller : s.controller = some controller) (hbatch : s.inHand = some batch) :
      Step s (.submit now) (s.submit now batch controller)
  | controller {s : Feed} {controller controller' : AgentController}
      (hcontroller : s.controller = some controller)
      (hstep : ControllerStep controller controller') :
      Step s .controller { s with controller := some controller' }

def Fresh (s : Feed) : Prop :=
  ∃ controller, s = { controller := controller }

def system : System Feed FeedEvent where
  Init := Fresh
  Step := Step

/-! Where the signals are. -/

/-- A pushed signal is in the buffer or was removed, once and in the order of the pushes, and a
batch is in hand or was submitted, once and in the order of the drains. -/
structure Tracked (s : Feed) : Prop where
  signals : s.removed.flatMap Removal.signals ++ s.loop.pendingSignals = s.pushed
  batches : s.removed.filterMap Removal.batch? =
    s.submissions.map (·.batch) ++ s.inHand.toList

/-- The task was queued under an id, with the batch in its input. -/
def Submission.Accepted (submission : Submission) : Prop :=
  ∃ entry, submission.task = some entry ∧ entry.taskId ≠ [] ∧
    entry.agentName = agentFor (maxScore submission.batch) ∧
    entry.input = summary submission.batch

/-- No signal is lost: what has left the buffer made room in it, is in hand, or is in the input
of one accepted task, in the order of the pushes. -/
structure Kept (s : Feed) : Prop where
  tracked : s.Tracked
  inOrder : (s.submissions.flatMap (·.batch)).Sublist s.pushed
  accepted : ∀ submission ∈ s.submissions, Submission.Accepted submission

/-- The agent that the highest score of the batch selects is loaded. -/
def AgentLoaded (s : Feed) : FeedEvent → Prop
  | .submit _ => ∀ batch ∈ s.inHand, ∀ controller ∈ s.controller,
      controller.personas.contains (agentFor (maxScore batch)) = true
  | _ => True

theorem tracked_pushSignal {s : Feed} (htracked : s.Tracked) (signal : PendingSignal) :
    (s.pushSignal signal).Tracked := by
  have hsignals : ∀ evicted : List PendingSignal,
      (evicted.map Removal.evicted).flatMap Removal.signals = evicted := by
    intro evicted
    rw [List.flatMap_map]
    exact List.flatMap_singleton' evicted
  have hbatches : ∀ evicted : List PendingSignal,
      (evicted.map Removal.evicted).filterMap Removal.batch? = [] := by
    intro evicted
    rw [List.filterMap_map, List.filterMap_eq_nil_iff]
    exact fun _ _ => rfl
  refine ⟨?_, ?_⟩
  · simp only [pushSignal, AutonomyLoop.pushSignal, List.flatMap_append, hsignals]
    rw [List.append_assoc, List.take_append_drop, ← List.append_assoc, htracked.signals]
  · simp only [pushSignal, List.filterMap_append, hbatches, List.append_nil]
    exact htracked.batches

theorem submit_loop (s : Feed) (now : Int64) (batch : List PendingSignal)
    (controller : AgentController) :
    (s.submit now batch controller).loop.pendingSignals = s.loop.pendingSignals := by
  simp only [submit, AutonomyLoop.submitBatch]
  split <;> rfl

theorem Step.tracked {s s' : Feed} {event : FeedEvent} (hstep : Step s event s')
    (htracked : s.Tracked) : s'.Tracked := by
  cases hstep with
  | pushSignal signal => exact tracked_pushSignal htracked signal
  | drain _ hidle _ =>
      have hbatches := htracked.batches
      rw [hidle, Option.toList_none, List.append_nil] at hbatches
      refine ⟨?_, ?_⟩
      · rw [Feed.drain, List.flatMap_append, List.flatMap_singleton]
        change _ ++ s.loop.pendingSignals.take 20 ++ s.loop.pendingSignals.drop 20 = s.pushed
        rw [List.append_assoc, List.take_append_drop, htracked.signals]
      · rw [Feed.drain, List.filterMap_append, hbatches]
        rfl
  | @submit now batch controller _ hbatch =>
      have hbatches := htracked.batches
      rw [hbatch] at hbatches
      refine ⟨?_, ?_⟩
      · rw [submit_loop]
        exact htracked.signals
      · change s.removed.filterMap Removal.batch? =
          (s.submissions ++ [_]).map Submission.batch ++ Option.toList none
        rw [hbatches, List.map_append, Option.toList_none, List.append_nil]
        rfl
  | controller _ _ => exact ⟨htracked.signals, htracked.batches⟩

theorem flatten_batches (removed : List Removal) :
    (removed.filterMap Removal.batch?).flatten.Sublist (removed.flatMap Removal.signals) := by
  induction removed with
  | nil => exact .slnil
  | cons removal removed ih =>
      rw [List.flatMap_cons]
      cases removal with
      | evicted signal => exact ih.trans (List.sublist_append_right _ _)
      | drained batch => exact ih.append_left batch

/-- Each pushed signal is in one submitted batch at most, in the order of the pushes. -/
theorem Tracked.inOrder {s : Feed} (htracked : s.Tracked) :
    (s.submissions.flatMap (·.batch)).Sublist s.pushed := by
  have hdrained : (s.submissions.flatMap (·.batch)).Sublist
      (s.removed.filterMap Removal.batch?).flatten := by
    rw [htracked.batches, List.flatten_append, ← List.flatMap_def]
    exact List.sublist_append_left _ _
  have hremoved : (s.removed.flatMap Removal.signals).Sublist s.pushed := by
    rw [← htracked.signals]
    exact List.sublist_append_left _ _
  exact hdrained.trans ((flatten_batches s.removed).trans hremoved)

theorem taskIdText_ne_nil (n : UInt64) : taskIdText n ≠ [] :=
  List.append_ne_nil_of_left_ne_nil (by decide) _

/-- The task of a batch is accepted exactly if its agent is loaded. -/
theorem accepted_submit_iff (s : Feed) (now : Int64) (batch : List PendingSignal)
    (controller : AgentController) :
    (∀ submission ∈ (s.submit now batch controller).submissions,
        Submission.Accepted submission) ↔
      (∀ submission ∈ s.submissions, Submission.Accepted submission) ∧
        controller.personas.contains (agentFor (maxScore batch)) = true := by
  let result := controller.submitTask now (agentFor (maxScore batch)) (summary batch)
    (priorityFor (maxScore batch))
  have hsubmissions : (s.submit now batch controller).submissions =
      s.submissions ++ [⟨batch, if result.1 = [] then none else result.2.queue.head?⟩] := rfl
  rw [hsubmissions, List.forall_mem_append, List.forall_mem_singleton]
  refine and_congr_right fun _ => ?_
  by_cases hloaded : controller.personas.contains (agentFor (maxScore batch)) = true
  · have hid : result.1 = taskIdText controller.nextTaskId :=
      congrArg Prod.fst (if_pos hloaded)
    have hqueue : result.2.queue =
        controller.newEntry now (agentFor (maxScore batch)) (summary batch)
          (priorityFor (maxScore batch)) :: controller.queue :=
      congrArg (fun result : ByteString × AgentController => result.2.queue) (if_pos hloaded)
    rw [hid, hqueue, if_neg (taskIdText_ne_nil _)]
    exact iff_of_true ⟨_, rfl, taskIdText_ne_nil _, rfl, rfl⟩ hloaded
  · have hid : result.1 = [] := congrArg Prod.fst (if_neg hloaded)
    rw [if_pos hid]
    refine iff_of_false ?_ hloaded
    rintro ⟨entry, hentry, -⟩
    exact absurd hentry (by simp)

/-- No signal is lost in a run exactly if every batch that is submitted finds its agent
loaded. -/
theorem kept_iff {steps : List (Transition Feed FeedEvent)} {s : Feed}
    (htrace : Trace system steps s) :
    (∀ t ∈ steps, t.after.Kept) ↔ ∀ t ∈ steps, t.before.AgentLoaded t.label := by
  refine htrace.forall_after_iff (I := Tracked) ?_
    (fun s event s' htracked hstep => Step.tracked hstep htracked) ?_
  · rintro s ⟨controller, rfl⟩
    have htracked : Tracked { controller := controller } := ⟨rfl, rfl⟩
    exact ⟨htracked, htracked, htracked.inOrder, by simp⟩
  · intro s event s' htracked hkept hstep
    have htracked' := Step.tracked hstep htracked
    have hafter : s'.Kept ↔ ∀ submission ∈ s'.submissions, Submission.Accepted submission :=
      ⟨Kept.accepted, fun haccepted => ⟨htracked', htracked'.inOrder, haccepted⟩⟩
    rw [hafter]
    cases hstep with
    | pushSignal signal => exact iff_of_true hkept.accepted trivial
    | drain _ _ _ => exact iff_of_true hkept.accepted trivial
    | submit hcontroller hbatch =>
        rw [accepted_submit_iff, AgentLoaded, hcontroller, hbatch]
        constructor
        · rintro ⟨-, hloaded⟩ _ ⟨⟩ _ ⟨⟩
          exact hloaded
        · intro hloaded
          exact ⟨hkept.accepted, hloaded _ rfl _ rfl⟩
    | controller _ _ => exact iff_of_true hkept.accepted trivial

def analystPersona : AgentPersona where
  name := "siem_analyst"
  category := "soc"
  preferredModel := .fast
  systemPrompt := []

def analystController : AgentController :=
  AgentController.enterPersona { workerCount := 1, workerCount_pos := Nat.one_pos } analystPersona

def lowSignal : PendingSignal :=
  ⟨"event_log/System/7036", 10, "Service state changed", 0⟩

/-- A signal of a low score goes to the analyst. -/
theorem analysed_signal_kept :
    ∃ (steps : List (Transition Feed FeedEvent)) (s : Feed), Trace system steps s ∧
      s.submissions.map (·.batch) = [[lowSignal]] ∧ ∀ t ∈ steps, t.after.Kept := by
  have h0 : Trace system [] { controller := some analystController } := .start ⟨_, rfl⟩
  have h1 := h0.extend (Step.pushSignal _ lowSignal)
  have h2 := h1.extend (Step.drain (by simp [pushSignal]) rfl (by decide))
  have h3 := h2.extend (@Step.submit _ 0 [lowSignal] analystController rfl rfl)
  refine ⟨_, _, h3, rfl, (kept_iff h3).mpr ?_⟩
  simp only [List.nil_append, List.cons_append, List.forall_mem_cons, AgentLoaded]
  refine ⟨trivial, trivial, ?_, by simp⟩
  rintro _ ⟨⟩ _ ⟨⟩
  decide

def fileAlert : PendingSignal :=
  ⟨"fs_monitor/infected", 90, "Infected file detected: a.exe (Test)", 0⟩

/-- With the same persona alone, an alert of a high score is drained, and no task has it. -/
theorem alert_without_agent_lost :
    ∃ s : Feed, Reachable system s ∧ s.pushed = [fileAlert] ∧ s.loop.pendingSignals = [] ∧
      s.inHand = none ∧ s.submissions = [⟨[fileAlert], none⟩] ∧ ¬ s.Kept := by
  have h0 : Trace system [] { controller := some analystController } := .start ⟨_, rfl⟩
  have h1 := h0.extend (Step.pushSignal _ fileAlert)
  have h2 := h1.extend (Step.drain (by simp [pushSignal]) rfl (by decide))
  have h3 := h2.extend (@Step.submit _ 0 [fileAlert] analystController rfl rfl)
  have hunknown : (analystController.personas.contains (agentFor (maxScore [fileAlert]))) =
      false := by decide
  refine ⟨_, ⟨_, h3⟩, rfl, rfl, rfl, rfl, fun hkept => ?_⟩
  have haccepted := (accepted_submit_iff _ _ _ _).mp hkept.accepted
  rw [hunknown] at haccepted
  exact absurd haccepted.2 (by simp)

end Feed

end Astartis.Autonomy
