import Astartis.BackgroundLoop
import Astartis.SignalDrain
import Astartis.ThreatResponse

/-!
The thread of the autonomy loop, from `start` to `stop`, next to the threads that push
signals, notify levels, submit tasks of their own and work them off.
-/

namespace Astartis.Autonomy

open Agents
open BackgroundLoop
open TransitionSystem

structure LoopWorld where
  loop : TickingLoop := {}
  controller : AgentController
  audits : List (ByteString × ByteString) := []

namespace LoopWorld

def tickThreatResponse (now : Int64) (self : LoopWorld) : LoopWorld :=
  let (loop, controller) := self.loop.tickThreatResponse now self.controller
  { self with loop := loop, controller := controller }

def tickSignalDrain (now : Int64) (self : LoopWorld) : LoopWorld :=
  let (loop, controller) := self.loop.tickSignalDrain now self.controller
  { self with loop := loop, controller := controller }

def tickSocRotation (now : Int64) (self : LoopWorld) : LoopWorld :=
  let (loop, controller) := self.loop.tickSocRotation now self.controller
  { self with loop := loop, controller := controller }

def heartbeatText (self : LoopWorld) : ByteString :=
  ("tasks_submitted=" : ByteString) ++ ByteString.decimal self.loop.tasksSubmitted.toNat

/-- The audit entry behind the three ticks. -/
def heartbeat (_ : Int64) (self : LoopWorld) : LoopWorld :=
  { self with audits := self.audits ++ [(("autonomy_tick" : ByteString), self.heartbeatText)] }

end LoopWorld

/-- `loop`, which sleeps half a second at a time. -/
def autonomyLoop (intervalSeconds : Int32) : BackgroundLoop.Loop LoopWorld Int64 where
  parts :=
    [LoopWorld.tickThreatResponse, LoopWorld.tickSignalDrain, LoopWorld.tickSocRotation,
      LoopWorld.heartbeat]
  naps := (intervalSeconds * 2).toInt.toNat

/-- What other threads do meanwhile. -/
inductive Others : LoopWorld → LoopWorld → Prop
  | pushSignal {w : LoopWorld} (signal : PendingSignal) :
      Others w { w with loop := w.loop.pushSignal signal }
  | notifyThreatLevel {w : LoopWorld} (level : ByteString) (score : Int32) :
      Others w { w with loop := w.loop.notifyThreatLevel level score }
  | controller {w : LoopWorld} (after : AgentController) :
      Others w { w with controller := after }
  | audit {w : LoopWorld} (entry : ByteString × ByteString) :
      Others w { w with audits := w.audits ++ [entry] }

def loopSystem (intervalSeconds : Int32) : System (Service LoopWorld) (Label Int64) :=
  BackgroundLoop.system (autonomyLoop intervalSeconds) (fun w => w.loop = {}) Others

abbrev LoopStep := Transition (Service LoopWorld) (Label Int64)

/-! A sample run: a loop without naps, and a controller with one agent of the rotation. -/

def hunterPersona : AgentPersona where
  name := "threat_hunter"
  category := "soc"
  preferredModel := .fast
  systemPrompt := "You hunt for threats."
  skills := ["hunting"]

def idleWorld : LoopWorld where
  loop := {}
  controller :=
    { personas := .ofList [(hunterPersona.name, hunterPersona)]
      running := true
      workerCount := 1
      workerCount_pos := Nat.one_pos }

/-- A run of the loop alone, from the state in front of its first start. -/
def loopRun (labels : List (Label Int64)) : Option (List LoopStep × Service LoopWorld) :=
  attempt (advance? (autonomyLoop 0)) { world := idleWorld } labels

theorem loopRun_trace {labels : List (Label Int64)} {steps : List LoopStep}
    {s : Service LoopWorld} (hrun : loopRun labels = some (steps, s)) :
    Trace (loopSystem 0) steps s :=
  trace_attempt rfl hrun

/-- The thread is started, comes to its heartbeat, and notes it. -/
def firstTurn : List (Label Int64) :=
  .start :: List.replicate 5 (.thread 0)

/-- A stopped loop does nothing and has done whole turns only, of the four parts in their
order; and `stop` comes back: the thread is through after seven more steps at most, and never
in the way of its own end. -/
theorem loop_stops {intervalSeconds : Int32} {steps : List LoopStep} {s : Service LoopWorld}
    (htrace : Trace (loopSystem intervalSeconds) steps s) :
    (∀ t ∈ steps, t.before.running = false → t.before.joining = false → isThread t = false) ∧
      (s.running = false → s.joining = false → ∃ turns,
        executed (autonomyLoop intervalSeconds) steps = (List.range (4 * turns)).map (· % 4)) ∧
      ∀ before t during, steps = before ++ t :: during → t.label = .stop →
        t.before.running = true → (∀ u ∈ during, isJoin u = false) →
        during.countP isThread ≤ 7 ∧
          ((∃ s', (loopSystem intervalSeconds).Step s .join s') ∨
            ∀ now, ∃ s', (loopSystem intervalSeconds).Step s (.thread now) s') := by
  refine ⟨?_, ?_, ?_⟩
  · intro t ht hstopped hidle
    by_contra hthread
    rcases BackgroundLoop.Trace.moves_started htrace ht (Bool.eq_true_of_not_eq_false hthread)
      with hrunning | hjoining
    · exact absurd (hstopped.symm.trans hrunning) (by simp)
    · exact absurd (hidle.symm.trans hjoining) (by simp)
  · intro hstopped hidle
    have hturn := BackgroundLoop.Trace.inTurn htrace
    rw [(BackgroundLoop.Trace.sound htrace).gone hidle hstopped] at hturn
    obtain ⟨turns, hturns⟩ := Nat.dvd_of_mod_eq_zero hturn.phase
    refine ⟨turns, ?_⟩
    have hcyclic := hturn.cyclic
    rw [hturns] at hcyclic
    exact hcyclic
  · rintro before t during rfl hstop hrunning hwaits
    have hreturns := BackgroundLoop.Trace.stop_returns htrace hstop hrunning hwaits
    refine ⟨(hreturns 0).1, ?_⟩
    by_cases hjoin : ∃ s', (loopSystem intervalSeconds).Step s .join s'
    · exact .inl hjoin
    · exact .inr fun now => (hreturns now).2.resolve_left hjoin

/-- One turn, and the end of the thread behind it. -/
theorem first_turn_stops :
    ∃ steps s turns, loopRun (firstTurn ++ [.stop] ++ List.replicate 3 (.thread 0) ++ [.join]) =
        some (steps, s) ∧
      executed (autonomyLoop 0) steps = (List.range (4 * turns)).map (· % 4) := by
  obtain ⟨⟨steps, s⟩, hrun, hstopped, hidle⟩ : ∃ r, loopRun (firstTurn ++ [.stop] ++
      List.replicate 3 (.thread 0) ++ [.join]) = some r ∧ r.2.running = false ∧
        r.2.joining = false := ⟨_, rfl, rfl, rfl⟩
  obtain ⟨turns, hturns⟩ := (loop_stops (loopRun_trace hrun)).2.1 hstopped hidle
  exact ⟨steps, s, turns, hrun, hturns⟩

section Submissions

/-- Tasks were submitted and counted, and the rotation is where it was. -/
structure Submits (before after : TickingLoop × AgentController) : Prop where
  submitted : ∃ entries, after.2.queue = entries ++ before.2.queue ∧
    after.1.tasksSubmitted = before.1.tasksSubmitted + UInt64.ofNat entries.length
  rotation : after.1.socRotationIndex = before.1.socRotationIndex

theorem Submits.refl (s : TickingLoop × AgentController) : Submits s s :=
  ⟨⟨[], rfl, by simp⟩, rfl⟩

theorem Submits.trans {a b c : TickingLoop × AgentController} (hfirst : Submits a b)
    (hsecond : Submits b c) : Submits a c := by
  obtain ⟨⟨entries, hqueue, hcount⟩, hrotation⟩ := hfirst
  obtain ⟨⟨more, hqueue', hcount'⟩, hrotation'⟩ := hsecond
  refine ⟨⟨more ++ entries, ?_, ?_⟩, hrotation'.trans hrotation⟩
  · rw [hqueue', hqueue, List.append_assoc]
  · rw [hcount', hcount, List.length_append, Nat.add_comm, UInt64.ofNat_add, UInt64.add_assoc]

variable {now : Int64} {agent input : ByteString} {priority : Priority}

theorem submitTask_known {controller : AgentController}
    (hknown : controller.personas.contains agent = true) :
    (controller.submitTask now agent input priority).1 ≠ [] ∧
      (controller.submitTask now agent input priority).2.queue =
        controller.newEntry now agent input priority :: controller.queue := by
  simp only [AgentController.submitTask, if_pos hknown]
  exact ⟨Feed.taskIdText_ne_nil _, trivial⟩

theorem submitTask_unknown {controller : AgentController}
    (hunknown : controller.personas.contains agent = false) :
    controller.submitTask now agent input priority = ([], controller) := by
  simp [AgentController.submitTask, hunknown]

theorem TickingLoop.submit_submits (s : TickingLoop × AgentController) :
    Submits s (s.1.submit now agent input priority s.2) := by
  cases hknown : s.2.personas.contains agent with
  | true =>
      obtain ⟨htask, hqueue⟩ := @submitTask_known now agent input priority s.2 hknown
      simp only [submit, if_neg htask]
      exact ⟨⟨[_], hqueue, rfl⟩, rfl⟩
  | false =>
      simp only [submit, submitTask_unknown hknown, if_true]
      exact .refl s

theorem TickingLoop.tickThreatResponse_submits (loop : TickingLoop)
    (controller : AgentController) :
    Submits (loop, controller) (loop.tickThreatResponse now controller) := by
  simp only [tickThreatResponse]
  split
  · generalize alertInput _ _ = text
    generalize responseAgents = agents
    have hall : ∀ s : TickingLoop × AgentController, Submits s (agents.foldl
        (fun (s : TickingLoop × AgentController) agent => s.1.submit now agent text .high s.2)
        s) := by
      induction agents with
      | nil => exact .refl
      | cons agent agents ih => exact fun s => (submit_submits s).trans (ih _)
    exact hall _
  · split
    · exact submit_submits (loop, controller)
    · exact .refl _

theorem TickingLoop.tickSignalDrain_submits (loop : TickingLoop) (controller : AgentController) :
    Submits (loop, controller) (loop.tickSignalDrain now controller) := by
  simp only [tickSignalDrain, AutonomyLoop.tickSignalDrain]
  split
  · exact .refl _
  · generalize agentFor _ = agent
    generalize summary _ = input
    generalize priorityFor _ = priority
    cases hknown : controller.personas.contains agent with
    | true =>
        obtain ⟨htask, hqueue⟩ := @submitTask_known now agent input priority controller hknown
        simp only [if_neg htask]
        exact ⟨⟨[_], hqueue, rfl⟩, rfl⟩
    | false =>
        simp only [submitTask_unknown hknown, if_true]
        exact ⟨⟨[], rfl, by simp⟩, rfl⟩

end Submissions

section Rotation

variable {intervalSeconds : Int32} {steps : List LoopStep} {s : Service LoopWorld}

/-- The step of `tick_soc_rotation`. -/
def isRoutine (t : LoopStep) : Bool :=
  match t.label, t.before.thread with
  | .thread _, some (.part i) => i = 2
  | _, _ => false

def isHeartbeat (t : LoopStep) : Bool :=
  match t.label, t.before.thread with
  | .thread _, some (.part i) => i = 3
  | _, _ => false

/-- The tasks that the thread of the loop has added to the queue. -/
def taken (steps : List LoopStep) : Nat :=
  ((steps.filter isThread).map fun t =>
    t.after.world.controller.queue.length - t.before.world.controller.queue.length).sum

theorem taken_concat (t : LoopStep) :
    taken (steps ++ [t]) = taken steps + if isThread t then
      t.after.world.controller.queue.length - t.before.world.controller.queue.length else 0 := by
  rw [taken, taken, List.filter_append, List.map_append, List.sum_append]
  cases h : isThread t <;> simp [h]

/-- What one step of the thread does to the two counters. -/
structure Counts (isRoutine : Bool) (before after : LoopWorld) : Prop where
  submitted : ∃ entries, after.controller.queue = entries ++ before.controller.queue ∧
    after.loop.tasksSubmitted = before.loop.tasksSubmitted + UInt64.ofNat entries.length
  rotation : after.loop.socRotationIndex =
    before.loop.socRotationIndex + if isRoutine then 1 else 0

theorem Submits.counts {w : LoopWorld} {after : TickingLoop × AgentController}
    (hsubmits : Submits (w.loop, w.controller) after) :
    Counts false w { w with loop := after.1, controller := after.2 } :=
  ⟨hsubmits.submitted, by simpa using hsubmits.rotation⟩

theorem LoopWorld.tickSocRotation_counts (now : Int64) (w : LoopWorld) :
    Counts true w (w.tickSocRotation now) := by
  obtain ⟨hsubmitted, hrotation⟩ := @TickingLoop.submit_submits now
    (kSocRotation.getD (w.loop.socRotationIndex.toNat % kSocRotation.length) []) routineInput .low
    ({ w.loop with socRotationIndex := w.loop.socRotationIndex + 1 }, w.controller)
  exact ⟨hsubmitted, hrotation⟩

theorem runPart_counts (now : Int64) (w : LoopWorld) (place : Place) :
    Counts (place = .part 2) w (runPart (autonomyLoop intervalSeconds) now w place) := by
  have hnothing : Counts false w w := ⟨⟨[], rfl, by simp⟩, by simp⟩
  cases place with
  | test => exact hnothing
  | nap n => exact hnothing
  | finished => exact hnothing
  | part i =>
      match i with
      | 0 => exact (TickingLoop.tickThreatResponse_submits w.loop w.controller).counts
      | 1 => exact (TickingLoop.tickSignalDrain_submits w.loop w.controller).counts
      | 2 => exact w.tickSocRotation_counts now
      | 3 => exact ⟨hnothing.submitted, hnothing.rotation⟩
      | i + 4 =>
          have hpast : runPart (autonomyLoop intervalSeconds) now w (.part (i + 4)) = w := by
            simp [runPart, autonomyLoop]
          rw [hpast]
          simpa using hnothing

theorem Others.counters {w w' : LoopWorld} (hother : Others w w') :
    w'.loop.tasksSubmitted = w.loop.tasksSubmitted ∧
      w'.loop.socRotationIndex = w.loop.socRotationIndex := by
  cases hother with
  | pushSignal | notifyThreatLevel | controller | audit => exact ⟨rfl, rfl⟩

/-- The counters of the loop say what it has done, up to the width of their types. -/
structure Counted (steps : List LoopStep) (w : LoopWorld) : Prop where
  submitted : w.loop.tasksSubmitted.toNat = taken steps % 2 ^ 64
  rotation : w.loop.socRotationIndex.toNat = steps.countP isRoutine % 2 ^ 64

theorem Counted.quiet {w w' : LoopWorld} {t : LoopStep} (hcounted : Counted steps w)
    (hquiet : isThread t = false)
    (hcounters : w'.loop.tasksSubmitted = w.loop.tasksSubmitted ∧
      w'.loop.socRotationIndex = w.loop.socRotationIndex) : Counted (steps ++ [t]) w' := by
  have hroutine : isRoutine t = false := by
    obtain ⟨before, label, after⟩ := t
    cases label with
    | thread env => simp [isThread] at hquiet
    | start | stop | join | other => rfl
  refine ⟨?_, ?_⟩
  · rw [taken_concat, hquiet, hcounters.1]
    exact hcounted.submitted
  · rw [List.countP_append, hcounters.2]
    simpa [hroutine] using hcounted.rotation

theorem Counted.thread {t : LoopStep} (hcounted : Counted steps t.before.world)
    (hthread : isThread t = true)
    (hcounts : Counts (isRoutine t) t.before.world t.after.world) :
    Counted (steps ++ [t]) t.after.world := by
  obtain ⟨⟨entries, hqueue, hsubmitted⟩, hrotation⟩ := hcounts
  refine ⟨?_, ?_⟩
  · rw [taken_concat, if_pos hthread, hqueue, List.length_append, Nat.add_sub_cancel, hsubmitted,
      UInt64.toNat_add, hcounted.submitted, UInt64.toNat_ofNat', ← Nat.add_mod]
  · rw [List.countP_append, List.countP_singleton, hrotation, UInt64.toNat_add,
      hcounted.rotation]
    cases isRoutine t with
    | true => simp [Nat.add_mod]
    | false => simp

theorem counted_of_trace (htrace : Trace (loopSystem intervalSeconds) steps s) :
    Counted steps s.world := by
  refine htrace.history_invariant (I := fun steps s => Counted steps s.world) ?_ ?_
  · rintro s ⟨hloop, -⟩
    exact ⟨by rw [hloop]; rfl, by rw [hloop]; rfl⟩
  · intro steps s label s' hcounted hstep
    cases hstep with
    | startAgain | start | stopAgain | stop | join => exact hcounted.quiet rfl ⟨rfl, rfl⟩
    | other hother => exact hcounted.quiet rfl hother.counters
    | @thread place next now hplace hnext =>
        refine Counted.thread (t := ⟨s, .thread now, _⟩) hcounted rfl ?_
        have hroutine : isRoutine ⟨s, .thread now,
            { s with thread := some next
                     world := runPart (autonomyLoop intervalSeconds) now s.world place }⟩ =
              decide (place = .part 2) := by
          cases place <;> simp [isRoutine, hplace]
        rw [hroutine]
        exact runPart_counts now s.world place

/-- What the thread of the loop does at its place. -/
theorem thread_world {s' : Service LoopWorld} {now : Int64} {place : Place}
    (hstep : (loopSystem intervalSeconds).Step s (.thread now) s')
    (hplace : s.thread = some place) :
    s'.world = runPart (autonomyLoop intervalSeconds) now s.world place := by
  cases hstep with
  | thread _ hthread hnext =>
      obtain rfl := Option.some.inj (hthread.symm.trans hplace)
      rfl

/-- What a routine step hands to the controller: a task of low priority for `agent`, if the
controller knows it, and nothing else. -/
def AsksAgent (agent : ByteString) (before after : AgentController) : Prop :=
  if before.personas.contains agent = true then
    ∃ entry : TaskEntry, after.queue = entry :: before.queue ∧ entry.agentName = agent ∧
      entry.priority = .low ∧ entry.input = routineInput
  else after = before

theorem LoopWorld.tickSocRotation_asks (now : Int64) (w : LoopWorld) :
    AsksAgent (kSocRotation.getD (w.loop.socRotationIndex.toNat % kSocRotation.length) [])
      w.controller (w.tickSocRotation now).controller := by
  simp only [tickSocRotation, TickingLoop.tickSocRotation, TickingLoop.submit, AsksAgent]
  generalize kSocRotation.getD _ _ = agent
  cases hknown : w.controller.personas.contains agent with
  | true =>
      obtain ⟨htask, hqueue⟩ := @submitTask_known now agent routineInput .low w.controller hknown
      simp only [if_neg htask, if_true]
      exact ⟨_, hqueue, rfl, rfl, rfl⟩
  | false => simp [submitTask_unknown hknown]

/-- The agents of the rotation have their turns one after the other, whoever else submits, and
whether or not their tasks are accepted, through all stops and starts of the loop. -/
theorem routine_checks_in_turn (htrace : Trace (loopSystem intervalSeconds) steps s)
    {before after : List LoopStep} {t : LoopStep} (hsteps : steps = before ++ t :: after)
    (hroutine : isRoutine t = true) :
    AsksAgent (kSocRotation.getD (before.countP isRoutine % 2 ^ 64 % kSocRotation.length) [])
      t.before.world.controller t.after.world.controller := by
  subst hsteps
  obtain ⟨hbefore, hstep⟩ := htrace.split
  have hrotation := (counted_of_trace hbefore).rotation
  rw [isRoutine] at hroutine
  split at hroutine
  · rename_i now i hlabel hplace
    obtain rfl : i = 2 := of_decide_eq_true hroutine
    rw [hlabel] at hstep
    have hworld : t.after.world = t.before.world.tickSocRotation now := thread_world hstep hplace
    rw [hworld, ← hrotation]
    exact LoopWorld.tickSocRotation_asks now t.before.world
  · exact absurd hroutine (by simp)

theorem first_turn :
    ∃ a b c d routine heartbeat s,
      loopRun firstTurn = some ([a, b, c, d, routine, heartbeat], s) ∧
        isRoutine routine = true ∧ isHeartbeat heartbeat = true ∧
        [a, b, c, d].countP isRoutine = 0 ∧ taken [a, b, c, d, routine] = 1 ∧
        heartbeat.before.world.audits = [] :=
  ⟨_, _, _, _, _, _, _, rfl, rfl, rfl, rfl, rfl, rfl⟩

theorem hunter_checked_first :
    ∃ a b c d routine heartbeat s,
      loopRun firstTurn = some ([a, b, c, d, routine, heartbeat], s) ∧
        AsksAgent "threat_hunter" routine.before.world.controller
          routine.after.world.controller := by
  obtain ⟨a, b, c, d, routine, heartbeat, s, hrun, hroutine, -, hcount, -⟩ := first_turn
  have hsplit : [a, b, c, d, routine, heartbeat] = [a, b, c, d] ++ routine :: [heartbeat] := rfl
  have hasks := routine_checks_in_turn (loopRun_trace hrun) hsplit hroutine
  rw [hcount] at hasks
  exact ⟨a, b, c, d, routine, heartbeat, s, hrun, hasks⟩

end Rotation

end Astartis.Autonomy
