import Astartis.StatusSnapshot

/-!
The status of an agent against its tasks.  One record per agent is written by all workers
that execute a task of the agent.
-/

namespace Astartis.Agents

open TransitionSystem

/-- The entry between the marking of its agent and the update of the status. -/
def WorkerPhase.active : WorkerPhase → Option TaskEntry
  | .executing entry => some entry
  | .recording entry _ => some entry
  | _ => none

/-- The entry that a worker has taken and not yet recorded. -/
def WorkerPhase.carried : WorkerPhase → Option TaskEntry
  | .marking entry => some entry
  | .executing entry => some entry
  | .recording entry _ => some entry
  | _ => none

/-- The entry that is found in the phase of a worker. -/
def entryAt (entryOf : WorkerPhase → Option TaskEntry) (workers : List WorkerPhase)
    (worker : Nat) : Option TaskEntry :=
  workers[worker]?.bind entryOf

section Workers

variable {entryOf : WorkerPhase → Option TaskEntry} {workers : List WorkerPhase}
  {worker : Nat} {old phase : WorkerPhase}

theorem entryAt_set (hold : workers[worker]? = some old) (other : Nat) :
    entryAt entryOf (workers.set worker phase) other =
      if other = worker then entryOf phase else entryAt entryOf workers other := by
  have hlength : worker < workers.length := (List.getElem?_eq_some_iff.mp hold).1
  simp only [entryAt, List.getElem?_set]
  by_cases hother : worker = other
  · subst hother
    simp [hlength]
  · simp [hother, Ne.symm hother]

/-- A move between phases with the same entry. -/
theorem entryAt_set_same (hold : workers[worker]? = some old)
    (hsame : entryOf phase = entryOf old) (other : Nat) :
    entryAt entryOf (workers.set worker phase) other = entryAt entryOf workers other := by
  rw [entryAt_set hold]
  split
  · rename_i hother
    rw [hother, hsame, entryAt, hold]
    rfl
  · rfl

theorem entryAt_woken (hblocked : workers[worker]? = some .blocked)
    (hsame : entryOf .locking = entryOf .blocked) (other : Nat) :
    entryAt entryOf (workers.set worker .locking) other = entryAt entryOf workers other :=
  entryAt_set_same hblocked hsame other

theorem entryAt_append_replicate (hnone : entryOf phase = none) (n other : Nat) :
    entryAt entryOf (workers ++ List.replicate n phase) other =
      entryAt entryOf workers other := by
  simp only [entryAt, List.getElem?_append]
  split
  · rfl
  · rename_i hother
    rw [List.getElem?_eq_none (by omega : workers.length ≤ other), List.getElem?_replicate]
    split
    · exact hnone
    · rfl

theorem entryAt_map_wake (hwake : ∀ phase : WorkerPhase, entryOf phase.wake = entryOf phase)
    (other : Nat) :
    entryAt entryOf (workers.map WorkerPhase.wake) other = entryAt entryOf workers other := by
  simp only [entryAt, List.getElem?_map]
  cases workers[other]? with
  | none => rfl
  | some phase => exact hwake phase

theorem entryAt_of_exited (hexited : ∀ phase ∈ workers, phase = .exited)
    (hnone : entryOf .exited = none) (other : Nat) : entryAt entryOf workers other = none := by
  rw [entryAt]
  cases hother : workers[other]? with
  | none => rfl
  | some phase =>
      obtain rfl := hexited phase (List.mem_of_getElem? hother)
      exact hnone

end Workers

/-- The counter that a result of this kind increments. -/
def AgentStatus.counter (st : AgentStatus) (ok : Bool) : Int32 :=
  if ok then st.tasksCompleted else st.tasksFailed

namespace Pool

variable {s s' : Pool} {event : Event}

def active (s : Pool) : Nat → Option TaskEntry :=
  entryAt WorkerPhase.active s.workers

def carried (s : Pool) : Nat → Option TaskEntry :=
  entryAt WorkerPhase.carried s.workers

/-- Some worker executes a task of the agent. -/
def Busy (s : Pool) (agent : ByteString) : Prop :=
  ∃ worker entry, s.active worker = some entry ∧ entry.agentName = agent

/-- The agent whose status an event updates with a result. -/
def recordedAgent (s : Pool) : Event → Option ByteString
  | .recordResult worker _ =>
      match s.workers[worker]? with
      | some (.recording entry _) => some entry.agentName
      | _ => none
  | _ => none

/-- The number of tasks of the agent whose execution a run has finished. -/
def finished (agent : ByteString) (steps : List (Transition Pool Event)) : Nat :=
  steps.countP fun t => t.before.recordedAgent t.label = some agent

/-- An agent is running while a worker executes a task of it, and its counters are those of
its finished tasks. -/
def StatusesTrue (steps : List (Transition Pool Event)) (s : Pool) : Prop :=
  ∀ (agent : ByteString) (st : AgentStatus), s.controller.statuses[agent]? = some st →
    (st.state = .running ↔ s.Busy agent) ∧
      st.tasksCompleted.toInt + st.tasksFailed.toInt = finished agent steps

/-- A result is recorded while no other worker executes a task of the same agent, and its
counter can be incremented. -/
def RecordsAlone (s : Pool) (event : Event) : Prop :=
  ∀ worker clock entry result, event = .recordResult worker clock →
    s.workers[worker]? = some (.recording entry result) →
      (∀ other entry', other ≠ worker → s.active other = some entry' →
        entry'.agentName ≠ entry.agentName) ∧
      (s.controller.statusOf entry.agentName).counter result.ok ≠ Int32.maxValue

/-- What a step does to the statuses and to the tasks that are executed. -/
theorem Step.activity (hstep : Step s event s') :
    (s'.controller.statuses = s.controller.statuses ∧ (∀ other, s'.active other = s.active other) ∧
        ∀ worker clock, event ≠ .recordResult worker clock) ∨
      (∃ worker entry, event = .markRunning worker ∧
        s.workers[worker]? = some (.marking entry) ∧
        s'.controller = s.controller.markRunning entry ∧
        ∀ other, s'.active other = if other = worker then some entry else s.active other) ∨
      ∃ worker clock entry result, event = .recordResult worker clock ∧
        s.workers[worker]? = some (.recording entry result) ∧
        s'.controller = s.controller.recordResult clock entry result ∧
        ∀ other, s'.active other = if other = worker then none else s.active other := by
  cases hstep with
  | submit hmutex hknown hnotify =>
      refine .inl ⟨by simp [AgentController.submitTask, hknown], fun other => ?_, by simp⟩
      cases hnotify with
      | nobody hnone => rfl
      | woken hblocked => exact entryAt_woken hblocked rfl other
  | submitUnknown hmutex hunknown => exact .inl ⟨rfl, fun _ => rfl, by simp⟩
  | startRunning hrunning => exact .inl ⟨rfl, fun _ => rfl, by simp⟩
  | start hrunning =>
      exact .inl ⟨rfl, fun other => entryAt_append_replicate rfl _ other, by simp⟩
  | stopStopped hrunning => exact .inl ⟨rfl, fun _ => rfl, by simp⟩
  | stop hrunning => exact .inl ⟨rfl, fun _ => rfl, by simp⟩
  | notifyAll hcall =>
      exact .inl ⟨rfl, fun other =>
        entryAt_map_wake (fun phase => by cases phase <;> rfl) other, by simp⟩
  | join hcall hjoined =>
      refine .inl ⟨rfl, fun other => ?_, by simp⟩
      have hexited : ∀ phase ∈ s.workers, phase = .exited := by
        intro phase hphase
        by_contra hne
        exact hjoined ⟨phase, hphase, hne⟩
      exact (entryAt_of_exited hexited rfl other).symm
  | markRunning hphase hmutex =>
      exact .inr (.inl ⟨_, _, rfl, hphase, rfl, entryAt_set hphase⟩)
  | @recordResult worker entry result clock hphase hmutex =>
      exact .inr (.inr ⟨worker, clock, entry, result, rfl, hphase, rfl, entryAt_set hphase⟩)
  | enterLoop hphase hrunning =>
      exact .inl ⟨rfl, entryAt_set_same hphase rfl, by simp⟩
  | leaveLoop hphase hrunning => exact .inl ⟨rfl, entryAt_set_same hphase rfl, by simp⟩
  | lock hphase hmutex => exact .inl ⟨rfl, entryAt_set_same hphase rfl, by simp⟩
  | take hphase htop => exact .inl ⟨rfl, entryAt_set_same hphase rfl, by simp⟩
  | breakLoop hphase hempty hrunning =>
      exact .inl ⟨rfl, entryAt_set_same hphase rfl, by simp⟩
  | wait hphase hempty hrunning => exact .inl ⟨rfl, entryAt_set_same hphase rfl, by simp⟩
  | block hphase => exact .inl ⟨rfl, entryAt_set_same hphase rfl, by simp⟩
  | spuriousWake hphase => exact .inl ⟨rfl, entryAt_set_same hphase rfl, by simp⟩
  | execute hphase => exact .inl ⟨rfl, entryAt_set_same hphase rfl, by simp⟩
  | report hphase => exact .inl ⟨rfl, entryAt_set_same hphase rfl, by simp⟩

/-- The entry is queued, or a worker has taken it and not yet recorded it. -/
def Open (s : Pool) (entry : TaskEntry) : Prop :=
  entry ∈ s.controller.queue ∨ ∃ worker, s.carried worker = some entry

/-- The agents of all personas and of all open entries have a status. -/
structure Tracked (s : Pool) : Prop where
  known : ∀ agent, s.controller.personas.contains agent = true →
    s.controller.statuses.contains agent = true
  opened : ∀ entry, s.Open entry → s.controller.statuses.contains entry.agentName = true

theorem open_of_same {entry : TaskEntry} (hopen : s'.Open entry)
    (hqueue : s'.controller.queue = s.controller.queue)
    (hcarried : ∀ other, s'.carried other = s.carried other) : s.Open entry := by
  rcases hopen with hqueued | ⟨worker, hworker⟩
  · exact .inl (hqueue ▸ hqueued)
  · exact .inr ⟨worker, (hcarried worker).symm.trans hworker⟩

/-- What is open after a step was open before it, or was submitted for a known agent. -/
theorem Step.open_cases (hstep : Step s event s') {entry : TaskEntry} (hopen : s'.Open entry) :
    s.Open entry ∨ s.controller.personas.contains entry.agentName = true := by
  cases hstep with
  | @submit now agentName input priority notified workers hmutex hknown hnotify =>
      have hcarried : ∀ other, entryAt WorkerPhase.carried workers other = s.carried other := by
        cases hnotify with
        | nobody hnone => exact fun _ => rfl
        | woken hblocked => exact entryAt_woken hblocked rfl
      simp only [Open, AgentController.submitTask, hknown, if_true, List.mem_cons] at hopen
      rcases hopen with (rfl | hqueued) | ⟨worker, hworker⟩
      · exact .inr hknown
      · exact .inl (.inl hqueued)
      · exact .inl (.inr ⟨worker, (hcarried worker).symm.trans hworker⟩)
  | submitUnknown hmutex hunknown => exact .inl hopen
  | startRunning hrunning => exact .inl hopen
  | start hrunning => exact .inl (open_of_same hopen rfl (entryAt_append_replicate rfl _))
  | stopStopped hrunning => exact .inl hopen
  | stop hrunning => exact .inl hopen
  | notifyAll hcall =>
      exact .inl (open_of_same hopen rfl
        (entryAt_map_wake fun phase => by cases phase <;> rfl))
  | join hcall hjoined =>
      rcases hopen with hqueued | ⟨worker, hworker⟩
      · exact .inl (.inl hqueued)
      · simp [carried, entryAt] at hworker
  | @take worker taken hphase htop =>
      refine .inl ?_
      rcases hopen with hqueued | ⟨other, hother⟩
      · exact .inl (List.mem_of_mem_erase hqueued)
      · have hmoved := (entryAt_set hphase other).symm.trans hother
        split at hmoved
        · obtain rfl := Option.some.inj hmoved
          exact .inl htop.1
        · exact .inr ⟨other, hmoved⟩
  | @markRunning worker taken hphase hmutex =>
      exact .inl (open_of_same hopen (AgentController.markRunning_queue _ _)
        (entryAt_set_same hphase rfl))
  | @recordResult worker taken result clock hphase hmutex =>
      refine .inl (hopen.imp id ?_)
      rintro ⟨other, hother⟩
      have hmoved := (entryAt_set hphase other).symm.trans hother
      split at hmoved
      · exact absurd hmoved (by simp [WorkerPhase.carried])
      · exact ⟨other, hmoved⟩
  | enterLoop hphase hrunning =>
      exact .inl (open_of_same hopen rfl (entryAt_set_same hphase rfl))
  | leaveLoop hphase hrunning =>
      exact .inl (open_of_same hopen rfl (entryAt_set_same hphase rfl))
  | lock hphase hmutex => exact .inl (open_of_same hopen rfl (entryAt_set_same hphase rfl))
  | breakLoop hphase hempty hrunning =>
      exact .inl (open_of_same hopen rfl (entryAt_set_same hphase rfl))
  | wait hphase hempty hrunning =>
      exact .inl (open_of_same hopen rfl (entryAt_set_same hphase rfl))
  | block hphase => exact .inl (open_of_same hopen rfl (entryAt_set_same hphase rfl))
  | spuriousWake hphase => exact .inl (open_of_same hopen rfl (entryAt_set_same hphase rfl))
  | execute hphase => exact .inl (open_of_same hopen rfl (entryAt_set_same hphase rfl))
  | report hphase => exact .inl (open_of_same hopen rfl (entryAt_set_same hphase rfl))

theorem Step.personas_eq (hstep : Step s event s') :
    s'.controller.personas = s.controller.personas := by
  cases hstep with
  | submit hmutex hknown hnotify => simp [AgentController.submitTask, hknown]
  | @markRunning worker entry hphase hmutex =>
      simp only [AgentController.markRunning]
      split <;> rfl
  | _ => rfl

/-- No status goes away. -/
theorem Step.statuses_mono (hstep : Step s event s') {agent : ByteString}
    (hstatus : s.controller.statuses.contains agent = true) :
    s'.controller.statuses.contains agent = true := by
  obtain ⟨hsame, -⟩ | ⟨worker, entry, -, -, hmarked, -⟩ |
    ⟨worker, clock, entry, result, -, -, hrecorded, -⟩ := hstep.activity
  · rw [hsame]
    exact hstatus
  · rw [hmarked, AgentController.markRunning]
    split
    · exact hstatus
    · simp [Std.TreeMap.contains_insert, hstatus]
  · rw [hrecorded]
    simp [AgentController.recordResult, Std.TreeMap.contains_insert, hstatus]

theorem Step.tracked (hstep : Step s event s') (htracked : s.Tracked) : s'.Tracked := by
  constructor
  · intro agent hagent
    rw [hstep.personas_eq] at hagent
    exact hstep.statuses_mono (htracked.known agent hagent)
  · intro entry hopen
    rcases hstep.open_cases hopen with hbefore | hknown
    · exact hstep.statuses_mono (htracked.opened entry hbefore)
    · exact hstep.statuses_mono (htracked.known entry.agentName hknown)

/-- The agent of an entry that a worker carries has a status. -/
theorem Tracked.status (htracked : s.Tracked) {worker : Nat} {phase : WorkerPhase}
    {entry : TaskEntry} (hphase : s.workers[worker]? = some phase)
    (hcarried : phase.carried = some entry) :
    ∃ st, s.controller.statuses[entry.agentName]? = some st := by
  have hopen : s.Open entry := .inr ⟨worker, by simp [carried, entryAt, hphase, hcarried]⟩
  have hcontains := htracked.opened entry hopen
  rw [Std.TreeMap.contains_eq_isSome_getElem?, Option.isSome_iff_exists] at hcontains
  exact hcontains

section Counting

theorem finished_append (agent : ByteString) (steps : List (Transition Pool Event)) :
    finished agent (steps ++ [⟨s, event, s'⟩]) =
      finished agent steps + if s.recordedAgent event = some agent then 1 else 0 := by
  simp only [finished, List.countP_append, List.countP_singleton, decide_eq_true_eq]

theorem recordedAgent_eq_none (hother : ∀ worker clock, event ≠ .recordResult worker clock) :
    s.recordedAgent event = none := by
  cases event with
  | recordResult worker clock => exact absurd rfl (hother worker clock)
  | _ => rfl

/-- Adding one is exact except at the largest value. -/
theorem toInt_add_one_iff (n : Int32) :
    (n + 1).toInt = n.toInt + 1 ↔ n ≠ Int32.maxValue := by
  have hrange := n.le_toInt
  have hbound := n.toInt_lt
  rw [Int32.toInt_add, show (1 : Int32).toInt = 1 from rfl, Ne, ← Int32.toInt_inj,
    show Int32.maxValue.toInt = 2147483647 from rfl]
  simp only [Int.bmod]
  omega

/-- The counters after a result. -/
theorem recordResult_counters (self : AgentController) (clock : Clock) (entry : TaskEntry)
    (result : TaskResult) {st : AgentStatus}
    (hst : self.statuses[entry.agentName]? = some st) :
    ∃ st', (self.recordResult clock entry result).statuses =
        self.statuses.insert entry.agentName st' ∧ st'.state ≠ .running ∧
      (st'.tasksCompleted.toInt + st'.tasksFailed.toInt =
          st.tasksCompleted.toInt + st.tasksFailed.toInt + 1 ↔
        st.counter result.ok ≠ Int32.maxValue) := by
  refine ⟨_, rfl, ?_, ?_⟩
  · simp only
    split <;> simp
  · simp only [AgentController.statusOf, hst, Option.getD_some, AgentStatus.counter]
    rw [← toInt_add_one_iff]
    cases result.ok with
    | true =>
        simp only [if_true, Int32.add_zero]
        omega
    | false =>
        simp only [Bool.false_eq_true, if_false, Int32.add_zero]
        omega

end Counting

section Busyness

variable {worker : Nat} {moved : Option TaskEntry} {agent : ByteString}

/-- A worker that moves between entries of other agents. -/
theorem busy_iff_of_others
    (hactive : ∀ other, s'.active other = if other = worker then moved else s.active other)
    (hbefore : ∀ entry, s.active worker = some entry → entry.agentName ≠ agent)
    (hafter : ∀ entry, moved = some entry → entry.agentName ≠ agent) :
    s'.Busy agent ↔ s.Busy agent := by
  constructor
  · rintro ⟨other, entry, hother, hagent⟩
    rw [hactive] at hother
    split at hother
    · exact absurd hagent (hafter entry hother)
    · exact ⟨other, entry, hother, hagent⟩
  · rintro ⟨other, entry, hother, hagent⟩
    have hne : other ≠ worker := by
      rintro rfl
      exact hbefore entry hother hagent
    exact ⟨other, entry, by rw [hactive, if_neg hne, hother], hagent⟩

/-- After a worker has finished, the agent is busy with the tasks of the others. -/
theorem busy_iff_of_finished
    (hactive : ∀ other, s'.active other = if other = worker then none else s.active other) :
    s'.Busy agent ↔
      ∃ other entry, other ≠ worker ∧ s.active other = some entry ∧ entry.agentName = agent := by
  constructor
  · rintro ⟨other, entry, hother, hagent⟩
    rw [hactive] at hother
    split at hother
    · exact absurd hother (by simp)
    · rename_i hne
      exact ⟨other, entry, hne, hother, hagent⟩
  · rintro ⟨other, entry, hne, hother, hagent⟩
    exact ⟨other, entry, by rw [hactive, if_neg hne, hother], hagent⟩

end Busyness

/-- Marking makes the status of the agent true. -/
theorem statusesTrue_of_marked {steps : List (Transition Pool Event)} {worker : Nat}
    {entry : TaskEntry} (htracked : s.Tracked) (htrue : StatusesTrue steps s)
    (hphase : s.workers[worker]? = some (.marking entry))
    (hmarked : s'.controller = s.controller.markRunning entry)
    (hactive : ∀ other, s'.active other =
      if other = worker then some entry else s.active other) :
    StatusesTrue (steps ++ [⟨s, .markRunning worker, s'⟩]) s' := by
  intro agent st hst
  obtain ⟨marked, hmarkedSt⟩ := htracked.status hphase rfl
  have hcount : finished agent (steps ++ [⟨s, .markRunning worker, s'⟩]) =
      finished agent steps := by
    simp [finished_append, recordedAgent]
  simp only [hmarked, AgentController.markRunning, hmarkedSt, Std.TreeMap.getElem?_insert]
    at hst
  rw [hcount]
  split at hst
  · rename_i hagent
    obtain rfl : entry.agentName = agent := Std.LawfulEqOrd.eq_of_compare hagent
    obtain rfl := Option.some.inj hst
    have hbusy : s'.Busy entry.agentName :=
      ⟨worker, entry, by rw [hactive, if_pos rfl], rfl⟩
    exact ⟨iff_of_true rfl hbusy, (htrue _ marked hmarkedSt).2⟩
  · rename_i hagent
    have hne : entry.agentName ≠ agent := by
      rintro rfl
      exact hagent Std.ReflCmp.compare_self
    have hidle : s.active worker = none := by
      simp [active, entryAt, hphase, WorkerPhase.active]
    obtain ⟨hrunning, htotal⟩ := htrue agent st hst
    refine ⟨hrunning.trans (busy_iff_of_others hactive ?_ ?_).symm, htotal⟩
    · intro entry' hentry'
      rw [hidle] at hentry'
      exact absurd hentry' (by simp)
    · rintro _ ⟨⟩
      exact hne

/-- Recording keeps the statuses true exactly when it happens alone. -/
theorem statusesTrue_recorded_iff {steps : List (Transition Pool Event)} {worker : Nat}
    {clock : Clock} {entry : TaskEntry} {result : TaskResult} (htracked : s.Tracked)
    (htrue : StatusesTrue steps s)
    (hphase : s.workers[worker]? = some (.recording entry result))
    (hrecorded : s'.controller = s.controller.recordResult clock entry result)
    (hactive : ∀ other, s'.active other =
      if other = worker then none else s.active other) :
    StatusesTrue (steps ++ [⟨s, .recordResult worker clock, s'⟩]) s' ↔
      s.RecordsAlone (.recordResult worker clock) := by
  obtain ⟨st, hst⟩ := htracked.status hphase rfl
  obtain ⟨st', hstatuses, hidle, hcounter⟩ :=
    recordResult_counters s.controller clock entry result hst
  have hcount : ∀ agent, finished agent (steps ++ [⟨s, .recordResult worker clock, s'⟩]) =
      finished agent steps + if entry.agentName = agent then 1 else 0 := by
    intro agent
    simp [finished_append, recordedAgent, hphase]
  have hstatus : s.controller.statusOf entry.agentName = st := by
    simp [AgentController.statusOf, hst]
  constructor
  · intro hafter worker' clock' entry' result' hevent hphase'
    obtain ⟨rfl, rfl⟩ := Event.recordResult.inj hevent
    obtain ⟨rfl, rfl⟩ := WorkerPhase.recording.inj (Option.some.inj (hphase.symm.trans hphase'))
    have hnew : s'.controller.statuses[entry.agentName]? = some st' := by
      rw [hrecorded, hstatuses, Std.TreeMap.getElem?_insert_self]
    obtain ⟨hrunning, htotal⟩ := hafter entry.agentName st' hnew
    constructor
    · intro other entry' hother hactive' hagent
      exact hidle (hrunning.mpr ((busy_iff_of_finished hactive).mpr
        ⟨other, entry', hother, hactive', hagent⟩))
    · rw [hstatus, ← hcounter, htotal, hcount, if_pos rfl, (htrue _ st hst).2]
      rfl
  · intro halone agent found hfound
    obtain ⟨hothers, hroom⟩ := halone worker clock entry result rfl hphase
    rw [hrecorded, hstatuses, Std.TreeMap.getElem?_insert] at hfound
    split at hfound
    · rename_i hagent
      obtain rfl : entry.agentName = agent := Std.LawfulEqOrd.eq_of_compare hagent
      obtain rfl := Option.some.inj hfound
      constructor
      · apply iff_of_false hidle
        rw [busy_iff_of_finished hactive]
        rintro ⟨other, entry', hother, hactive', hagent'⟩
        exact hothers other entry' hother hactive' hagent'
      · rw [hstatus] at hroom
        rw [hcounter.mpr hroom, hcount, if_pos rfl, (htrue _ st hst).2]
        rfl
    · rename_i hagent
      have hne : entry.agentName ≠ agent := by
        rintro rfl
        exact hagent Std.ReflCmp.compare_self
      obtain ⟨hrunning, htotal⟩ := htrue agent found hfound
      rw [hcount, if_neg hne]
      refine ⟨hrunning.trans (busy_iff_of_others hactive ?_ (by simp)).symm, htotal⟩
      intro entry' hentry'
      have hsame : some entry = some entry' := by
        rw [← hentry', active, entryAt, hphase]
        rfl
      obtain rfl := Option.some.inj hsame
      exact hne

/-- One step after a history with true statuses. -/
theorem Step.statusesTrue_iff {steps : List (Transition Pool Event)} (hstep : Step s event s')
    (htracked : s.Tracked) (htrue : StatusesTrue steps s) :
    StatusesTrue (steps ++ [⟨s, event, s'⟩]) s' ↔ s.RecordsAlone event := by
  obtain ⟨hsame, hactive, hother⟩ | ⟨worker, entry, rfl, hphase, hmarked, hactive⟩ |
    ⟨worker, clock, entry, result, rfl, hphase, hrecorded, hactive⟩ := hstep.activity
  · apply iff_of_true
    · intro agent st hst
      rw [hsame] at hst
      obtain ⟨hrunning, hcount⟩ := htrue agent st hst
      simp only [finished_append, recordedAgent_eq_none hother, Busy, hactive]
      exact ⟨hrunning, by simpa using hcount⟩
    · intro worker clock entry result hevent
      exact absurd hevent (hother worker clock)
  · apply iff_of_true (statusesTrue_of_marked htracked htrue hphase hmarked hactive)
    intro worker clock entry result hevent
    exact absurd hevent (by simp)
  · exact statusesTrue_recorded_iff htracked htrue hphase hrecorded hactive

end Pool

/-- The statuses of loaded personas. -/
theorem Loaded.statuses {self : AgentController} (hloaded : Loaded self) :
    (∀ agent, self.personas.contains agent = true → self.statuses.contains agent = true) ∧
      ∀ (agent : ByteString) (st : AgentStatus), self.statuses[agent]? = some st →
        st.state = .idle ∧ st.tasksCompleted = 0 ∧ st.tasksFailed = 0 := by
  induction hloaded with
  | constructed hpos => simp
  | enterPersona persona _ ih =>
      obtain ⟨hknown, hidle⟩ := ih
      constructor
      · intro agent hagent
        simp only [AgentController.enterPersona, Std.TreeMap.contains_insert, Bool.or_eq_true]
          at hagent ⊢
        exact hagent.imp id (hknown agent)
      · intro agent st hst
        simp only [AgentController.enterPersona, Std.TreeMap.getElem?_insert] at hst
        split at hst
        · obtain rfl := Option.some.inj hst
          exact ⟨rfl, rfl, rfl⟩
        · exact hidle agent st hst

namespace Pool

theorem loaded_start {s : Pool} (hinit : loadedSystem.Init s) :
    s.Tracked ∧ StatusesTrue [] s := by
  obtain ⟨⟨controller, hqueue, -, -, rfl⟩, hloaded⟩ := hinit
  obtain ⟨hknown, hidle⟩ := hloaded.statuses
  refine ⟨⟨hknown, ?_⟩, ?_⟩
  · rintro entry (hqueued | ⟨worker, hworker⟩)
    · simp [hqueue] at hqueued
    · simp [carried, entryAt] at hworker
  · intro agent st hst
    obtain ⟨hstate, hcompleted, hfailed⟩ := hidle agent st hst
    refine ⟨iff_of_false (by simp [hstate]) ?_, by simp [hcompleted, hfailed, finished]⟩
    rintro ⟨worker, entry, hworker, -⟩
    simp [active, entryAt] at hworker

/-- The statuses are true after every step of a run exactly if every result is recorded
alone. -/
theorem trace_statusesTrue_iff {steps : List (Transition Pool Event)} {s : Pool}
    (htrace : Trace loadedSystem steps s) :
    (∀ before t after, steps = before ++ t :: after → StatusesTrue (before ++ [t]) t.after) ↔
      ∀ t ∈ steps, t.before.RecordsAlone t.label :=
  htrace.forall_prefix_iff (fun _ hinit => loaded_start hinit)
    (fun _ _ _ htracked hstep => Step.tracked hstep htracked)
    (fun _ _ _ _ htracked htrue hstep => Step.statusesTrue_iff hstep htracked htrue)

section Samples

def soloPersona : AgentPersona where
  name := "alert_triage"
  category := "soc"
  preferredModel := .fast
  systemPrompt := "You triage alerts."

/-- Two workers and one agent. -/
def pairController : AgentController :=
  AgentController.enterPersona { workerCount := 2, workerCount_pos := Nat.two_pos } soloPersona

def alertEntry (number : UInt64) : TaskEntry where
  taskId := taskIdText number
  agentName := "alert_triage"
  input := "ping"
  priority := .normal
  enqueuedAtMs := 0

def alertResult : TaskResult where
  taskId := "task_1"
  agentName := "alert_triage"
  ok := true
  completedAtMs := 1700000000000

def alertClock : Clock := ⟨1700000000000, "2023-11-14T22:13:20Z"⟩

def submittedPool : Pool where
  controller :=
    { pairController with queue := [alertEntry 2, alertEntry 1], nextTaskId := 3 }
  submitted := [alertEntry 1, alertEntry 2]

theorem submitted_run :
    ∃ steps, Trace loadedSystem steps submittedPool ∧
      ∀ t ∈ steps, ∀ worker clock, t.label ≠ .recordResult worker clock := by
  have hloaded : Loaded pairController := .enterPersona soloPersona (.constructed _)
  have hfresh : Fresh { controller := pairController } :=
    ⟨pairController, rfl, rfl, rfl, rfl⟩
  have hknown : pairController.personas.contains "alert_triage" = true := by
    simp [pairController, AgentController.enterPersona, soloPersona]
  have hstart : Trace loadedSystem [] { controller := pairController } :=
    .start ⟨hfresh, hloaded⟩
  have hfirst := hstart.extend
    (@Step.submit _ 0 "alert_triage" "ping" .normal none [] rfl hknown (.nobody (by simp)))
  simp only [AgentController.submitTask, hknown, if_true] at hfirst
  have hsecond := hfirst.extend
    (@Step.submit _ 0 "alert_triage" "ping" .normal none [] rfl hknown (.nobody (by simp)))
  simp only [AgentController.submitTask, hknown, if_true] at hsecond
  refine ⟨_, hsecond, ?_⟩
  intro t ht worker clock
  simp only [List.mem_append, List.mem_singleton, List.not_mem_nil, false_or] at ht
  rcases ht with rfl | rfl
  all_goals simp

/-- Both tasks are executed at once. -/
theorem overlapping_run :
    ∃ steps s, Trace loadedSystem steps s ∧
      (∀ t ∈ steps, ∀ worker clock, t.label ≠ .recordResult worker clock) ∧
      s.mutex = none ∧
      s.workers = [.executing (alertEntry 1), .executing (alertEntry 2)] := by
  obtain ⟨steps, hsubmitted, hothers⟩ := submitted_run
  have hstarted := hsubmitted.extend (.start rfl)
  have htaken₀ := ((hstarted.extend (@Step.enterLoop _ 0 rfl rfl)).extend
    (@Step.lock _ 0 rfl rfl)).extend (@Step.take _ 0 (alertEntry 1) rfl (by decide))
  have htaken₁ := ((htaken₀.extend (@Step.enterLoop _ 1 rfl rfl)).extend
    (@Step.lock _ 1 rfl rfl)).extend (@Step.take _ 1 (alertEntry 2) rfl (by decide))
  have hmarked := (htaken₁.extend (@Step.markRunning _ 0 _ rfl rfl)).extend
    (@Step.markRunning _ 1 _ rfl rfl)
  refine ⟨_, _, hmarked, ?_, rfl, rfl⟩
  intro t ht
  simp only [List.mem_append, List.mem_singleton] at ht
  rcases ht with ((((((((ht | rfl) | rfl) | rfl) | rfl) | rfl) | rfl) | rfl) | rfl) | rfl
  · exact hothers t ht
  all_goals simp

theorem overlapping_run_statusesTrue :
    ∃ steps s, Trace loadedSystem steps s ∧ s.Busy "alert_triage" ∧
      ∀ before t after, steps = before ++ t :: after →
        StatusesTrue (before ++ [t]) t.after := by
  obtain ⟨steps, s, htrace, hothers, -, hworkers⟩ := overlapping_run
  refine ⟨steps, s, htrace, ⟨0, alertEntry 1, ?_, rfl⟩,
    (trace_statusesTrue_iff htrace).mpr fun t ht worker clock entry result hevent => ?_⟩
  · simp [active, entryAt, hworkers, WorkerPhase.active]
  · exact absurd hevent (hothers t ht worker clock)

/-- The first of the two tasks to finish takes the agent out of the running state. -/
theorem overlapping_tasks_hide_running :
    ∃ s, Reachable loadedSystem s ∧ s.Busy "alert_triage" ∧
      ∃ st, s.controller.statuses[("alert_triage" : ByteString)]? = some st ∧
        st.state = .completed := by
  obtain ⟨steps, s, htrace, -, hmutex, hworkers⟩ := overlapping_run
  have hexecuting : s.workers[0]? = some (.executing (alertEntry 1)) := by simp [hworkers]
  have hexecuted := htrace.extend (@Step.execute _ 0 _ alertResult hexecuting)
  have hrecording : (s.workers.set 0 (.recording (alertEntry 1) alertResult))[0]? =
      some (.recording (alertEntry 1) alertResult) := by simp [hworkers]
  have hrecorded := hexecuted.extend
    (@Step.recordResult _ 0 _ _ alertClock hrecording hmutex)
  refine ⟨_, ⟨_, hrecorded⟩, ⟨1, alertEntry 2, ?_, rfl⟩, ?_⟩
  · simp [active, entryAt, moveTo, hworkers, WorkerPhase.active]
  · exact AgentController.recordResult_statuses _ alertClock (alertEntry 1) alertResult

end Samples

end Pool

end Astartis.Agents
