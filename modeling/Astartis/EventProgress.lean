import Astartis.EventDelivery

/-!
The wake-ups of the worker, and what is left to do for the threads of a bus.
-/

namespace Astartis.Events

open TransitionSystem

namespace AsyncBus

variable {E : Type} {s s' : AsyncBus E} {action : Action E}

/-! Wake-ups. -/

/-- The predicate that the worker waits for. -/
def Ready (s : AsyncBus E) : Prop :=
  s.queue ≠ [] ∨ s.stopWorker = true

/-- Somebody is about to notify. -/
def Pending (s : AsyncBus E) : Prop :=
  (∃ call ∈ s.calls, call.phase = .notifying) ∨ s.destructor = .notifying

/-- The worker has found nothing to do, and sleeps or is about to. -/
def Parked (s : AsyncBus E) : Prop :=
  .blocking ∈ s.workers ∨ .blocked ∈ s.workers

theorem parked_of_set {worker : Nat} {phase : WorkerPhase E} (hblocking : phase ≠ .blocking)
    (hblocked : phase ≠ .blocked) (hworkers : s'.workers = s.workers.set worker phase)
    (hparked : s'.Parked) : s.Parked := by
  rw [Parked, hworkers] at hparked
  refine hparked.imp (fun hmem => ?_) fun hmem => ?_
  · exact (List.mem_or_eq_of_mem_set hmem).resolve_right hblocking.symm
  · exact (List.mem_or_eq_of_mem_set hmem).resolve_right hblocked.symm

theorem not_blocked_of_wake : .blocked ∉ s.workers.map WorkerPhase.wake := by
  intro hmem
  obtain ⟨before, -, hwake⟩ := List.mem_map.mp hmem
  cases before <;> exact absurd hwake (by simp [WorkerPhase.wake])

/-- The worker parks only while there is nothing to do. -/
theorem Step.parked_of_ready (hstep : Step s action s') (hready : s.Ready)
    (hparked : s'.Parked) : s.Parked := by
  cases hstep with
  | publishAsync _ => exact hparked
  | ensureWorkerRunning _ _ =>
      exact hparked.imp (mem_ensureWorkerRunning (by simp)) (mem_ensureWorkerRunning (by simp))
  | push _ _ => exact hparked
  | notifyOne _ hnotify =>
      cases hnotify with
      | nobody _ => exact hparked
      | woken _ => exact parked_of_set (by simp) (by simp) rfl hparked
  | destroyIdle _ _ _ => exact hparked
  | destroy _ _ _ => exact hparked
  | stopWorker _ _ => exact hparked
  | notifyAll _ => exact hparked.imp (mem_of_mem_wake (by simp)) (mem_of_mem_wake (by simp))
  | join _ _ => exact hparked
  | lock _ _ => exact parked_of_set (by simp) (by simp) rfl hparked
  | take _ _ => exact parked_of_set (by simp) (by simp) rfl hparked
  | breakLoop _ _ _ => exact parked_of_set (by simp) (by simp) rfl hparked
  | wait _ hempty hstop => exact absurd hready (by simp [Ready, hempty, hstop])
  | block hphase => exact .inl (List.mem_of_getElem? hphase)
  | spuriousWake _ => exact parked_of_set (by simp) (by simp) rfl hparked
  | dispatch _ => exact parked_of_set (by simp) (by simp) rfl hparked

theorem mem_set_self {calls : List (PublishCall E)} {call : Nat} {before after : PublishCall E}
    (hcall : calls[call]? = some before) : after ∈ calls.set call after :=
  List.mem_set (List.getElem?_eq_some_iff.mp hcall).1 after

/-- There is something to do only along with a notification of it. -/
theorem Step.pending_of_ready (hstep : Step s action s') (hready : s'.Ready) :
    s.Ready ∨ s'.Pending := by
  cases hstep with
  | publishAsync _ => exact .inl hready
  | ensureWorkerRunning _ _ =>
      obtain ⟨hqueue, -, hstop, -, -, -⟩ := ensureWorkerRunning_eq s
      left
      rw [Ready, ← hqueue, ← hstop]
      exact hready
  | push _ hcall => exact .inr (.inl ⟨_, mem_set_self hcall, rfl⟩)
  | notifyOne _ _ => exact .inl hready
  | destroyIdle _ _ _ => exact .inl hready
  | destroy _ _ _ => exact .inl hready
  | stopWorker _ _ => exact .inr (.inr rfl)
  | notifyAll _ => exact .inl hready
  | join _ _ => exact .inl hready
  | lock _ _ => exact .inl hready
  | take _ hqueue => exact .inl (.inl (by simp [hqueue]))
  | breakLoop _ _ _ => exact .inl hready
  | wait _ _ _ => exact .inl hready
  | block _ => exact .inl hready
  | spuriousWake _ => exact .inl hready
  | dispatch _ => exact .inl hready

/-- A call that moves on is not the one that is about to notify. -/
theorem pending_set {calls : List (PublishCall E)} {call : Nat} {before after : PublishCall E}
    (hcall : calls[call]? = some before) (hbefore : before.phase ≠ .notifying)
    (hpending : ∃ call ∈ calls, call.phase = .notifying) :
    ∃ other ∈ calls.set call after, other.phase = .notifying := by
  obtain ⟨other, hother, hphase⟩ := hpending
  obtain ⟨i, hi⟩ := List.getElem?_of_mem hother
  have hne : call ≠ i := by
    rintro rfl
    rw [hcall] at hi
    exact hbefore (Option.some.inj hi ▸ hphase)
  exact ⟨other, List.mem_of_getElem? (by rw [List.getElem?_set_ne hne, hi]), hphase⟩

/-- A worker for whom there is something to do is not between the test and the wait. -/
theorem Sound.not_parked_of_ready (hsound : s.Sound) (hready : s.Ready)
    (hblocked : .blocked ∉ s.workers) : ¬ s.Parked := by
  rintro (hblocking | hmem)
  · obtain ⟨hempty, hclear⟩ := hsound.seen.blocking hblocking
    exact absurd hready (by simp [Ready, hempty, hclear])
  · exact hblocked hmem

/-- A notification that is given reaches the worker. -/
theorem Step.notified (hsound : s.Sound) (hstep : Step s action s') (hpending : s.Pending)
    (hready : s'.Ready) : s'.Pending ∨ ¬ s'.Parked := by
  have hsound' := hstep.sound hsound
  cases hstep with
  | publishAsync _ =>
      refine .inl (hpending.imp_left ?_)
      rintro ⟨call, hcall, hphase⟩
      exact ⟨call, List.mem_append_left _ hcall, hphase⟩
  | ensureWorkerRunning _ hcall =>
      obtain ⟨-, hcalls, -, hdestructor, -, -⟩ := ensureWorkerRunning_eq s
      left
      rw [Pending, advance, hcalls, hdestructor]
      exact hpending.imp_left (pending_set hcall (by simp))
  | push _ hcall => exact .inl (.inl ⟨_, mem_set_self hcall, rfl⟩)
  | notifyOne _ hnotify =>
      right
      cases hnotify with
      | nobody hnone => exact hsound'.not_parked_of_ready hready hnone
      | woken hblocked =>
          obtain ⟨rfl, honly, -, -⟩ := hsound.exclusive.single hblocked
          simp [Parked, honly]
  | destroyIdle halive hreturned _ =>
      rcases hpending with ⟨call, hcall, hphase⟩ | hphase
      · exact absurd (hreturned call hcall) (by simp [hphase])
      · exact absurd halive (by simp [hphase])
  | destroy halive hreturned _ =>
      rcases hpending with ⟨call, hcall, hphase⟩ | hphase
      · exact absurd (hreturned call hcall) (by simp [hphase])
      · exact absurd halive (by simp [hphase])
  | stopWorker _ _ => exact .inl (.inr rfl)
  | notifyAll _ => exact .inr (hsound'.not_parked_of_ready hready not_blocked_of_wake)
  | join hjoining _ =>
      rcases hpending with ⟨call, hcall, hphase⟩ | hphase
      · have hreturned := hsound.closed.calls (by simp [hjoining]) call hcall
        exact absurd hreturned (by simp [hphase])
      · exact absurd hjoining (by simp [hphase])
  | lock _ _ => exact .inl hpending
  | take _ _ => exact .inl hpending
  | breakLoop _ _ _ => exact .inl hpending
  | wait _ _ _ => exact .inl hpending
  | block _ => exact .inl hpending
  | spuriousWake _ => exact .inl hpending
  | dispatch _ => exact .inl hpending

theorem trace_not_parked {steps : List (Transition (AsyncBus E) (Action E))}
    (htrace : Trace (system E) steps s) : s.Ready → s.Pending ∨ ¬ s.Parked := by
  have hsound : ∀ t ∈ steps, t.before.Sound := by
    intro t ht
    obtain ⟨before, after, rfl⟩ := List.append_of_mem ht
    exact sound_of_trace htrace.split.1
  refine htrace.not_parked (G := fun s _ => s.Sound) ?_ ?_ ?_ ?_ hsound
  · rintro s rfl
    simp [Parked]
  · intro s action s' hstep hready hparked
    exact Step.parked_of_ready hstep hready hparked
  · intro s action s' hstep hready
    exact Step.pending_of_ready hstep hready
  · intro s action s' hsound hstep hpending hready
    exact Step.notified hsound hstep hpending hready

end AsyncBus

/-! What is left to do. -/

def PublishPhase.remaining : PublishPhase → Nat
  | .ensuring => 12
  | .pushing => 8
  | .notifying => 4
  | .returned => 0

def WorkerPhase.remaining {E : Type} : WorkerPhase E → Nat
  | .dispatching _ => 4
  | .locking => 3
  | .testing => 2
  | .blocking => 1
  | .blocked => 0
  | .exited => 0

def DestructorPhase.remaining : DestructorPhase → Nat
  | .stopping => 6
  | .notifying => 5
  | .joining => 1
  | .notCalled => 0
  | .returned => 0

namespace AsyncBus

variable {E : Type} {s s' : AsyncBus E} {action : Action E}

def callsLeft (calls : List (PublishCall E)) : Nat :=
  (calls.map (·.phase.remaining)).sum

def workersLeft (workers : List (WorkerPhase E)) : Nat :=
  (workers.map WorkerPhase.remaining).sum

/-- A bound on the steps that the threads take of their own accord. -/
def remaining (s : AsyncBus E) : Nat :=
  callsLeft s.calls + 3 * s.queue.length + workersLeft s.workers + s.destructor.remaining

/-- Neither a new call nor a wake-up that nobody gave. -/
def Action.Inner : Action E → Prop
  | .publishAsync _ => False
  | .destroy => False
  | .spuriousWake _ => False
  | _ => True

theorem sum_map_set {α : Type} (f : α → Nat) {xs : List α} {i : Nat} {x : α}
    (hx : xs[i]? = some x) (y : α) :
    ((xs.set i y).map f).sum + f x = (xs.map f).sum + f y := by
  induction xs generalizing i with
  | nil => simp at hx
  | cons head xs ih =>
      cases i with
      | zero =>
          obtain rfl : head = x := by simpa using hx
          simp only [List.set_cons_zero, List.map_cons, List.sum_cons]
          omega
      | succ i =>
          have htail := ih (by simpa using hx)
          simp only [List.set_cons_succ, List.map_cons, List.sum_cons]
          omega

theorem callsLeft_set {calls : List (PublishCall E)} {call : Nat} {before : PublishPhase}
    {event : E} (hcall : calls[call]? = some ⟨before, event⟩) (after : PublishPhase) :
    callsLeft (calls.set call ⟨after, event⟩) + before.remaining =
      callsLeft calls + after.remaining :=
  sum_map_set (fun call : PublishCall E => call.phase.remaining) hcall ⟨after, event⟩

theorem workersLeft_set {workers : List (WorkerPhase E)} {worker : Nat} {before : WorkerPhase E}
    (hphase : workers[worker]? = some before) (after : WorkerPhase E) :
    workersLeft (workers.set worker after) + before.remaining =
      workersLeft workers + after.remaining :=
  sum_map_set WorkerPhase.remaining hphase after

theorem workersLeft_ensureWorkerRunning (s : AsyncBus E) :
    workersLeft s.ensureWorkerRunning.workers ≤ workersLeft s.workers + 3 := by
  rw [ensureWorkerRunning]
  split
  · omega
  · simp [workersLeft, WorkerPhase.remaining]

/-- A notification of all wakes one worker at most. -/
theorem Exclusive.workersLeft_wake (hexclusive : s.Exclusive) :
    workersLeft (s.workers.map WorkerPhase.wake) ≤ workersLeft s.workers + 3 := by
  obtain ⟨hnone, -, -⟩ | ⟨phase, hworkers, -, -⟩ := hexclusive
  · simp [hnone]
  · rw [hworkers]
    cases phase <;> simp [workersLeft, WorkerPhase.wake, WorkerPhase.remaining]

/-- Every step that a thread takes of its own accord leaves less to do. -/
theorem Step.remaining_lt (hinner : action.Inner) (hexclusive : s.Exclusive)
    (hstep : Step s action s') : s'.remaining < s.remaining := by
  cases hstep with
  | publishAsync _ => exact hinner.elim
  | ensureWorkerRunning _ hcall =>
      have hcalls : _ + 12 = _ + 8 := callsLeft_set hcall .pushing
      have hworkers := workersLeft_ensureWorkerRunning s
      obtain ⟨hqueue, hsame, -, hdestructor, -, -⟩ := ensureWorkerRunning_eq s
      simp only [remaining, advance, hqueue, hsame, hdestructor]
      omega
  | push _ hcall =>
      have hcalls : _ + 8 = _ + 4 := callsLeft_set hcall .notifying
      simp only [remaining, advance, List.length_append, List.length_singleton]
      omega
  | notifyOne hcall hnotify =>
      have hcalls : _ + 4 = _ + 0 := callsLeft_set hcall .returned
      cases hnotify with
      | nobody _ =>
          simp only [remaining, advance]
          omega
      | woken hblocked =>
          have hworkers : _ + 0 = _ + 3 := workersLeft_set hblocked .locking
          simp only [remaining, advance]
          omega
  | destroyIdle _ _ _ => exact hinner.elim
  | destroy _ _ _ => exact hinner.elim
  | stopWorker _ hphase =>
      simp only [remaining, hphase, DestructorPhase.remaining]
      omega
  | notifyAll hphase =>
      have hworkers := hexclusive.workersLeft_wake
      simp only [remaining, hphase, DestructorPhase.remaining]
      omega
  | join hphase _ =>
      simp only [remaining, hphase, DestructorPhase.remaining]
      omega
  | lock hphase _ =>
      have hworkers : _ + 3 = _ + 2 := workersLeft_set hphase .testing
      simp only [remaining, moveTo]
      omega
  | @take worker event rest hphase hqueue =>
      have hworkers : _ + 2 = _ + 4 := workersLeft_set hphase (.dispatching event)
      simp only [remaining, moveTo, hqueue, List.length_cons]
      omega
  | breakLoop hphase _ _ =>
      have hworkers : _ + 2 = _ + 0 := workersLeft_set hphase .exited
      simp only [remaining, moveTo]
      omega
  | wait hphase _ _ =>
      have hworkers : _ + 2 = _ + 1 := workersLeft_set hphase .blocking
      simp only [remaining, moveTo]
      omega
  | block hphase =>
      have hworkers : _ + 1 = _ + 0 := workersLeft_set hphase .blocked
      simp only [remaining, moveTo]
      omega
  | spuriousWake _ => exact hinner.elim
  | dispatch hphase =>
      have hworkers : _ + 4 = _ + 3 := workersLeft_set hphase .locking
      simp only [remaining, moveTo]
      omega

/-- Something is on its way: an event, a call or the destructor. -/
def Unfinished (s : AsyncBus E) : Prop :=
  s.held ++ s.queue ≠ [] ∨ (∃ call ∈ s.calls, call.phase ≠ .returned) ∨
    (s.destructor ≠ .notCalled ∧ s.destructor ≠ .returned)

theorem exists_notifyOne (workers : List (WorkerPhase E)) :
    ∃ woken workers', NotifyOne workers woken workers' := by
  by_cases hblocked : .blocked ∈ workers
  · obtain ⟨worker, hworker⟩ := List.getElem?_of_mem hblocked
    exact ⟨_, _, .woken hworker⟩
  · exact ⟨_, _, .nobody hblocked⟩

/-- A thread can take a step of its own accord. -/
def Live (s : AsyncBus E) : Prop :=
  ∃ (action : Action E) (s' : AsyncBus E), Step s action s' ∧ action.Inner

/-- Whoever has the mutex gives it back. -/
theorem Exclusive.live_of_mutex (hexclusive : s.Exclusive) (hmutex : s.mutex ≠ none) : s.Live := by
  obtain ⟨-, -, hfree⟩ | ⟨phase, hworkers, -, howned⟩ := hexclusive
  · exact absurd hfree hmutex
  · have hphase : s.workers[0]? = some phase := by rw [hworkers]; rfl
    cases phase with
    | testing =>
        cases hqueue : s.queue with
        | nil =>
            cases hstop : s.stopWorker with
            | false => exact ⟨_, _, .wait hphase hqueue hstop, trivial⟩
            | true => exact ⟨_, _, .breakLoop hphase hqueue hstop, trivial⟩
        | cons event rest => exact ⟨_, _, .take hphase hqueue, trivial⟩
    | blocking => exact ⟨_, _, .block hphase, trivial⟩
    | _ => exact absurd howned hmutex

theorem live_of_call (hmutex : s.mutex = none) {call : PublishCall E} (hcall : call ∈ s.calls)
    (hphase : call.phase ≠ .returned) : s.Live := by
  obtain ⟨i, hi⟩ := List.getElem?_of_mem hcall
  obtain ⟨phase, event⟩ := call
  cases phase with
  | ensuring => exact ⟨_, _, .ensureWorkerRunning hmutex hi, trivial⟩
  | pushing => exact ⟨_, _, .push hmutex hi, trivial⟩
  | notifying =>
      obtain ⟨woken, workers, hnotify⟩ := exists_notifyOne s.workers
      exact ⟨_, _, .notifyOne hi hnotify, trivial⟩
  | returned => exact absurd rfl hphase

/-- A worker that has not left goes on, unless it sleeps. -/
theorem Exclusive.live_of_worker (hexclusive : s.Exclusive) (hmutex : s.mutex = none)
    {phase : WorkerPhase E} (hphase : phase ∈ s.workers) (hparked : ¬ s.Parked)
    (hexited : phase ≠ .exited) : s.Live := by
  obtain ⟨worker, hworker⟩ := List.getElem?_of_mem hphase
  cases phase with
  | locking => exact ⟨_, _, .lock hworker hmutex, trivial⟩
  | testing =>
      have howned := (hexclusive.of_mem hphase).2.2
      exact absurd (howned.symm.trans hmutex) (by simp [WorkerPhase.inside])
  | blocking => exact absurd (.inl hphase) hparked
  | blocked => exact absurd (.inr hphase) hparked
  | dispatching event => exact ⟨_, _, .dispatch hworker, trivial⟩
  | exited => exact absurd rfl hexited

/-- An event that is on its way has a worker, which goes on. -/
theorem Sound.live_of_events (hsound : s.Sound) (hmutex : s.mutex = none)
    (hawake : s.Ready → ¬ s.Parked) (hevents : s.held ++ s.queue ≠ []) : s.Live := by
  have hpushed : s.pushed ≠ [] := by
    rw [← hsound.delivered, List.append_assoc]
    exact List.append_ne_nil_of_right_ne_nil _ hevents
  have hstarted := hsound.begun.pushed hpushed
  obtain ⟨-, hnot, -⟩ | ⟨phase, hworkers, -, -⟩ := hsound.exclusive
  · rw [hnot] at hstarted
    exact absurd hstarted (by simp)
  have hphase : phase ∈ s.workers := by simp [hworkers]
  by_cases hqueue : s.queue = []
  · rw [hqueue, List.append_nil, held_of_workers hworkers] at hevents
    cases phase with
    | dispatching event =>
        have hworker : s.workers[0]? = some (.dispatching event) := by rw [hworkers]; rfl
        exact ⟨_, _, .dispatch hworker, trivial⟩
    | _ => exact absurd rfl hevents
  · refine hsound.exclusive.live_of_worker hmutex hphase (hawake (.inl hqueue)) ?_
    rintro rfl
    exact hqueue (hsound.seen.exited hphase).1

/-- While something is on its way, nobody waits for what does not come. -/
theorem Sound.live (hsound : s.Sound) (hwoken : s.Ready → s.Pending ∨ ¬ s.Parked)
    (hunfinished : s.Unfinished) : s.Live := by
  by_cases hmutex : s.mutex = none
  swap
  · exact hsound.exclusive.live_of_mutex hmutex
  by_cases hcalls : ∃ call ∈ s.calls, call.phase ≠ .returned
  · obtain ⟨call, hcall, hphase⟩ := hcalls
    exact live_of_call hmutex hcall hphase
  have hawake : s.destructor ≠ .notifying → s.Ready → ¬ s.Parked := by
    intro hdestructor hready
    refine (hwoken hready).resolve_left ?_
    rintro (⟨call, hcall, hphase⟩ | hphase)
    · exact hcalls ⟨call, hcall, by simp [hphase]⟩
    · exact hdestructor hphase
  cases hdestructor : s.destructor with
  | stopping => exact ⟨_, _, .stopWorker hmutex hdestructor, trivial⟩
  | notifying => exact ⟨_, _, .notifyAll hdestructor, trivial⟩
  | joining =>
      have hstop := hsound.closed.stopped (.inr hdestructor)
      have hparked := hawake (by simp [hdestructor]) (.inr hstop)
      by_cases hexited : ∀ phase ∈ s.workers, phase = .exited
      · exact ⟨_, _, .join hdestructor hexited, trivial⟩
      · obtain ⟨phase, hrest⟩ := not_forall.mp hexited
        obtain ⟨hphase, hne⟩ := Classical.not_imp.mp hrest
        exact hsound.exclusive.live_of_worker hmutex hphase hparked hne
  | notCalled =>
      rcases hunfinished with hevents | hcall | ⟨hcalled, -⟩
      · exact hsound.live_of_events hmutex (hawake (by simp [hdestructor])) hevents
      · exact absurd hcall hcalls
      · exact absurd hdestructor hcalled
  | returned =>
      rcases hunfinished with hevents | hcall | ⟨-, hcalled⟩
      · exact hsound.live_of_events hmutex (hawake (by simp [hdestructor])) hevents
      · exact absurd hcall hcalls
      · exact absurd hdestructor hcalled

/-! The events of a run. -/

theorem Sound.length_workers (hsound : s.Sound) : s.workers.length ≤ 1 := by
  obtain ⟨hnone, -, -⟩ | ⟨phase, hworkers, -, -⟩ := hsound.exclusive
  · simp [hnone]
  · simp [hworkers]

/-- After the destructor the events were dispatched in the order in which they were pushed, each
event of a call once. -/
theorem Sound.dispatched_of_returned (hsound : s.Sound) (hreturned : s.destructor = .returned) :
    s.dispatched = s.pushed ∧ (s.dispatched : Multiset E) = s.published := by
  have hdispatched : s.dispatched = s.pushed := by
    have hdelivered := hsound.delivered
    obtain ⟨-, hnot, -⟩ | ⟨phase, hworkers, -, -⟩ := hsound.exclusive
    · have hpushed : s.pushed = [] := by
        by_contra hpushed
        rw [hsound.begun.pushed hpushed] at hnot
        exact absurd hnot (by simp)
      rw [Delivered, hpushed, List.append_eq_nil_iff, List.append_eq_nil_iff] at hdelivered
      rw [hpushed, hdelivered.1.1]
    · have hexited : phase = .exited := hsound.seen.returned hreturned phase (by simp [hworkers])
      have hempty := (hsound.seen.exited (by simp [hworkers, hexited])).1
      have hheld : s.held = [] := by rw [held_of_workers hworkers, hexited]; rfl
      rwa [Delivered, hheld, hempty, List.append_nil, List.append_nil] at hdelivered
  have hunpushed : s.unpushed = [] := by
    rw [unpushed, List.flatMap_eq_nil_iff]
    intro call hcall
    have hphase := hsound.closed.calls (by simp [hreturned]) call hcall
    obtain ⟨phase, event⟩ := call
    subst hphase
    rfl
  have haccounted := hsound.accounted
  rw [Accounted, hunpushed, Multiset.coe_nil, add_zero] at haccounted
  exact ⟨hdispatched, by rw [hdispatched, haccounted]⟩

/-- In every run one worker is started at most, the events are dispatched once and in the order
of the queue, all of them before the destructor returns, and no wake-up is lost: whoever waits
is notified, something can go on while something is on its way, and less of it is left. -/
theorem events_dispatched {steps : List (Transition (AsyncBus E) (Action E))}
    (htrace : Trace (system E) steps s) :
    s.workers.length ≤ 1 ∧ s.dispatched ++ s.held ++ s.queue = s.pushed ∧
      (s.pushed : Multiset E) + s.unpushed = s.published ∧
      (s.destructor = .returned →
        s.dispatched = s.pushed ∧ (s.dispatched : Multiset E) = s.published) ∧
      (s.Ready → s.Pending ∨ ¬ s.Parked) ∧ (s.Unfinished → s.Live) ∧
      ∀ action s', Step s action s' → action.Inner → s'.remaining < s.remaining := by
  have hsound := sound_of_trace htrace
  have hwoken := trace_not_parked htrace
  exact ⟨hsound.length_workers, hsound.delivered, hsound.accounted,
    hsound.dispatched_of_returned, hwoken, hsound.live hwoken,
    fun action s' hstep hinner => hstep.remaining_lt hinner hsound.exclusive⟩

/-- One event is published, and the bus destroyed while it is dispatched. -/
theorem last_event_dispatched :
    ∃ (steps : List (Transition (AsyncBus Nat) (Action Nat))) (s : AsyncBus Nat),
      Trace (system Nat) steps s ∧ s.destructor = .returned ∧ s.dispatched = [7] ∧
        s.dispatched = s.pushed := by
  have h0 : Trace (system Nat) [] {} := .start rfl
  have h1 := h0.extend (@Step.publishAsync _ _ 7 rfl)
  have h2 := h1.extend (@Step.ensureWorkerRunning _ _ 0 7 rfl rfl)
  have h3 := h2.extend (@Step.push _ _ 0 7 rfl rfl)
  have h4 := h3.extend (@Step.lock _ _ 0 rfl rfl)
  have h5 := h4.extend (@Step.take _ _ 0 7 [] rfl rfl)
  have h6 := h5.extend (@Step.notifyOne _ _ 0 7 none _ rfl (.nobody (by decide)))
  have h7 := h6.extend (@Step.destroy _ _ rfl (by decide) (by decide))
  have h8 := h7.extend (@Step.stopWorker _ _ rfl rfl)
  have h9 := h8.extend (@Step.notifyAll _ _ rfl)
  have h10 := h9.extend (@Step.dispatch _ _ 0 7 rfl)
  have h11 := h10.extend (@Step.lock _ _ 0 rfl rfl)
  have h12 := h11.extend (@Step.breakLoop _ _ 0 rfl rfl rfl)
  have h13 := h12.extend (@Step.join _ _ rfl (by decide))
  exact ⟨_, _, h13, rfl, rfl, ((events_dispatched h13).2.2.2.1 rfl).1⟩

end AsyncBus

end Astartis.Events
