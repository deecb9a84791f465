import Astartis.EventQueue

/-!
What becomes of the events that are published asynchronously, over all interleavings of their
callers, the worker and the destructor.
-/

namespace Astartis.Events

open TransitionSystem

/-- The event of a call that has not pushed it yet. -/
def PublishCall.unpushed {E : Type} : PublishCall E → List E
  | ⟨.ensuring, event⟩ => [event]
  | ⟨.pushing, event⟩ => [event]
  | _ => []

namespace AsyncBus

variable {E : Type} {s s' : AsyncBus E} {action : Action E}

/-- The event that the worker has taken and not yet dispatched. -/
def held (s : AsyncBus E) : List E :=
  s.workers.flatMap WorkerPhase.held

def published (s : AsyncBus E) : List E :=
  s.calls.map (·.event)

def unpushed (s : AsyncBus E) : List E :=
  s.calls.flatMap PublishCall.unpushed

/-! One worker at most, which has the mutex exactly inside its section. -/

def Exclusive (s : AsyncBus E) : Prop :=
  (s.workers = [] ∧ s.workerStarted = false ∧ s.mutex = none) ∨
    ∃ phase, s.workers = [phase] ∧ s.workerStarted = true ∧
      s.mutex = if phase.inside then some 0 else none

theorem Exclusive.single (hexclusive : s.Exclusive) {worker : Nat} {phase : WorkerPhase E}
    (hphase : s.workers[worker]? = some phase) :
    worker = 0 ∧ s.workers = [phase] ∧ s.workerStarted = true ∧
      s.mutex = if phase.inside then some 0 else none := by
  obtain ⟨hnone, -, -⟩ | ⟨only, honly, hstarted, hmutex⟩ := hexclusive
  · rw [hnone] at hphase
    simp at hphase
  · rw [honly, List.getElem?_singleton] at hphase
    split at hphase
    · rename_i hworker
      obtain rfl := Option.some.inj hphase
      exact ⟨hworker, honly, hstarted, hmutex⟩
    · simp at hphase

theorem Exclusive.of_mem (hexclusive : s.Exclusive) {phase : WorkerPhase E}
    (hphase : phase ∈ s.workers) : s.workers = [phase] ∧ s.workerStarted = true ∧
      s.mutex = if phase.inside then some 0 else none := by
  obtain ⟨worker, hworker⟩ := List.getElem?_of_mem hphase
  exact (hexclusive.single hworker).2

theorem Exclusive.ensureWorkerRunning (hexclusive : s.Exclusive) :
    s.ensureWorkerRunning.Exclusive ∧ s.ensureWorkerRunning.workerStarted = true := by
  obtain ⟨hnone, hstarted, hmutex⟩ | ⟨phase, hworkers, hstarted, hmutex⟩ := hexclusive
  · rw [AsyncBus.ensureWorkerRunning, if_neg (by simp [hstarted])]
    exact ⟨.inr ⟨.locking, by simp [hnone], rfl, hmutex⟩, rfl⟩
  · rw [AsyncBus.ensureWorkerRunning, if_pos hstarted]
    exact ⟨.inr ⟨phase, hworkers, hstarted, hmutex⟩, hstarted⟩

theorem Step.exclusive (hstep : Step s action s') (hexclusive : s.Exclusive) : s'.Exclusive := by
  cases hstep with
  | publishAsync _ => exact hexclusive
  | ensureWorkerRunning _ _ => exact hexclusive.ensureWorkerRunning.1
  | push _ _ => exact hexclusive
  | notifyOne hcall hnotify =>
      cases hnotify with
      | nobody _ => exact hexclusive
      | woken hblocked =>
          obtain ⟨rfl, hworkers, hstarted, hmutex⟩ := hexclusive.single hblocked
          exact .inr ⟨.locking, by simp [hworkers], hstarted, hmutex⟩
  | destroyIdle _ _ _ => exact hexclusive
  | destroy _ _ _ => exact hexclusive
  | stopWorker _ _ => exact hexclusive
  | notifyAll _ =>
      obtain ⟨hnone, hstarted, hmutex⟩ | ⟨phase, hworkers, hstarted, hmutex⟩ := hexclusive
      · exact .inl ⟨by simp [hnone], hstarted, hmutex⟩
      · have hinside : phase.wake.inside = phase.inside := by cases phase <;> rfl
        exact .inr ⟨phase.wake, by simp [hworkers], hstarted, by rw [hinside]; exact hmutex⟩
  | join _ _ => exact hexclusive
  | lock hphase _ =>
      obtain ⟨rfl, hworkers, hstarted, -⟩ := hexclusive.single hphase
      exact .inr ⟨.testing, by simp [moveTo, hworkers], hstarted, rfl⟩
  | @take worker event rest hphase _ =>
      obtain ⟨rfl, hworkers, hstarted, -⟩ := hexclusive.single hphase
      exact .inr ⟨.dispatching event, by simp [moveTo, hworkers], hstarted, rfl⟩
  | breakLoop hphase _ _ =>
      obtain ⟨rfl, hworkers, hstarted, -⟩ := hexclusive.single hphase
      exact .inr ⟨.exited, by simp [moveTo, hworkers], hstarted, rfl⟩
  | wait hphase _ _ =>
      obtain ⟨rfl, hworkers, hstarted, hmutex⟩ := hexclusive.single hphase
      exact .inr ⟨.blocking, by simp [moveTo, hworkers], hstarted, hmutex⟩
  | block hphase =>
      obtain ⟨rfl, hworkers, hstarted, -⟩ := hexclusive.single hphase
      exact .inr ⟨.blocked, by simp [moveTo, hworkers], hstarted, rfl⟩
  | spuriousWake hphase =>
      obtain ⟨rfl, hworkers, hstarted, hmutex⟩ := hexclusive.single hphase
      exact .inr ⟨.locking, by simp [moveTo, hworkers], hstarted, hmutex⟩
  | dispatch hphase =>
      obtain ⟨rfl, hworkers, hstarted, hmutex⟩ := hexclusive.single hphase
      exact .inr ⟨.locking, by simp [moveTo, hworkers], hstarted, hmutex⟩

/-! Where the events are. -/

/-- The events that were pushed, in their order. -/
def Delivered (s : AsyncBus E) : Prop :=
  s.dispatched ++ s.held ++ s.queue = s.pushed

theorem held_of_workers {phase : WorkerPhase E} (hworkers : s.workers = [phase]) :
    s.held = phase.held := by
  rw [held, hworkers, List.flatMap_singleton]

/-- A worker that moves with its event changes nothing. -/
theorem Delivered.of_held (hdelivered : s.Delivered) (hheld : s'.held = s.held)
    (hqueue : s'.queue = s.queue) (hpushed : s'.pushed = s.pushed)
    (hdispatched : s'.dispatched = s.dispatched) : s'.Delivered := by
  rw [Delivered, hheld, hqueue, hpushed, hdispatched]
  exact hdelivered

theorem held_wake (workers : List (WorkerPhase E)) :
    (workers.map WorkerPhase.wake).flatMap WorkerPhase.held =
      workers.flatMap WorkerPhase.held := by
  rw [List.flatMap_map]
  congr 1
  funext phase
  cases phase <;> rfl

theorem held_ensureWorkerRunning (s : AsyncBus E) : s.ensureWorkerRunning.held = s.held := by
  rw [ensureWorkerRunning]
  split
  · rfl
  · simp [held, WorkerPhase.held]

theorem moved_held (hexclusive : s.Exclusive) {worker : Nat} {before after : WorkerPhase E}
    (hphase : s.workers[worker]? = some before) (hheld : after.held = before.held) :
    (s.workers.set worker after).flatMap WorkerPhase.held = s.held := by
  obtain ⟨rfl, hworkers, -, -⟩ := hexclusive.single hphase
  simp [held, hworkers, hheld]

theorem Step.delivered (hstep : Step s action s') (hexclusive : s.Exclusive)
    (hdelivered : s.Delivered) : s'.Delivered := by
  cases hstep with
  | publishAsync _ => exact hdelivered
  | ensureWorkerRunning _ _ =>
      refine hdelivered.of_held (held_ensureWorkerRunning s) ?_ ?_ ?_ <;>
        (simp only [advance, AsyncBus.ensureWorkerRunning]; split <;> rfl)
  | @push call event _ _ =>
      change s.dispatched ++ s.held ++ (s.queue ++ [event]) = s.pushed ++ [event]
      rw [← hdelivered, List.append_assoc _ s.queue]
  | notifyOne hcall hnotify =>
      cases hnotify with
      | nobody _ => exact hdelivered
      | woken hblocked =>
          exact hdelivered.of_held (moved_held hexclusive hblocked rfl) rfl rfl rfl
  | destroyIdle _ _ _ => exact hdelivered
  | destroy _ _ _ => exact hdelivered
  | stopWorker _ _ => exact hdelivered
  | notifyAll _ => exact hdelivered.of_held (held_wake s.workers) rfl rfl rfl
  | join _ _ => exact hdelivered
  | lock hphase _ => exact hdelivered.of_held (moved_held hexclusive hphase rfl) rfl rfl rfl
  | @take worker event rest hphase hqueue =>
      obtain ⟨rfl, hworkers, -, -⟩ := hexclusive.single hphase
      have hbefore : s.held = [] := held_of_workers hworkers
      rw [Delivered, hbefore, hqueue, List.append_nil] at hdelivered
      change s.dispatched ++ (s.workers.set 0 _).flatMap WorkerPhase.held ++ rest = s.pushed
      rw [← hdelivered, hworkers, List.append_assoc]
      rfl
  | breakLoop hphase _ _ =>
      exact hdelivered.of_held (moved_held hexclusive hphase rfl) rfl rfl rfl
  | wait hphase _ _ => exact hdelivered.of_held (moved_held hexclusive hphase rfl) rfl rfl rfl
  | block hphase => exact hdelivered.of_held (moved_held hexclusive hphase rfl) rfl rfl rfl
  | spuriousWake hphase =>
      exact hdelivered.of_held (moved_held hexclusive hphase rfl) rfl rfl rfl
  | @dispatch worker event hphase =>
      obtain ⟨rfl, hworkers, -, -⟩ := hexclusive.single hphase
      have hbefore : s.held = [event] := held_of_workers hworkers
      rw [Delivered, hbefore] at hdelivered
      change s.dispatched ++ [event] ++ (s.workers.set 0 _).flatMap WorkerPhase.held ++
        s.queue = s.pushed
      rw [← hdelivered, hworkers]
      simp [WorkerPhase.held]

/-- Every event of a call is pushed once. -/
def Accounted (s : AsyncBus E) : Prop :=
  (s.pushed : Multiset E) + s.unpushed = s.published

theorem ensureWorkerRunning_eq (s : AsyncBus E) :
    s.ensureWorkerRunning.queue = s.queue ∧ s.ensureWorkerRunning.calls = s.calls ∧
      s.ensureWorkerRunning.stopWorker = s.stopWorker ∧
      s.ensureWorkerRunning.destructor = s.destructor ∧
      s.ensureWorkerRunning.pushed = s.pushed ∧
      s.ensureWorkerRunning.dispatched = s.dispatched := by
  rw [ensureWorkerRunning]
  split <;> exact ⟨rfl, rfl, rfl, rfl, rfl, rfl⟩

theorem published_set {calls : List (PublishCall E)} {call : Nat} {phase : PublishPhase}
    {event : E} (hcall : calls[call]? = some ⟨phase, event⟩) (after : PublishPhase) :
    (calls.set call ⟨after, event⟩).map (·.event) = calls.map (·.event) := by
  apply List.ext_getElem?
  intro i
  rw [List.getElem?_map, List.getElem?_map, List.getElem?_set]
  split
  · rename_i hi
    rw [← hi, hcall, if_pos (List.getElem?_eq_some_iff.mp hcall).1]
    rfl
  · rfl

/-- A call that goes on carries its event from one place to another. -/
theorem Accounted.of_set (haccounted : s.Accounted) {call : Nat} {before after : PublishPhase}
    {event : E} (hcall : s.calls[call]? = some ⟨before, event⟩)
    (hcalls : s'.calls = s.calls.set call ⟨after, event⟩)
    (hplaces : (s'.pushed : Multiset E) + PublishCall.unpushed ⟨after, event⟩ =
      s.pushed + PublishCall.unpushed ⟨before, event⟩) : s'.Accounted := by
  have hunpushed : (s'.unpushed : Multiset E) + PublishCall.unpushed ⟨before, event⟩ =
      s.unpushed + PublishCall.unpushed ⟨after, event⟩ := by
    rw [unpushed, hcalls]
    exact flatMap_set PublishCall.unpushed hcall ⟨after, event⟩
  rw [Accounted, published, hcalls, published_set hcall]
  apply add_right_cancel (b := (PublishCall.unpushed ⟨before, event⟩ : Multiset E))
  calc
    (s'.pushed : Multiset E) + s'.unpushed + PublishCall.unpushed ⟨before, event⟩ =
        s'.pushed + (s'.unpushed + PublishCall.unpushed ⟨before, event⟩) := add_assoc _ _ _
    _ = (s'.pushed + PublishCall.unpushed ⟨after, event⟩) + s.unpushed := by
      rw [hunpushed]
      abel
    _ = (s.pushed + s.unpushed) + PublishCall.unpushed ⟨before, event⟩ := by
      rw [hplaces]
      abel
    _ = s.published + PublishCall.unpushed ⟨before, event⟩ := by rw [haccounted]

theorem Step.accounted (hstep : Step s action s') (haccounted : s.Accounted) :
    s'.Accounted := by
  cases hstep with
  | @publishAsync event _ =>
      have hunpushed : unpushed { s with calls := s.calls ++ [⟨.ensuring, event⟩] } =
          s.unpushed ++ [event] := by
        rw [unpushed, List.flatMap_append]
        rfl
      have hpublished : published { s with calls := s.calls ++ [⟨.ensuring, event⟩] } =
          s.published ++ [event] := List.map_append
      rw [Accounted, hunpushed, hpublished, ← Multiset.coe_add, ← Multiset.coe_add, ← add_assoc]
      exact congrArg (· + _) haccounted
  | ensureWorkerRunning _ hcall =>
      obtain ⟨-, hcalls, -, -, hpushed, -⟩ := ensureWorkerRunning_eq s
      exact haccounted.of_set hcall (congrArg (List.set · _ _) hcalls)
        (congrArg (fun pushed : List E => (pushed : Multiset E) + _) hpushed)
  | @push call event _ hcall =>
      exact haccounted.of_set hcall rfl ((add_zero _).trans (Multiset.coe_add _ _).symm)
  | notifyOne hcall _ => exact haccounted.of_set hcall rfl rfl
  | destroyIdle _ _ _ => exact haccounted
  | destroy _ _ _ => exact haccounted
  | stopWorker _ _ => exact haccounted
  | notifyAll _ => exact haccounted
  | join _ _ => exact haccounted
  | lock _ _ => exact haccounted
  | take _ _ => exact haccounted
  | breakLoop _ _ _ => exact haccounted
  | wait _ _ _ => exact haccounted
  | block _ => exact haccounted
  | spuriousWake _ => exact haccounted
  | dispatch _ => exact haccounted

/-! The end of the worker. -/

/-- No event is pushed without a worker. -/
structure Begun (s : AsyncBus E) : Prop where
  pushed : s.pushed ≠ [] → s.workerStarted = true
  calls : ∀ call ∈ s.calls, call.phase ≠ .ensuring → s.workerStarted = true

/-- The destructor comes after the calls, and sets the flag before it notifies. -/
structure Closed (s : AsyncBus E) : Prop where
  calls : s.destructor ≠ .notCalled → ∀ call ∈ s.calls, call.phase = .returned
  begun : s.destructor = .notCalled → s.stopWorker = false
  stopped : s.destructor = .notifying ∨ s.destructor = .joining → s.stopWorker = true

/-- What the worker has seen of the queue and the flag. -/
structure Seen (s : AsyncBus E) : Prop where
  blocking : .blocking ∈ s.workers → s.queue = [] ∧ s.stopWorker = false
  exited : .exited ∈ s.workers → s.queue = [] ∧ s.stopWorker = true
  returned : s.destructor = .returned → ∀ phase ∈ s.workers, phase = .exited

structure Sound (s : AsyncBus E) : Prop where
  exclusive : s.Exclusive
  delivered : s.Delivered
  accounted : s.Accounted
  begun : s.Begun
  closed : s.Closed
  seen : s.Seen

theorem Begun.of_call (hbegun : s.Begun) {call : Nat} {before : PublishPhase} {event : E}
    (hcall : s.calls[call]? = some ⟨before, event⟩) (hphase : before ≠ .ensuring)
    (hstarted : s'.workerStarted = s.workerStarted) : s'.Begun := by
  have hbefore := hbegun.calls _ (List.mem_of_getElem? hcall) hphase
  rw [← hstarted] at hbefore
  exact ⟨fun _ => hbefore, fun _ _ _ => hbefore⟩

theorem Step.begun (hstep : Step s action s') (hexclusive : s.Exclusive) (hbegun : s.Begun) :
    s'.Begun := by
  cases hstep with
  | publishAsync _ =>
      refine ⟨hbegun.pushed, fun call hcall hphase => ?_⟩
      rcases List.mem_append.mp hcall with hold | hnew
      · exact hbegun.calls call hold hphase
      · rw [List.mem_singleton.mp hnew] at hphase
        exact absurd rfl hphase
  | ensureWorkerRunning _ _ =>
      have hstarted := hexclusive.ensureWorkerRunning.2
      exact ⟨fun _ => hstarted, fun _ _ _ => hstarted⟩
  | push _ hcall => exact hbegun.of_call hcall (by simp) rfl
  | notifyOne hcall _ => exact hbegun.of_call hcall (by simp) rfl
  | destroyIdle _ _ _ => exact ⟨hbegun.pushed, hbegun.calls⟩
  | destroy _ _ _ => exact ⟨hbegun.pushed, hbegun.calls⟩
  | stopWorker _ _ => exact ⟨hbegun.pushed, hbegun.calls⟩
  | notifyAll _ => exact ⟨hbegun.pushed, hbegun.calls⟩
  | join _ _ => exact ⟨hbegun.pushed, hbegun.calls⟩
  | lock _ _ => exact ⟨hbegun.pushed, hbegun.calls⟩
  | take _ _ => exact ⟨hbegun.pushed, hbegun.calls⟩
  | breakLoop _ _ _ => exact ⟨hbegun.pushed, hbegun.calls⟩
  | wait _ _ _ => exact ⟨hbegun.pushed, hbegun.calls⟩
  | block _ => exact ⟨hbegun.pushed, hbegun.calls⟩
  | spuriousWake _ => exact ⟨hbegun.pushed, hbegun.calls⟩
  | dispatch _ => exact ⟨hbegun.pushed, hbegun.calls⟩

/-- A call that has not returned is one before the destructor. -/
theorem Closed.open (hclosed : s.Closed) {call : Nat} {phase : PublishPhase} {event : E}
    (hcall : s.calls[call]? = some ⟨phase, event⟩) (hphase : phase ≠ .returned) :
    s.destructor = .notCalled := by
  by_contra hcalled
  exact hphase (hclosed.calls hcalled _ (List.mem_of_getElem? hcall))

theorem Step.closed (hstep : Step s action s') (hclosed : s.Closed) : s'.Closed := by
  cases hstep with
  | publishAsync halive =>
      exact ⟨fun hcalled => absurd halive hcalled, hclosed.begun, hclosed.stopped⟩
  | ensureWorkerRunning _ hcall =>
      have hopen := hclosed.open hcall (by simp)
      obtain ⟨-, -, hstop, hdestructor, -, -⟩ := ensureWorkerRunning_eq s
      have hopen' := hdestructor.trans hopen
      refine ⟨fun hcalled => absurd hopen' hcalled, fun _ => ?_, fun hstopping => ?_⟩
      · exact hstop.trans (hclosed.begun hopen)
      · exact absurd hstopping (by simp [advance, hopen'])
  | push _ hcall =>
      have hopen := hclosed.open hcall (by simp)
      exact ⟨fun hcalled => absurd hopen hcalled, hclosed.begun, hclosed.stopped⟩
  | notifyOne hcall _ =>
      have hopen := hclosed.open hcall (by simp)
      exact ⟨fun hcalled => absurd hopen hcalled, hclosed.begun, hclosed.stopped⟩
  | destroyIdle _ hreturned _ => exact ⟨fun _ => hreturned, by simp, by simp⟩
  | destroy _ hreturned _ => exact ⟨fun _ => hreturned, by simp, by simp⟩
  | stopWorker _ hphase => exact ⟨fun _ => hclosed.calls (by simp [hphase]), by simp, by simp⟩
  | notifyAll hphase =>
      exact ⟨fun _ => hclosed.calls (by simp [hphase]), by simp,
        fun _ => hclosed.stopped (.inl hphase)⟩
  | join hphase _ => exact ⟨fun _ => hclosed.calls (by simp [hphase]), by simp, by simp⟩
  | lock _ _ => exact ⟨hclosed.calls, hclosed.begun, hclosed.stopped⟩
  | take _ _ => exact ⟨hclosed.calls, hclosed.begun, hclosed.stopped⟩
  | breakLoop _ _ _ => exact ⟨hclosed.calls, hclosed.begun, hclosed.stopped⟩
  | wait _ _ _ => exact ⟨hclosed.calls, hclosed.begun, hclosed.stopped⟩
  | block _ => exact ⟨hclosed.calls, hclosed.begun, hclosed.stopped⟩
  | spuriousWake _ => exact ⟨hclosed.calls, hclosed.begun, hclosed.stopped⟩
  | dispatch _ => exact ⟨hclosed.calls, hclosed.begun, hclosed.stopped⟩

/-- Outside of the section nobody is between the test and the wait. -/
theorem Exclusive.not_blocking (hexclusive : s.Exclusive) (hmutex : s.mutex = none) :
    .blocking ∉ s.workers := by
  intro hblocking
  have howned := (hexclusive.of_mem hblocking).2.2
  rw [hmutex] at howned
  exact absurd howned (by simp [WorkerPhase.inside])

/-- A worker that is moved where it has nothing to have seen. -/
theorem Seen.of_moved (hseen : s.Seen) (hexclusive : s.Exclusive) {worker : Nat}
    {before after : WorkerPhase E} (hphase : s.workers[worker]? = some before)
    (hbefore : before ≠ .exited) (hblocking : after ≠ .blocking) (hexited : after ≠ .exited)
    (hworkers : s'.workers = s.workers.set worker after)
    (hdestructor : s'.destructor = s.destructor) : s'.Seen := by
  obtain ⟨rfl, honly, -, -⟩ := hexclusive.single hphase
  rw [honly, List.set_cons_zero] at hworkers
  refine ⟨fun hmem => ?_, fun hmem => ?_, fun hreturned => ?_⟩
  · rw [hworkers, List.mem_singleton] at hmem
    exact absurd hmem.symm hblocking
  · rw [hworkers, List.mem_singleton] at hmem
    exact absurd hmem.symm hexited
  · have hall := hseen.returned (hdestructor ▸ hreturned)
    exact absurd (hall before (List.mem_of_getElem? hphase)) hbefore

/-- While a call has not returned the worker has not left. -/
theorem Sound.not_exited (hsound : s.Sound) (hopen : s.destructor = .notCalled) :
    .exited ∉ s.workers := by
  intro hexited
  have hstop := (hsound.seen.exited hexited).2
  rw [hsound.closed.begun hopen] at hstop
  exact absurd hstop (by simp)

theorem mem_of_mem_wake {phase : WorkerPhase E} (hphase : phase ≠ .locking)
    (hmem : phase ∈ s.workers.map WorkerPhase.wake) : phase ∈ s.workers := by
  obtain ⟨before, hbefore, rfl⟩ := List.mem_map.mp hmem
  cases before with
  | blocked => exact absurd rfl hphase
  | _ => exact hbefore

theorem mem_ensureWorkerRunning {phase : WorkerPhase E} (hphase : phase ≠ .locking)
    (hmem : phase ∈ s.ensureWorkerRunning.workers) : phase ∈ s.workers := by
  rw [ensureWorkerRunning] at hmem
  split at hmem
  · exact hmem
  · rcases List.mem_append.mp hmem with hmem | hmem
    · exact hmem
    · exact absurd (List.mem_singleton.mp hmem) hphase

theorem Step.seen (hstep : Step s action s') (hsound : s.Sound) : s'.Seen := by
  have hseen := hsound.seen
  have hexclusive := hsound.exclusive
  cases hstep with
  | publishAsync _ => exact ⟨hseen.blocking, hseen.exited, hseen.returned⟩
  | ensureWorkerRunning _ hcall =>
      have hopen := hsound.closed.open hcall (by simp)
      obtain ⟨hqueue, -, hstop, hdestructor, -, -⟩ := ensureWorkerRunning_eq s
      refine ⟨fun hmem => ?_, fun hmem => ?_, fun hreturned => ?_⟩
      · obtain ⟨hempty, hclear⟩ := hseen.blocking (mem_ensureWorkerRunning (by simp) hmem)
        exact ⟨hqueue.trans hempty, hstop.trans hclear⟩
      · exact absurd (mem_ensureWorkerRunning (by simp) hmem) (hsound.not_exited hopen)
      · exact absurd (hdestructor.symm.trans hreturned) (by simp [hopen])
  | push hmutex hcall =>
      have hopen := hsound.closed.open hcall (by simp)
      refine ⟨fun hmem => ?_, fun hmem => ?_, hseen.returned⟩
      · exact absurd hmem (hexclusive.not_blocking hmutex)
      · exact absurd hmem (hsound.not_exited hopen)
  | notifyOne hcall hnotify =>
      cases hnotify with
      | nobody _ => exact ⟨hseen.blocking, hseen.exited, hseen.returned⟩
      | woken hblocked =>
          exact hseen.of_moved hexclusive hblocked (by simp) (by simp) (by simp) rfl rfl
  | destroyIdle _ _ hjoinable =>
      exact ⟨hseen.blocking, hseen.exited, fun _ phase hphase => by simp [hjoinable] at hphase⟩
  | destroy _ _ _ => exact ⟨hseen.blocking, hseen.exited, by simp⟩
  | stopWorker hmutex _ =>
      refine ⟨fun hmem => ?_, fun hmem => ⟨(hseen.exited hmem).1, rfl⟩, by simp⟩
      exact absurd hmem (hexclusive.not_blocking hmutex)
  | notifyAll _ =>
      exact ⟨fun hmem => hseen.blocking (mem_of_mem_wake (by simp) hmem),
        fun hmem => hseen.exited (mem_of_mem_wake (by simp) hmem), by simp⟩
  | join _ hjoined => exact ⟨hseen.blocking, hseen.exited, fun _ => hjoined⟩
  | lock hphase _ =>
      exact hseen.of_moved hexclusive hphase (by simp) (by simp) (by simp) rfl rfl
  | take hphase _ =>
      exact hseen.of_moved hexclusive hphase (by simp) (by simp) (by simp) rfl rfl
  | breakLoop hphase hempty hstop =>
      obtain ⟨rfl, honly, -, -⟩ := hexclusive.single hphase
      refine ⟨fun hmem => ?_, fun _ => ⟨hempty, hstop⟩, fun hreturned => ?_⟩
      · simp [moveTo, honly] at hmem
      · exact absurd (hseen.returned hreturned _ (List.mem_of_getElem? hphase)) (by simp)
  | wait hphase hempty hstop =>
      obtain ⟨rfl, honly, -, -⟩ := hexclusive.single hphase
      refine ⟨fun _ => ⟨hempty, hstop⟩, fun hmem => ?_, fun hreturned => ?_⟩
      · simp [moveTo, honly] at hmem
      · exact absurd (hseen.returned hreturned _ (List.mem_of_getElem? hphase)) (by simp)
  | block hphase =>
      exact hseen.of_moved hexclusive hphase (by simp) (by simp) (by simp) rfl rfl
  | spuriousWake hphase =>
      exact hseen.of_moved hexclusive hphase (by simp) (by simp) (by simp) rfl rfl
  | dispatch hphase =>
      exact hseen.of_moved hexclusive hphase (by simp) (by simp) (by simp) rfl rfl

theorem Step.sound (hstep : Step s action s') (hsound : s.Sound) : s'.Sound where
  exclusive := hstep.exclusive hsound.exclusive
  delivered := hstep.delivered hsound.exclusive hsound.delivered
  accounted := hstep.accounted hsound.accounted
  begun := hstep.begun hsound.exclusive hsound.begun
  closed := hstep.closed hsound.closed
  seen := hstep.seen hsound

theorem sound_init : ({} : AsyncBus E).Sound where
  exclusive := .inl ⟨rfl, rfl, rfl⟩
  delivered := rfl
  accounted := rfl
  begun := ⟨by simp, by simp⟩
  closed := ⟨by simp, fun _ => rfl, by simp⟩
  seen := ⟨by simp, by simp, by simp⟩

theorem sound_of_trace {steps : List (Transition (AsyncBus E) (Action E))}
    (htrace : Trace (system E) steps s) : s.Sound := by
  refine htrace.history_invariant (I := fun _ s => s.Sound) ?_
    fun _ s action s' hsound hstep => Step.sound hstep hsound
  rintro s rfl
  exact sound_init

end AsyncBus

end Astartis.Events
