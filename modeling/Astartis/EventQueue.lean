import Astartis.EventBus

/-!
Asynchronous publishing: the callers of `publish_async`, the threads in `worker_loop` and the
destructor of the bus.  A wait on the condition variable is split into locking, testing the
predicate, blocking and being woken.
-/

namespace Astartis.Events

open TransitionSystem

/-- Where a thread stands in `worker_loop`. -/
inductive WorkerPhase (E : Type)
  /-- In front of the mutex, on the way into the wait or woken from it. -/
  | locking
  /-- With the mutex, in front of the test of the predicate. -/
  | testing
  /-- With the mutex, the predicate was false. -/
  | blocking
  | blocked
  | dispatching (event : E)
  | exited
deriving DecidableEq

namespace WorkerPhase

variable {E : Type}

def held : WorkerPhase E → List E
  | .dispatching event => [event]
  | _ => []

/-- `notify_all` and `notify_one` send a blocked thread back to the mutex. -/
def wake : WorkerPhase E → WorkerPhase E
  | .blocked => .locking
  | phase => phase

def inside : WorkerPhase E → Bool
  | .testing => true
  | .blocking => true
  | _ => false

end WorkerPhase

/-- Where a caller stands in `publish_async`. -/
inductive PublishPhase
  | ensuring
  | pushing
  | notifying
  | returned
deriving DecidableEq

structure PublishCall (E : Type) where
  phase : PublishPhase
  event : E

/-- Where the thread of the destructor stands. -/
inductive DestructorPhase
  | notCalled
  | stopping
  | notifying
  | joining
  | returned
deriving DecidableEq

/-- The bus between its threads, with the events in the order in which they were pushed, and
those that were dispatched. -/
structure AsyncBus (E : Type) where
  queue : List E := []
  workers : List (WorkerPhase E) := []
  workerStarted : Bool := false
  stopWorker : Bool := false
  /-- The thread inside its section. -/
  mutex : Option Nat := none
  calls : List (PublishCall E) := []
  destructor : DestructorPhase := .notCalled
  pushed : List E := []
  dispatched : List E := []

namespace AsyncBus

variable {E : Type}

def moveTo (s : AsyncBus E) (worker : Nat) (phase : WorkerPhase E) : AsyncBus E :=
  { s with workers := s.workers.set worker phase }

def advance (s : AsyncBus E) (call : Nat) (phase : PublishPhase) (event : E) : AsyncBus E :=
  { s with calls := s.calls.set call ⟨phase, event⟩ }

/-- `ensure_worker_running` -/
def ensureWorkerRunning (s : AsyncBus E) : AsyncBus E :=
  if s.workerStarted then s
  else { s with workerStarted := true, workers := s.workers ++ [.locking] }

inductive Action (E : Type)
  | publishAsync (event : E)
  | ensureWorkerRunning (call : Nat)
  | push (call : Nat)
  | notifyOne (call : Nat) (woken : Option Nat)
  | destroy
  | stopWorker
  | notifyAll
  | join
  | lock (worker : Nat)
  | testPredicate (worker : Nat)
  | block (worker : Nat)
  | spuriousWake (worker : Nat)
  | dispatch (worker : Nat)

/-- The threads after `notify_one`, which picks one of those that are blocked. -/
inductive NotifyOne (workers : List (WorkerPhase E)) : Option Nat → List (WorkerPhase E) → Prop
  | nobody (hnone : .blocked ∉ workers) : NotifyOne workers none workers
  | woken {worker : Nat} (hblocked : workers[worker]? = some .blocked) :
      NotifyOne workers (some worker) (workers.set worker .locking)

inductive Step : AsyncBus E → Action E → AsyncBus E → Prop
  | publishAsync {s : AsyncBus E} {event : E} (halive : s.destructor = .notCalled) :
      Step s (.publishAsync event) { s with calls := s.calls ++ [⟨.ensuring, event⟩] }
  | ensureWorkerRunning {s : AsyncBus E} {call : Nat} {event : E} (hmutex : s.mutex = none)
      (hcall : s.calls[call]? = some ⟨.ensuring, event⟩) :
      Step s (.ensureWorkerRunning call) (s.ensureWorkerRunning.advance call .pushing event)
  | push {s : AsyncBus E} {call : Nat} {event : E} (hmutex : s.mutex = none)
      (hcall : s.calls[call]? = some ⟨.pushing, event⟩) :
      Step s (.push call)
        { s.advance call .notifying event with
          queue := s.queue ++ [event]
          pushed := s.pushed ++ [event] }
  | notifyOne {s : AsyncBus E} {call : Nat} {event : E} {woken : Option Nat}
      {workers : List (WorkerPhase E)} (hcall : s.calls[call]? = some ⟨.notifying, event⟩)
      (hnotify : NotifyOne s.workers woken workers) :
      Step s (.notifyOne call woken) { s.advance call .returned event with workers := workers }
  /-- No thread was ever started. -/
  | destroyIdle {s : AsyncBus E} (halive : s.destructor = .notCalled)
      (hreturned : ∀ call ∈ s.calls, call.phase = .returned) (hjoinable : s.workers = []) :
      Step s .destroy { s with destructor := .returned }
  | destroy {s : AsyncBus E} (halive : s.destructor = .notCalled)
      (hreturned : ∀ call ∈ s.calls, call.phase = .returned) (hjoinable : s.workers ≠ []) :
      Step s .destroy { s with destructor := .stopping }
  | stopWorker {s : AsyncBus E} (hmutex : s.mutex = none)
      (hphase : s.destructor = .stopping) :
      Step s .stopWorker { s with stopWorker := true, destructor := .notifying }
  | notifyAll {s : AsyncBus E} (hphase : s.destructor = .notifying) :
      Step s .notifyAll
        { s with
          workers := s.workers.map WorkerPhase.wake
          destructor := .joining }
  | join {s : AsyncBus E} (hphase : s.destructor = .joining)
      (hjoined : ∀ phase ∈ s.workers, phase = .exited) :
      Step s .join { s with destructor := .returned }
  | lock {s : AsyncBus E} {worker : Nat} (hphase : s.workers[worker]? = some .locking)
      (hmutex : s.mutex = none) :
      Step s (.lock worker) { s.moveTo worker .testing with mutex := some worker }
  | take {s : AsyncBus E} {worker : Nat} {event : E} {rest : List E}
      (hphase : s.workers[worker]? = some .testing) (hqueue : s.queue = event :: rest) :
      Step s (.testPredicate worker)
        { s.moveTo worker (.dispatching event) with
          queue := rest
          mutex := none }
  | breakLoop {s : AsyncBus E} {worker : Nat} (hphase : s.workers[worker]? = some .testing)
      (hempty : s.queue = []) (hstop : s.stopWorker = true) :
      Step s (.testPredicate worker) { s.moveTo worker .exited with mutex := none }
  | wait {s : AsyncBus E} {worker : Nat} (hphase : s.workers[worker]? = some .testing)
      (hempty : s.queue = []) (hstop : s.stopWorker = false) :
      Step s (.testPredicate worker) (s.moveTo worker .blocking)
  | block {s : AsyncBus E} {worker : Nat} (hphase : s.workers[worker]? = some .blocking) :
      Step s (.block worker) { s.moveTo worker .blocked with mutex := none }
  | spuriousWake {s : AsyncBus E} {worker : Nat}
      (hphase : s.workers[worker]? = some .blocked) :
      Step s (.spuriousWake worker) (s.moveTo worker .locking)
  | dispatch {s : AsyncBus E} {worker : Nat} {event : E}
      (hphase : s.workers[worker]? = some (.dispatching event)) :
      Step s (.dispatch worker)
        { s.moveTo worker .locking with dispatched := s.dispatched ++ [event] }

/-- A bus that is destroyed after all calls of `publish_async` have returned. -/
def system (E : Type) : System (AsyncBus E) (Action E) where
  Init s := s = {}
  Step := Step

end AsyncBus

end Astartis.Events
