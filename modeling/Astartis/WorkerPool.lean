import Mathlib.Data.Multiset.AddSub
import Astartis.AgentController
import Astartis.TransitionSystem

/-!
The threads around `AgentController`: the workers in `worker_loop`, the callers of
`stop`, and whoever submits tasks.  A wait on the condition variable is split into
locking, testing the predicate, blocking and being woken.
-/

namespace Astartis.Agents

open TransitionSystem

/-- Where a worker stands in `worker_loop`. -/
inductive WorkerPhase
  /-- In front of the test of `running_` in the loop head. -/
  | head
  /-- In front of the mutex, on the way into the wait or woken from it. -/
  | locking
  /-- With the mutex, in front of the test of the predicate. -/
  | testing
  /-- With the mutex, the predicate was false. -/
  | blocking
  | blocked
  | marking (entry : TaskEntry)
  | executing (entry : TaskEntry)
  | recording (entry : TaskEntry) (result : TaskResult)
  /-- In front of the callback and the audit entry. -/
  | reporting
  | exited
deriving DecidableEq

/-- The entry that a worker has taken and not yet passed to `execute_task`. -/
def WorkerPhase.held : WorkerPhase → List TaskEntry
  | .marking entry => [entry]
  | .executing entry => [entry]
  | _ => []

/-- `notify_all` and `notify_one` send a blocked worker back to the mutex. -/
def WorkerPhase.wake : WorkerPhase → WorkerPhase
  | .blocked => .locking
  | phase => phase

inductive StopPhase
  | notifying
  | joining
  | returned
deriving DecidableEq

/-- A call of `stop` with the tasks submitted before it. -/
structure StopCall where
  phase : StopPhase
  owed : List TaskEntry
deriving DecidableEq

structure Pool where
  controller : AgentController
  /-- The worker inside its section. -/
  mutex : Option Nat := none
  workers : List WorkerPhase := []
  stops : List StopCall := []
  submitted : List TaskEntry := []
  executed : List TaskEntry := []

namespace Pool

def Fresh (s : Pool) : Prop :=
  ∃ controller : AgentController, controller.queue = [] ∧ controller.running = false ∧
    controller.nextTaskId = 1 ∧ s = { controller := controller }

def Alive (s : Pool) : Prop :=
  ∃ phase ∈ s.workers, phase ≠ .exited

def moveTo (s : Pool) (worker : Nat) (phase : WorkerPhase) : Pool :=
  { s with workers := s.workers.set worker phase }

inductive Event
  | submit (now : Int64) (agentName input : ByteString) (priority : Priority)
      (notified : Option Nat)
  | start
  | stopCalled
  | notifyAll (call : Nat)
  | join (call : Nat)
  | testHead (worker : Nat)
  | lock (worker : Nat)
  | testPredicate (worker : Nat)
  | block (worker : Nat)
  | spuriousWake (worker : Nat)
  | markRunning (worker : Nat)
  | execute (worker : Nat) (result : TaskResult)
  | recordResult (worker : Nat) (clock : Clock)
  | report (worker : Nat)

/-- The workers after `notify_one`, which picks one of those that are blocked. -/
inductive NotifyOne (workers : List WorkerPhase) : Option Nat → List WorkerPhase → Prop
  | nobody (hnone : .blocked ∉ workers) : NotifyOne workers none workers
  | woken {worker : Nat} (hblocked : workers[worker]? = some .blocked) :
      NotifyOne workers (some worker) (workers.set worker .locking)

inductive Step : Pool → Event → Pool → Prop
  | submit {s : Pool} {now : Int64} {agentName input : ByteString} {priority : Priority}
      {notified : Option Nat} {workers : List WorkerPhase}
      (hmutex : s.mutex = none)
      (hknown : s.controller.personas.contains agentName = true)
      (hnotify : NotifyOne s.workers notified workers) :
      Step s (.submit now agentName input priority notified)
        { s with
          controller := (s.controller.submitTask now agentName input priority).2
          workers := workers
          submitted :=
            s.submitted ++ [s.controller.newEntry now agentName input priority] }
  | submitUnknown {s : Pool} {now : Int64} {agentName input : ByteString}
      {priority : Priority} (hmutex : s.mutex = none)
      (hunknown : s.controller.personas.contains agentName = false) :
      Step s (.submit now agentName input priority none) s
  | startRunning {s : Pool} (hrunning : s.controller.running = true) :
      Step s .start s
  | start {s : Pool} (hrunning : s.controller.running = false) :
      Step s .start
        { s with
          controller := { s.controller with running := true }
          workers := s.workers ++ List.replicate s.controller.workerCount .head }
  | stopStopped {s : Pool} (hrunning : s.controller.running = false) :
      Step s .stopCalled { s with stops := s.stops ++ [⟨.returned, s.submitted⟩] }
  | stop {s : Pool} (hrunning : s.controller.running = true) :
      Step s .stopCalled
        { s with
          controller := { s.controller with running := false }
          stops := s.stops ++ [⟨.notifying, s.submitted⟩] }
  | notifyAll {s : Pool} {call : Nat} {owed : List TaskEntry}
      (hcall : s.stops[call]? = some ⟨.notifying, owed⟩) :
      Step s (.notifyAll call)
        { s with
          workers := s.workers.map WorkerPhase.wake
          stops := s.stops.set call ⟨.joining, owed⟩ }
  | join {s : Pool} {call : Nat} {owed : List TaskEntry}
      (hcall : s.stops[call]? = some ⟨.joining, owed⟩) (hjoined : ¬ s.Alive) :
      Step s (.join call)
        { s with
          workers := []
          stops := s.stops.set call ⟨.returned, owed⟩ }
  | enterLoop {s : Pool} {worker : Nat} (hphase : s.workers[worker]? = some .head)
      (hrunning : s.controller.running = true) :
      Step s (.testHead worker) (s.moveTo worker .locking)
  | leaveLoop {s : Pool} {worker : Nat} (hphase : s.workers[worker]? = some .head)
      (hrunning : s.controller.running = false) :
      Step s (.testHead worker) (s.moveTo worker .exited)
  | lock {s : Pool} {worker : Nat} (hphase : s.workers[worker]? = some .locking)
      (hmutex : s.mutex = none) :
      Step s (.lock worker) { s.moveTo worker .testing with mutex := some worker }
  | take {s : Pool} {worker : Nat} {entry : TaskEntry}
      (hphase : s.workers[worker]? = some .testing)
      (htop : IsTop s.controller.queue entry) :
      Step s (.testPredicate worker)
        { s.moveTo worker (.marking entry) with
          controller := s.controller.dequeue entry
          mutex := none }
  | breakLoop {s : Pool} {worker : Nat} (hphase : s.workers[worker]? = some .testing)
      (hempty : s.controller.queue = []) (hrunning : s.controller.running = false) :
      Step s (.testPredicate worker) { s.moveTo worker .exited with mutex := none }
  | wait {s : Pool} {worker : Nat} (hphase : s.workers[worker]? = some .testing)
      (hempty : s.controller.queue = []) (hrunning : s.controller.running = true) :
      Step s (.testPredicate worker) (s.moveTo worker .blocking)
  | block {s : Pool} {worker : Nat} (hphase : s.workers[worker]? = some .blocking) :
      Step s (.block worker) { s.moveTo worker .blocked with mutex := none }
  | spuriousWake {s : Pool} {worker : Nat}
      (hphase : s.workers[worker]? = some .blocked) :
      Step s (.spuriousWake worker) (s.moveTo worker .locking)
  | markRunning {s : Pool} {worker : Nat} {entry : TaskEntry}
      (hphase : s.workers[worker]? = some (.marking entry)) (hmutex : s.mutex = none) :
      Step s (.markRunning worker)
        { s.moveTo worker (.executing entry) with
          controller := s.controller.markRunning entry }
  | execute {s : Pool} {worker : Nat} {entry : TaskEntry} {result : TaskResult}
      (hphase : s.workers[worker]? = some (.executing entry)) :
      Step s (.execute worker result)
        { s.moveTo worker (.recording entry result) with
          executed := s.executed ++ [entry] }
  | recordResult {s : Pool} {worker : Nat} {entry : TaskEntry} {result : TaskResult}
      {clock : Clock} (hphase : s.workers[worker]? = some (.recording entry result))
      (hmutex : s.mutex = none) :
      Step s (.recordResult worker clock)
        { s.moveTo worker .reporting with
          controller := s.controller.recordResult clock entry result }
  | report {s : Pool} {worker : Nat} (hphase : s.workers[worker]? = some .reporting) :
      Step s (.report worker) (s.moveTo worker .head)

def system : System Pool Event where
  Init := Fresh
  Step := Step

end Pool

end Astartis.Agents
