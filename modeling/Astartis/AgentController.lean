import Std.Data.TreeMap
import Astartis.GraniteClient

namespace Astartis.Agents

open Granite

structure AgentPersona where
  name : ByteString
  category : ByteString
  preferredModel : GraniteModel
  systemPrompt : ByteString
  skills : List ByteString := []
  maxTokens : Int32 := 512
  temperature : Double := .finite (3602879701896397 / 18014398509481984)

inductive Priority
  | high
  | normal
  | low
deriving DecidableEq

def Priority.value : Priority → Nat
  | .high => 0
  | .normal => 1
  | .low => 2

structure TaskEntry where
  taskId : ByteString
  agentName : ByteString
  input : ByteString
  priority : Priority
  enqueuedAtMs : Int64
deriving DecidableEq

/-- `operator>`, by which the queue is ordered. -/
def TaskEntry.greater (a b : TaskEntry) : Bool :=
  b.priority.value < a.priority.value

structure TaskResult where
  taskId : ByteString
  agentName : ByteString
  ok : Bool
  output : ByteString := []
  modelUsed : ByteString := []
  completedAtMs : Int64
  actionTaken : Bool := false
  actionType : ByteString := []
  actionTarget : ByteString := []
deriving DecidableEq

inductive AgentState
  | idle
  | running
  | completed
  | failed
deriving DecidableEq

structure AgentStatus where
  name : ByteString := []
  category : ByteString := []
  tier : ByteString := []
  state : AgentState
  lastTaskId : ByteString := []
  lastResultSnippet : ByteString := []
  lastRunAtMs : Int64 := 0
  tasksCompleted : Int32 := 0
  tasksFailed : Int32 := 0
  lastActive : ByteString := []
deriving DecidableEq

/-- The members that `mutex_` guards, and `running_`.  The constructor replaces a count
of workers below one. -/
structure AgentController where
  personas : Std.TreeMap ByteString AgentPersona := {}
  statuses : Std.TreeMap ByteString AgentStatus := {}
  queue : List TaskEntry := []
  nextTaskId : UInt64 := 1
  running : Bool := false
  workerCount : Nat := 4
  workerCount_pos : 0 < workerCount := by decide

/-- An entry that `top()` may return; which one of several equally urgent entries it
is, is up to the heap. -/
def IsTop (queue : List TaskEntry) (entry : TaskEntry) : Prop :=
  entry ∈ queue ∧ ∀ other ∈ queue, entry.greater other = false

instance (queue : List TaskEntry) (entry : TaskEntry) : Decidable (IsTop queue entry) :=
  inferInstanceAs (Decidable (_ ∧ _))

def taskIdText (n : UInt64) : ByteString :=
  ("task_" : ByteString) ++ ByteString.decimal n.toNat

/-- ISO 8601 in UTC, and milliseconds. -/
structure Clock where
  nowMs : Int64
  isoNow : ByteString

namespace AgentController

variable (self : AgentController)

/-- The entry that `submit_task` queues. -/
def newEntry (now : Int64) (agentName input : ByteString) (priority : Priority) : TaskEntry :=
  { taskId := taskIdText self.nextTaskId
    agentName := agentName
    input := input
    priority := priority
    enqueuedAtMs := now }

def submitTask (now : Int64) (agentName input : ByteString) (priority : Priority) :
    ByteString × AgentController :=
  if self.personas.contains agentName then
    let entry := self.newEntry now agentName input priority
    (entry.taskId,
      { self with
        queue := entry :: self.queue
        nextTaskId := self.nextTaskId + 1 })
  else ([], self)

def dequeue (entry : TaskEntry) : AgentController :=
  { self with queue := self.queue.erase entry }

def markRunning (entry : TaskEntry) : AgentController :=
  match self.statuses[entry.agentName]? with
  | none => self
  | some st =>
      { self with
        statuses := self.statuses.insert entry.agentName { st with state := .running } }

/-- The status that `statuses_[agent]` refers to, which creates a missing one. -/
def statusOf (agentName : ByteString) : AgentStatus :=
  self.statuses[agentName]?.getD { state := .idle }

def recordResult (clock : Clock) (entry : TaskEntry) (result : TaskResult) :
    AgentController :=
  let st := self.statusOf entry.agentName
  let st := { st with
    state := if result.ok then .completed else .failed
    lastTaskId := result.taskId
    lastRunAtMs := result.completedAtMs
    lastResultSnippet := ByteString.substr result.output 0 (min 100 result.output.length)
    lastActive := clock.isoNow
    tasksCompleted := st.tasksCompleted + if result.ok then 1 else 0
    tasksFailed := st.tasksFailed + if result.ok then 0 else 1 }
  { self with statuses := self.statuses.insert entry.agentName st }

@[simp] theorem markRunning_queue (entry : TaskEntry) :
    (self.markRunning entry).queue = self.queue := by
  simp only [markRunning]
  split
  · rfl
  · rfl

@[simp] theorem markRunning_running (entry : TaskEntry) :
    (self.markRunning entry).running = self.running := by
  simp only [markRunning]
  split
  · rfl
  · rfl

@[simp] theorem markRunning_nextTaskId (entry : TaskEntry) :
    (self.markRunning entry).nextTaskId = self.nextTaskId := by
  simp only [markRunning]
  split
  · rfl
  · rfl

theorem recordResult_statuses (clock : Clock) (entry : TaskEntry) (result : TaskResult) :
    ∃ st, (self.recordResult clock entry result).statuses[entry.agentName]? = some st ∧
      st.state = if result.ok then .completed else .failed := by
  simp only [recordResult, Std.TreeMap.getElem?_insert_self]
  exact ⟨_, rfl, rfl⟩

end AgentController

end Astartis.Agents
