import Astartis.AgentController

/-!
The way from a file name to a task: the file monitor narrows the name, the bridge puts it
into the description of a signal, and the autonomy loop sums up the pending signals.
-/

namespace Astartis

namespace Monitor

inductive FsEventType
  | created
  | modified
deriving DecidableEq

structure FsEvent where
  type : FsEventType
  path : ByteString
  filename : ByteString
  extension : ByteString
  timestampMs : Int64
deriving DecidableEq

/-- The action of a `FILE_NOTIFY_INFORMATION` record. -/
inductive FileAction
  | added
  | removed
  | modified
  | renamedOldName
  | renamedNewName
deriving DecidableEq

/-- `std::string(ws.begin(), ws.end())`, which keeps the low byte of every code unit. -/
def narrow (ws : List UInt16) : ByteString :=
  ws.map UInt16.toUInt8

def toLower (s : ByteString) : ByteString :=
  s.map fun b => if 65 ≤ b ∧ b ≤ 90 then b + 32 else b

structure FsMonitor where
  extFilter : List ByteString := []
deriving DecidableEq

namespace FsMonitor

def setExtensionFilter (exts : List ByteString) (self : FsMonitor) : FsMonitor :=
  { self with extFilter := exts.map toLower }

def shouldFire (ext : ByteString) (self : FsMonitor) : Bool :=
  self.extFilter = [] || self.extFilter.contains ext

def eventType? : FileAction → Option FsEventType
  | .added | .renamedNewName => some .created
  | .modified => some .modified
  | .removed | .renamedOldName => none

/-- The event that `watch_loop` hands on for a record. -/
def event? (root : ByteString) (action : FileAction) (fileName : List UInt16) (now : Int64)
    (self : FsMonitor) : Option FsEvent := do
  let type ← eventType? action
  let rel := narrow fileName
  let ext :=
    match ByteString.rfind 46 rel with
    | none => []
    | some dot => toLower (rel.drop dot)
  if self.shouldFire ext then
    some {
      type := type
      path := root ++ ("\\" : ByteString) ++ rel
      filename := rel
      extension := ext
      timestampMs := now }
  else none

end FsMonitor

end Monitor

namespace Autonomy

open Agents
open Monitor

structure PendingSignal where
  source : ByteString
  score : Int32
  description : ByteString
  timestampMs : Int64
deriving DecidableEq

/-- The signal of the bridge for a file in which the scanner found a virus. -/
def infectedSignal (ev : FsEvent) (virusName : ByteString) : PendingSignal where
  source := "fs_monitor/infected"
  score := 90
  description := ("Infected file detected: " : ByteString) ++ ev.filename ++
    (" (" : ByteString) ++ virusName ++ (")" : ByteString)
  timestampMs := ev.timestampMs

structure AutonomyLoop where
  pendingSignals : List PendingSignal := []
  tasksSubmitted : UInt64 := 0
deriving DecidableEq

def maxScore (batch : List PendingSignal) : Int32 :=
  batch.foldl (fun score s => max score s.score) 0

def signalLine (s : PendingSignal) : ByteString :=
  ("  [score=" : ByteString) ++ ByteString.decimal s.score.toInt ++ ("] " : ByteString) ++
    s.source ++ (": " : ByteString) ++ s.description ++ ("\n" : ByteString)

def summary (batch : List PendingSignal) : ByteString :=
  ("AUTONOMOUS: " : ByteString) ++ ByteString.decimal batch.length ++
    (" security signals received:\n" : ByteString) ++ batch.flatMap signalLine ++
    .ofLiterals
      ["Analyse these signals. Identify attack patterns, false positives, ",
        "and recommended actions (block IP, quarantine file, escalate)."]

def agentFor (score : Int32) : ByteString :=
  if 60 ≤ score then "incident_responder"
  else if 40 ≤ score then "alert_triage"
  else "siem_analyst"

def priorityFor (score : Int32) : Priority :=
  if 60 ≤ score then .high
  else if 40 ≤ score then .normal
  else .low

namespace AutonomyLoop

/-- The buffer keeps the last 100 signals. -/
def pushSignal (signal : PendingSignal) (self : AutonomyLoop) : AutonomyLoop :=
  let pending := self.pendingSignals ++ [signal]
  { self with pendingSignals := pending.drop (pending.length - 100) }

def tickSignalDrain (now : Int64) (self : AutonomyLoop) (controller : AgentController) :
    AutonomyLoop × AgentController :=
  if self.pendingSignals = [] then (self, controller)
  else
    let batch := self.pendingSignals.take 20
    let score := maxScore batch
    let self := { self with pendingSignals := self.pendingSignals.drop 20 }
    let (taskId, controller) :=
      controller.submitTask now (agentFor score) (summary batch) (priorityFor score)
    if taskId = [] then (self, controller)
    else ({ self with tasksSubmitted := self.tasksSubmitted + 1 }, controller)

end AutonomyLoop

end Autonomy

end Astartis
