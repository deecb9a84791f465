import Astartis.BridgeSafety
import Astartis.TaskExecution

/-!
The answer of the autonomy loop to the threat level.  The loop keeps a copy of the level,
which `notify_threat_level` is there to refresh.
-/

namespace Astartis.Autonomy

open Agents
open Bridge
open Threat
open TransitionSystem

/-- The loop with the members that its ticks on a schedule work on. -/
structure TickingLoop extends AutonomyLoop where
  currentThreatLevel : ByteString := "LOW"
  currentThreatScore : Int32 := 0
  socRotationIndex : UInt64 := 0

def kSocRotation : List ByteString :=
  ["threat_hunter", "siem_analyst", "alert_triage", "incident_responder", "ioc_manager",
    "forensics_investigator", "compliance_monitor", "vulnerability_mgr",
    "insider_threat_detector", "ransomware_hunter"]

def responseAgents : List ByteString :=
  ["incident_responder", "threat_hunter", "forensics_investigator"]

def alertInput (level : ByteString) (score : Int32) : ByteString :=
  ("AUTONOMOUS ALERT: System threat level is " : ByteString) ++ level ++
    (" (score=" : ByteString) ++ ByteString.decimal score.toInt ++
    .ofLiterals
      ["). ", "Perform immediate assessment. Check for active intrusion, ",
        "suspicious processes, lateral movement indicators. ",
        "Recommend specific containment actions."]

def mediumInput (score : Int32) : ByteString :=
  ("AUTONOMOUS: Threat level elevated to MEDIUM (score=" : ByteString) ++
    ByteString.decimal score.toInt ++
    .ofLiterals
      ["). Analyse recent event patterns. ", "Identify false positives vs real threats."]

def routineInput : ByteString :=
  .ofLiterals
    ["AUTONOMOUS ROUTINE CHECK: Perform a standard health and threat assessment. ",
      "Review any recent anomalies in your domain. ",
      "Report status: GREEN (normal), AMBER (watch), or RED (action required). ",
      "Keep response under 100 words."]

namespace TickingLoop

def pushSignal (signal : PendingSignal) (self : TickingLoop) : TickingLoop :=
  { self with toAutonomyLoop := self.toAutonomyLoop.pushSignal signal }

def notifyThreatLevel (level : ByteString) (score : Int32) (self : TickingLoop) : TickingLoop :=
  { self with currentThreatLevel := level, currentThreatScore := score }

/-- Submit a task and count it, if the controller takes it. -/
def submit (now : Int64) (agent input : ByteString) (priority : Priority) (self : TickingLoop)
    (controller : AgentController) : TickingLoop × AgentController :=
  let (taskId, controller) := controller.submitTask now agent input priority
  if taskId = [] then (self, controller)
  else ({ self with tasksSubmitted := self.tasksSubmitted + 1 }, controller)

def tickThreatResponse (now : Int64) (self : TickingLoop) (controller : AgentController) :
    TickingLoop × AgentController :=
  let level := self.currentThreatLevel
  let score := self.currentThreatScore
  if level = "CRITICAL" ∨ level = "HIGH" then
    responseAgents.foldl
      (fun (self, controller) agent =>
        self.submit now agent (alertInput level score) .high controller)
      (self, controller)
  else if level = "MEDIUM" then
    self.submit now "alert_triage" (mediumInput score) .normal controller
  else (self, controller)

def tickSignalDrain (now : Int64) (self : TickingLoop) (controller : AgentController) :
    TickingLoop × AgentController :=
  let (loop, controller) := self.toAutonomyLoop.tickSignalDrain now controller
  ({ self with toAutonomyLoop := loop }, controller)

def tickSocRotation (now : Int64) (self : TickingLoop) (controller : AgentController) :
    TickingLoop × AgentController :=
  let agent := kSocRotation.getD (self.socRotationIndex.toNat % kSocRotation.length) []
  let self := { self with socRotationIndex := self.socRotationIndex + 1 }
  self.submit now agent routineInput .low controller

end TickingLoop

/-- What the thread of the loop does next.  Between two of these it leaves the field to the
other threads. -/
inductive TickPhase
  | threatResponse
  | signalDrain
  | socRotation
  | heartbeat
deriving DecidableEq

/-- The bridge with the monitors of `--protect`. -/
structure ProtectedBridge (α : Type) where
  bridge : Globals α
  loop : TickingLoop := {}
  phase : TickPhase := .threatResponse
  controller : AgentController

/-- What happens: an action of the bridge, with the signals it pushes into the loop, any
change of the controller by others, or the next phase of the loop. -/
inductive Event
  | bridge (action : Action) (signals : List PendingSignal)
  | controller (after : AgentController)
  | autonomy (now : Int64)

/-- The signals that a monitor callback pushes. -/
def Pushes : Action → List PendingSignal → Prop
  | .eventLog signal, signals => ∃ description timestampMs,
      signals = [⟨signal.source, Int32.ofInt signal.score, description, timestampMs⟩]
  | .fsEvent event, signals =>
      if event.scan = .infected then ∃ ev virusName, signals = [infectedSignal ev virusName]
      else signals = []
  | _, signals => signals = []

section

variable {α : Type} (platform : Platform α)

namespace ProtectedBridge

def runPhase (now : Int64) (self : ProtectedBridge α) : ProtectedBridge α :=
  match self.phase with
  | .threatResponse =>
      let (loop, controller) := self.loop.tickThreatResponse now self.controller
      { self with loop := loop, controller := controller, phase := .signalDrain }
  | .signalDrain =>
      let (loop, controller) := self.loop.tickSignalDrain now self.controller
      { self with loop := loop, controller := controller, phase := .socRotation }
  | .socRotation =>
      let (loop, controller) := self.loop.tickSocRotation now self.controller
      { self with loop := loop, controller := controller, phase := .heartbeat }
  | .heartbeat =>
      { self with
        bridge := self.bridge.audit platform "autonomy_tick"
          (("tasks_submitted=" : ByteString) ++
            ByteString.decimal self.loop.tasksSubmitted.toNat)
        phase := .threatResponse }

def run (self : ProtectedBridge α) : Event → ProtectedBridge α
  | .bridge action signals =>
      { self with
        bridge := perform platform self.bridge action
        loop := signals.foldl (fun loop signal => loop.pushSignal signal) self.loop }
  | .controller after => { self with controller := after }
  | .autonomy now => self.runPhase platform now

def currentTier (self : ProtectedBridge α) : ThreatTier :=
  self.bridge.currentTier

end ProtectedBridge

/-- The runs of the bridge with `--protect`. -/
def protectSystem (audit : α) : System (ProtectedBridge α) Event where
  Init := fun s => (∃ setup, launch platform setup true audit = .ok s.bridge) ∧ s.loop = {} ∧
    s.phase = .threatResponse
  Step := fun s event s' =>
    (∀ action signals, event = .bridge action signals → Pushes action signals) ∧
      s' = s.run platform event

abbrev ProtectedStep (α : Type) := Transition (ProtectedBridge α) Event

/-- The step of a tick that reads the level. -/
def isResponse (t : ProtectedStep α) : Bool :=
  match t.label with
  | .autonomy _ => t.before.phase = .threatResponse
  | _ => false

/-- The states of a run since its last response, up to the one in which the next step is
made. -/
def moments (before : List (ProtectedStep α)) (t : ProtectedStep α) : List (ProtectedBridge α) :=
  (afterLast (fun u => isResponse u = true) before).map (·.before) ++ [t.before]

/-- A task of high priority for every response agent that the controller knows. -/
def SubmitsResponse (before after : AgentController) : Prop :=
  ∃ entries, after.queue = entries ++ before.queue ∧
    ∀ agent ∈ responseAgents, before.personas.contains agent = true →
      ∃ entry ∈ entries, entry.agentName = agent ∧ entry.priority = .high

structure FollowsThreatLevel (before : List (ProtectedStep α)) (t : ProtectedStep α) : Prop where
  level : ∃ s ∈ moments before t, t.before.loop.currentThreatLevel = tierName s.currentTier
  response : (∀ s ∈ moments before t, s.currentTier = .high ∨ s.currentTier = .critical) →
    SubmitsResponse t.before.controller t.after.controller

section Submit

variable {loop : TickingLoop} {controller : AgentController} {now : Int64}
  {agent input : ByteString} {priority : Priority}

@[simp] theorem TickingLoop.submit_level :
    (loop.submit now agent input priority controller).1.currentThreatLevel =
      loop.currentThreatLevel := by
  simp only [submit]
  split
  · rfl
  · rfl

/-- A task is submitted to an agent that the controller knows. -/
theorem TickingLoop.submit_queue (s : TickingLoop × AgentController) :
    ∃ entries, (s.1.submit now agent input priority s.2).2.queue = entries ++ s.2.queue ∧
      (s.1.submit now agent input priority s.2).2.personas = s.2.personas ∧
      (s.2.personas.contains agent = true →
        ∃ entry ∈ entries, entry.agentName = agent ∧ entry.priority = priority) := by
  have hcontroller : (s.1.submit now agent input priority s.2).2 =
      (s.2.submitTask now agent input priority).2 := by
    simp only [submit]
    split
    · rfl
    · rfl
  rw [hcontroller, AgentController.submitTask]
  split
  · exact ⟨[s.2.newEntry now agent input priority], rfl, rfl, fun _ =>
      ⟨_, List.mem_singleton_self _, rfl, rfl⟩⟩
  · rename_i hunknown
    exact ⟨[], rfl, rfl, fun hknown => absurd hknown hunknown⟩

theorem TickingLoop.submitAll_queue (text : ByteString) (agents : List ByteString)
    (s : TickingLoop × AgentController) :
    ∃ entries, (agents.foldl (fun (s : TickingLoop × AgentController) agent =>
        s.1.submit now agent text priority s.2) s).2.queue = entries ++ s.2.queue ∧
      ∀ agent ∈ agents, s.2.personas.contains agent = true →
        ∃ entry ∈ entries, entry.agentName = agent ∧ entry.priority = priority := by
  induction agents generalizing s with
  | nil => exact ⟨[], rfl, by simp⟩
  | cons first rest ih =>
      obtain ⟨own, hown, hpersonas, hfirst⟩ := @submit_queue now first text priority s
      obtain ⟨later, hlater, hrest⟩ := ih (s.1.submit now first text priority s.2)
      refine ⟨later ++ own, ?_, fun agent hagent hknown => ?_⟩
      · rw [List.foldl_cons, hlater, hown, List.append_assoc]
      · rcases List.mem_cons.mp hagent with rfl | hagent
        · obtain ⟨entry, hentry, h⟩ := hfirst hknown
          exact ⟨entry, by simp [hentry], h⟩
        · obtain ⟨entry, hentry, h⟩ := hrest agent hagent (hpersonas ▸ hknown)
          exact ⟨entry, by simp [hentry], h⟩

/-- Had the loop been notified, it would respond. -/
theorem TickingLoop.tickThreatResponse_notified {tier : ThreatTier} (score : Int32)
    (htier : tier = .high ∨ tier = .critical) :
    SubmitsResponse controller
      ((loop.notifyThreatLevel (tierName tier) score).tickThreatResponse now controller).2 := by
  have hlevel : tierName tier = ("CRITICAL" : ByteString) ∨
      tierName tier = ("HIGH" : ByteString) := by
    rcases htier with rfl | rfl
    · exact .inr rfl
    · exact .inl rfl
  have hresponse : (loop.notifyThreatLevel (tierName tier) score).tickThreatResponse now
      controller = _ := if_pos hlevel
  rw [hresponse]
  exact submitAll_queue _ _ (loop.notifyThreatLevel (tierName tier) score, controller)

theorem TickingLoop.tickThreatResponse_low (hlow : loop.currentThreatLevel = ("LOW" : ByteString)) :
    loop.tickThreatResponse now controller = (loop, controller) := by
  have hhigh : ¬ (("LOW" : ByteString) = ("CRITICAL" : ByteString) ∨
      ("LOW" : ByteString) = ("HIGH" : ByteString)) := by decide
  have hmedium : ("LOW" : ByteString) ≠ ("MEDIUM" : ByteString) := by decide
  simp only [tickThreatResponse, hlow, if_neg hhigh, if_neg hmedium]

end Submit

section Level

variable {platform} {audit : α} {s : ProtectedBridge α}

/-- No step of the bridge refreshes the copy of the level. -/
theorem ProtectedBridge.run_level (event : Event)
    (hlow : s.loop.currentThreatLevel = ("LOW" : ByteString)) :
    (s.run platform event).loop.currentThreatLevel = ("LOW" : ByteString) := by
  cases event with
  | bridge action signals =>
      have hpushed : ∀ loop : TickingLoop,
          (signals.foldl (fun loop signal => loop.pushSignal signal) loop).currentThreatLevel =
            loop.currentThreatLevel := by
        induction signals with
        | nil => exact fun _ => rfl
        | cons signal rest ih => exact fun loop => ih (loop.pushSignal signal)
      exact (hpushed s.loop).trans hlow
  | controller after => exact hlow
  | autonomy now =>
      simp only [run, runPhase]
      split
      · rw [TickingLoop.tickThreatResponse_low hlow]
        exact hlow
      · exact hlow
      · exact TickingLoop.submit_level.trans hlow
      · exact hlow

theorem level_of_trace {steps : List (ProtectedStep α)}
    (htrace : Trace (protectSystem platform audit) steps s) :
    s.loop.currentThreatLevel = ("LOW" : ByteString) := by
  refine htrace.guarded_invariant (G := fun _ _ => True)
    (I := fun s => s.loop.currentThreatLevel = ("LOW" : ByteString)) ?_ ?_ (fun _ _ => trivial)
  · rintro s ⟨-, hloop, -⟩
    rw [hloop]
  · rintro s event s' hlow - ⟨-, rfl⟩
    exact ProtectedBridge.run_level event hlow

theorem tierName_eq_low_iff {tier : ThreatTier} :
    ("LOW" : ByteString) = tierName tier ↔ tier = .low := by
  cases tier <;> decide

/-- Every tick of the run reads the level of some moment since the last one, and responds. -/
def FollowsAtEveryTick (steps : List (ProtectedStep α)) : Prop :=
  ∀ before t after, steps = before ++ t :: after → isResponse t = true →
    FollowsThreatLevel before t

/-- Between any two ticks of the run the tier is LOW at some moment. -/
def LowInEveryInterval (steps : List (ProtectedStep α)) : Prop :=
  ∀ before t after, steps = before ++ t :: after → isResponse t = true →
    ∃ s ∈ moments before t, s.currentTier = .low

/-- The autonomy loop follows the threat level in the runs in which there is nothing to
follow. -/
theorem followsAtEveryTick_iff {steps : List (ProtectedStep α)}
    (htrace : Trace (protectSystem platform audit) steps s) :
    FollowsAtEveryTick steps ↔ LowInEveryInterval steps := by
  constructor
  · rintro hfollows before t after rfl hresponse
    obtain ⟨s, hs, hlevel⟩ := (hfollows before t after rfl hresponse).level
    rw [level_of_trace htrace.split.1, tierName_eq_low_iff] at hlevel
    exact ⟨s, hs, hlevel⟩
  · rintro hinterval before t after rfl hresponse
    obtain ⟨s, hs, htier⟩ := hinterval before t after rfl hresponse
    refine ⟨⟨s, hs, ?_⟩, fun hhigh => ?_⟩
    · rw [level_of_trace htrace.split.1, tierName_eq_low_iff]
      exact htier
    · rcases hhigh s hs with h | h
      · exact absurd (htier.symm.trans h) (by decide)
      · exact absurd (htier.symm.trans h) (by decide)

/-- Whatever the tier is, no response task is ever submitted. -/
theorem response_submits_nothing {before after : List (ProtectedStep α)} {t : ProtectedStep α}
    (htrace : Trace (protectSystem platform audit) (before ++ t :: after) s)
    (hresponse : isResponse t = true) : t.after.controller = t.before.controller := by
  have hlow := level_of_trace htrace.split.1
  have hstep : t.after = t.before.run platform t.label := htrace.split.2.2
  simp only [isResponse] at hresponse
  split at hresponse
  · rename_i now hlabel
    have hphase : t.before.phase = .threatResponse := of_decide_eq_true hresponse
    rw [hstep, hlabel]
    simp only [ProtectedBridge.run, ProtectedBridge.runPhase, hphase,
      TickingLoop.tickThreatResponse_low hlow]
  · exact absurd hresponse (by simp)

end Level

end

/-! Sample runs. -/

def sampleStart (bridge : Globals (List (ByteString × ByteString))) :
    ProtectedBridge (List (ByteString × ByteString)) where
  bridge := bridge
  controller := responderController

def sampleRun (bridge : Globals (List (ByteString × ByteString))) (events : List Event) :
    List (ProtectedStep (List (ByteString × ByteString))) :=
  execute (fun s event => s.run samplePlatform event) (sampleStart bridge) events

theorem sampleRun_trace {bridge : Globals (List (ByteString × ByteString))}
    (hlaunch : launch samplePlatform sampleSetup true [] = .ok bridge) {events : List Event}
    (hpushes : ∀ event ∈ events, ∀ action signals, event = .bridge action signals →
      Pushes action signals) :
    Trace (protectSystem samplePlatform []) (sampleRun bridge events)
      (events.foldl (fun s event => s.run samplePlatform event) (sampleStart bridge)) := by
  apply trace_execute_of
  · exact ⟨⟨sampleSetup, hlaunch⟩, rfl, rfl⟩
  · exact fun _ event hevent => ⟨hpushes event hevent, rfl⟩

def logonSignal : Bridge.EventSignal :=
  ⟨4625, 60, "event_log"⟩

/-- A signal from the event log, a whole tick behind it, and the beginning of the next. -/
def raisedEvents : List Event :=
  [.bridge (.eventLog logonSignal) [⟨"event_log", 60, "failed logons", 1000⟩], .autonomy 2000,
    .autonomy 2000, .autonomy 2000, .autonomy 2000]

/-- The next tick looks at the level. -/
def lastResponse (bridge : Globals (List (ByteString × ByteString))) :
    ProtectedStep (List (ByteString × ByteString)) :=
  let last := raisedEvents.foldl (fun s event => s.run samplePlatform event) (sampleStart bridge)
  ⟨last, .autonomy 32000, last.run samplePlatform (.autonomy 32000)⟩

/-- The tier has been HIGH ever since the tick before, and the loop still has LOW. -/
def highUnnoticed (bridge : Globals (List (ByteString × ByteString))) : Bool :=
  isResponse (lastResponse bridge) &&
    (moments (sampleRun bridge raisedEvents) (lastResponse bridge)).all fun s =>
      s.currentTier = .high && s.loop.currentThreatLevel = ("LOW" : ByteString)

theorem sample_protected :
    ∃ bridge, launch samplePlatform sampleSetup true [] = .ok bridge ∧
      bridge.currentTier = .low ∧ highUnnoticed bridge = true := by
  obtain ⟨bridge, hlaunch, hboth⟩ : ∃ bridge, launch samplePlatform sampleSetup true [] =
      .ok bridge ∧ _ := exists_ok_of_any (p := fun bridge =>
        bridge.currentTier = .low && highUnnoticed bridge) (by decide +kernel)
  rw [Bool.and_eq_true, decide_eq_true_eq] at hboth
  exact ⟨bridge, hlaunch, hboth⟩

theorem sampleRun_raisedEvents (bridge : Globals (List (ByteString × ByteString))) :
    sampleRun bridge (raisedEvents ++ [.autonomy 32000]) =
      sampleRun bridge raisedEvents ++ [lastResponse bridge] :=
  execute_concat _ _ raisedEvents _

theorem quiet_start_followed :
    ∃ bridge, launch samplePlatform sampleSetup true [] = .ok bridge ∧
      FollowsAtEveryTick (sampleRun bridge [.autonomy 1000]) := by
  obtain ⟨bridge, hlaunch, hlow, -⟩ := sample_protected
  refine ⟨bridge, hlaunch, (followsAtEveryTick_iff (sampleRun_trace hlaunch (by simp))).mpr ?_⟩
  intro before t after hsplit _
  rcases before with _ | ⟨first, rest⟩
  · obtain ⟨rfl, -⟩ := List.cons.inj hsplit
    exact ⟨sampleStart bridge, by simp [moments, afterLast], hlow⟩
  · exact absurd (List.cons.inj hsplit).2 (by simp [execute])

/-- The tier is HIGH for a whole interval, and the loop reads LOW. -/
theorem raised_tier_ignored :
    ∃ bridge, launch samplePlatform sampleSetup true [] = .ok bridge ∧
      (∃ s, Trace (protectSystem samplePlatform [])
        (sampleRun bridge (raisedEvents ++ [.autonomy 32000])) s) ∧
      ¬ FollowsAtEveryTick (sampleRun bridge (raisedEvents ++ [.autonomy 32000])) := by
  obtain ⟨bridge, hlaunch, -, hhigh⟩ := sample_protected
  have hpushes : ∀ event ∈ raisedEvents ++ [Event.autonomy 32000], ∀ action signals,
      event = .bridge action signals → Pushes action signals := by
    rintro event hevent action signals rfl
    have hsignal : Event.bridge action signals =
        .bridge (.eventLog logonSignal) [⟨"event_log", 60, "failed logons", 1000⟩] := by
      simpa [raisedEvents] using hevent
    obtain ⟨rfl, rfl⟩ := Event.bridge.inj hsignal
    exact ⟨_, _, rfl⟩
  refine ⟨bridge, hlaunch, ⟨_, sampleRun_trace hlaunch hpushes⟩, fun hfollows => ?_⟩
  rw [highUnnoticed, Bool.and_eq_true, List.all_eq_true] at hhigh
  obtain ⟨s, hs, hlevel⟩ := (hfollows (sampleRun bridge raisedEvents) (lastResponse bridge) []
    (sampleRun_raisedEvents bridge) hhigh.1).level
  have htier := hhigh.2 s hs
  have hread := hhigh.2 (lastResponse bridge).before
    (List.mem_append_right _ (List.mem_singleton_self _))
  rw [Bool.and_eq_true, decide_eq_true_eq, decide_eq_true_eq] at htier hread
  rw [hread.2, htier.1] at hlevel
  exact absurd hlevel (by decide)

end Astartis.Autonomy
