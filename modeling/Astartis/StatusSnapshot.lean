import Astartis.Degradation
import Astartis.Utf8Text
import Astartis.WorkerPool

/-!
The tick as JSON.  A worker cuts the output of its task at 100 bytes for the status of the agent,
and the thread that writes the tick has no handler for what the serializer throws.
-/

namespace Astartis.Agents

open ByteString
open Granite

def modelToTier : GraniteModel → ByteString
  | .fast => "FAST"
  | .heavy => "HEAVY"
  | .accuracy => "ACCURACY"
  | .orchestrator => "ORCHESTRATOR"

namespace AgentController

variable (self : AgentController)

/-- How both loaders enter a persona they accept. -/
def enterPersona (persona : AgentPersona) : AgentController :=
  { self with
    personas := self.personas.insert persona.name persona
    statuses := self.statuses.insert persona.name
      { name := persona.name
        category := persona.category
        tier := modelToTier persona.preferredModel
        state := .idle } }

def getStatuses : List AgentStatus :=
  self.statuses.toList.map Prod.snd

end AgentController

/-- A controller before its start, with the personas that were loaded. -/
inductive Loaded : AgentController → Prop
  | constructed {workerCount : Nat} (hpos : 0 < workerCount) :
      Loaded { workerCount := workerCount, workerCount_pos := hpos }
  | enterPersona {self : AgentController} (persona : AgentPersona) (hloaded : Loaded self) :
      Loaded (self.enterPersona persona)

def SnippetsUtf8 (self : AgentController) : Prop :=
  ∀ (name : ByteString) (st : AgentStatus), self.statuses[name]? = some st →
    validUtf8 st.lastResultSnippet = true

theorem snippetsUtf8_insert {self : AgentController} (hself : SnippetsUtf8 self)
    {name : ByteString} {st : AgentStatus} (hst : validUtf8 st.lastResultSnippet = true) :
    SnippetsUtf8 { self with statuses := self.statuses.insert name st } := by
  intro other found hfound
  simp only [Std.TreeMap.getElem?_insert] at hfound
  split at hfound
  · obtain rfl := Option.some.inj hfound
    exact hst
  · exact hself other found hfound

theorem Loaded.snippetsUtf8 {self : AgentController} (hloaded : Loaded self) :
    SnippetsUtf8 self := by
  induction hloaded with
  | constructed hpos =>
      intro name st hst
      simp at hst
  | enterPersona persona _ ih => exact snippetsUtf8_insert ih rfl

theorem SnippetsUtf8.mem_getStatuses {self : AgentController} (hself : SnippetsUtf8 self)
    {st : AgentStatus} (hst : st ∈ self.getStatuses) : validUtf8 st.lastResultSnippet = true := by
  obtain ⟨⟨name, found⟩, hmem, rfl⟩ := List.mem_map.mp hst
  exact hself name found (Std.TreeMap.mem_toList_iff_getElem?_eq_some.mp hmem)

theorem SnippetsUtf8.markRunning {self : AgentController} (hself : SnippetsUtf8 self)
    (entry : TaskEntry) : SnippetsUtf8 (self.markRunning entry) := by
  rw [AgentController.markRunning]
  split
  · exact hself
  · rename_i st hst
    exact snippetsUtf8_insert hself (hself entry.agentName st hst)

/-- The status of the agent after its task: the snippet is the output cut at 100 bytes. -/
theorem recordResult_snippet (self : AgentController) (clock : Clock) (entry : TaskEntry)
    (result : TaskResult) :
    ∃ st, (self.recordResult clock entry result) =
        { self with statuses := self.statuses.insert entry.agentName st } ∧
      st.lastResultSnippet = result.output.take 100 := by
  refine ⟨_, rfl, ?_⟩
  change substr result.output 0 (min 100 result.output.length) = result.output.take 100
  rw [substr, List.drop_zero, ← List.take_eq_take_min]

theorem SnippetsUtf8.recordResult {self : AgentController} (hself : SnippetsUtf8 self)
    (clock : Clock) (entry : TaskEntry) {result : TaskResult}
    (hsnippet : validUtf8 (result.output.take 100) = true) :
    SnippetsUtf8 (self.recordResult clock entry result) := by
  obtain ⟨st, hrecord, hst⟩ := recordResult_snippet self clock entry result
  rw [hrecord]
  apply snippetsUtf8_insert hself
  rw [hst]
  exact hsnippet

namespace Pool

/-- The pool from the loading of its personas on. -/
def loadedSystem : TransitionSystem.System Pool Event where
  Init := fun s => Fresh s ∧ Loaded s.controller
  Step := Step

/-- The event completes a task: its result goes into the status of the agent. -/
def Completes (s : Pool) (event : Event) (entry : TaskEntry) (result : TaskResult) : Prop :=
  ∃ worker clock, event = .recordResult worker clock ∧
    s.workers[worker]? = some (.recording entry result)

theorem Step.snippetsUtf8 {s s' : Pool} {event : Event} (hstep : Step s event s')
    (hcompletes : ∀ entry result, s.Completes event entry result →
      validUtf8 (result.output.take 100) = true)
    (hbefore : SnippetsUtf8 s.controller) : SnippetsUtf8 s'.controller := by
  cases hstep with
  | @submit now agentName input priority notified workers hmutex hknown hnotify =>
      simp only [AgentController.submitTask, hknown, if_true]
      exact hbefore
  | markRunning hphase hmutex => exact hbefore.markRunning _
  | @recordResult worker entry result clock hphase hmutex =>
      exact hbefore.recordResult clock entry
        (hcompletes entry result ⟨worker, clock, rfl, hphase⟩)
  | _ => exact hbefore

end Pool

end Astartis.Agents

namespace Astartis.Degradation

open Agents
open Audit
open Bridge (Globals)
open ByteString
open Threat
open TransitionSystem
open Unlock

/-- What a snapshot tells of the audit chain and of the process itself. -/
structure Surroundings where
  chainLength : Nat
  chainValid : Bool
  chainHeadHash : ByteString
  sandboxRoot : ByteString
  elevated : Bool

def tierName : ThreatTier → ByteString
  | .low => "LOW"
  | .medium => "MEDIUM"
  | .high => "HIGH"
  | .critical => "CRITICAL"

def sandboxEntryJson (e : SandboxEntry) : Json :=
  .object [
    ("last_modified", .numberInteger e.lastModified.toInt),
    ("locked", .boolean e.locked),
    ("rel_path", .string e.relPath),
    ("size_bytes", .numberInteger e.sizeBytes.toInt),
    ("type", .string (if e.type = .file then ("file" : ByteString) else "dir")),
    ("version", .numberUnsigned e.version.toNat)]

def activeBlockJson (ab : Firewall.ActiveBlock) : Json :=
  .object [
    ("expires_at_ms", .numberInteger ab.expiresAtMs.toInt),
    ("ip", .string ab.ip),
    ("rule_name_in", .string ab.ruleNameIn)]

def approverJson (ap : ApproverStatus) : Json :=
  .object [
    ("name", .string ap.name),
    ("side", .string (if ap.side = .astartis then ("ASTARTIS" : ByteString) else "CLIENT")),
    ("voted", .boolean ap.voted)]

def unlockStateText : ProtocolState → ByteString
  | .collecting => "COLLECTING"
  | .granted => "GRANTED"
  | .idle => "IDLE"

/-- What the handler of `triage_event` leaves for the snapshots. -/
def lastTriageJson : Option Ai.TriageResult → Json
  | none => .null
  | some r =>
      let common : List (ByteString × Json) := [
        ("audit_entry_id", .string r.auditEntryId),
        ("event_type", .string r.input.eventType),
        ("fast_confidence", .numberFloat r.fast.confidence),
        ("fast_model", .string r.fast.modelUsed),
        ("fast_route", .string r.fast.route),
        ("fast_severity_hint", .string r.fast.severityHint),
        ("fast_timed_out", .boolean r.fast.timedOut),
        ("final_tier", .numberInteger r.finalTier.toInt)]
      let heavy : List (ByteString × Json) :=
        match r.heavy with
        | none => []
        | some heavy => [
            ("heavy_mitre", .string heavy.mitreTechnique),
            ("heavy_model", .string heavy.modelUsed),
            ("heavy_rationale", .string heavy.rationale),
            ("heavy_severity", .string heavy.severity),
            ("heavy_timed_out", .boolean heavy.timedOut)]
      let conclusion : List (ByteString × Json) := [
        ("model_suggested_tier", .numberInteger r.modelSuggestedTier.toInt),
        ("rule_engine_overrode", .boolean r.ruleEngineOverrode),
        ("score", .numberInteger r.input.score)]
      .object (common ++ heavy ++ conclusion)

def agentStateText : AgentState → ByteString
  | .idle => "IDLE"
  | .running => "RUNNING"
  | .completed => "COMPLETED"
  | .failed => "FAILED"

def agentStatusJson (s : AgentStatus) : Json :=
  .object [
    ("category", .string s.category),
    ("last_result_snippet", .string s.lastResultSnippet),
    ("last_run_at_ms", .numberInteger s.lastRunAtMs.toInt),
    ("last_task_id", .string s.lastTaskId),
    ("name", .string s.name),
    ("state", .string (agentStateText s.state)),
    ("tasks_completed", .numberInteger s.tasksCompleted.toInt),
    ("tasks_failed", .numberInteger s.tasksFailed.toInt)]

namespace Snapshot

variable (snap : Snapshot) (around : Surroundings)

/-- The members behind `agent_statuses`. -/
def laterMembers : List (ByteString × Json) := [
  ("chain_head", .string (around.chainHeadHash.take 12)),
  ("chain_length", .numberUnsigned around.chainLength),
  ("chain_valid", .boolean around.chainValid),
  ("chaos_K", .numberFloat snap.chaosK),
  ("chaos_anomalous", .boolean snap.chaosAnomalous),
  ("chaos_history", .array (snap.chaosHistory.map .numberFloat)),
  ("chaos_windows", .numberUnsigned snap.chaosWindows.toNat),
  ("decoy_events", .numberUnsigned snap.decoyEvents),
  ("elevated", .boolean around.elevated),
  ("last_triage", lastTriageJson snap.lastTriage),
  ("quarantine_count", .numberInteger snap.quarantineCount),
  ("rule_fires", .numberUnsigned snap.ruleFires.toNat),
  ("sandbox_entries", .array (snap.sandboxEntries.map sandboxEntryJson)),
  ("sandbox_root", .string around.sandboxRoot),
  ("threat_tier", .numberInteger snap.threatTier.toInt),
  ("threat_tier_name", .string (tierName snap.threatTier)),
  ("threat_transitions", .numberUnsigned snap.threatTransitions.toNat),
  ("unlock_approvers", .array (snap.unlock.approvers.map approverJson)),
  ("unlock_state", .string (unlockStateText snap.unlock.state)),
  ("unlock_threshold", .numberInteger snap.unlock.threshold),
  ("unlock_votes_collected", .numberInteger snap.unlock.votesCollected),
  ("veeam_backup_count", .numberInteger snap.veeamBackupCount),
  ("veeam_integrity_checks", .numberInteger snap.veeamIntegrityChecks),
  ("veeam_lock_state", .string (Backup.lockStateStr snap.veeamLockState)),
  ("veeam_locked_at_ms", .numberInteger snap.veeamLockedAtMs.toInt),
  ("veeam_locked_by_reason", .string snap.veeamLockedByReason),
  ("worm_lock_count", .numberUnsigned snap.wormLockCount.toNat),
  ("worm_locked", .boolean snap.wormLocked),
  ("worm_reason", .string snap.wormReason),
  ("worm_triggers", .numberUnsigned snap.wormTriggers.toNat)]

def json : Json :=
  .object <|
    ("active_firewall_blocks", .array (snap.activeFirewallBlocks.map activeBlockJson)) ::
    ("agent_queue_depth", .numberInteger snap.agentQueueDepth) ::
    ("agent_statuses", .array (snap.agentStatuses.map agentStatusJson)) ::
    snap.laterMembers around

/-- What `tick_loop` emits. -/
def tick : Json :=
  Stdin.event "tick" (snap.json around)

def withoutSnippets : Snapshot :=
  { snap with
    agentStatuses := snap.agentStatuses.map fun s => { s with lastResultSnippet := [] } }

end Snapshot

section Serialising

theorem areUtf8_statuses (statuses : List AgentStatus) :
    Json.areUtf8 (statuses.map agentStatusJson) =
      (Json.areUtf8 ((statuses.map fun s =>
          { s with lastResultSnippet := [] }).map agentStatusJson) &&
        statuses.all fun s => validUtf8 s.lastResultSnippet) := by
  induction statuses with
  | nil => rfl
  | cons s statuses ih =>
      simp only [List.map_cons, Json.areUtf8, List.all_cons, ih, agentStatusJson, Json.isUtf8,
        Json.membersUtf8, validUtf8]
      generalize validUtf8 s.lastResultSnippet = snippet
      cases snippet with
      | true => simp [Bool.and_assoc]
      | false => simp

/-- Beside what the rest of the tick needs, the snippets have to be UTF-8. -/
theorem tick_isUtf8 (snap : Snapshot) (around : Surroundings) :
    (snap.tick around).isUtf8 = ((snap.withoutSnippets.tick around).isUtf8 &&
      snap.agentStatuses.all fun s => validUtf8 s.lastResultSnippet) := by
  simp only [Snapshot.tick, Stdin.event, Snapshot.json, Json.isUtf8, Json.membersUtf8,
    Snapshot.withoutSnippets, areUtf8_statuses snap.agentStatuses]
  generalize (snap.agentStatuses.all fun s => validUtf8 s.lastResultSnippet) = snippets
  cases snippets with
  | true =>
      simp only [Bool.and_true]
      rfl
  | false => simp

end Serialising

section Runs

variable (α : Type) (lib : Json.Library)

/-- The completed tasks leave UTF-8 prefixes of their outputs, and a tick is written if it can be
written without them. -/
structure StaysSerialisable (steps : List (Transition Pool Pool.Event)) : Prop where
  snippet : ∀ t ∈ steps, ∀ entry result, t.before.Completes t.label entry result →
    ∃ st, t.after.controller.statuses[entry.agentName]? = some st ∧
      st.lastResultSnippet <+: result.output ∧ st.lastResultSnippet.length ≤ 100 ∧
        validUtf8 st.lastResultSnippet = true
  tick : ∀ t ∈ steps, ∀ pointers reports (bridge : Globals α) snap around,
    buildSnapshot pointers reports bridge = .ok snap →
      reports.agentStatuses = t.after.controller.getStatuses →
        (lib.dump (snap.withoutSnippets.tick around)).isSome = true →
          (lib.dump (snap.tick around)).isSome = true

variable {α lib}

theorem buildSnapshot_agentStatuses {pointers : Pointers} {reports : Reports}
    {bridge : Globals α} {snap : Snapshot}
    (hbuild : buildSnapshot pointers reports bridge = .ok snap)
    {s : AgentStatus} (hs : s ∈ snap.agentStatuses) : s ∈ reports.agentStatuses := by
  simp only [buildSnapshot, bind, Except.bind, pure, Except.pure] at hbuild
  split at hbuild
  · exact absurd hbuild (by simp)
  · obtain rfl := Except.ok.inj hbuild
    simp only at hs
    split at hs
    · exact hs
    · simp at hs

theorem tick_of_snippetsUtf8 (hdump : lib.RefusesNonUtf8) {controller : AgentController}
    (hsnippets : SnippetsUtf8 controller) {pointers : Pointers} {reports : Reports}
    {bridge : Globals α} {snap : Snapshot}
    (hbuild : buildSnapshot pointers reports bridge = .ok snap)
    (hreports : reports.agentStatuses = controller.getStatuses) (around : Surroundings)
    (hrest : (lib.dump (snap.withoutSnippets.tick around)).isSome = true) :
    (lib.dump (snap.tick around)).isSome = true := by
  have hall : (snap.agentStatuses.all fun s => validUtf8 s.lastResultSnippet) = true := by
    rw [List.all_eq_true]
    intro s hs
    have hreport := buildSnapshot_agentStatuses hbuild hs
    rw [hreports] at hreport
    exact hsnippets.mem_getStatuses hreport
  rw [hdump] at hrest ⊢
  rw [tick_isUtf8, hrest, hall, Bool.and_true]

/-- The status after a completed task. -/
theorem completes_snippet {s s' : Pool} {event : Pool.Event} (hstep : Pool.Step s event s')
    {entry : TaskEntry} {result : TaskResult} (hcompletes : s.Completes event entry result) :
    ∃ st, s'.controller.statuses[entry.agentName]? = some st ∧
      st.lastResultSnippet = result.output.take 100 := by
  obtain ⟨worker, clock, rfl, hphase⟩ := hcompletes
  cases hstep with
  | @recordResult _ entry' result' _ hphase' hmutex =>
      obtain ⟨rfl, rfl⟩ : entry' = entry ∧ result' = result := by
        simpa using hphase'.symm.trans hphase
      obtain ⟨st, hrecord, hst⟩ := recordResult_snippet s.controller clock entry' result'
      refine ⟨st, ?_, hst⟩
      simp only [hrecord, Std.TreeMap.getElem?_insert_self]

end Runs

section Samples

open Pool

def triagePersona : AgentPersona where
  name := "alert_triage"
  category := "soc"
  preferredModel := .fast
  systemPrompt := "You triage alerts."

def triageController : AgentController :=
  AgentController.enterPersona { workerCount := 1, workerCount_pos := Nat.one_pos } triagePersona

def triageResult (output : ByteString) : TaskResult where
  taskId := "task_1"
  agentName := "alert_triage"
  ok := true
  output := output
  modelUsed := "granite3.1-moe:3b"
  completedAtMs := 1700000000000

def triageClock : Clock := ⟨1700000000000, "2023-11-14T22:13:20Z"⟩

/-- One task is submitted before the start, and the worker completes it. -/
theorem completed_run (output : ByteString) :
    ∃ before completing after entry,
      Trace loadedSystem
          (before ++ [⟨completing, .recordResult 0 triageClock, after⟩]) after ∧
        completing.workers[0]? = some (.recording entry (triageResult output)) ∧
        ∀ t ∈ before, ∀ worker clock, t.label ≠ .recordResult worker clock := by
  have hloaded : Loaded triageController := .enterPersona triagePersona (.constructed _)
  have hfresh : Fresh { controller := triageController } :=
    ⟨triageController, rfl, rfl, rfl, rfl⟩
  have hknown : triageController.personas.contains "alert_triage" = true := by
    simp [triageController, AgentController.enterPersona, triagePersona]
  have hqueued : (triageController.submitTask 0 "alert_triage" "ping" .normal).2 =
      { triageController with
        queue := [triageController.newEntry 0 "alert_triage" "ping" .normal]
        nextTaskId := 2 } := by
    rw [AgentController.submitTask, if_pos hknown]
    rfl
  have htop : IsTop (triageController.submitTask 0 "alert_triage" "ping" .normal).2.queue
      (triageController.newEntry 0 "alert_triage" "ping" .normal) := by
    rw [hqueued]
    exact ⟨by simp, by simp [TaskEntry.greater]⟩
  have hstart : Trace loadedSystem [] { controller := triageController } :=
    .start ⟨hfresh, hloaded⟩
  have hsubmit := hstart.extend
    (@Step.submit _ 0 "alert_triage" "ping" .normal none [] rfl hknown (.nobody (by simp)))
  have hstarted := hsubmit.extend (.start ((congrArg AgentController.running hqueued).trans rfl))
  have hentered := hstarted.extend (@Step.enterLoop _ 0 rfl rfl)
  have hlocked := hentered.extend (@Step.lock _ 0 rfl rfl)
  have htaken := hlocked.extend (@Step.take _ 0
    (triageController.newEntry 0 "alert_triage" "ping" .normal) rfl htop)
  have hmarked := htaken.extend (@Step.markRunning _ 0 _ rfl rfl)
  have hexecuted := hmarked.extend (@Step.execute _ 0 _ (triageResult output) rfl)
  have hrecorded := hexecuted.extend (@Step.recordResult _ 0 _ _ triageClock rfl rfl)
  refine ⟨_, _, _, _, hrecorded, rfl, ?_⟩
  intro t ht worker clock
  simp only [List.mem_append, List.mem_singleton, List.not_mem_nil, false_or] at ht
  rcases ht with (((((rfl | rfl) | rfl) | rfl) | rfl) | rfl) | rfl
  all_goals simp

/-- An output of 100 characters of which the last one takes two bytes. -/
def accentedOutput : ByteString :=
  List.replicate 99 97 ++ ("é" : ByteString)

end Samples

end Astartis.Degradation
