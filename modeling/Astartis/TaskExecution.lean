import Astartis.ActionDispatcher
import Astartis.AutonomyLoop
import Astartis.GraniteSafety
import Astartis.JsonText

/-!
The part of `worker_loop` behind the section that takes an entry from the queue.  No
handler stands in the way of an exception, so one that leaves `execute_task` ends the
thread and the process with it.
-/

namespace Astartis.Agents

open Audit
open Granite

/-- What a controller is constructed and wired with.  `skillDocuments` are the skill files
that exist, in the order of the search, `none` where parsing one throws. -/
structure Wiring (σ : Type) where
  json : Json.Library
  auditAdder : AuditAdder σ
  skillDocuments : ByteString → List (Option Json) := fun _ => []
  actionDispatcher : Option (ActionDispatcher.Texts × ActionDispatcher.Effectors σ) := none
  taskCompletedCallback : Option (TaskResult → σ → σ) := none

/-- What other threads do to the controller between the sections of an iteration. -/
structure Meanwhile where
  beforeExecute : AgentController → AgentController := id
  beforeRecord : AgentController → AgentController := id

structure Swarm (σ : Type) where
  controller : AgentController
  granite : GraniteClient := {}
  world : σ

namespace Wiring

variable {σ : Type} (self : Wiring σ)

def loadSkillFragment (skillName : ByteString) : ByteString :=
  ((self.skillDocuments skillName).findSome? fun document =>
    document.bind (Json.value? Json.getString? "prompt_fragment" skillName)).getD skillName

def systemPrompt (persona : AgentPersona) : ByteString :=
  if persona.skills = [] then persona.systemPrompt
  else
    persona.systemPrompt ++ ("\n\n--- Skills ---" : ByteString) ++
      persona.skills.flatMap fun skill =>
        ("\n[" : ByteString) ++ skill ++ ("] " : ByteString) ++ self.loadSkillFragment skill

def callFor (persona : AgentPersona) (entry : TaskEntry) : Call where
  model := persona.preferredModel
  systemPrompt := self.systemPrompt persona
  userPrompt := entry.input
  maxTokens := persona.maxTokens
  temperature := persona.temperature

/-- The dispatch of a result, `none` when an exception leaves it. -/
def autoDispatch (persona : AgentPersona) (result : TaskResult) (world : σ) :
    Option TaskResult × σ :=
  match self.actionDispatcher with
  | none => (some result, world)
  | some (texts, effectors) =>
      if result.ok = true ∧ result.output ≠ [] then
        match ActionDispatcher.dispatch texts effectors persona.name result.output world with
        | (none, world) => (none, world)
        | (some dr, world) =>
            if dr.actionTaken then
              (some { result with
                actionTaken := true
                actionType := dr.actionType
                actionTarget := dr.target }, world)
            else (some result, world)
      else (some result, world)

/-- `execute_task`, without a result when an exception leaves it. -/
def executeTask (exchange : Exchange) (clock : Clock) (entry : TaskEntry)
    (controller : AgentController) (granite : GraniteClient) (world : σ) :
    Option TaskResult × GraniteClient × σ :=
  let result : TaskResult :=
    { taskId := entry.taskId
      agentName := entry.agentName
      ok := false
      completedAtMs := clock.nowMs }
  match controller.personas[entry.agentName]? with
  | none => (some result, granite, world)
  | some persona =>
      match granite.generate self.json self.auditAdder exchange (self.callFor persona entry)
          world with
      | (none, granite, world) => (none, granite, world)
      | (some resp, granite, world) =>
          let result := { result with
            ok := resp.ok
            output := resp.text
            modelUsed := resp.modelUsed }
          let (result, world) := self.autoDispatch persona result world
          (result, granite, world)

/-- An iteration from the taken entry on, `none` when the thread dies of an exception. -/
def iteration (meanwhile : Meanwhile) (exchange : Exchange) (clock : Clock)
    (entry : TaskEntry) (s : Swarm σ) : Option (Swarm σ) :=
  let controller := meanwhile.beforeExecute (s.controller.markRunning entry)
  match self.executeTask exchange clock entry controller s.granite s.world with
  | (none, _, _) => none
  | (some result, granite, world) =>
      let controller := (meanwhile.beforeRecord controller).recordResult clock entry result
      let world :=
        match self.taskCompletedCallback with
        | none => world
        | some cb => cb result world
      let payload := ("agent=" : ByteString) ++ entry.agentName ++
        (" task=" : ByteString) ++ entry.taskId ++
        (" ok=" : ByteString) ++ (if result.ok then ("true" : ByteString) else "false") ++
        (" model=" : ByteString) ++ result.modelUsed
      some {
        controller := controller
        granite := granite
        world := (self.auditAdder "agent_task_completed" payload world).2 }

end Wiring

/-- The iteration ended with the agent completed or failed. -/
def EndsNormally {σ : Type} (agentName : ByteString) (outcome : Option (Swarm σ)) : Prop :=
  ∃ s, outcome = some s ∧ ∃ st, s.controller.statuses[agentName]? = some st ∧
    (st.state = .completed ∨ st.state = .failed)

section Requests

variable {json : Json.Library}

theorem validUtf8_tag (model : GraniteModel) : ByteString.validUtf8 model.tag = true := by
  cases model <;> decide +kernel

/-- Of the strings in a request only the prompts can fail to be UTF-8. -/
theorem requestBody_isUtf8 (model : GraniteModel) (call : Call) :
    (requestBody model.tag call).isUtf8 =
      (ByteString.validUtf8 call.systemPrompt && ByteString.validUtf8 call.userPrompt) := by
  have hkeys : ∀ key ∈ (["messages", "model", "options", "stream", "content", "role",
      "num_predict", "temperature", "system", "user"] : List ByteString),
      ByteString.validUtf8 key = true := by
    decide +kernel
  simp only [List.forall_mem_cons] at hkeys
  simp [requestBody, Json.isUtf8, Json.areUtf8, Json.membersUtf8, validUtf8_tag, hkeys]

theorem validUtf8_effective (call : Call) :
    ByteString.validUtf8 (GraniteClient.effective call).systemPrompt =
      ByteString.validUtf8 call.systemPrompt := by
  simp only [GraniteClient.effective]
  split
  · exact ByteString.validUtf8_ascii_append
      (ByteString.forall_mem_of_all (by decide +kernel)) _
  · rfl

@[simp] theorem effective_userPrompt (call : Call) :
    (GraniteClient.effective call).userPrompt = call.userPrompt := by
  simp only [GraniteClient.effective]
  split
  · rfl
  · rfl

theorem callRequest?_isSome (hjson : json.RefusesNonUtf8) (call : Call)
    (client : GraniteClient) :
    (client.callRequest? json call).isSome =
      (ByteString.validUtf8 call.systemPrompt && ByteString.validUtf8 call.userPrompt) := by
  have hdump := hjson (requestBody call.model.tag (GraniteClient.effective call))
  rw [requestBody_isUtf8, validUtf8_effective, effective_userPrompt] at hdump
  rw [← hdump]
  simp only [GraniteClient.callRequest?, GraniteClient.request?]
  cases json.dump (requestBody call.model.tag (GraniteClient.effective call)) <;> rfl

end Requests

section Execution

variable {σ : Type} {wiring : Wiring σ}

theorem autoDispatch_of_not_ok {result : TaskResult} (hok : result.ok = false)
    (persona : AgentPersona) (world : σ) :
    wiring.autoDispatch persona result world = (some result, world) := by
  simp only [Wiring.autoDispatch, hok]
  split
  · rfl
  · rfl

/-- A reply is never classified as a success, so nothing is dispatched. -/
theorem responseTo_ok (answer : ByteString) :
    (GraniteClient.responseTo answer).ok = false := by
  simp only [GraniteClient.responseTo]
  split
  · rfl
  · rfl

theorem executeTask_isSome_iff (hjson : wiring.json.RefusesNonUtf8) (exchange : Exchange)
    (clock : Clock) (entry : TaskEntry) (controller : AgentController)
    (granite : GraniteClient) (world : σ) :
    (wiring.executeTask exchange clock entry controller granite world).1.isSome = true ↔
      ∀ persona, controller.personas[entry.agentName]? = some persona →
        ByteString.validUtf8 (wiring.systemPrompt persona) = true ∧
          ByteString.validUtf8 entry.input = true := by
  simp only [Wiring.executeTask]
  cases hpersona : controller.personas[entry.agentName]? with
  | none => simp
  | some persona =>
      have hcall := callRequest?_isSome hjson (wiring.callFor persona entry) granite
      have hfst := GraniteClient.generate_fst wiring.json wiring.auditAdder exchange
        (wiring.callFor persona entry) granite world
      simp only [Option.some.injEq, forall_eq']
      cases hgenerate : granite.generate wiring.json wiring.auditAdder exchange
          (wiring.callFor persona entry) world with
      | mk response after =>
          rw [hgenerate] at hfst
          cases hrequest : granite.callRequest? wiring.json (wiring.callFor persona entry) with
          | none =>
              -- dump() throws on one of the prompts
              simp only [hrequest, Option.map_none] at hfst
              rw [hrequest] at hcall
              simp only [hfst, Option.isSome_none, Bool.false_eq_true, false_iff]
              simpa [Wiring.callFor] using hcall.symm
          | some request =>
              simp only [hrequest, Option.map_some] at hfst
              rw [hrequest] at hcall
              have hok := responseTo_ok (exchange.answer
                (wiring.callFor persona entry).model.timeout request)
              simp only [hfst]
              rw [autoDispatch_of_not_ok]
              · simpa [Wiring.callFor] using hcall.symm
              · exact hok

theorem iteration_endsNormally_iff_isSome (meanwhile : Meanwhile) (exchange : Exchange)
    (clock : Clock) (entry : TaskEntry) (s : Swarm σ) :
    EndsNormally entry.agentName (wiring.iteration meanwhile exchange clock entry s) ↔
      (wiring.executeTask exchange clock entry
        (meanwhile.beforeExecute (s.controller.markRunning entry)) s.granite
        s.world).1.isSome = true := by
  simp only [Wiring.iteration]
  split
  · rename_i hnone
    simp [EndsNormally, hnone]
  · rename_i result granite world hsome
    simp only [hsome, Option.isSome_some, iff_true]
    obtain ⟨st, hst, hstate⟩ := (meanwhile.beforeRecord
      (meanwhile.beforeExecute (s.controller.markRunning entry))).recordResult_statuses clock
      entry result
    refine ⟨_, rfl, st, hst, ?_⟩
    rw [hstate]
    split
    · exact .inl rfl
    · exact .inr rfl

/-- Whatever a server replies, an iteration ends with the agent completed or failed exactly
if the agent is gone or both of its prompts are UTF-8. -/
theorem iteration_endsNormally_iff (wiring : Wiring σ) (hjson : wiring.json.RefusesNonUtf8)
    (meanwhile : Meanwhile) (exchange : Exchange) (clock : Clock) (entry : TaskEntry)
    (s : Swarm σ) :
    EndsNormally entry.agentName (wiring.iteration meanwhile exchange clock entry s) ↔
      ∀ persona, (meanwhile.beforeExecute
          (s.controller.markRunning entry)).personas[entry.agentName]? = some persona →
        ByteString.validUtf8 (wiring.systemPrompt persona) = true ∧
          ByteString.validUtf8 entry.input = true := by
  rw [iteration_endsNormally_iff_isSome, executeTask_isSome_iff hjson]

end Execution

open Autonomy
open Monitor

def responderPersona : AgentPersona where
  name := "incident_responder"
  category := "soc"
  preferredModel := .fast
  systemPrompt := "You respond to incidents."
  skills := ["containment"]

def responderController : AgentController where
  personas := .ofList [(responderPersona.name, responderPersona)]
  running := true

def okWiring : Wiring (List (ByteString × ByteString)) where
  json := okLibrary
  auditAdder := noteEntry

def midnight : Clock := ⟨0, "1970-01-01T00:00:00Z"⟩

/-- A dropped file of this name is found to be infected, and the loop submits the signal. -/
def controllerAfterDrop (fileName : List UInt16) : Option AgentController := do
  let ev ← ({} : FsMonitor).event? "C:\\Users\\Public" .added fileName 0
  let loop := ({} : AutonomyLoop).pushSignal (infectedSignal ev "Eicar-Signature")
  return (loop.tickSignalDrain 0 responderController).2

/-- The task that the signal for a file becomes. -/
def dropTask (filename : ByteString) : TaskEntry where
  taskId := "task_1"
  agentName := "incident_responder"
  input := summary [{
    source := "fs_monitor/infected"
    score := 90
    description := ("Infected file detected: " : ByteString) ++ filename ++
      (" (Eicar-Signature)" : ByteString)
    timestampMs := 0 }]
  priority := .high
  enqueuedAtMs := 0

theorem setup_endsNormally :
    EndsNormally "incident_responder" (okWiring.iteration {} okExchange midnight
      (dropTask "setup.exe") { controller := responderController, world := [] }) := by
  refine (iteration_endsNormally_iff okWiring (Json.sampleLibrary_refusesNonUtf8 _ _) {}
    okExchange midnight (dropTask "setup.exe") _).mpr fun persona hpersona => ?_
  obtain rfl : responderPersona = persona := Option.some.inj hpersona
  exact ⟨by decide +kernel, by decide +kernel⟩

/-- The file name `é.exe`: its first code unit is narrowed to the byte `E9`. -/
def accentedName : List UInt16 := [0xE9, 0x2E, 0x65, 0x78, 0x65]

theorem accented_name_kills_worker :
    okWiring.json.RefusesNonUtf8 ∧
      ∃ (controller : AgentController) (entry : TaskEntry),
        controllerAfterDrop accentedName = some controller ∧ controller.queue = [entry] ∧
          ¬ EndsNormally entry.agentName (okWiring.iteration {} okExchange midnight entry
            { controller := controller.dequeue entry, world := [] }) := by
  have hjson : okWiring.json.RefusesNonUtf8 := Json.sampleLibrary_refusesNonUtf8 _ _
  refine ⟨hjson, _, dropTask (narrow accentedName), rfl, by decide +kernel, fun hends => ?_⟩
  rw [iteration_endsNormally_iff_isSome, executeTask_isSome_iff hjson] at hends
  have hinput := (hends responderPersona rfl).2
  exact absurd hinput (by decide +kernel)

end Astartis.Agents
