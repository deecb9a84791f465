import Astartis.AgentActivity
import Astartis.PersonaBytes

/-!
The two maps of the controller, of its personas and of their statuses, while files are loaded
next to workers that execute the tasks of agents loaded earlier.
-/

namespace Astartis.Agents

open TransitionSystem

/-- The persona that a file is good for. -/
def Load.persona? (streams : Config.StreamLibrary) : Load → Option LoadedPersona
  | .json file =>
      match loadFromJson streams file with
      | .error _ => none
      | .ok persona =>
          if Ecc.validatePersona persona.toAgentPersona = false then none
          else if isGraniteOnly persona.toAgentPersona = false then none
          else some persona
  | .ecc file =>
      if Ecc.isEccFile file.toMdFile = false then none
      else
        match loadFromMd file with
        | none => none
        | some persona =>
            if isGraniteOnly persona.toAgentPersona = false then none else some persona

/-- What a load does to the members behind the mutex. -/
def AgentController.load (streams : Config.StreamLibrary) (self : AgentController)
    (load : Load) : AgentController :=
  match load.persona? streams with
  | none => self
  | some persona => self.enterPersona persona.toAgentPersona

theorem Load.perform_controller (streams : Config.StreamLibrary) (sizeofAgentPersona : Nat)
    (self : PersonaStore) (load : Load) :
    (load.perform streams sizeofAgentPersona self).controller =
      self.controller.load streams load := by
  cases load with
  | json file =>
      simp only [perform, PersonaStore.loadPersona, AgentController.load, persona?]
      cases loadFromJson streams file with
      | error what => rfl
      | ok persona =>
          simp only
          split
          · rfl
          · split
            · rfl
            · rfl
  | ecc file =>
      simp only [perform, PersonaStore.loadEccPersona, AgentController.load, persona?]
      split
      · rfl
      · cases loadFromMd file with
        | none => rfl
        | some persona =>
            simp only
            split
            · rfl
            · rfl

namespace Pool

inductive RegistryEvent
  | pool (event : Event)
  | load (load : Load)

inductive RegistryStep (streams : Config.StreamLibrary) : Pool → RegistryEvent → Pool → Prop
  | pool {s s' : Pool} {event : Event} (hstep : Step s event s') :
      RegistryStep streams s (.pool event) s'
  | load {s : Pool} (load : Load) (hmutex : s.mutex = none) :
      RegistryStep streams s (.load load)
        { s with controller := s.controller.load streams load }

/-- The pool whose personas may come at any time. -/
def registrySystem (streams : Config.StreamLibrary) : System Pool RegistryEvent where
  Init := fun s => Fresh s ∧ Loaded s.controller
  Step := RegistryStep streams

end Pool

section Names

variable {self : AgentController}

/-- Under one name there is an agent and its status, and both bear the name. -/
structure AgentController.Registered (controller : AgentController) : Prop where
  same (name : ByteString) : controller.statuses[name]?.map AgentStatus.name =
    controller.personas[name]?.map AgentPersona.name
  named (name : ByteString) (persona : AgentPersona)
    (hpersona : controller.personas[name]? = some persona) : persona.name = name

theorem AgentController.Registered.enterPersona (hregistered : self.Registered)
    (persona : AgentPersona) : (self.enterPersona persona).Registered := by
  constructor
  · intro name
    simp only [AgentController.enterPersona, Std.TreeMap.getElem?_insert]
    split
    · rfl
    · exact hregistered.same name
  · intro name found hfound
    simp only [AgentController.enterPersona, Std.TreeMap.getElem?_insert] at hfound
    split at hfound
    · rename_i hname
      obtain rfl := Option.some.inj hfound
      exact Std.LawfulEqOrd.eq_of_compare hname
    · exact hregistered.named name found hfound

theorem AgentController.Registered.load {streams : Config.StreamLibrary}
    (hregistered : self.Registered) (load : Load) : (self.load streams load).Registered := by
  rw [AgentController.load]
  split
  · exact hregistered
  · exact hregistered.enterPersona _

theorem Loaded.registered (hloaded : Loaded self) : self.Registered := by
  induction hloaded with
  | constructed hpos => exact ⟨by simp, by simp⟩
  | enterPersona persona _ ih => exact ih.enterPersona persona

/-- A status that is written over another one of the same name. -/
theorem AgentController.Registered.update (hregistered : self.Registered) {name : ByteString}
    {st st' : AgentStatus} (hst : self.statuses[name]? = some st) (hname : st'.name = st.name) :
    AgentController.Registered { self with statuses := self.statuses.insert name st' } := by
  refine ⟨fun other => ?_, hregistered.named⟩
  simp only [Std.TreeMap.getElem?_insert]
  split
  · rename_i hother
    obtain rfl : name = other := Std.LawfulEqOrd.eq_of_compare hother
    rw [← hregistered.same name, hst]
    simp [hname]
  · exact hregistered.same other

theorem AgentController.Registered.markRunning (hregistered : self.Registered)
    (entry : TaskEntry) : (self.markRunning entry).Registered := by
  rw [AgentController.markRunning]
  split
  · exact hregistered
  · rename_i st hst
    exact hregistered.update hst rfl

theorem AgentController.Registered.recordResult (hregistered : self.Registered) (clock : Clock)
    {entry : TaskEntry} (result : TaskResult)
    (hknown : self.personas.contains entry.agentName = true) :
    (self.recordResult clock entry result).Registered := by
  rw [Std.TreeMap.contains_eq_isSome_getElem?, Option.isSome_iff_exists] at hknown
  obtain ⟨persona, hpersona⟩ := hknown
  have hsame := hregistered.same entry.agentName
  rw [hpersona, Option.map_some, Option.map_eq_some_iff] at hsame
  obtain ⟨st, hst, -⟩ := hsame
  refine hregistered.update hst ?_
  simp [AgentController.statusOf, hst]

/-- The statuses are listed in the order of the agents. -/
theorem AgentController.Registered.getStatuses_names (hregistered : self.Registered) :
    self.getStatuses.map AgentStatus.name = self.personas.keys := by
  have hsame : (self.statuses.map fun _ st => st.name).Equiv
      (self.personas.map fun _ persona => persona.name) := by
    apply Std.TreeMap.Equiv.of_forall_constGet?_eq
    intro name
    rw [Std.TreeMap.getElem?_map, Std.TreeMap.getElem?_map]
    exact hregistered.same name
  have hnamed : ∀ p ∈ self.personas.toList, p.2.name = p.1 := by
    rintro ⟨name, persona⟩ hp
    exact hregistered.named name persona (Std.TreeMap.mem_toList_iff_getElem?_eq_some.mp hp)
  calc
    self.getStatuses.map AgentStatus.name =
        (self.statuses.map (fun _ st => st.name)).toList.map Prod.snd := by
      simp [getStatuses, Std.TreeMap.toList_map, List.map_map, Function.comp_def]
    _ = (self.personas.map (fun _ persona => persona.name)).toList.map Prod.snd := by
      rw [hsame.toList_eq]
    _ = self.personas.toList.map Prod.fst := by
      rw [Std.TreeMap.toList_map, List.map_map]
      exact List.map_congr_left hnamed
    _ = self.personas.keys := Std.TreeMap.map_fst_toList_eq_keys

end Names

namespace Pool

variable {streams : Config.StreamLibrary} {s s' : Pool}

/-- The two maps agree, and whoever is waited for is in them. -/
structure Registered (s : Pool) : Prop where
  agents : s.controller.Registered
  opened : ∀ entry, s.Open entry → s.controller.personas.contains entry.agentName = true

theorem Step.registered {event : Event} (hstep : Step s event s')
    (hregistered : s.Registered) : s'.Registered := by
  constructor
  · obtain ⟨hstatuses, -⟩ | ⟨worker, entry, -, -, hmarked, -⟩ |
      ⟨worker, clock, entry, result, -, hphase, hrecorded, -⟩ := hstep.activity
    · refine ⟨fun name => ?_, fun name => ?_⟩
      · rw [hstatuses, hstep.personas_eq]
        exact hregistered.agents.same name
      · rw [hstep.personas_eq]
        exact hregistered.agents.named name
    · rw [hmarked]
      exact hregistered.agents.markRunning entry
    · have hopen : s.Open entry :=
        .inr ⟨worker, by simp [carried, entryAt, hphase, WorkerPhase.carried]⟩
      rw [hrecorded]
      exact hregistered.agents.recordResult clock result (hregistered.opened entry hopen)
  · intro entry hopen
    rw [hstep.personas_eq]
    exact (hstep.open_cases hopen).elim (hregistered.opened entry) id

theorem Registered.load (hregistered : s.Registered) (load : Load) :
    Registered { s with controller := s.controller.load streams load } := by
  refine ⟨hregistered.agents.load load, fun entry hopen => ?_⟩
  have hbefore : s.Open entry := by
    refine hopen.imp (fun hqueued => ?_) id
    simp only [AgentController.load] at hqueued
    split at hqueued
    · exact hqueued
    · exact hqueued
  have hknown := hregistered.opened entry hbefore
  simp only [AgentController.load]
  split
  · exact hknown
  · simp [AgentController.enterPersona, Std.TreeMap.contains_insert, hknown]

/-- Every agent has one status, in the order of the agents and under its name; and the agent of
a task that waits or is worked on is there. -/
theorem registry_complete {steps : List (Transition Pool RegistryEvent)}
    (htrace : Trace (registrySystem streams) steps s) :
    s.controller.getStatuses.map AgentStatus.name = s.controller.personas.keys ∧
      ∀ entry, s.Open entry → ∃ persona,
        s.controller.personas[entry.agentName]? = some persona ∧
          persona.name = entry.agentName := by
  have hregistered : s.Registered := by
    refine htrace.guarded_invariant (G := fun _ _ => True) ?_ ?_ (fun _ _ => trivial)
    · rintro s ⟨⟨controller, hqueue, -, -, rfl⟩, hloaded⟩
      refine ⟨hloaded.registered, ?_⟩
      rintro entry (hqueued | ⟨worker, hworker⟩)
      · simp [hqueue] at hqueued
      · simp [carried, entryAt] at hworker
    · intro s event s' hregistered _ hstep
      cases hstep with
      | pool hstep => exact hstep.registered hregistered
      | load load hmutex => exact hregistered.load load
  refine ⟨hregistered.agents.getStatuses_names, fun entry hopen => ?_⟩
  have hknown := hregistered.opened entry hopen
  rw [Std.TreeMap.contains_eq_isSome_getElem?, Option.isSome_iff_exists] at hknown
  obtain ⟨persona, hpersona⟩ := hknown
  exact ⟨persona, hpersona, hregistered.agents.named _ persona hpersona⟩

theorem loaded_trace {steps : List (Transition Pool Event)}
    (htrace : Trace loadedSystem steps s) :
    Trace (registrySystem streams)
      (steps.map fun t => ⟨t.before, .pool t.label, t.after⟩) s :=
  htrace.simulate id (fun _ event => RegistryEvent.pool event) (fun _ hinit => hinit)
    fun _ _ _ hstep => RegistryStep.pool hstep

/-- A file is loaded while two tasks are executed. -/
theorem loaded_meanwhile :
    ∃ steps s, Trace (registrySystem samplePersonaStreams) steps s ∧
      s.Open (alertEntry 2) ∧
      ∃ persona, s.controller.personas[("alert_triage" : ByteString)]? = some persona ∧
        persona.name = ("alert_triage" : ByteString) := by
  obtain ⟨steps, s, htrace, -, hmutex, hworkers⟩ := overlapping_run
  have hload : RegistryStep samplePersonaStreams s (.load (.ecc sampleEccFile)) _ :=
    .load _ hmutex
  have hloaded := (loaded_trace htrace).extend hload
  refine ⟨_, _, hloaded, ?_, (registry_complete hloaded).2 (alertEntry 2) ?_⟩
  all_goals exact .inr ⟨1, by simp [carried, entryAt, hworkers, WorkerPhase.carried]⟩

end Pool

end Astartis.Agents
