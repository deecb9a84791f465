import Astartis.PersonaLoading
import Astartis.TransitionSystem

/-!
The estimate of the bytes of the personas against the personas that are loaded.
-/

namespace Astartis.Agents

open MapTotals
open TransitionSystem

section

variable (streams : Config.StreamLibrary) (library : Json.Library) (sizeofAgentPersona : Nat)

/-- The estimate is the sum over the personas. -/
def Balanced (self : PersonaStore) : Prop :=
  self.cachedPersonasBytes = total (personaBytes sizeofAgentPersona) self.personas

/-- The persona that a load enters. -/
def Load.accepted? : Load → Option LoadedPersona
  | .json file =>
      (loadFromJson streams file).toOption.filter fun persona =>
        Ecc.validatePersona persona.toAgentPersona
  | .ecc file => loadFromMd file

/-- From JSON nothing is replaced, and from Markdown only what has the same size. -/
def Orderly (self : PersonaStore) (load : Load) : Prop :=
  ∀ persona, load.accepted? streams = some persona →
    sizeAt (personaBytes sizeofAgentPersona) self.personas persona.name =
      match load with
      | .json _ => 0
      | .ecc _ => personaBytes sizeofAgentPersona persona

theorem Load.perform_json (self : PersonaStore) (file : AgentFile) :
    (Load.json file).perform streams sizeofAgentPersona self =
      match (Load.json file).accepted? streams with
      | none => self
      | some persona => { self.enter persona with
          cachedPersonasBytes :=
            self.cachedPersonasBytes + personaBytes sizeofAgentPersona persona } := by
  simp only [perform, PersonaStore.loadPersona, accepted?]
  cases loadFromJson streams file with
  | error _ => rfl
  | ok persona =>
      cases hvalid : Ecc.validatePersona persona.toAgentPersona with
      | false => simp [Except.toOption, Option.filter_some, hvalid]
      | true => simp [Except.toOption, Option.filter_some, hvalid, isGraniteOnly_eq]

theorem Load.perform_ecc (self : PersonaStore) (file : AgentFile) :
    (Load.ecc file).perform streams sizeofAgentPersona self =
      match (Load.ecc file).accepted? streams with
      | none => self
      | some persona => self.enter persona := by
  simp only [perform, PersonaStore.loadEccPersona, accepted?]
  by_cases hecc : Ecc.isEccFile file.toMdFile = false
  · have hnone : loadFromMd file = none := by
      rw [loadFromMd, Ecc.loadFromMd, if_pos hecc]
      rfl
    rw [if_pos hecc, hnone]
  · rw [if_neg hecc]
    cases loadFromMd file with
    | none => rfl
    | some persona => simp [isGraniteOnly_eq]

theorem balanced_constructed (workerCount : Int) :
    Balanced sizeofAgentPersona (.constructed workerCount) :=
  rfl

/-- The sum behind an entry, with what was replaced, against the estimate in front of it. -/
theorem total_enter {self : PersonaStore} (hself : Balanced sizeofAgentPersona self)
    (persona : LoadedPersona) :
    total (personaBytes sizeofAgentPersona) (self.enter persona).personas +
        sizeAt (personaBytes sizeofAgentPersona) self.personas persona.name =
      self.cachedPersonasBytes + personaBytes sizeofAgentPersona persona := by
  rw [hself]
  exact total_insert (personaBytes sizeofAgentPersona) self.personas persona.name persona

theorem orderly_of_rejected {self : PersonaStore} {load : Load}
    (hrejected : load.accepted? streams = none) :
    Orderly streams sizeofAgentPersona self load := by
  intro persona haccepted
  rw [hrejected] at haccepted
  exact absurd haccepted (by simp)

/-- A load keeps the balance exactly if it is orderly. -/
theorem balanced_perform_iff {self : PersonaStore} (hself : Balanced sizeofAgentPersona self)
    (load : Load) :
    Balanced sizeofAgentPersona (load.perform streams sizeofAgentPersona self) ↔
      Orderly streams sizeofAgentPersona self load := by
  cases load with
  | json file =>
      rw [Load.perform_json]
      cases haccepted : (Load.json file).accepted? streams with
      | none => exact iff_of_true hself (orderly_of_rejected streams sizeofAgentPersona haccepted)
      | some persona =>
          have htotal := total_enter sizeofAgentPersona hself persona
          simp only [Orderly, haccepted, Option.some_inj, forall_eq', Balanced]
          rw [← htotal]
          exact add_eq_left
  | ecc file =>
      rw [Load.perform_ecc]
      cases haccepted : (Load.ecc file).accepted? streams with
      | none => exact iff_of_true hself (orderly_of_rejected streams sizeofAgentPersona haccepted)
      | some persona =>
          have htotal := total_enter sizeofAgentPersona hself persona
          have hkept : (self.enter persona).cachedPersonasBytes = self.cachedPersonasBytes := rfl
          simp only [Orderly, haccepted, Option.some_inj, forall_eq', Balanced, hkept]
          constructor
          · intro hbalanced
            rw [← hbalanced] at htotal
            exact add_left_cancel htotal
          · intro hreplaced
            rw [hreplaced] at htotal
            exact (add_right_cancel htotal).symm

/-- Over all calls the estimate is right behind every file exactly if every load is orderly, and
then it is right behind every call. -/
theorem balanced_iff_orderly (workerCount : Int) (calls : List LoadCall) :
    let start := PersonaStore.constructed workerCount
    let steps := execute (Load.perform streams sizeofAgentPersona) start
      (calls.flatMap (LoadCall.loads library))
    ((∀ t ∈ steps, Balanced sizeofAgentPersona t.after) ↔
        ∀ t ∈ steps, Orderly streams sizeofAgentPersona t.before t.label) ∧
      ((∀ t ∈ steps, Orderly streams sizeofAgentPersona t.before t.label) →
        ∀ done rest, calls = done ++ rest →
          Balanced sizeofAgentPersona
            (done.foldl (LoadCall.perform streams library sizeofAgentPersona) start)) := by
  intro start steps
  constructor
  · refine (trace_execute start (Load.perform streams sizeofAgentPersona) _).forall_after_iff
      (I := fun _ => True) ?_ (fun _ _ _ _ _ => trivial) ?_
    · rintro _ rfl
      exact ⟨trivial, balanced_constructed sizeofAgentPersona workerCount⟩
    · rintro s load _ _ hs rfl
      exact balanced_perform_iff streams sizeofAgentPersona hs load
  · rintro horderly done rest rfl
    have hprefix : ∀ t ∈ execute (Load.perform streams sizeofAgentPersona) start
        (done.flatMap (LoadCall.loads library)),
        Orderly streams sizeofAgentPersona t.before t.label := by
      intro t ht
      apply horderly
      show t ∈ execute _ start ((done ++ rest).flatMap _)
      rw [List.flatMap_append, execute_append]
      exact List.mem_append_left _ ht
    rw [LoadCall.foldl_perform]
    refine (trace_execute start (Load.perform streams sizeofAgentPersona) _).guarded_invariant
      ?_ ?_ hprefix
    · rintro _ rfl
      exact balanced_constructed sizeofAgentPersona workerCount
    · rintro s load _ hs hload rfl
      exact (balanced_perform_iff streams sizeofAgentPersona hs load).mpr hload

end

/-- A persona in Markdown. -/
def sampleEccFile : AgentFile where
  path := "ecc/agents/a.md"
  stem := "a"
  extension := ".md"
  content := some "---\nname: a\n---\nb"

/-- One in JSON, and a library that reads it. -/
def sampleJsonFile : AgentFile where
  path := "agents/definitions/a.json"
  stem := "a"
  extension := ".json"
  content := some "{}"

def samplePersonaStreams : Config.StreamLibrary where
  dumpIndented _ := none
  readStream _ := .ok (.object [("name", .string "a"), ("system_prompt", .string "b")])

/-- The estimate leaves out a persona in Markdown, and counts one in JSON twice that is
loaded twice. -/
theorem loading_unbalanced :
    ¬ Balanced 240 (LoadCall.perform samplePersonaStreams ⟨fun _ => none, fun _ => none⟩ 240
        (.constructed 4) (.loadEccPersonas (some [sampleEccFile]))) ∧
      ¬ Balanced 240 ([LoadCall.loadPersona sampleJsonFile, .loadPersona sampleJsonFile].foldl
        (LoadCall.perform samplePersonaStreams ⟨fun _ => none, fun _ => none⟩ 240)
        (.constructed 4)) := by
  unfold Balanced
  decide +kernel

end Astartis.Agents
