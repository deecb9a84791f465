import Astartis.EccAdapter
import Astartis.MapTotals
import Astartis.StatusSnapshot
import Astartis.SystemConfig
import Mathlib.Data.UInt

/-!
How the controller loads its personas, from JSON and from Markdown files, and the estimate of
their bytes that it keeps beside them.
-/

namespace Astartis.Agents

open Ecc (MdFile)
open Granite
open Stdin (stringValue intValue doubleValue)

/-- A persona with the members that only its size is about. -/
structure LoadedPersona extends AgentPersona where
  description : ByteString := []
  inputSchema : ByteString := []
  outputSchema : ByteString := []

/-- A file of a directory, with the text that a stream reads from it, if it can be opened. -/
structure AgentFile where
  path : ByteString
  stem : ByteString
  extension : ByteString
  content : Option ByteString

/-! `PersonaLoader` and the adapter. -/

def parseModel (modelStr : ByteString) : GraniteModel :=
  let modelStr := Ecc.toLower modelStr
  if modelStr = ("fast" : ByteString) then .fast
  else if modelStr = ("heavy" : ByteString) then .heavy
  else if modelStr = ("accuracy" : ByteString) then .accuracy
  else if modelStr = ("orchestrator" : ByteString) then .orchestrator
  else .heavy

def parseSkills (j : Json) : List ByteString :=
  match j.member? "skills" with
  | some (.array skills) => skills.filterMap Json.getString?
  | _ => []

/-- The part of `load_from_json` behind the parser. -/
def readPersona (j : Json) : Except ByteString LoadedPersona := do
  let name ← stringValue "name" [] j
  let description ← stringValue "description" [] j
  let category ← stringValue "category" [] j
  let systemPrompt ← stringValue "system_prompt" [] j
  let maxTokens ← intValue "max_tokens" 512 j
  let temperature ← doubleValue "temperature" (.ofRat (2 / 10)) j
  let inputSchema ← stringValue "input_schema" [] j
  let outputSchema ← stringValue "output_schema" [] j
  let modelStr ← stringValue "granite_model" "heavy" j
  return {
    name := name
    description := description
    category := category
    preferredModel := parseModel modelStr
    systemPrompt := systemPrompt
    skills := parseSkills j
    maxTokens := maxTokens
    temperature := temperature
    inputSchema := inputSchema
    outputSchema := outputSchema }

def loadFromJson (streams : Config.StreamLibrary) (file : AgentFile) :
    Except ByteString LoadedPersona :=
  match file.content with
  | none => .error (("Cannot open persona file: " : ByteString) ++ file.path)
  | some text =>
      match streams.readStream text with
      | .error (.parseError what) =>
          .error (("Persona parse error in " : ByteString) ++ file.path ++
            (": " : ByteString) ++ what)
      | .error (.other what) => .error what
      | .ok j => readPersona j

def isGraniteOnly (persona : AgentPersona) : Bool :=
  persona.preferredModel = .fast || persona.preferredModel = .heavy ||
    persona.preferredModel = .accuracy || persona.preferredModel = .orchestrator

/-- No tier is anything else. -/
theorem isGraniteOnly_eq (persona : AgentPersona) : isGraniteOnly persona = true := by
  rw [isGraniteOnly]
  cases persona.preferredModel <;> rfl

def AgentFile.toMdFile (file : AgentFile) : MdFile :=
  ⟨file.extension, file.content⟩

/-- `load_from_md`, with the description. -/
def loadFromMd (file : AgentFile) : Option LoadedPersona := do
  let persona ← Ecc.loadFromMd file.toMdFile
  let content ← file.content
  some { persona with description := (Ecc.parseFrontmatter content).description }

/-! The size of a persona. -/

/-- The formula of `load_persona`, for the `sizeof(AgentPersona)` of a build. -/
def personaBytes (sizeofAgentPersona : Nat) (persona : LoadedPersona) : UInt64 :=
  let bytes := UInt64.ofNat (persona.name.length + persona.description.length +
    persona.category.length + persona.systemPrompt.length +
    persona.inputSchema.length + persona.outputSchema.length + sizeofAgentPersona)
  persona.skills.foldl (fun bytes s => bytes + UInt64.ofNat s.length) bytes

/-! The controller. -/

/-- The controller with its personas in full, and the estimate. -/
structure PersonaStore where
  controller : AgentController
  personas : Std.TreeMap ByteString LoadedPersona
  agree (name : ByteString) :
    controller.personas[name]? = personas[name]?.map LoadedPersona.toAgentPersona
  cachedPersonasBytes : UInt64
  audits : List (ByteString × ByteString)

/-- The constructor, which replaces a count of workers below one. -/
def PersonaStore.constructed (workerCount : Int) : PersonaStore where
  controller := {
    workerCount := max 1 workerCount.toNat
    workerCount_pos := Nat.lt_of_lt_of_le Nat.one_pos (Nat.le_max_left 1 _) }
  personas := ∅
  agree _ := by simp
  cachedPersonasBytes := 0
  audits := []

namespace PersonaStore

variable (streams : Config.StreamLibrary) (library : Json.Library) (sizeofAgentPersona : Nat)
  (self : PersonaStore)

/-- Both loaders write the persona over one of the same name. -/
def enter (persona : LoadedPersona) : PersonaStore :=
  { self with
    controller := self.controller.enterPersona persona.toAgentPersona
    personas := self.personas.insert persona.name persona
    agree := fun name => by
      simp only [AgentController.enterPersona, Std.TreeMap.getElem?_insert]
      split
      · rfl
      · exact self.agree name }

/-- A call of `audit_adder_`. -/
def audit (eventType payload : ByteString) : PersonaStore :=
  { self with audits := self.audits ++ [(eventType, payload)] }

def rejectionText (persona : LoadedPersona) : ByteString :=
  ("name=" : ByteString) ++ persona.name ++ (" reason=non_granite_model" : ByteString)

def loadPersona (file : AgentFile) : Bool × PersonaStore :=
  match loadFromJson streams file with
  | .error _ => (false, self)
  | .ok persona =>
      if Ecc.validatePersona persona.toAgentPersona = false then (false, self)
      else if isGraniteOnly persona.toAgentPersona = false then
        (false, self.audit "persona_rejected" (rejectionText persona))
      else
        (true, { self.enter persona with
          cachedPersonasBytes :=
            self.cachedPersonasBytes + personaBytes sizeofAgentPersona persona })

/-- The body of the loop of `load_ecc_personas`, behind its test of the extension. -/
def loadEccPersona (file : AgentFile) : Bool × PersonaStore :=
  if Ecc.isEccFile file.toMdFile = false then (false, self)
  else
    match loadFromMd file with
    | none => (false, self)
    | some persona =>
        if isGraniteOnly persona.toAgentPersona = false then
          (false, self.audit "ecc_persona_rejected" (rejectionText persona))
        else (true, self.enter persona)

/-- The loops count what was loaded. -/
def loadEach (load : AgentFile → PersonaStore → Bool × PersonaStore) (files : List AgentFile)
    (self : PersonaStore) : Nat × PersonaStore :=
  files.foldl (fun (count, self) file =>
    let (loaded, self) := load file self
    (if loaded then count + 1 else count, self)) (0, self)

def jsonFiles (files : List AgentFile) : List AgentFile :=
  files.filter fun file => file.extension = (".json" : ByteString)

/-- `load_all_personas(defs_dir)`; the directory may not exist. -/
def loadAllPersonas (defsDir : Option (List AgentFile)) : Nat × PersonaStore :=
  match defsDir with
  | none => (0, self)
  | some files =>
      loadEach (fun file self => self.loadPersona streams sizeofAgentPersona file)
        (jsonFiles files) self

/-- The names of the configuration file, none at all where it cannot be read. -/
def allowlist : Config.ConfigFile → List ByteString
  | .absent => []
  | .unreadable => []
  | .content text =>
      match library.parse text with
      | none => []
      | some j =>
          match j.member? "agent_allowlist" with
          | some (.array names) => names.filterMap Json.getString?
          | _ => []

/-- `load_all_personas(defs_dir, config_path)`; an empty path is one where nothing stands. -/
def loadAllowedPersonas (defsDir : Option (List AgentFile)) (config : Config.ConfigFile) :
    Nat × PersonaStore :=
  let allowlist := allowlist library config
  if allowlist = [] then self.loadAllPersonas streams sizeofAgentPersona defsDir
  else
    match defsDir with
    | none => (0, self)
    | some files =>
        loadEach (fun file self => self.loadPersona streams sizeofAgentPersona file)
          ((jsonFiles files).filter fun file => allowlist.contains file.stem) self

def loadEccPersonas (eccAgentsDir : Option (List AgentFile)) : Nat × PersonaStore :=
  match eccAgentsDir with
  | none => (0, self)
  | some files =>
      loadEach (fun file self => self.loadEccPersona file)
        (files.filter fun file => file.extension = (".md" : ByteString)) self

end PersonaStore

/-- A call from outside. -/
inductive LoadCall
  | loadPersona (file : AgentFile)
  | loadAllPersonas (defsDir : Option (List AgentFile))
  | loadAllowedPersonas (defsDir : Option (List AgentFile)) (config : Config.ConfigFile)
  | loadEccPersonas (eccAgentsDir : Option (List AgentFile))

/-- A file that a call comes to, with its loader. -/
inductive Load
  | json (file : AgentFile)
  | ecc (file : AgentFile)

section

variable (streams : Config.StreamLibrary) (library : Json.Library) (sizeofAgentPersona : Nat)

def LoadCall.perform (self : PersonaStore) : LoadCall → PersonaStore
  | .loadPersona file => (self.loadPersona streams sizeofAgentPersona file).2
  | .loadAllPersonas defsDir => (self.loadAllPersonas streams sizeofAgentPersona defsDir).2
  | .loadAllowedPersonas defsDir config =>
      (self.loadAllowedPersonas streams library sizeofAgentPersona defsDir config).2
  | .loadEccPersonas eccAgentsDir => (self.loadEccPersonas eccAgentsDir).2

def Load.perform (self : PersonaStore) : Load → PersonaStore
  | .json file => (self.loadPersona streams sizeofAgentPersona file).2
  | .ecc file => (self.loadEccPersona file).2

/-- The files that a call comes to, in their order. -/
def LoadCall.loads : LoadCall → List Load
  | .loadPersona file => [.json file]
  | .loadAllPersonas defsDir => (PersonaStore.jsonFiles (defsDir.getD [])).map .json
  | .loadAllowedPersonas defsDir config =>
      let allowlist := PersonaStore.allowlist library config
      let files := PersonaStore.jsonFiles (defsDir.getD [])
      if allowlist = [] then files.map .json
      else (files.filter fun file => allowlist.contains file.stem).map .json
  | .loadEccPersonas eccAgentsDir =>
      ((eccAgentsDir.getD []).filter fun file => file.extension = (".md" : ByteString)).map .ecc

theorem PersonaStore.loadEach_snd (load : AgentFile → PersonaStore → Bool × PersonaStore)
    (files : List AgentFile) (self : PersonaStore) :
    (loadEach load files self).2 = files.foldl (fun self file => (load file self).2) self := by
  have hcount (count : Nat) : (files.foldl (fun (count, self) file =>
      let (loaded, self) := load file self
      (if loaded then count + 1 else count, self)) (count, self)).2 =
        files.foldl (fun self file => (load file self).2) self := by
    induction files generalizing count self with
    | nil => rfl
    | cons file files ih => exact ih _ _
  exact hcount 0

theorem PersonaStore.loadAllPersonas_snd (defsDir : Option (List AgentFile))
    (self : PersonaStore) :
    (self.loadAllPersonas streams sizeofAgentPersona defsDir).2 =
      ((jsonFiles (defsDir.getD [])).map Load.json).foldl
        (Load.perform streams sizeofAgentPersona) self := by
  cases defsDir with
  | none => rfl
  | some files =>
      rw [loadAllPersonas, loadEach_snd, List.foldl_map]
      rfl

/-- A call is the loads of its files, one after the other. -/
theorem LoadCall.perform_eq (self : PersonaStore) (call : LoadCall) :
    call.perform streams library sizeofAgentPersona self =
      (call.loads library).foldl (Load.perform streams sizeofAgentPersona) self := by
  cases call with
  | loadPersona file => rfl
  | loadAllPersonas defsDir =>
      exact PersonaStore.loadAllPersonas_snd streams sizeofAgentPersona defsDir self
  | loadAllowedPersonas defsDir config =>
      simp only [perform, loads, PersonaStore.loadAllowedPersonas]
      split
      · exact PersonaStore.loadAllPersonas_snd streams sizeofAgentPersona defsDir self
      · cases defsDir with
        | none => rfl
        | some files =>
            simp only [PersonaStore.loadEach_snd, List.foldl_map]
            rfl
  | loadEccPersonas eccAgentsDir =>
      cases eccAgentsDir with
      | none => rfl
      | some files =>
          simp only [perform, loads, PersonaStore.loadEccPersonas, PersonaStore.loadEach_snd,
            List.foldl_map]
          rfl

/-- So calls in a row are the loads of all their files. -/
theorem LoadCall.foldl_perform (calls : List LoadCall) (self : PersonaStore) :
    calls.foldl (LoadCall.perform streams library sizeofAgentPersona) self =
      (calls.flatMap (LoadCall.loads library)).foldl
        (Load.perform streams sizeofAgentPersona) self := by
  induction calls generalizing self with
  | nil => rfl
  | cons call calls ih =>
      rw [List.foldl_cons, ih, perform_eq, List.flatMap_cons, List.foldl_append]

/-- Loading does nothing else to the controller than entering personas. -/
theorem Load.perform_loaded {self : PersonaStore} (hloaded : Loaded self.controller)
    (load : Load) : Loaded (load.perform streams sizeofAgentPersona self).controller := by
  cases load with
  | json file =>
      simp only [perform, PersonaStore.loadPersona]
      split
      · exact hloaded
      · split
        · exact hloaded
        · split
          · exact hloaded
          · exact .enterPersona _ hloaded
  | ecc file =>
      simp only [perform, PersonaStore.loadEccPersona]
      split
      · exact hloaded
      · split
        · exact hloaded
        · split
          · exact hloaded
          · exact .enterPersona _ hloaded

end

end Astartis.Agents
