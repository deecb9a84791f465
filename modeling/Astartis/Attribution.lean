import Astartis.ByteSearch
import Astartis.Decoy

/-!
The techniques that the attribution report finds in the events of the decoys.
-/

namespace Astartis.Attribution

open ByteString
open Decoy

structure TechniqueRule where
  actionContains : ByteString
  pathContains : ByteString
  techniqueId : ByteString
  name : ByteString
  tactic : ByteString
deriving DecidableEq

structure AttackTechnique where
  techniqueId : ByteString
  name : ByteString
  tactic : ByteString
  evidence : ByteString
deriving DecidableEq

def kTechniqueRules : List TechniqueRule :=
  [⟨"", "credentials", "T1552", "Unsecured Credentials", "Credential Access"⟩,
    ⟨"", ".aws", "T1552.005", "Cloud Instance Metadata API", "Credential Access"⟩,
    ⟨"", "id_rsa", "T1552.004", "Private Keys", "Credential Access"⟩,
    ⟨"", "shadow", "T1003.008", "OS Credential Dumping: /etc/shadow", "Credential Access"⟩,
    ⟨"", ".env", "T1552.001", "Credentials In Files", "Credential Access"⟩,
    ⟨"", "etc/hostname", "T1082", "System Information Discovery", "Discovery"⟩,
    ⟨"", "etc/nginx.conf", "T1518", "Software Discovery", "Discovery"⟩,
    ⟨"", "etc/sshd_config", "T1082", "System Information Discovery", "Discovery"⟩,
    ⟨"", "authorized_keys", "T1087", "Account Discovery", "Discovery"⟩,
    ⟨"", "config.json", "T1083", "File and Directory Discovery", "Discovery"⟩,
    ⟨"", "financial", "T1213", "Data from Information Repositories", "Collection"⟩,
    ⟨"", "customer-pii", "T1005", "Data from Local System", "Collection"⟩,
    ⟨"", "ip-source-code", "T1213", "Data from Information Repositories", "Collection"⟩,
    ⟨"", "roadmap", "T1005", "Data from Local System", "Collection"⟩,
    ⟨"exfil", "", "T1041", "Exfiltration Over C2 Channel", "Exfiltration"⟩,
    ⟨"", "server-02", "T1021", "Remote Services", "Lateral Movement"⟩,
    ⟨"", "auth.log", "T1654", "Log Enumeration", "Discovery"⟩,
    ⟨"", "access.log", "T1654", "Log Enumeration", "Discovery"⟩,
    ⟨"redirect", "", "T1036", "Masquerading", "Defense Evasion"⟩]

def TechniqueRule.applies (action relPath : ByteString) (rule : TechniqueRule) : Bool :=
  (rule.actionContains = [] || (findText rule.actionContains action).isSome) &&
    (rule.pathContains = [] || (findText rule.pathContains relPath).isSome)

def techniqueIds (techniques : List AttackTechnique) : List ByteString :=
  techniques.map AttackTechnique.techniqueId

/-- `push_back` unless the id is among `seen_ids`, which are the ids of the results. -/
def appendUnseen (results : List AttackTechnique) (technique : AttackTechnique) :
    List AttackTechnique :=
  if (techniqueIds results).contains technique.techniqueId then results
  else results ++ [technique]

def mapTechniques (action relPath : ByteString) (_poisonType : PoisonType) :
    List AttackTechnique :=
  kTechniqueRules.foldl (fun results rule =>
    if rule.applies action relPath then
      appendUnseen results
        ⟨rule.techniqueId, rule.name, rule.tactic, action ++ (" on " : ByteString) ++ relPath⟩
    else results) []

/-- The techniques of a report on the events. -/
def reportTechniques (events : List DecoyEvent) : List AttackTechnique :=
  events.foldl (fun results ev =>
    (mapTechniques ev.action ev.relPath ev.poisonType).foldl appendUnseen results) []

theorem mem_appendUnseen {results : List AttackTechnique} {technique : AttackTechnique}
    {id : ByteString} : id ∈ techniqueIds (appendUnseen results technique) ↔
      id ∈ techniqueIds results ∨ id = technique.techniqueId := by
  rw [appendUnseen]
  split
  · rename_i hseen
    refine ⟨.inl, ?_⟩
    rintro (h | rfl)
    · exact h
    · simpa using hseen
  · simp [techniqueIds]

theorem mem_foldl_appendUnseen {techniques results : List AttackTechnique} {id : ByteString} :
    id ∈ techniqueIds (techniques.foldl appendUnseen results) ↔
      id ∈ techniqueIds results ∨ id ∈ techniqueIds techniques := by
  induction techniques generalizing results with
  | nil => simp [techniqueIds]
  | cons technique techniques ih =>
      rw [List.foldl_cons, ih, mem_appendUnseen]
      simp only [techniqueIds, List.map_cons, List.mem_cons]
      exact or_assoc

/-- The techniques mapped are those of the rules that apply. -/
theorem mem_mapTechniques {action relPath : ByteString} {poisonType : PoisonType}
    {id : ByteString} : id ∈ techniqueIds (mapTechniques action relPath poisonType) ↔
      ∃ rule ∈ kTechniqueRules, rule.applies action relPath = true ∧ rule.techniqueId = id := by
  have hloop : mapTechniques action relPath poisonType =
      ((kTechniqueRules.filter (TechniqueRule.applies action relPath)).map fun rule =>
        (⟨rule.techniqueId, rule.name, rule.tactic,
          action ++ (" on " : ByteString) ++ relPath⟩ : AttackTechnique)).foldl
            appendUnseen [] := by
    rw [List.foldl_map, List.foldl_filter]
    rfl
  rw [hloop, mem_foldl_appendUnseen]
  simp [techniqueIds, and_assoc]

/-- What the events are mapped to, one event behind the other. -/
def mappedTechniques (events : List DecoyEvent) : List AttackTechnique :=
  events.flatMap fun ev => mapTechniques ev.action ev.relPath ev.poisonType

theorem reportTechniques_eq_foldl (events : List DecoyEvent) :
    reportTechniques events = (mappedTechniques events).foldl appendUnseen [] := by
  rw [mappedTechniques, List.foldl_flatMap]
  rfl

/-- A report lists what the events are mapped to. -/
theorem mem_reportTechniques {events : List DecoyEvent} {id : ByteString} :
    id ∈ techniqueIds (reportTechniques events) ↔
      ∃ ev ∈ events, id ∈ techniqueIds (mapTechniques ev.action ev.relPath ev.poisonType) := by
  rw [reportTechniques_eq_foldl, mem_foldl_appendUnseen]
  simp only [techniqueIds, mappedTechniques, List.map_flatMap, List.map_nil, List.not_mem_nil,
    false_or, List.mem_flatMap]

end Astartis.Attribution
