import Mathlib.Data.Finset.Basic
import Astartis.Attribution
import Astartis.DashboardWriter

/-!
The techniques that the browser finds in the events of the decoys, against those of the
attribution report.  Strings of the browser stand in their UTF-8 form, in which they are sent;
lower case is left to the browser's tables.
-/

namespace Astartis.Dashboard

open Attribution
open ByteString
open Decoy

structure AtkRule where
  id : ByteString
  name : ByteString
  tactic : ByteString
  patterns : List ByteString
deriving DecidableEq

def atkRules : List AtkRule :=
  [⟨"T1552", "Unsecured Credentials", "Credential Access",
      ["credential", "password", "passwd", "secret"]⟩,
    ⟨"T1552.005", "Cloud Instance Metadata API", "Credential Access",
      ["metadata", "169.254.169.254", "imds"]⟩,
    ⟨"T1552.004", "Private Keys", "Credential Access",
      ["id_rsa", ".pem", "private_key", "ssh_host"]⟩,
    ⟨"T1003.008", "OS Credential Dumping", "Credential Access",
      ["/etc/shadow", "sam_dump", "lsass", "ntds"]⟩,
    ⟨"T1552.001", "Credentials In Files", "Credential Access",
      [".env", "config.ini", "web.config", "credentials.xml"]⟩,
    ⟨"T1082", "System Information Discovery", "Discovery",
      ["sysinfo", "/etc/os-release", "systeminfo", "uname"]⟩,
    ⟨"T1518", "Software Discovery", "Discovery",
      ["installed_apps", "package_list", "dpkg", "rpm"]⟩,
    ⟨"T1087", "Account Discovery", "Discovery",
      ["user_list", "/etc/passwd", "net user", "get-localuser"]⟩,
    ⟨"T1083", "File and Directory Discovery", "Discovery",
      ["dir_listing", "ls -la", "find /", "get-childitem"]⟩,
    ⟨"T1213", "Data from Information Repositories", "Collection",
      ["sharepoint", "confluence", "git_repo", "s3_bucket"]⟩,
    ⟨"T1005", "Data from Local System", "Collection",
      ["local_file", "desktop", "documents", "downloads"]⟩,
    ⟨"T1041", "Exfiltration Over C2 Channel", "Exfiltration",
      ["exfil", "c2_upload", "beacon", "dns_tunnel"]⟩,
    ⟨"T1021", "Remote Services", "Lateral Movement",
      ["ssh_connect", "rdp", "winrm", "psexec"]⟩,
    ⟨"T1654", "Log Enumeration", "Discovery",
      ["event_log", "syslog", "/var/log", "winevt"]⟩,
    ⟨"T1036", "Masquerading", "Defense Evasion",
      ["renamed_binary", "svchost_fake", "lsass_clone", "rundll_imposter"]⟩]

/-- An entry of `counts`. -/
structure AtkCount where
  rule : AtkRule
  hits : Nat
  lastMs : Double

def countIds (counts : List AtkCount) : List ByteString :=
  counts.map fun count => count.rule.id

/-- One hit of a rule, in an object that lists its keys in the order of insertion. -/
def countHit (rule : AtkRule) (ms : Double) : List AtkCount → List AtkCount
  | [] => [⟨rule, 1, if Double.lt (.finite 0) ms then ms else .finite 0⟩]
  | count :: counts =>
      if count.rule.id = rule.id then
        { count with
          hits := count.hits + 1
          lastMs := if Double.lt count.lastMs ms then ms else count.lastMs } :: counts
      else count :: countHit rule ms counts

/-- `ev[key] || ''`. -/
def fieldText (key : ByteString) (ev : Json) : ByteString :=
  ((ev.member? key).bind Json.getString?).getD []

/-- `ev[key] || 0`. -/
def fieldNumber (key : ByteString) (ev : Json) : Double :=
  ((ev.member? key).bind Json.getDouble?).getD (.finite 0)

section

variable (toLowerCase : ByteString → ByteString)

def attackText (ev : Json) : ByteString :=
  toLowerCase (fieldText "poison_type" ev ++ (" " : ByteString) ++ fieldText "action" ev ++
    (" " : ByteString) ++ fieldText "attacker_tag" ev)

def AtkRule.hits (text : ByteString) (rule : AtkRule) : Bool :=
  rule.patterns.any fun pattern => (findText pattern text).isSome

def countEvent (counts : List AtkCount) (ev : Json) : List AtkCount :=
  atkRules.foldl (fun counts rule =>
    if rule.hits (attackText toLowerCase ev) then
      countHit rule (fieldNumber "timestamp_ms" ev) counts
    else counts) counts

def deriveAttackTechniques (decoyEvents : List Json) : List AtkCount :=
  (decoyEvents.foldl (countEvent toLowerCase) []).mergeSort fun a b => decide (b.hits ≤ a.hits)

end

structure SyntheticDE where
  tag : ByteString
  ptype : ByteString
  action : ByteString
  dms : Int64

/-- The events that stand in for an empty log. -/
def demos : List SyntheticDE :=
  [⟨"attacker-0x1a", "credential", "read .env file", -120000⟩,
    ⟨"attacker-0x1a", "id_rsa", "read private key", -105000⟩,
    ⟨"attacker-0x2b", "sysinfo", "ran systeminfo", -90000⟩,
    ⟨"attacker-0x2b", "/etc/passwd", "read user list", -75000⟩,
    ⟨"attacker-0x3c", "local_file", "read documents folder", -60000⟩,
    ⟨"attacker-0x3c", "ssh_connect", "lateral move via ssh", -45000⟩,
    ⟨"attacker-0x4d", "exfil", "C2 upload attempted", -30000⟩,
    ⟨"attacker-0x4d", "renamed_binary", "masquerading as svchost", -15000⟩]

/-- The events as the bridge hands them to the dashboard writer. -/
def decoyEventData (nowMs : Int64) (log : List DecoyEvent) : List DecoyEventData :=
  if log.isEmpty then
    demos.map fun dd => ⟨dd.tag, dd.ptype, dd.action, nowMs + dd.dms⟩
  else
    log.map fun de => ⟨de.attackerTag, poisonTypeName de.poisonType, de.action, de.timestampMs⟩

/-- `d.decoy_events || []`. -/
def decoyEventsOf (d : Json) : List Json :=
  match d.member? "decoy_events" with
  | some (.array events) => events
  | _ => []

/-- The ids the browser shows for a snapshot with the events of the log. -/
def browserTechniqueIds (toLowerCase : ByteString → ByteString) (data : DashboardData)
    (timestamp : ByteString) (nowMs : Int64) (log : List DecoyEvent) : Finset ByteString :=
  (countIds (deriveAttackTechniques toLowerCase (decoyEventsOf
    ({ data with decoyEvents := decoyEventData nowMs log }.toJson timestamp)))).toFinset

/-- The ids the attribution report maps the events of the log to. -/
def mappedTechniqueIds (log : List DecoyEvent) : Finset ByteString :=
  (log.flatMap fun ev =>
    techniqueIds (mapTechniques ev.action ev.relPath ev.poisonType)).toFinset

def eventText (ev : DecoyEventData) : ByteString :=
  ev.poisonType ++ (" " : ByteString) ++ ev.action ++ (" " : ByteString) ++ ev.attackerTag

section

variable {toLowerCase : ByteString → ByteString}

theorem mem_countHit {rule : AtkRule} {ms : Double} {counts : List AtkCount} {id : ByteString} :
    id ∈ countIds (countHit rule ms counts) ↔ id ∈ countIds counts ∨ id = rule.id := by
  induction counts with
  | nil => simp [countHit, countIds]
  | cons count counts ih =>
      rw [countHit]
      split
      · rename_i hid
        simp only [countIds, List.map_cons, List.mem_cons]
        rw [← hid]
        tauto
      · simp only [countIds, List.map_cons, List.mem_cons] at ih ⊢
        rw [ih, or_assoc]

theorem mem_countEvent {counts : List AtkCount} {ev : Json} {id : ByteString} :
    id ∈ countIds (countEvent toLowerCase counts ev) ↔ id ∈ countIds counts ∨
      ∃ rule ∈ atkRules, rule.hits (attackText toLowerCase ev) = true ∧ rule.id = id := by
  have hloop : ∀ (rules : List AtkRule) (counts : List AtkCount),
      id ∈ countIds (rules.foldl (fun counts rule =>
        if rule.hits (attackText toLowerCase ev) then
          countHit rule (fieldNumber "timestamp_ms" ev) counts
        else counts) counts) ↔
        id ∈ countIds counts ∨
          ∃ rule ∈ rules, rule.hits (attackText toLowerCase ev) = true ∧ rule.id = id := by
    intro rules
    induction rules with
    | nil => simp
    | cons rule rules ih =>
        intro counts
        rw [List.foldl_cons, ih]
        simp only [List.mem_cons, exists_eq_or_imp]
        split
        · rename_i hhits
          rw [mem_countHit, or_assoc, eq_comm (a := id)]
          simp only [hhits, true_and]
        · rename_i hhits
          simp only [hhits, Bool.false_eq_true, false_and, false_or]
  exact hloop atkRules counts

theorem mem_deriveAttackTechniques {decoyEvents : List Json} {id : ByteString} :
    id ∈ countIds (deriveAttackTechniques toLowerCase decoyEvents) ↔
      ∃ ev ∈ decoyEvents, ∃ rule ∈ atkRules,
        rule.hits (attackText toLowerCase ev) = true ∧ rule.id = id := by
  have hloop : ∀ counts : List AtkCount,
      id ∈ countIds (decoyEvents.foldl (countEvent toLowerCase) counts) ↔ id ∈ countIds counts ∨
        ∃ ev ∈ decoyEvents, ∃ rule ∈ atkRules,
          rule.hits (attackText toLowerCase ev) = true ∧ rule.id = id := by
    induction decoyEvents with
    | nil => simp
    | cons ev decoyEvents ih =>
        intro counts
        rw [List.foldl_cons, ih, mem_countEvent]
        simp only [List.mem_cons, exists_eq_or_imp]
        exact or_assoc
  rw [deriveAttackTechniques, countIds, ((List.mergeSort_perm _ _).map _).mem_iff]
  exact (hloop []).trans (by simp [countIds])

theorem attackText_toJson (ev : DecoyEventData) :
    attackText toLowerCase ev.toJson = toLowerCase (eventText ev) := rfl

theorem mem_browserTechniqueIds {data : DashboardData} {timestamp : ByteString} {nowMs : Int64}
    {log : List DecoyEvent} {id : ByteString} :
    id ∈ browserTechniqueIds toLowerCase data timestamp nowMs log ↔
      ∃ ev ∈ decoyEventData nowMs log, ∃ rule ∈ atkRules,
        rule.hits (toLowerCase (eventText ev)) = true ∧ rule.id = id := by
  have harray :
      decoyEventsOf ({ data with decoyEvents := decoyEventData nowMs log }.toJson timestamp) =
        (decoyEventData nowMs log).map DecoyEventData.toJson := rfl
  rw [browserTechniqueIds, List.mem_toFinset, mem_deriveAttackTechniques, harray]
  simp only [List.mem_map, exists_exists_and_eq_and, attackText_toJson]

theorem mem_mappedTechniqueIds {log : List DecoyEvent} {id : ByteString} :
    id ∈ mappedTechniqueIds log ↔
      ∃ ev ∈ log, ∃ row ∈ kTechniqueRules,
        row.applies ev.action ev.relPath = true ∧ row.techniqueId = id := by
  simp only [mappedTechniqueIds, List.mem_toFinset, List.mem_flatMap, mem_mapTechniques]

theorem atkRules_id_injective : ∀ rule ∈ atkRules, ∀ other ∈ atkRules,
    rule.id = other.id → rule = other := by
  decide +kernel

/-- Both tables are about the same techniques. -/
theorem exists_atkRule : ∀ row ∈ kTechniqueRules, ∃ rule ∈ atkRules, rule.id = row.techniqueId := by
  decide +kernel

end

/-- What `toLowerCase` makes of an ASCII text. -/
def asciiLowerCase (text : ByteString) : ByteString :=
  text.map fun b => if 65 ≤ b ∧ b ≤ 90 then b + 32 else b

/-- A read of the decoy server's host name. -/
def hostnameRead : DecoyEvent :=
  ⟨1750000000000, "decoy/server-02/etc/hostname", .lateralMovement, "read", "attacker-1", ""⟩

/-- Without any event the report has no technique, and the browser shows those of the demos. -/
theorem browserTechniqueIds_nil (data : DashboardData) (timestamp : ByteString) (nowMs : Int64) :
    ByteString.ofString "T1552" ∈ browserTechniqueIds asciiLowerCase data timestamp nowMs [] ∧
      mappedTechniqueIds [] = ∅ := by
  have hrule : ∃ rule ∈ atkRules,
      rule.hits (asciiLowerCase "credential read .env file attacker-0x1a") = true ∧
        rule.id = ByteString.ofString "T1552" := by
    decide +kernel
  have htext : eventText ⟨"attacker-0x1a", "credential", "read .env file", nowMs + -120000⟩ =
      ("credential read .env file attacker-0x1a" : ByteString) := by
    dsimp only [eventText]
    decide +kernel
  exact ⟨mem_browserTechniqueIds.mpr ⟨_, List.mem_cons_self, htext ▸ hrule⟩, rfl⟩

end Astartis.Dashboard
