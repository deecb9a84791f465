import Astartis.ConfigFields

/-!
What is saved is loaded again, what a file leaves out has its default, and what a failed save
leaves of the file.
-/

namespace Astartis.Config

open ByteString Stdin

/-- The given value if the key is there, and the default otherwise. -/
structure FieldFrom {α : Type} (denotes : Json → α → Prop) (j : Json) (key : ByteString)
    (default value : α) : Prop where
  absent : j.member? key = none → value = default
  present : ∀ given, j.member? key = some given → denotes given value

/-- The configuration with the values that a JSON value gives, and defaults for the others. -/
structure Given (j : Json) (cfg : SystemConfig) : Prop where
  ollamaHost : FieldFrom DenotesText j "ollama_host" "127.0.0.1" cfg.ollamaHost
  ollamaPort : FieldFrom DenotesUInt16 j "ollama_port" 11434 cfg.ollamaPort
  fastModel : FieldFrom DenotesText j "fast_model" "granite3.1-moe:3b" cfg.fastModel
  heavyModel : FieldFrom DenotesText j "heavy_model" "granite3.1-dense:8b" cfg.heavyModel
  chaosThreshold :
    FieldFrom DenotesReal j "chaos_threshold" (.ofRat (9 / 10)) cfg.chaosThreshold
  rule03FailureThreshold :
    FieldFrom DenotesInt32 j "rule03_failure_threshold" 5 cfg.rule03FailureThreshold
  rule03CriticalThreshold :
    FieldFrom DenotesInt32 j "rule03_critical_threshold" 10 cfg.rule03CriticalThreshold
  escalateConfidence :
    FieldFrom DenotesReal j "escalate_confidence" (.ofRat (7 / 10)) cfg.escalateConfidence
  firewallTtlDefaultS :
    FieldFrom DenotesInt32 j "firewall_ttl_default_s" 3600 cfg.firewallTtlDefaultS
  chaosWindowSize : FieldFrom DenotesInt32 j "chaos_window_size" 16 cfg.chaosWindowSize
  tickIntervalMs : FieldFrom DenotesInt32 j "tick_interval_ms" 500 cfg.tickIntervalMs
  fastTimeoutMs : FieldFrom DenotesInt32 j "fast_timeout_ms" 15000 cfg.fastTimeoutMs
  heavyTimeoutMs : FieldFrom DenotesInt32 j "heavy_timeout_ms" 90000 cfg.heavyTimeoutMs
  sandboxRoot : FieldFrom DenotesText j "sandbox_root" [] cfg.sandboxRoot
  quarantineDir : FieldFrom DenotesText j "quarantine_dir" [] cfg.quarantineDir
  agentsDir : FieldFrom DenotesText j "agents_dir" "agents/definitions" cfg.agentsDir
  skillsDir : FieldFrom DenotesText j "skills_dir" "agents/skills" cfg.skillsDir
  clamavEnabled : FieldFrom DenotesFlag j "clamav_enabled" true cfg.clamavEnabled
  firewallEnabled : FieldFrom DenotesFlag j "firewall_enabled" true cfg.firewallEnabled
  aiTriageEnabled : FieldFrom DenotesFlag j "ai_triage_enabled" true cfg.aiTriageEnabled
  agentsEnabled : FieldFrom DenotesFlag j "agents_enabled" true cfg.agentsEnabled
  pipelineEnabled : FieldFrom DenotesFlag j "pipeline_enabled" true cfg.pipelineEnabled
  unlockThreshold : FieldFrom DenotesInt32 j "unlock_threshold" 3 cfg.unlockThreshold

theorem setting_of_fieldFrom {α : Type} {get? : Json → Option α} {denotes : Json → α → Prop}
    {expected key : ByteString} {j : Json} {default value : α}
    (hget : ∀ {given v}, denotes given v → get? given = some v)
    (hfield : FieldFrom denotes j key default value) :
    setting get? expected j key default = .ok value := by
  rw [setting]
  rcases hmember : j.member? key with _ | given
  · exact congrArg Except.ok (hfield.absent hmember).symm
  · dsimp only
    rw [hget (hfield.present given hmember)]

theorem getString?_of_denotes {given : Json} {s : ByteString} (hgiven : DenotesText given s) :
    given.getString? = some s := by
  rw [hgiven]
  rfl

theorem getBool?_of_denotes {given : Json} {b : Bool} (hgiven : DenotesFlag given b) :
    getBool? given = some b := by
  rw [hgiven]
  rfl

theorem Given.loaded {j : Json} {cfg : SystemConfig} (hgiven : Given j cfg) : Loaded j cfg where
  ollamaHost := setting_of_fieldFrom getString?_of_denotes hgiven.ollamaHost
  ollamaPort := setting_of_fieldFrom getUInt16?_of_denotes hgiven.ollamaPort
  fastModel := setting_of_fieldFrom getString?_of_denotes hgiven.fastModel
  heavyModel := setting_of_fieldFrom getString?_of_denotes hgiven.heavyModel
  chaosThreshold := setting_of_fieldFrom getDouble?_of_denotes hgiven.chaosThreshold
  rule03FailureThreshold := setting_of_fieldFrom getInt32?_of_denotes hgiven.rule03FailureThreshold
  rule03CriticalThreshold :=
    setting_of_fieldFrom getInt32?_of_denotes hgiven.rule03CriticalThreshold
  escalateConfidence := setting_of_fieldFrom getDouble?_of_denotes hgiven.escalateConfidence
  firewallTtlDefaultS := setting_of_fieldFrom getInt32?_of_denotes hgiven.firewallTtlDefaultS
  chaosWindowSize := setting_of_fieldFrom getInt32?_of_denotes hgiven.chaosWindowSize
  tickIntervalMs := setting_of_fieldFrom getInt32?_of_denotes hgiven.tickIntervalMs
  fastTimeoutMs := setting_of_fieldFrom getInt32?_of_denotes hgiven.fastTimeoutMs
  heavyTimeoutMs := setting_of_fieldFrom getInt32?_of_denotes hgiven.heavyTimeoutMs
  sandboxRoot := setting_of_fieldFrom getString?_of_denotes hgiven.sandboxRoot
  quarantineDir := setting_of_fieldFrom getString?_of_denotes hgiven.quarantineDir
  agentsDir := setting_of_fieldFrom getString?_of_denotes hgiven.agentsDir
  skillsDir := setting_of_fieldFrom getString?_of_denotes hgiven.skillsDir
  clamavEnabled := setting_of_fieldFrom getBool?_of_denotes hgiven.clamavEnabled
  firewallEnabled := setting_of_fieldFrom getBool?_of_denotes hgiven.firewallEnabled
  aiTriageEnabled := setting_of_fieldFrom getBool?_of_denotes hgiven.aiTriageEnabled
  agentsEnabled := setting_of_fieldFrom getBool?_of_denotes hgiven.agentsEnabled
  pipelineEnabled := setting_of_fieldFrom getBool?_of_denotes hgiven.pipelineEnabled
  unlockThreshold := setting_of_fieldFrom getInt32?_of_denotes hgiven.unlockThreshold

section Saved

variable {cfg : SystemConfig} {key : ByteString}

def configKeys : List ByteString :=
  ["ollama_host", "ollama_port", "fast_model", "heavy_model", "chaos_threshold",
    "rule03_failure_threshold", "rule03_critical_threshold", "escalate_confidence",
    "firewall_ttl_default_s", "chaos_window_size", "tick_interval_ms", "fast_timeout_ms",
    "heavy_timeout_ms", "sandbox_root", "quarantine_dir", "agents_dir", "skills_dir",
    "clamav_enabled", "firewall_enabled", "ai_triage_enabled", "agents_enabled",
    "pipeline_enabled", "unlock_threshold"]

theorem entries_keys (cfg : SystemConfig) : cfg.entries.map Prod.fst = configKeys := rfl

theorem configKeys_nodup : configKeys.Nodup := by
  decide

theorem configKeys_utf8 : ∀ key ∈ configKeys, validUtf8 key = true := by
  decide

/-- Each assignment is found again under its key. -/
theorem member?_reread {value : Json} (i : Nat) (hentry : cfg.entries[i]? = some (key, value)) :
    cfg.toJson.reread.member? key = some value.reread := by
  have hmem : (key, value) ∈ cfg.entries := List.mem_of_getElem? hentry
  show (Json.rereadMembers (Json.assignAll cfg.entries [])).lookup key = _
  rw [Json.lookup_rereadMembers, Json.lookup_assignAll (entries_keys cfg ▸ configKeys_nodup) hmem]
  rfl

theorem fieldFrom_of_entry {α : Type} {denotes : Json → α → Prop} {value : Json}
    {default v : α} (hentry : cfg.toJson.reread.member? key = some value)
    (hvalue : denotes value v) : FieldFrom denotes cfg.toJson.reread key default v := by
  constructor
  · intro hnone
    rw [hentry] at hnone
    exact absurd hnone (by simp)
  · intro given hgiven
    rw [hentry] at hgiven
    rwa [← Option.some.inj hgiven]

theorem fieldFrom_text {s default : ByteString} (i : Nat)
    (hentry : cfg.entries[i]? = some (key, .string s)) :
    FieldFrom DenotesText cfg.toJson.reread key default s :=
  fieldFrom_of_entry (member?_reread i hentry) rfl

theorem fieldFrom_flag {b default : Bool} (i : Nat)
    (hentry : cfg.entries[i]? = some (key, .boolean b)) :
    FieldFrom DenotesFlag cfg.toJson.reread key default b :=
  fieldFrom_of_entry (member?_reread i hentry) rfl

theorem fieldFrom_real {d default : Double} (i : Nat)
    (hentry : cfg.entries[i]? = some (key, .numberFloat d)) :
    FieldFrom DenotesReal cfg.toJson.reread key default d :=
  fieldFrom_of_entry (member?_reread i hentry) (.inl rfl)

theorem fieldFrom_port {v default : UInt16} (i : Nat)
    (hentry : cfg.entries[i]? = some (key, .numberUnsigned v.toNat)) :
    FieldFrom DenotesUInt16 cfg.toJson.reread key default v := by
  apply fieldFrom_of_entry (member?_reread i hentry)
  show mathValue? (.numberUnsigned v.toNat) = _
  simp [mathValue?]

theorem denotesInt_reread (n : Int) : DenotesInt (Json.reread (.numberInteger n)) n := by
  rw [Json.reread]
  split
  · rfl
  · rename_i hn
    show some ((n.toNat : ℚ)) = some (n : ℚ)
    have hcast : ((n.toNat : Int) : ℚ) = (n : ℚ) := by rw [Int.toNat_of_nonneg (by omega)]
    rw [← hcast, Int.cast_natCast]

theorem fieldFrom_int {v default : Int32} (i : Nat)
    (hentry : cfg.entries[i]? = some (key, .numberInteger v.toInt)) :
    FieldFrom DenotesInt32 cfg.toJson.reread key default v :=
  fieldFrom_of_entry (member?_reread i hentry) (denotesInt_reread v.toInt)

/-- The two lists of keys agree. -/
theorem given_reread (cfg : SystemConfig) : Given cfg.toJson.reread cfg where
  ollamaHost := fieldFrom_text 0 rfl
  ollamaPort := fieldFrom_port 1 rfl
  fastModel := fieldFrom_text 2 rfl
  heavyModel := fieldFrom_text 3 rfl
  chaosThreshold := fieldFrom_real 4 rfl
  rule03FailureThreshold := fieldFrom_int 5 rfl
  rule03CriticalThreshold := fieldFrom_int 6 rfl
  escalateConfidence := fieldFrom_real 7 rfl
  firewallTtlDefaultS := fieldFrom_int 8 rfl
  chaosWindowSize := fieldFrom_int 9 rfl
  tickIntervalMs := fieldFrom_int 10 rfl
  fastTimeoutMs := fieldFrom_int 11 rfl
  heavyTimeoutMs := fieldFrom_int 12 rfl
  sandboxRoot := fieldFrom_text 13 rfl
  quarantineDir := fieldFrom_text 14 rfl
  agentsDir := fieldFrom_text 15 rfl
  skillsDir := fieldFrom_text 16 rfl
  clamavEnabled := fieldFrom_flag 17 rfl
  firewallEnabled := fieldFrom_flag 18 rfl
  aiTriageEnabled := fieldFrom_flag 19 rfl
  agentsEnabled := fieldFrom_flag 20 rfl
  pipelineEnabled := fieldFrom_flag 21 rfl
  unlockThreshold := fieldFrom_int 22 rfl

end Saved

/-- The strings of a configuration, in the order in which they are assigned. -/
def SystemConfig.strings (cfg : SystemConfig) : List ByteString :=
  [cfg.ollamaHost, cfg.fastModel, cfg.heavyModel, cfg.sandboxRoot, cfg.quarantineDir,
    cfg.agentsDir, cfg.skillsDir]

def SystemConfig.isUtf8 (cfg : SystemConfig) : Bool :=
  cfg.strings.all validUtf8

/-- The keys are UTF-8, so that it depends on the strings alone. -/
theorem isUtf8_toJson (cfg : SystemConfig) : cfg.toJson.isUtf8 = cfg.isUtf8 := by
  rw [SystemConfig.toJson, Json.isUtf8,
    Json.membersUtf8_assignAll (entries_keys cfg ▸ configKeys_nodup) (by simp),
    Json.membersUtf8_eq_all (entries_keys cfg ▸ configKeys_utf8)]
  simp [SystemConfig.entries, SystemConfig.isUtf8, SystemConfig.strings, Json.isUtf8,
    Json.membersUtf8]

def IsFinite (d : Double) : Prop :=
  (∃ q, d = .finite q) ∨ d = .negZero

/-- Finite doubles and valid strings. -/
structure SystemConfig.Storable (cfg : SystemConfig) : Prop where
  chaosThreshold : IsFinite cfg.chaosThreshold
  escalateConfidence : IsFinite cfg.escalateConfidence
  strings : cfg.isUtf8 = true

/-- Written with `dump(2)` and a newline, a value is read back. -/
def ReadsBack (library : StreamLibrary) (j : Json) : Prop :=
  ∃ text, library.dumpIndented j = some text ∧
    library.readStream (text ++ ("
" : ByteString)) = .ok j.reread

theorem loadConfig_saveConfig {library : StreamLibrary} {cfg : SystemConfig}
    (hlibrary : ReadsBack library cfg.toJson) (path : ByteString) (file : ConfigFile) :
    (saveConfig library true cfg file).1 = false ∧
      loadConfig library path (saveConfig library true cfg file).2 = .ok cfg := by
  obtain ⟨text, hdump, hread⟩ := hlibrary
  rw [saveConfig, hdump]
  refine ⟨rfl, ?_⟩
  show loadConfig library path (.content (text ++ ("
" : ByteString))) = .ok cfg
  rw [loadConfig, hread]
  exact readSettings_ok_iff.mpr (given_reread cfg).loaded

theorem fieldFrom_default {α : Type} {denotes : Json → α → Prop} {j : Json} {key : ByteString}
    {default : α} (habsent : j.member? key = none) : FieldFrom denotes j key default default :=
  ⟨fun _ => rfl, fun given hgiven => absurd (habsent.symm.trans hgiven) (by simp)⟩

/-- A configuration that can be stored survives saving and loading, and every object yields the
values that it gives and the defaults of the others. -/
theorem loadConfig_faithful (library : StreamLibrary) (path : ByteString) :
    (∀ cfg file, cfg.Storable → (cfg.Storable → ReadsBack library cfg.toJson) →
      (saveConfig library true cfg file).1 = false ∧
        loadConfig library path (saveConfig library true cfg file).2 = .ok cfg) ∧
    ∀ text j cfg, library.readStream text = .ok j → Given j cfg →
      loadConfig library path (.content text) = .ok cfg := by
  constructor
  · intro cfg file hstorable hlibrary
    exact loadConfig_saveConfig (hlibrary hstorable) path file
  · intro text j cfg hread hgiven
    rw [loadConfig, hread]
    exact readSettings_ok_iff.mpr hgiven.loaded

/-- A library with the text of the JSON library, that reads back one document. -/
def sampleStreams (document : ByteString) (value : Json) : StreamLibrary where
  dumpIndented := fun j => if j.isUtf8 then some (j.indentedText 0) else none
  readStream := fun s => if s = document then .ok value else .error (.parseError "unexpected")

theorem sampleStreams_dump {document : ByteString} {value j : Json} (hutf8 : j.isUtf8 = true) :
    (sampleStreams document value).dumpIndented j = some (j.indentedText 0) :=
  if_pos hutf8

theorem sampleStreams_dump_none {document : ByteString} {value j : Json}
    (hutf8 : j.isUtf8 = false) : (sampleStreams document value).dumpIndented j = none :=
  if_neg (by simp [hutf8])

theorem sampleStreams_read {document : ByteString} {value : Json} :
    (sampleStreams document value).readStream document = .ok value :=
  if_pos rfl

theorem sampleStreams_refusesNonUtf8 (document : ByteString) (value j : Json) :
    ((sampleStreams document value).dumpIndented j).isSome = j.isUtf8 := by
  simp only [sampleStreams]
  split <;> simp_all

theorem default_storable : ({} : SystemConfig).Storable where
  chaosThreshold := by
    obtain ⟨r, hr, _⟩ := Double.ofRat_near (q := 9 / 10) (by norm_num) (by norm_num)
    exact .inl ⟨r, hr⟩
  escalateConfidence := by
    obtain ⟨r, hr, _⟩ := Double.ofRat_near (q := 7 / 10) (by norm_num) (by norm_num)
    exact .inl ⟨r, hr⟩
  strings := by decide

def defaultDocument : ByteString :=
  ({} : SystemConfig).toJson.indentedText 0 ++ ("\n" : ByteString)

theorem default_readsBack :
    ReadsBack (sampleStreams defaultDocument ({} : SystemConfig).toJson.reread)
      ({} : SystemConfig).toJson :=
  ⟨_, sampleStreams_dump ((isUtf8_toJson {}).trans default_storable.strings),
    sampleStreams_read⟩

def twelveVotes : ByteString := "\x7b\"unlock_threshold\": 12\x7d"

def twelveVotesJson : Json := .object [("unlock_threshold", .numberUnsigned 12)]

theorem twelveVotes_given : Given twelveVotesJson { unlockThreshold := 12 } where
  ollamaHost := fieldFrom_default rfl
  ollamaPort := fieldFrom_default rfl
  fastModel := fieldFrom_default rfl
  heavyModel := fieldFrom_default rfl
  chaosThreshold := fieldFrom_default rfl
  rule03FailureThreshold := fieldFrom_default rfl
  rule03CriticalThreshold := fieldFrom_default rfl
  escalateConfidence := fieldFrom_default rfl
  firewallTtlDefaultS := fieldFrom_default rfl
  chaosWindowSize := fieldFrom_default rfl
  tickIntervalMs := fieldFrom_default rfl
  fastTimeoutMs := fieldFrom_default rfl
  heavyTimeoutMs := fieldFrom_default rfl
  sandboxRoot := fieldFrom_default rfl
  quarantineDir := fieldFrom_default rfl
  agentsDir := fieldFrom_default rfl
  skillsDir := fieldFrom_default rfl
  clamavEnabled := fieldFrom_default rfl
  firewallEnabled := fieldFrom_default rfl
  aiTriageEnabled := fieldFrom_default rfl
  agentsEnabled := fieldFrom_default rfl
  pipelineEnabled := fieldFrom_default rfl
  unlockThreshold := ⟨nofun, fun given hgiven => by cases hgiven; rfl⟩

/-- The defaults survive, and a file with one key changes that field alone. -/
theorem default_config_survives :
    loadConfig (sampleStreams defaultDocument ({} : SystemConfig).toJson.reread) "astartis.json"
        (saveConfig (sampleStreams defaultDocument ({} : SystemConfig).toJson.reread) true {}
          .absent).2 = .ok {} ∧
      loadConfig (sampleStreams twelveVotes twelveVotesJson) "astartis.json"
        (.content twelveVotes) = .ok { unlockThreshold := 12 } :=
  ⟨((loadConfig_faithful _ "astartis.json").1 {} .absent default_storable
      fun _ => default_readsBack).2,
    (loadConfig_faithful _ "astartis.json").2 twelveVotes twelveVotesJson _ sampleStreams_read
      twelveVotes_given⟩

section Saving

variable (library : StreamLibrary) (opens : Bool) (cfg : SystemConfig) (file : ConfigFile)

/-- If an exception leaves `save_config`, the file is as it was. -/
def KeepsOnFailure : Prop :=
  (saveConfig library opens cfg file).1 = true → (saveConfig library opens cfg file).2 = file

/-- Nothing can be lost: all strings can be serialized, the stream does not open the file, or
the file is empty as it is. -/
theorem keepsOnFailure_iff
    (hlibrary : ∀ j, (library.dumpIndented j).isSome = j.isUtf8) :
    KeepsOnFailure library opens cfg file ↔
      (∀ s ∈ cfg.strings, validUtf8 s = true) ∨ opens = false ∨ file = .content [] := by
  have hdump : (library.dumpIndented cfg.toJson).isSome = cfg.strings.all validUtf8 :=
    (hlibrary _).trans (isUtf8_toJson cfg)
  rw [← List.all_eq_true, ← hdump, KeepsOnFailure, saveConfig]
  rcases library.dumpIndented cfg.toJson with _ | text
  · cases opens with
    | false => simp
    | true =>
        simp [eq_comm]
  · simp

end Saving

theorem default_save_keeps :
    KeepsOnFailure (sampleStreams [] .null) true {} (.content "\x7b\x7d\n") :=
  (keepsOnFailure_iff (sampleStreams [] .null) true {} (.content "\x7b\x7d\n")
    (sampleStreams_refusesNonUtf8 [] .null)).mpr (.inl (by decide))

/-- A host name that is not UTF-8 empties the file. -/
theorem invalid_host_empties_file :
    ¬ KeepsOnFailure (sampleStreams [] .null) true { ollamaHost := [0xFF] }
      (.content "\x7b\x7d\n") := by
  intro hkeeps
  have hdump : (sampleStreams [] .null).dumpIndented
      ({ ollamaHost := [0xFF] } : SystemConfig).toJson = none :=
    sampleStreams_dump_none ((isUtf8_toJson _).trans (by decide))
  rw [KeepsOnFailure, saveConfig, hdump] at hkeeps
  exact absurd (hkeeps rfl) (by decide)

end Astartis.Config
