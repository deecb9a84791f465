import Astartis.JsonObject
import Astartis.StdinLoop

/-!
The configuration file.  Loading and saving each have a list of keys of their own.
-/

namespace Astartis.Config

open ByteString Stdin

structure SystemConfig where
  ollamaHost : ByteString := "127.0.0.1"
  ollamaPort : UInt16 := 11434
  fastModel : ByteString := "granite3.1-moe:3b"
  heavyModel : ByteString := "granite3.1-dense:8b"
  chaosThreshold : Double := .ofRat (9 / 10)
  rule03FailureThreshold : Int32 := 5
  rule03CriticalThreshold : Int32 := 10
  escalateConfidence : Double := .ofRat (7 / 10)
  firewallTtlDefaultS : Int32 := 3600
  chaosWindowSize : Int32 := 16
  tickIntervalMs : Int32 := 500
  fastTimeoutMs : Int32 := 15000
  heavyTimeoutMs : Int32 := 90000
  sandboxRoot : ByteString := []
  quarantineDir : ByteString := []
  agentsDir : ByteString := "agents/definitions"
  skillsDir : ByteString := "agents/skills"
  clamavEnabled : Bool := true
  firewallEnabled : Bool := true
  aiTriageEnabled : Bool := true
  agentsEnabled : Bool := true
  pipelineEnabled : Bool := true
  unlockThreshold : Int32 := 3
deriving DecidableEq

/-- What `f >> j` throws, with its message. -/
inductive ReadError
  | parseError (what : ByteString)
  | other (what : ByteString)

/-- The JSON library on streams. -/
structure StreamLibrary where
  /-- `dump(2)`. -/
  dumpIndented : Json → Option ByteString
  /-- `f >> j`, which leaves what stands behind the value. -/
  readStream : ByteString → Except ReadError Json

/-- What stands at a path, as the text that a stream reads from it. -/
inductive ConfigFile
  | absent
  | unreadable
  | content (text : ByteString)
deriving DecidableEq

/-- `static_cast<uint16_t>`: the lower half of the integer that the value truncates to. -/
def doubleToUInt16 (d : Double) : UInt16 :=
  UInt16.ofInt d.toInt32.toInt

/-- `get<uint16_t>`, which takes booleans as well. -/
def getUInt16? : Json → Option UInt16
  | .numberUnsigned n => some (UInt16.ofNat n)
  | .numberInteger n => some (UInt16.ofInt n)
  | .numberFloat d => some (doubleToUInt16 d)
  | .boolean b => some (if b then 1 else 0)
  | _ => none

/-- A member if the key is there, and the default otherwise. -/
def setting {α : Type} (get? : Json → Option α) (expected : ByteString) (j : Json)
    (key : ByteString) (default : α) : Except ByteString α :=
  match j.member? key with
  | none => .ok default
  | some given =>
      match get? given with
      | none => .error (typeError302 expected given)
      | some value => .ok value

def textSetting (j : Json) (key default : ByteString) : Except ByteString ByteString :=
  setting Json.getString? "string" j key default

def portSetting (j : Json) (key : ByteString) (default : UInt16) : Except ByteString UInt16 :=
  setting getUInt16? "number" j key default

def intSetting (j : Json) (key : ByteString) (default : Int32) : Except ByteString Int32 :=
  setting Json.getInt32? "number" j key default

def realSetting (j : Json) (key : ByteString) (default : Double) : Except ByteString Double :=
  setting Json.getDouble? "number" j key default

def flagSetting (j : Json) (key : ByteString) (default : Bool) : Except ByteString Bool :=
  setting getBool? "boolean" j key default

/-- The part of `load_config` behind the parser. -/
def readSettings (j : Json) : Except ByteString SystemConfig := do
  let cfg : SystemConfig := {}
  let cfg := { cfg with ollamaHost := ← textSetting j "ollama_host" cfg.ollamaHost }
  let cfg := { cfg with ollamaPort := ← portSetting j "ollama_port" cfg.ollamaPort }
  let cfg := { cfg with fastModel := ← textSetting j "fast_model" cfg.fastModel }
  let cfg := { cfg with heavyModel := ← textSetting j "heavy_model" cfg.heavyModel }
  let cfg := { cfg with chaosThreshold := ← realSetting j "chaos_threshold" cfg.chaosThreshold }
  let cfg := { cfg with
    rule03FailureThreshold := ← intSetting j "rule03_failure_threshold" cfg.rule03FailureThreshold }
  let cfg := { cfg with
    rule03CriticalThreshold :=
      ← intSetting j "rule03_critical_threshold" cfg.rule03CriticalThreshold }
  let cfg := { cfg with
    escalateConfidence := ← realSetting j "escalate_confidence" cfg.escalateConfidence }
  let cfg := { cfg with
    firewallTtlDefaultS := ← intSetting j "firewall_ttl_default_s" cfg.firewallTtlDefaultS }
  let cfg := { cfg with chaosWindowSize := ← intSetting j "chaos_window_size" cfg.chaosWindowSize }
  let cfg := { cfg with tickIntervalMs := ← intSetting j "tick_interval_ms" cfg.tickIntervalMs }
  let cfg := { cfg with fastTimeoutMs := ← intSetting j "fast_timeout_ms" cfg.fastTimeoutMs }
  let cfg := { cfg with heavyTimeoutMs := ← intSetting j "heavy_timeout_ms" cfg.heavyTimeoutMs }
  let cfg := { cfg with sandboxRoot := ← textSetting j "sandbox_root" cfg.sandboxRoot }
  let cfg := { cfg with quarantineDir := ← textSetting j "quarantine_dir" cfg.quarantineDir }
  let cfg := { cfg with agentsDir := ← textSetting j "agents_dir" cfg.agentsDir }
  let cfg := { cfg with skillsDir := ← textSetting j "skills_dir" cfg.skillsDir }
  let cfg := { cfg with clamavEnabled := ← flagSetting j "clamav_enabled" cfg.clamavEnabled }
  let cfg := { cfg with firewallEnabled := ← flagSetting j "firewall_enabled" cfg.firewallEnabled }
  let cfg := { cfg with aiTriageEnabled := ← flagSetting j "ai_triage_enabled" cfg.aiTriageEnabled }
  let cfg := { cfg with agentsEnabled := ← flagSetting j "agents_enabled" cfg.agentsEnabled }
  let cfg := { cfg with pipelineEnabled := ← flagSetting j "pipeline_enabled" cfg.pipelineEnabled }
  let cfg := { cfg with unlockThreshold := ← intSetting j "unlock_threshold" cfg.unlockThreshold }
  return cfg

def loadConfig (library : StreamLibrary) (path : ByteString) :
    ConfigFile → Except ByteString SystemConfig
  | .absent => .ok {}
  | .unreadable => .error (("Cannot open config file: " : ByteString) ++ path)
  | .content text =>
      match library.readStream text with
      | .error (.parseError what) =>
          .error (("Config parse error in " : ByteString) ++ path ++ (": " : ByteString) ++ what)
      | .error (.other what) => .error what
      | .ok j => readSettings j

/-- The assignments of `save_config`. -/
def SystemConfig.entries (cfg : SystemConfig) : List (ByteString × Json) :=
  [("ollama_host", .string cfg.ollamaHost),
    ("ollama_port", .numberUnsigned cfg.ollamaPort.toNat),
    ("fast_model", .string cfg.fastModel),
    ("heavy_model", .string cfg.heavyModel),
    ("chaos_threshold", .numberFloat cfg.chaosThreshold),
    ("rule03_failure_threshold", .numberInteger cfg.rule03FailureThreshold.toInt),
    ("rule03_critical_threshold", .numberInteger cfg.rule03CriticalThreshold.toInt),
    ("escalate_confidence", .numberFloat cfg.escalateConfidence),
    ("firewall_ttl_default_s", .numberInteger cfg.firewallTtlDefaultS.toInt),
    ("chaos_window_size", .numberInteger cfg.chaosWindowSize.toInt),
    ("tick_interval_ms", .numberInteger cfg.tickIntervalMs.toInt),
    ("fast_timeout_ms", .numberInteger cfg.fastTimeoutMs.toInt),
    ("heavy_timeout_ms", .numberInteger cfg.heavyTimeoutMs.toInt),
    ("sandbox_root", .string cfg.sandboxRoot),
    ("quarantine_dir", .string cfg.quarantineDir),
    ("agents_dir", .string cfg.agentsDir),
    ("skills_dir", .string cfg.skillsDir),
    ("clamav_enabled", .boolean cfg.clamavEnabled),
    ("firewall_enabled", .boolean cfg.firewallEnabled),
    ("ai_triage_enabled", .boolean cfg.aiTriageEnabled),
    ("agents_enabled", .boolean cfg.agentsEnabled),
    ("pipeline_enabled", .boolean cfg.pipelineEnabled),
    ("unlock_threshold", .numberInteger cfg.unlockThreshold.toInt)]

def SystemConfig.toJson (cfg : SystemConfig) : Json :=
  .object (Json.assignAll cfg.entries [])

/-- Whether an exception leaves `save_config`, and the file behind it.  The stream empties
the file when it opens it, before the value is serialized. -/
def saveConfig (library : StreamLibrary) (opens : Bool) (cfg : SystemConfig)
    (file : ConfigFile) : Bool × ConfigFile :=
  let file := if opens then .content [] else file
  match library.dumpIndented cfg.toJson with
  | none => (true, file)
  | some text => (false, if opens then .content (text ++ ("\n" : ByteString)) else file)

end Astartis.Config
