import Astartis.SystemConfig

/-!
What a field of the loaded configuration has to do with the member of the JSON object under
its key.
-/

namespace Astartis.Config

open ByteString Stdin

/-- The value of a number, whichever way it is written. -/
def mathValue? : Json → Option ℚ
  | .numberInteger n => some n
  | .numberUnsigned n => some n
  | .numberFloat (.finite q) => some q
  | .numberFloat .negZero => some 0
  | _ => none

def DenotesText (given : Json) (s : ByteString) : Prop :=
  given = .string s

def DenotesFlag (given : Json) (b : Bool) : Prop :=
  given = .boolean b

def DenotesInt (given : Json) (n : Int) : Prop :=
  mathValue? given = some (n : ℚ)

def DenotesInt32 (given : Json) (v : Int32) : Prop :=
  DenotesInt given v.toInt

def DenotesUInt16 (given : Json) (v : UInt16) : Prop :=
  DenotesInt given v.toNat

/-- A double, or an integer that is one. -/
def DenotesReal (given : Json) (d : Double) : Prop :=
  given = .numberFloat d ∨
    ∃ n : Int, (given = .numberInteger n ∨ ∃ m : Nat, given = .numberUnsigned m ∧ n = m) ∧
      d = .finite n ∧ Double.ofRat n = .finite n

def IntegralIn (low high : Int) (given : Json) : Prop :=
  ∃ n : Int, DenotesInt given n ∧ low ≤ n ∧ n ≤ high

section Conversions

variable {given : Json}

theorem toInt32_finite {n : Int} (hlow : -2 ^ 31 ≤ n) (hhigh : n < 2 ^ 31) :
    Double.toInt32 (.finite (n : ℚ)) = Int32.ofInt n := by
  have htruncated : (if (Double.finite (n : ℚ)).toRat < 0 then ⌈(Double.finite (n : ℚ)).toRat⌉
      else ⌊(Double.finite (n : ℚ)).toRat⌋) = n := by
    split
    · exact Int.ceil_intCast n
    · exact Int.floor_intCast n
  simp only [Double.toInt32, htruncated]
  rw [if_pos ⟨hlow, hhigh⟩]

theorem getInt32?_of_denotes {v : Int32} (hgiven : DenotesInt32 given v) :
    given.getInt32? = some v := by
  have hlow := v.le_toInt
  have hhigh := v.toInt_lt
  unfold DenotesInt32 DenotesInt mathValue? at hgiven
  split at hgiven
  · rename_i n
    have hn : n = v.toInt := by exact_mod_cast Option.some.inj hgiven
    rw [Json.getInt32?, hn, Int32.ofInt_toInt]
  · rename_i n
    have hn : (n : Int) = v.toInt := by exact_mod_cast Option.some.inj hgiven
    rw [Json.getInt32?, ← Int32.ofInt_eq_ofNat, hn, Int32.ofInt_toInt]
  · rw [Option.some.inj hgiven, Json.getInt32?, toInt32_finite hlow hhigh, Int32.ofInt_toInt]
  · have hv : (0 : Int) = v.toInt := by exact_mod_cast Option.some.inj hgiven
    rw [Json.getInt32?, ← Int32.ofInt_toInt v, ← hv]
    rfl
  · simp at hgiven

theorem ofInt_toNat (v : UInt16) : UInt16.ofInt v.toNat = v := by
  have hhigh := v.toNat_lt
  have hn : ((v.toNat : Int) % 2 ^ 16).toNat = v.toNat := by omega
  rw [UInt16.ofInt, hn]
  exact UInt16.ofNat_toNat

theorem getUInt16?_of_denotes {v : UInt16} (hgiven : DenotesUInt16 given v) :
    getUInt16? given = some v := by
  have hhigh := v.toNat_lt
  unfold DenotesUInt16 DenotesInt mathValue? at hgiven
  split at hgiven
  · rename_i n
    have hn : n = v.toNat := by exact_mod_cast Option.some.inj hgiven
    rw [getUInt16?, hn, ofInt_toNat]
  · rename_i n
    have hn : n = v.toNat := by exact_mod_cast Option.some.inj hgiven
    rw [getUInt16?, hn, UInt16.ofNat_toNat]
  · rw [Option.some.inj hgiven, getUInt16?, doubleToUInt16, toInt32_finite (by omega) (by omega),
      Int32.toInt_ofInt_of_le (by omega) (by omega), ofInt_toNat]
  · have hv : (0 : Int) = v.toNat := by exact_mod_cast Option.some.inj hgiven
    rw [getUInt16?, ← ofInt_toNat v, ← hv]
    rfl
  · simp at hgiven

theorem getDouble?_of_denotes {d : Double} (hgiven : DenotesReal given d) :
    given.getDouble? = some d := by
  rcases hgiven with rfl | ⟨n, rfl | ⟨m, rfl, rfl⟩, rfl, hexact⟩
  · rfl
  · rw [Json.getDouble?, hexact]
  · rw [Json.getDouble?, ← hexact]
    simp

theorem denotesInt32_iff {v : Int32} (hget : given.getInt32? = some v) :
    DenotesInt32 given v ↔ IntegralIn (-2 ^ 31) (2 ^ 31 - 1) given := by
  constructor
  · intro hgiven
    exact ⟨v.toInt, hgiven, v.le_toInt, by have := v.toInt_lt; omega⟩
  · rintro ⟨n, hgiven, hlow, hhigh⟩
    have hn : (Int32.ofInt n).toInt = n := Int32.toInt_ofInt_of_le (by omega) (by omega)
    have hdenotes : DenotesInt32 given (Int32.ofInt n) := by rwa [DenotesInt32, hn]
    rw [getInt32?_of_denotes hdenotes] at hget
    rwa [← Option.some.inj hget]

theorem denotesUInt16_iff {v : UInt16} (hget : getUInt16? given = some v) :
    DenotesUInt16 given v ↔ IntegralIn 0 (2 ^ 16 - 1) given := by
  constructor
  · intro hgiven
    exact ⟨v.toNat, hgiven, Int.natCast_nonneg _, by have := v.toNat_lt; omega⟩
  · rintro ⟨n, hgiven, hlow, hhigh⟩
    have hn : ((UInt16.ofNat n.toNat).toNat : Int) = n := by
      have hsize : n.toNat < UInt16.size := by
        rw [UInt16.size]
        omega
      rw [UInt16.toNat_ofNat_of_lt' hsize]
      omega
    have hdenotes : DenotesUInt16 given (UInt16.ofNat n.toNat) := by rwa [DenotesUInt16, hn]
    rw [getUInt16?_of_denotes hdenotes] at hget
    rwa [← Option.some.inj hget]

end Conversions

theorem bind_eq_ok {ε α β : Type} {x : Except ε α} {f : α → Except ε β} {b : β} :
    (x >>= f) = .ok b ↔ ∃ a, x = .ok a ∧ f a = .ok b := by
  cases x with
  | error e => exact ⟨nofun, fun ⟨_, h, _⟩ => nomatch h⟩
  | ok a => exact ⟨fun h => ⟨a, rfl, h⟩, fun ⟨_, h, hb⟩ => by cases h; exact hb⟩

/-- Every field is what its setting yields. -/
structure Loaded (j : Json) (cfg : SystemConfig) : Prop where
  ollamaHost : textSetting j "ollama_host" "127.0.0.1" = .ok cfg.ollamaHost
  ollamaPort : portSetting j "ollama_port" 11434 = .ok cfg.ollamaPort
  fastModel : textSetting j "fast_model" "granite3.1-moe:3b" = .ok cfg.fastModel
  heavyModel : textSetting j "heavy_model" "granite3.1-dense:8b" = .ok cfg.heavyModel
  chaosThreshold : realSetting j "chaos_threshold" (.ofRat (9 / 10)) = .ok cfg.chaosThreshold
  rule03FailureThreshold :
    intSetting j "rule03_failure_threshold" 5 = .ok cfg.rule03FailureThreshold
  rule03CriticalThreshold :
    intSetting j "rule03_critical_threshold" 10 = .ok cfg.rule03CriticalThreshold
  escalateConfidence :
    realSetting j "escalate_confidence" (.ofRat (7 / 10)) = .ok cfg.escalateConfidence
  firewallTtlDefaultS : intSetting j "firewall_ttl_default_s" 3600 = .ok cfg.firewallTtlDefaultS
  chaosWindowSize : intSetting j "chaos_window_size" 16 = .ok cfg.chaosWindowSize
  tickIntervalMs : intSetting j "tick_interval_ms" 500 = .ok cfg.tickIntervalMs
  fastTimeoutMs : intSetting j "fast_timeout_ms" 15000 = .ok cfg.fastTimeoutMs
  heavyTimeoutMs : intSetting j "heavy_timeout_ms" 90000 = .ok cfg.heavyTimeoutMs
  sandboxRoot : textSetting j "sandbox_root" [] = .ok cfg.sandboxRoot
  quarantineDir : textSetting j "quarantine_dir" [] = .ok cfg.quarantineDir
  agentsDir : textSetting j "agents_dir" "agents/definitions" = .ok cfg.agentsDir
  skillsDir : textSetting j "skills_dir" "agents/skills" = .ok cfg.skillsDir
  clamavEnabled : flagSetting j "clamav_enabled" true = .ok cfg.clamavEnabled
  firewallEnabled : flagSetting j "firewall_enabled" true = .ok cfg.firewallEnabled
  aiTriageEnabled : flagSetting j "ai_triage_enabled" true = .ok cfg.aiTriageEnabled
  agentsEnabled : flagSetting j "agents_enabled" true = .ok cfg.agentsEnabled
  pipelineEnabled : flagSetting j "pipeline_enabled" true = .ok cfg.pipelineEnabled
  unlockThreshold : intSetting j "unlock_threshold" 3 = .ok cfg.unlockThreshold

theorem readSettings_ok_iff {j : Json} {cfg : SystemConfig} :
    readSettings j = .ok cfg ↔ Loaded j cfg := by
  constructor
  · intro h
    simp only [readSettings, bind_eq_ok] at h
    obtain ⟨_, h1, _, h2, _, h3, _, h4, _, h5, _, h6, _, h7, _, h8, _, h9, _, h10, _, h11, _, h12,
      _, h13, _, h14, _, h15, _, h16, _, h17, _, h18, _, h19, _, h20, _, h21, _, h22, _, h23,
      hcfg⟩ := h
    cases hcfg
    exact ⟨h1, h2, h3, h4, h5, h6, h7, h8, h9, h10, h11, h12, h13, h14, h15, h16, h17, h18, h19,
      h20, h21, h22, h23⟩
  · rintro ⟨h1, h2, h3, h4, h5, h6, h7, h8, h9, h10, h11, h12, h13, h14, h15, h16, h17, h18, h19,
      h20, h21, h22, h23⟩
    simp only [readSettings, bind_eq_ok]
    exact ⟨_, h1, _, h2, _, h3, _, h4, _, h5, _, h6, _, h7, _, h8, _, h9, _, h10, _, h11, _, h12,
      _, h13, _, h14, _, h15, _, h16, _, h17, _, h18, _, h19, _, h20, _, h21, _, h22, _, h23,
      rfl⟩

end Astartis.Config
