import Astartis.ConfigRoundTrip

/-!
What becomes of the numbers of a configuration file.  `get<T>` is a plain cast.
-/

namespace Astartis.Config

open ByteString Stdin

/-- Of what is given under a key, if it is there. -/
def Under (j : Json) (key : ByteString) (p : Json → Prop) : Prop :=
  ∀ given, j.member? key = some given → p given

/-- Every number that is given is the one that was loaded. -/
structure NumbersExact (j : Json) (cfg : SystemConfig) : Prop where
  ollamaPort : Under j "ollama_port" fun given => DenotesUInt16 given cfg.ollamaPort
  chaosThreshold : Under j "chaos_threshold" fun given => DenotesReal given cfg.chaosThreshold
  rule03FailureThreshold : Under j "rule03_failure_threshold" fun given =>
    DenotesInt32 given cfg.rule03FailureThreshold
  rule03CriticalThreshold : Under j "rule03_critical_threshold" fun given =>
    DenotesInt32 given cfg.rule03CriticalThreshold
  escalateConfidence : Under j "escalate_confidence" fun given =>
    DenotesReal given cfg.escalateConfidence
  firewallTtlDefaultS : Under j "firewall_ttl_default_s" fun given =>
    DenotesInt32 given cfg.firewallTtlDefaultS
  chaosWindowSize : Under j "chaos_window_size" fun given =>
    DenotesInt32 given cfg.chaosWindowSize
  tickIntervalMs : Under j "tick_interval_ms" fun given => DenotesInt32 given cfg.tickIntervalMs
  fastTimeoutMs : Under j "fast_timeout_ms" fun given => DenotesInt32 given cfg.fastTimeoutMs
  heavyTimeoutMs : Under j "heavy_timeout_ms" fun given => DenotesInt32 given cfg.heavyTimeoutMs
  unlockThreshold : Under j "unlock_threshold" fun given =>
    DenotesInt32 given cfg.unlockThreshold

/-- Loading throws or sets the numbers exactly. -/
def NoSilentWrap (library : StreamLibrary) (path text : ByteString) : Prop :=
  ∀ j cfg, library.readStream text = .ok j →
    loadConfig library path (.content text) = .ok cfg → NumbersExact j cfg

def textKeys : List ByteString :=
  ["ollama_host", "fast_model", "heavy_model", "sandbox_root", "quarantine_dir", "agents_dir",
    "skills_dir"]

def flagKeys : List ByteString :=
  ["clamav_enabled", "firewall_enabled", "ai_triage_enabled", "agents_enabled",
    "pipeline_enabled"]

def intKeys : List ByteString :=
  ["rule03_failure_threshold", "rule03_critical_threshold", "firewall_ttl_default_s",
    "chaos_window_size", "tick_interval_ms", "fast_timeout_ms", "heavy_timeout_ms",
    "unlock_threshold"]

def realKeys : List ByteString :=
  ["chaos_threshold", "escalate_confidence"]

section Keys

variable {p : ByteString → Prop}

theorem forall_textKeys_iff :
    (∀ key ∈ textKeys, p key) ↔ p "ollama_host" ∧ p "fast_model" ∧ p "heavy_model" ∧
      p "sandbox_root" ∧ p "quarantine_dir" ∧ p "agents_dir" ∧ p "skills_dir" := by
  simp only [textKeys, List.forall_mem_cons, List.not_mem_nil, false_implies, implies_true,
    and_true]

theorem forall_flagKeys_iff :
    (∀ key ∈ flagKeys, p key) ↔ p "clamav_enabled" ∧ p "firewall_enabled" ∧
      p "ai_triage_enabled" ∧ p "agents_enabled" ∧ p "pipeline_enabled" := by
  simp only [flagKeys, List.forall_mem_cons, List.not_mem_nil, false_implies, implies_true,
    and_true]

theorem forall_intKeys_iff :
    (∀ key ∈ intKeys, p key) ↔ p "rule03_failure_threshold" ∧ p "rule03_critical_threshold" ∧
      p "firewall_ttl_default_s" ∧ p "chaos_window_size" ∧ p "tick_interval_ms" ∧
      p "fast_timeout_ms" ∧ p "heavy_timeout_ms" ∧ p "unlock_threshold" := by
  simp only [intKeys, List.forall_mem_cons, List.not_mem_nil, false_implies, implies_true,
    and_true]

theorem forall_realKeys_iff :
    (∀ key ∈ realKeys, p key) ↔ p "chaos_threshold" ∧ p "escalate_confidence" := by
  simp only [realKeys, List.forall_mem_cons, List.not_mem_nil, false_implies, implies_true,
    and_true]

end Keys

/-- No known key has a value of a kind on which `get<T>` throws. -/
structure WellKinded (j : Json) : Prop where
  texts : ∀ key ∈ textKeys, Under j key fun given => given.getString?.isSome = true
  flags : ∀ key ∈ flagKeys, Under j key fun given => (getBool? given).isSome = true
  port : Under j "ollama_port" fun given => (getUInt16? given).isSome = true
  ints : ∀ key ∈ intKeys, Under j key fun given => given.getInt32?.isSome = true
  reals : ∀ key ∈ realKeys, Under j key fun given => given.getDouble?.isSome = true

/-- Every number is one that its field can hold. -/
structure NumbersFit (j : Json) : Prop where
  port : Under j "ollama_port" (IntegralIn 0 (2 ^ 16 - 1))
  ints : ∀ key ∈ intKeys, Under j key (IntegralIn (-2 ^ 31) (2 ^ 31 - 1))
  reals : ∀ key ∈ realKeys, Under j key fun given => ∃ d, DenotesReal given d

section Setting

variable {α : Type} {get? : Json → Option α} {expected key : ByteString} {j : Json}
  {default v : α}

theorem get?_of_setting {given : Json} (hsetting : setting get? expected j key default = .ok v)
    (hgiven : j.member? key = some given) : get? given = some v := by
  rw [setting, hgiven] at hsetting
  dsimp only at hsetting
  split at hsetting
  · simp at hsetting
  · rename_i value hget
    rw [hget, Except.ok.inj hsetting]

theorem under_of_setting (hsetting : setting get? expected j key default = .ok v) :
    Under j key fun given => (get? given).isSome = true := by
  intro given hgiven
  rw [get?_of_setting hsetting hgiven]
  rfl

theorem exists_setting (expected : ByteString) (default : α)
    (hkind : Under j key fun given => (get? given).isSome = true) :
    ∃ v, setting get? expected j key default = .ok v := by
  rw [setting]
  rcases hmember : j.member? key with _ | given
  · exact ⟨default, rfl⟩
  · obtain ⟨v, hv⟩ := Option.isSome_iff_exists.mp (hkind given hmember)
    exact ⟨v, by dsimp only; rw [hv]⟩

theorem under_denotes_iff {denotes : Json → α → Prop} {p : Json → Prop}
    (hiff : ∀ {given v}, get? given = some v → (denotes given v ↔ p given))
    (hsetting : setting get? expected j key default = .ok v) :
    (Under j key fun given => denotes given v) ↔ Under j key p := by
  constructor
  · intro hdenotes given hgiven
    exact (hiff (get?_of_setting hsetting hgiven)).mp (hdenotes given hgiven)
  · intro hp given hgiven
    exact (hiff (get?_of_setting hsetting hgiven)).mpr (hp given hgiven)

end Setting

theorem denotesReal_iff {given : Json} {d : Double} (hget : given.getDouble? = some d) :
    DenotesReal given d ↔ ∃ d, DenotesReal given d := by
  constructor
  · intro hgiven
    exact ⟨d, hgiven⟩
  · rintro ⟨e, hgiven⟩
    rw [getDouble?_of_denotes hgiven] at hget
    rwa [← Option.some.inj hget]

theorem Loaded.wellKinded {j : Json} {cfg : SystemConfig} (hloaded : Loaded j cfg) :
    WellKinded j where
  texts := forall_textKeys_iff.mpr
    ⟨under_of_setting hloaded.ollamaHost, under_of_setting hloaded.fastModel,
      under_of_setting hloaded.heavyModel, under_of_setting hloaded.sandboxRoot,
      under_of_setting hloaded.quarantineDir, under_of_setting hloaded.agentsDir,
      under_of_setting hloaded.skillsDir⟩
  flags := forall_flagKeys_iff.mpr
    ⟨under_of_setting hloaded.clamavEnabled, under_of_setting hloaded.firewallEnabled,
      under_of_setting hloaded.aiTriageEnabled, under_of_setting hloaded.agentsEnabled,
      under_of_setting hloaded.pipelineEnabled⟩
  port := under_of_setting hloaded.ollamaPort
  ints := forall_intKeys_iff.mpr
    ⟨under_of_setting hloaded.rule03FailureThreshold,
      under_of_setting hloaded.rule03CriticalThreshold,
      under_of_setting hloaded.firewallTtlDefaultS, under_of_setting hloaded.chaosWindowSize,
      under_of_setting hloaded.tickIntervalMs, under_of_setting hloaded.fastTimeoutMs,
      under_of_setting hloaded.heavyTimeoutMs, under_of_setting hloaded.unlockThreshold⟩
  reals := forall_realKeys_iff.mpr
    ⟨under_of_setting hloaded.chaosThreshold, under_of_setting hloaded.escalateConfidence⟩

theorem WellKinded.exists_loaded {j : Json} (hkinds : WellKinded j) :
    ∃ cfg, Loaded j cfg := by
  obtain ⟨htexts, hflags, hport, hints, hreals⟩ := hkinds
  obtain ⟨t1, t2, t3, t4, t5, t6, t7⟩ := forall_textKeys_iff.mp htexts
  obtain ⟨f1, f2, f3, f4, f5⟩ := forall_flagKeys_iff.mp hflags
  obtain ⟨i1, i2, i3, i4, i5, i6, i7, i8⟩ := forall_intKeys_iff.mp hints
  obtain ⟨r1, r2⟩ := forall_realKeys_iff.mp hreals
  obtain ⟨ollamaHost, h1⟩ := exists_setting "string" ("127.0.0.1" : ByteString) t1
  obtain ⟨ollamaPort, h2⟩ := exists_setting "number" (11434 : UInt16) hport
  obtain ⟨fastModel, h3⟩ := exists_setting "string" ("granite3.1-moe:3b" : ByteString) t2
  obtain ⟨heavyModel, h4⟩ := exists_setting "string" ("granite3.1-dense:8b" : ByteString) t3
  obtain ⟨chaosThreshold, h5⟩ := exists_setting "number" (Double.ofRat (9 / 10)) r1
  obtain ⟨rule03FailureThreshold, h6⟩ := exists_setting "number" (5 : Int32) i1
  obtain ⟨rule03CriticalThreshold, h7⟩ := exists_setting "number" (10 : Int32) i2
  obtain ⟨escalateConfidence, h8⟩ := exists_setting "number" (Double.ofRat (7 / 10)) r2
  obtain ⟨firewallTtlDefaultS, h9⟩ := exists_setting "number" (3600 : Int32) i3
  obtain ⟨chaosWindowSize, h10⟩ := exists_setting "number" (16 : Int32) i4
  obtain ⟨tickIntervalMs, h11⟩ := exists_setting "number" (500 : Int32) i5
  obtain ⟨fastTimeoutMs, h12⟩ := exists_setting "number" (15000 : Int32) i6
  obtain ⟨heavyTimeoutMs, h13⟩ := exists_setting "number" (90000 : Int32) i7
  obtain ⟨sandboxRoot, h14⟩ := exists_setting "string" ([] : ByteString) t4
  obtain ⟨quarantineDir, h15⟩ := exists_setting "string" ([] : ByteString) t5
  obtain ⟨agentsDir, h16⟩ := exists_setting "string" ("agents/definitions" : ByteString) t6
  obtain ⟨skillsDir, h17⟩ := exists_setting "string" ("agents/skills" : ByteString) t7
  obtain ⟨clamavEnabled, h18⟩ := exists_setting "boolean" true f1
  obtain ⟨firewallEnabled, h19⟩ := exists_setting "boolean" true f2
  obtain ⟨aiTriageEnabled, h20⟩ := exists_setting "boolean" true f3
  obtain ⟨agentsEnabled, h21⟩ := exists_setting "boolean" true f4
  obtain ⟨pipelineEnabled, h22⟩ := exists_setting "boolean" true f5
  obtain ⟨unlockThreshold, h23⟩ := exists_setting "number" (3 : Int32) i8
  exact ⟨⟨ollamaHost, ollamaPort, fastModel, heavyModel, chaosThreshold, rule03FailureThreshold,
      rule03CriticalThreshold, escalateConfidence, firewallTtlDefaultS, chaosWindowSize,
      tickIntervalMs, fastTimeoutMs, heavyTimeoutMs, sandboxRoot, quarantineDir, agentsDir,
      skillsDir, clamavEnabled, firewallEnabled, aiTriageEnabled, agentsEnabled,
      pipelineEnabled, unlockThreshold⟩,
    ⟨h1, h2, h3, h4, h5, h6, h7, h8, h9, h10, h11, h12, h13, h14, h15, h16, h17, h18, h19, h20,
      h21, h22, h23⟩⟩

theorem Loaded.numbersExact_iff {j : Json} {cfg : SystemConfig} (hloaded : Loaded j cfg) :
    NumbersExact j cfg ↔ NumbersFit j := by
  have hport := under_denotes_iff denotesUInt16_iff hloaded.ollamaPort
  have hint : ∀ {key : ByteString} {default v : Int32}, intSetting j key default = .ok v →
      ((Under j key fun given => DenotesInt32 given v) ↔
        Under j key (IntegralIn (-2 ^ 31) (2 ^ 31 - 1))) :=
    fun hsetting => under_denotes_iff denotesInt32_iff hsetting
  have hreal : ∀ {key : ByteString} {default v : Double}, realSetting j key default = .ok v →
      ((Under j key fun given => DenotesReal given v) ↔
        Under j key fun given => ∃ d, DenotesReal given d) :=
    fun hsetting => under_denotes_iff denotesReal_iff hsetting
  constructor
  · intro hexact
    constructor
    · exact hport.mp hexact.ollamaPort
    · exact forall_intKeys_iff.mpr
        ⟨(hint hloaded.rule03FailureThreshold).mp hexact.rule03FailureThreshold,
          (hint hloaded.rule03CriticalThreshold).mp hexact.rule03CriticalThreshold,
          (hint hloaded.firewallTtlDefaultS).mp hexact.firewallTtlDefaultS,
          (hint hloaded.chaosWindowSize).mp hexact.chaosWindowSize,
          (hint hloaded.tickIntervalMs).mp hexact.tickIntervalMs,
          (hint hloaded.fastTimeoutMs).mp hexact.fastTimeoutMs,
          (hint hloaded.heavyTimeoutMs).mp hexact.heavyTimeoutMs,
          (hint hloaded.unlockThreshold).mp hexact.unlockThreshold⟩
    · exact forall_realKeys_iff.mpr
        ⟨(hreal hloaded.chaosThreshold).mp hexact.chaosThreshold,
          (hreal hloaded.escalateConfidence).mp hexact.escalateConfidence⟩
  · rintro ⟨hfits, hints, hreals⟩
    obtain ⟨i1, i2, i3, i4, i5, i6, i7, i8⟩ := forall_intKeys_iff.mp hints
    obtain ⟨r1, r2⟩ := forall_realKeys_iff.mp hreals
    exact
      { ollamaPort := hport.mpr hfits
        chaosThreshold := (hreal hloaded.chaosThreshold).mpr r1
        rule03FailureThreshold := (hint hloaded.rule03FailureThreshold).mpr i1
        rule03CriticalThreshold := (hint hloaded.rule03CriticalThreshold).mpr i2
        escalateConfidence := (hreal hloaded.escalateConfidence).mpr r2
        firewallTtlDefaultS := (hint hloaded.firewallTtlDefaultS).mpr i3
        chaosWindowSize := (hint hloaded.chaosWindowSize).mpr i4
        tickIntervalMs := (hint hloaded.tickIntervalMs).mpr i5
        fastTimeoutMs := (hint hloaded.fastTimeoutMs).mpr i6
        heavyTimeoutMs := (hint hloaded.heavyTimeoutMs).mpr i7
        unlockThreshold := (hint hloaded.unlockThreshold).mpr i8 }

theorem loadConfig_of_read {library : StreamLibrary} {text : ByteString} {j : Json}
    (path : ByteString) (hread : library.readStream text = .ok j) :
    loadConfig library path (.content text) = readSettings j := by
  rw [loadConfig, hread]

/-- Loading throws or sets the numbers exactly if and only if a value has the wrong kind or
every number fits its field. -/
theorem noSilentWrap_iff (library : StreamLibrary) (path text : ByteString) :
    NoSilentWrap library path text ↔
      ∀ j, library.readStream text = .ok j → WellKinded j → NumbersFit j := by
  constructor
  · intro hexact j hread hkinds
    obtain ⟨cfg, hloaded⟩ := hkinds.exists_loaded
    have hload : loadConfig library path (.content text) = .ok cfg :=
      (loadConfig_of_read path hread).trans (readSettings_ok_iff.mpr hloaded)
    exact hloaded.numbersExact_iff.mp (hexact j cfg hread hload)
  · intro hfits j cfg hread hload
    rw [loadConfig_of_read path hread] at hload
    have hloaded := readSettings_ok_iff.mp hload
    exact hloaded.numbersExact_iff.mpr (hfits j hread hloaded.wellKinded)

def wrappedPort : ByteString := "\x7b\"ollama_port\": 76970\x7d"

/-- Port 76970 is loaded as port 11434. -/
theorem wrapped_port_loaded :
    ¬ NoSilentWrap (sampleStreams wrappedPort
        (.object [("ollama_port", .numberUnsigned 76970)])) "astartis.json" wrappedPort := by
  intro hexact
  have hload : loadConfig (sampleStreams wrappedPort
      (.object [("ollama_port", .numberUnsigned 76970)])) "astartis.json"
      (.content wrappedPort) = .ok {} := rfl
  have hport := (hexact _ {} sampleStreams_read hload).ollamaPort _ rfl
  exact absurd (Option.some.inj hport) (by decide)

end Astartis.Config
