import Astartis.AiTriage
import Astartis.RuleSafety

namespace Astartis.Ai

open Audit
open Rules
open Threat
open Worm

theorem tierLowerThreshold_le_tierToScore (tier : ThreatTier) :
    tierLowerThreshold tier ≤ tierToScore tier := by
  cases tier <;> decide

theorem tierLowerThreshold_mem (tier : ThreatTier) :
    0 ≤ tierLowerThreshold tier ∧ tierLowerThreshold tier ≤ 100 := by
  cases tier <;> decide

/-- A usable reply feeds the engine at least the score of the tier it suggests. -/
theorem suggested_le_targetTier (input : TriageInput) {fast : FastResult}
    {heavy : Option HeavyResult} (husable : modelUsable fast heavy = true) :
    modelSuggestedTier fast heavy ≤
      targetTier (clampScore (scoreForRuleEngine input fast heavy)) := by
  have hscore : tierLowerThreshold (modelSuggestedTier fast heavy) ≤
      scoreForRuleEngine input fast heavy := by
    have htable := tierLowerThreshold_le_tierToScore (modelSuggestedTier fast heavy)
    simp only [scoreForRuleEngine, husable, Bool.true_eq_false, false_or]
    split <;> omega
  have hrange := tierLowerThreshold_mem (modelSuggestedTier fast heavy)
  rw [le_targetTier_iff, clampScore_eq]
  exact Or.inr (by omega)

section Conclude

variable {σ : Type} (wiring : Wiring σ) (input : TriageInput) (fast : FastResult)
  (heavy : Option HeavyResult) (engine : Engine σ)

theorem conclude_currentTier :
    (conclude wiring input fast heavy engine).2.currentTier =
      nextTier engine.currentTier (scoreForRuleEngine input fast heavy) :=
  Engine.evaluateThreatScore_currentTier _ _ engine

theorem conclude_isLocked (hwired : wiring.Wired) :
    (conclude wiring input fast heavy engine).2.isLocked wiring = true ↔
      engine.isLocked wiring = true ∨
        nextTier engine.currentTier (scoreForRuleEngine input fast heavy) = .critical := by
  refine Iff.trans ?_ (Engine.evaluateThreatScore_isLocked hwired
    (scoreForRuleEngine input fast heavy) "ai_triage" engine)
  exact Bool.eq_iff_iff.mp (hwired.audit _ _ _)

theorem conclude_modelSuggestedTier :
    (conclude wiring input fast heavy engine).1.modelSuggestedTier =
      modelSuggestedTier fast heavy := by
  rfl

theorem conclude_finalTier_iff :
    (conclude wiring input fast heavy engine).1.finalTier =
        (conclude wiring input fast heavy engine).2.currentTier ↔
      modelSuggestedTier fast heavy ≤
        nextTier engine.currentTier (scoreForRuleEngine input fast heavy) := by
  have hfinal : (conclude wiring input fast heavy engine).1.finalTier =
      if (modelSuggestedTier fast heavy).toInt ≤
          (conclude wiring input fast heavy engine).2.currentTier.toInt then
        (conclude wiring input fast heavy engine).2.currentTier
      else modelSuggestedTier fast heavy := rfl
  rw [hfinal, conclude_currentTier, ThreatTier.le_iff]
  split
  · simp [*]
  · rename_i hbelow
    constructor
    · intro h
      exact h ▸ le_refl _
    · intro h
      exact absurd h hbelow

end Conclude

theorem triage_of_consult {σ : Type} {services : Services} {self : AiTriage}
    {input : TriageInput} {fast : FastResult} {heavy : Option HeavyResult}
    (hconsult : self.consult services input = some (fast, heavy)) (wiring : Wiring σ)
    (engine : Engine σ) :
    self.triage services wiring input engine =
      some (conclude wiring input fast heavy engine) := by
  rw [AiTriage.triage, hconsult]
  rfl

def escapeText (s : ByteString) : ByteString :=
  s.flatMap fun b =>
    if b = 34 then [92, 34] else if b = 92 then [92, 92] else if b = 10 then [92, 110] else [b]

/-- A JSON library on the documents of the samples: it serializes requests, and
parses the server's envelope around `reply` and the object `reply` spells out. -/
def sampleJson (reply : ByteString) (members : List (ByteString × Json)) : Json.Library where
  dump
    | .object [(_, .string model), _, (_, .string prompt), _] =>
        some (("\x7b\"model\":\"" : ByteString) ++ escapeText model ++
          ("\",\"options\":\x7b\"num_predict\":128\x7d,\"prompt\":\"" : ByteString) ++
          escapeText prompt ++ ("\",\"stream\":false\x7d" : ByteString))
    | _ => none
  parse := fun text =>
    if text = ("\x7b\"response\":\"" : ByteString) ++ escapeText reply ++
        ("\"\x7d" : ByteString) then
      some (.object [("response", .string reply)])
    else if text = reply then some (.object members)
    else none

def sampleServices (reply : ByteString) (members : List (ByteString × Json)) : Services where
  json := sampleJson reply members
  exchange := fun _ _ _ timeoutMs =>
    if timeoutMs = fastTimeoutMs then
      [("HTTP/1.0 200 OK\r\n\r\n" : ByteString),
        ("\x7b\"response\":\"" : ByteString) ++ escapeText reply ++ ("\"\x7d" : ByteString)]
    else []

def highServices : Services :=
  sampleServices
    "\x7b\"route\":\"handle\",\"severity_hint\":\"HIGH\",\"confidence\":0.9\x7d"
    [("confidence", .numberFloat (.finite (8106479329266893 / 9007199254740992))),
      ("route", .string "handle"), ("severity_hint", .string "HIGH")]

def halfParsedServices : Services :=
  sampleServices
    "\x7b\"route\":\"handle\",\"severity_hint\":\"HIGH\",\"confidence\":\"sure\"\x7d"
    [("confidence", .string "sure"), ("route", .string "handle"),
      ("severity_hint", .string "HIGH")]

def sampleInput : TriageInput :=
  { eventType := "auth_failure_spike", source := "event_log", score := 10,
    rawDetail := "three failed logins" }

def freshEngine : Engine (Lockdown (List (ByteString × ByteString))) :=
  { world := { audit := [] } }

/-- The reported tier is the engine's, unless an unusable reply left a suggestion
that the raw score does not reach and that the engine does not keep. -/
theorem finalTier_eq_currentTier_iff {σ : Type} (services : Services) (wiring : Wiring σ)
    (self : AiTriage) (input : TriageInput) (engine : Engine σ) {fast : FastResult}
    {heavy : Option HeavyResult}
    (hconsult : self.consult services input = some (fast, heavy)) :
    ∃ result after, self.triage services wiring input engine = some (result, after) ∧
      (result.finalTier = after.currentTier ↔
        modelUsable fast heavy = true ∨
          tierLowerThreshold (modelSuggestedTier fast heavy) ≤ clampScore input.score ∨
          (modelSuggestedTier fast heavy ≤ engine.currentTier ∧
            tierLowerThreshold engine.currentTier - 10 ≤ clampScore input.score)) := by
  refine ⟨(conclude wiring input fast heavy engine).1,
    (conclude wiring input fast heavy engine).2, triage_of_consult hconsult wiring engine, ?_⟩
  rw [conclude_finalTier_iff, le_nextTier_iff]
  cases husable : modelUsable fast heavy
  · have hscore : scoreForRuleEngine input fast heavy = input.score := by
      simp [scoreForRuleEngine, husable]
    have hrange : 0 ≤ clampScore input.score := by
      rw [clampScore_eq]
      omega
    rw [hscore, le_targetTier_iff]
    constructor
    · rintro ((h | h) | h)
      · exact Or.inr (Or.inl (h ▸ hrange))
      · exact Or.inr (Or.inl h)
      · exact Or.inr (Or.inr h)
    · rintro (h | h | h)
      · exact absurd h (by decide)
      · exact Or.inl (Or.inr h)
      · exact Or.inr h
  · simp [suggested_le_targetTier input husable]

theorem halfParsed_finalTier_eq_currentTier_iff :
    ∃ fast heavy result after,
      AiTriage.triage halfParsedServices (Wiring.ofLockdown noteEntry) {} sampleInput
          freshEngine = some (result, after) ∧
        (result.finalTier = after.currentTier ↔
          modelUsable fast heavy = true ∨
            tierLowerThreshold (modelSuggestedTier fast heavy) ≤
              clampScore sampleInput.score ∨
            (modelSuggestedTier fast heavy ≤ freshEngine.currentTier ∧
              tierLowerThreshold freshEngine.currentTier - 10 ≤
                clampScore sampleInput.score)) := by
  have hsome : (AiTriage.consult halfParsedServices {} sampleInput).isSome = true := by
    decide +kernel
  obtain ⟨⟨fast, heavy⟩, hconsult⟩ := Option.isSome_iff_exists.mp hsome
  exact ⟨fast, heavy, finalTier_eq_currentTier_iff halfParsedServices
    (Wiring.ofLockdown noteEntry) {} sampleInput freshEngine hconsult⟩

/-- A reply whose confidence has the wrong type is reported as HIGH while the engine
stays at LOW. -/
theorem halfParsed_finalTier_ne_currentTier :
    ∃ result after,
      AiTriage.triage halfParsedServices (Wiring.ofLockdown noteEntry) {} sampleInput
          freshEngine = some (result, after) ∧
        result.finalTier ≠ after.currentTier := by
  have hany : (AiTriage.triage halfParsedServices (Wiring.ofLockdown noteEntry) {}
      sampleInput freshEngine).any
        (fun outcome => outcome.1.finalTier ≠ outcome.2.currentTier) = true := by
    decide +kernel
  obtain ⟨⟨result, after⟩, htriage, hne⟩ := (Option.any_eq_true _ _).mp hany
  exact ⟨result, after, htriage, of_decide_eq_true hne⟩

theorem scoreForRuleEngine_usable (input : TriageInput) {fast : FastResult}
    {heavy : Option HeavyResult} (husable : modelUsable fast heavy = true) :
    scoreForRuleEngine input fast heavy =
      max input.score (tierToScore (modelSuggestedTier fast heavy)) := by
  simp only [scoreForRuleEngine, husable, Bool.true_eq_false, false_or]
  split <;> omega

theorem scoreForRuleEngine_fallback (input : TriageInput) {fast : FastResult}
    {heavy : Option HeavyResult} (hfallback : modelUsable fast heavy = false) :
    scoreForRuleEngine input fast heavy = input.score := by
  simp [scoreForRuleEngine, hfallback]

theorem critical_le_targetTier_iff (score : Int) :
    .critical ≤ targetTier (clampScore score) ↔ 75 ≤ score := by
  rw [le_targetTier_iff, clampScore_eq]
  simp only [tierLowerThreshold, reduceCtorEq, false_or]
  omega

theorem high_le_targetTier_iff (score : Int) :
    .high ≤ targetTier (clampScore score) ↔ 50 ≤ score := by
  rw [le_targetTier_iff, clampScore_eq]
  simp only [tierLowerThreshold, reduceCtorEq, false_or]
  omega

theorem nextTier_high_score (current : ThreatTier) (score : Int) :
    nextTier current (max score 76) = .critical := by
  rw [nextTier_eq_critical_iff]
  omega

theorem nextTier_medium_score (current : ThreatTier) : nextTier current 50 = .high := by
  cases current <;> decide

theorem nextTier_low_score (current : ThreatTier) : nextTier current 10 = .low := by
  cases current <;> decide

/-- When the score fed for a suggestion stays within the tier before the call, the
band of the raw score and the suggestion. -/
theorem nextTier_max_le_iff (current suggested : ThreatTier) (score : Int) :
    nextTier current (max score (tierToScore suggested)) ≤
        max (max current (targetTier (clampScore score))) suggested ↔
      ¬ ((suggested = .high ∧ score < 75 ∧ current ≠ .critical) ∨
        (suggested = .medium ∧ score < 50 ∧ current ≤ .medium)) := by
  have hraw : nextTier current score ≤
      max (max current (targetTier (clampScore score))) suggested :=
    le_max_of_le_left (nextTier_le current score)
  cases suggested with
  | critical => simp [ThreatTier.le_critical]
  | high =>
      change nextTier current (max score 76) ≤ _ ↔ _
      rw [nextTier_high_score, le_max_iff, le_max_iff, critical_le_targetTier_iff,
        ← eq_critical_iff]
      constructor
      · rintro ((rfl | h) | h)
        · simp
        · simp [not_lt.mpr h]
        · exact absurd h (by decide)
      · intro h
        by_contra hcontra
        refine h (Or.inl ⟨rfl, ?_, fun hcritical => hcontra (Or.inl (Or.inl hcritical))⟩)
        exact not_le.mp fun hscore => hcontra (Or.inl (Or.inr hscore))
  | medium =>
      change nextTier current (max score 50) ≤ _ ↔ _
      rcases le_or_gt 50 score with hscore | hscore
      · rw [max_eq_left hscore]
        simpa [not_lt.mpr hscore] using hraw
      · rw [max_eq_right hscore.le, nextTier_medium_score, le_max_iff, le_max_iff,
          high_le_targetTier_iff]
        constructor
        · rintro ((h | h) | h)
          · have hmedium : ¬ current ≤ .medium := fun hle => absurd (h.trans hle) (by decide)
            simp [hmedium]
          · exact absurd hscore (not_lt.mpr h)
          · exact absurd h (by decide)
        · intro h
          have hmedium : ¬ current ≤ .medium := fun hle => h (Or.inr ⟨rfl, hscore, hle⟩)
          refine Or.inl (Or.inl ?_)
          cases current <;> first | decide | exact absurd (by decide) hmedium
  | low =>
      change nextTier current (max score 10) ≤ _ ↔ _
      rcases le_or_gt 10 score with hscore | hscore
      · rw [max_eq_left hscore]
        simpa using hraw
      · rw [max_eq_right hscore.le, nextTier_low_score]
        simp

/-- The model stays advisory: the tier after a call is bounded by the tier before
it, the band of the raw score and the suggestion, and a HIGH suggestion on a raw
score below 75 neither drives the engine to CRITICAL nor engages the lock. -/
def StaysAdvisory {α : Type} (input : TriageInput) (engine after : Engine (Lockdown α))
    (suggested : ThreatTier) : Prop :=
  after.currentTier ≤
      max (max engine.currentTier (targetTier (clampScore input.score))) suggested ∧
    (suggested = .high → input.score < 75 →
      (engine.currentTier ≠ .critical → after.currentTier ≠ .critical) ∧
        (after.world.isLocked = true → engine.world.isLocked = true))

instance {α : Type} (input : TriageInput) (engine after : Engine (Lockdown α))
    (suggested : ThreatTier) : Decidable (StaysAdvisory input engine after suggested) :=
  inferInstanceAs (Decidable (_ ∧ _))

/-- The replies and the state before the call make the engine overreact: a usable
HIGH or MEDIUM suggestion is fed with a score of the next band, or the raw score
keeps a CRITICAL tier whose lock was lifted. -/
def Overreaches {α : Type} (input : TriageInput) (engine : Engine (Lockdown α))
    (usable : Bool) (suggested : ThreatTier) : Prop :=
  (usable = true ∧ suggested = .high ∧ input.score < 75 ∧
      (engine.currentTier ≠ .critical ∨ engine.world.isLocked = false)) ∨
    (usable = true ∧ suggested = .medium ∧ input.score < 50 ∧
      engine.currentTier ≤ .medium) ∨
    (usable = false ∧ suggested = .high ∧ 65 ≤ input.score ∧ input.score < 75 ∧
      engine.currentTier = .critical ∧ engine.world.isLocked = false)

section Advisory

variable {α : Type} (auditAdder : AuditAdder α) (input : TriageInput) {fast : FastResult}
  {heavy : Option HeavyResult} (engine : Engine (Lockdown α))

theorem conclude_world_isLocked :
    (conclude (Wiring.ofLockdown auditAdder) input fast heavy engine).2.world.isLocked =
        true ↔
      engine.world.isLocked = true ∨
        nextTier engine.currentTier (scoreForRuleEngine input fast heavy) = .critical :=
  conclude_isLocked (Wiring.ofLockdown auditAdder) input fast heavy engine
    (Wiring.ofLockdown_wired auditAdder)

theorem staysAdvisory_usable_iff (husable : modelUsable fast heavy = true) :
    StaysAdvisory input engine
        (conclude (Wiring.ofLockdown auditAdder) input fast heavy engine).2
        (modelSuggestedTier fast heavy) ↔
      ¬ Overreaches input engine true (modelSuggestedTier fast heavy) := by
  rw [StaysAdvisory, conclude_world_isLocked, conclude_currentTier,
    scoreForRuleEngine_usable input husable, nextTier_max_le_iff]
  generalize modelSuggestedTier fast heavy = suggested
  cases suggested with
  | critical => simp [Overreaches]
  | high =>
      have hnext : nextTier engine.currentTier (max input.score (tierToScore .high)) =
          .critical := nextTier_high_score _ _
      simp only [hnext, Overreaches, reduceCtorEq, false_and, and_false, or_false, true_and]
      cases engine.world.isLocked <;> grind
  | medium => simp [Overreaches]
  | low => simp [Overreaches]

theorem staysAdvisory_fallback_iff (hfallback : modelUsable fast heavy = false) :
    StaysAdvisory input engine
        (conclude (Wiring.ofLockdown auditAdder) input fast heavy engine).2
        (modelSuggestedTier fast heavy) ↔
      ¬ Overreaches input engine false (modelSuggestedTier fast heavy) := by
  rw [StaysAdvisory, conclude_world_isLocked, conclude_currentTier,
    scoreForRuleEngine_fallback input hfallback]
  have hband : nextTier engine.currentTier input.score ≤
      max (max engine.currentTier (targetTier (clampScore input.score)))
        (modelSuggestedTier fast heavy) :=
    le_max_of_le_left (nextTier_le engine.currentTier input.score)
  simp only [hband, true_and, Overreaches, Bool.false_eq_true, false_and, false_or, ne_eq,
    nextTier_eq_critical_iff]
  cases engine.world.isLocked <;> grind

end Advisory

/-- The model stays advisory in a call of `triage` exactly when the replies and the
state before the call do not make the engine overreact. -/
theorem triage_staysAdvisory_iff {α : Type} (services : Services) (auditAdder : AuditAdder α)
    (self : AiTriage) (input : TriageInput) (engine : Engine (Lockdown α))
    {fast : FastResult} {heavy : Option HeavyResult}
    (hconsult : self.consult services input = some (fast, heavy)) :
    ∃ result after,
      self.triage services (Wiring.ofLockdown auditAdder) input engine =
          some (result, after) ∧
        (StaysAdvisory input engine after result.modelSuggestedTier ↔
          ¬ Overreaches input engine (modelUsable fast heavy)
            (modelSuggestedTier fast heavy)) := by
  refine ⟨(conclude (Wiring.ofLockdown auditAdder) input fast heavy engine).1,
    (conclude (Wiring.ofLockdown auditAdder) input fast heavy engine).2,
    triage_of_consult hconsult _ engine, ?_⟩
  rw [conclude_modelSuggestedTier]
  cases husable : modelUsable fast heavy
  · exact staysAdvisory_fallback_iff auditAdder input engine husable
  · exact staysAdvisory_usable_iff auditAdder input engine husable

theorem highReply_staysAdvisory_iff :
    ∃ fast heavy result after,
      AiTriage.triage highServices (Wiring.ofLockdown noteEntry) {} sampleInput
          freshEngine = some (result, after) ∧
        (StaysAdvisory sampleInput freshEngine after result.modelSuggestedTier ↔
          ¬ Overreaches sampleInput freshEngine (modelUsable fast heavy)
            (modelSuggestedTier fast heavy)) := by
  have hsome : (AiTriage.consult highServices {} sampleInput).isSome = true := by
    decide +kernel
  obtain ⟨⟨fast, heavy⟩, hconsult⟩ := Option.isSome_iff_exists.mp hsome
  exact ⟨fast, heavy, triage_staysAdvisory_iff highServices noteEntry {} sampleInput
    freshEngine hconsult⟩

/-- A HIGH suggestion on a raw score of 10 drives a fresh engine to CRITICAL and
engages the lock. -/
theorem highReply_overreaches :
    ∃ result after,
      AiTriage.triage highServices (Wiring.ofLockdown noteEntry) {} sampleInput
          freshEngine = some (result, after) ∧
        result.modelSuggestedTier = .high ∧ after.currentTier = .critical ∧
        after.world.isLocked = true ∧
        ¬ StaysAdvisory sampleInput freshEngine after result.modelSuggestedTier := by
  have hany : (AiTriage.triage highServices (Wiring.ofLockdown noteEntry) {}
      sampleInput freshEngine).any
        (fun outcome => outcome.1.modelSuggestedTier = .high ∧
          outcome.2.currentTier = .critical ∧ outcome.2.world.isLocked = true ∧
          ¬ StaysAdvisory sampleInput freshEngine outcome.2
            outcome.1.modelSuggestedTier) = true := by
    decide +kernel
  obtain ⟨⟨result, after⟩, htriage, hfails⟩ := (Option.any_eq_true _ _).mp hany
  exact ⟨result, after, htriage, of_decide_eq_true hfails⟩

end Astartis.Ai
