import Astartis.BridgeSafety
import Astartis.StdinLoop
import Astartis.TriageAuthority
import Astartis.Utf8Text

/-!
Which triage requests reach the rule engine.  The detail is cut at 200 bytes and becomes part of
the prompts, and a prompt that is not UTF-8 cannot be sent.
-/

namespace Astartis.Bridge

open Ai
open ByteString
open Rules

/-- What the bridge extracts from the line of a `triage_event`, before it truncates the
detail. -/
structure Extracts (msg : Json) (input : TriageInput) : Prop where
  cmd : Stdin.stringValue "cmd" [] msg = .ok "triage_event"
  args : ∃ args score, Stdin.jsonValue "args" (.object []) msg = .ok args ∧
    Stdin.stringValue "event_type" "unknown" args = .ok input.eventType ∧
    Stdin.stringValue "source" "bridge" args = .ok input.source ∧
    Stdin.intValue "score" 0 args = .ok score ∧ input.score = score.toInt ∧
    Stdin.stringValue "detail" [] args = .ok input.rawDetail

section Extraction

variable {msg : Json} {input : TriageInput}

theorem truncateDetail_eq (input : TriageInput) :
    truncateDetail input = { input with rawDetail := substr input.rawDetail 0 200 } := by
  rw [truncateDetail]
  split
  · rfl
  · rename_i hshort
    rw [substr, List.drop_zero, List.take_of_length_le (by omega)]

/-- The line is decoded to the request for the truncated detail. -/
theorem Extracts.decode (hextracts : Extracts msg input) :
    ∃ score : Int32, input.score = score.toInt ∧
      Stdin.decode msg = .ok (.triageEvent (truncateDetail input).eventType
        (truncateDetail input).source score (truncateDetail input).rawDetail) := by
  obtain ⟨args, score, hargs, htype, hsource, hscore, hinput, hdetail⟩ := hextracts.args
  refine ⟨score, hinput, ?_⟩
  have hlookup : ∃ extract,
      List.lookup ("triage_event" : ByteString) Stdin.commands = some extract ∧
        extract args = .ok (.triageEvent input.eventType input.source score
          (substr input.rawDetail 0 200)) := by
    refine ⟨_, rfl, ?_⟩
    simp only [htype, hsource, hscore, hdetail]
    rfl
  obtain ⟨extract, hextract, hrequest⟩ := hlookup
  rw [truncateDetail_eq, Stdin.decode, hextracts.cmd]
  simp only [bind, Except.bind, hargs, hextract, hrequest]

theorem isUtf8_of_jsonValue {j member : Json} {key : ByteString} (hj : j.isUtf8 = true)
    (hmember : Stdin.jsonValue key (.object []) j = .ok member) : member.isUtf8 = true := by
  cases j with
  | object members =>
      simp only [Stdin.jsonValue, Stdin.value] at hmember
      split at hmember
      · obtain rfl := Except.ok.inj hmember
        rfl
      · rename_i value hlookup
        obtain rfl := Except.ok.inj hmember
        exact Json.isUtf8_of_lookup hj hlookup
  | _ => simp [Stdin.jsonValue, Stdin.value] at hmember

theorem validUtf8_of_stringValue {j : Json} {key default s : ByteString}
    (hj : j.isUtf8 = true) (hdefault : validUtf8 default = true)
    (hs : Stdin.stringValue key default j = .ok s) : validUtf8 s = true := by
  cases j with
  | object members =>
      simp only [Stdin.stringValue, Stdin.value] at hs
      split at hs
      · obtain rfl := Except.ok.inj hs
        exact hdefault
      · rename_i member hlookup
        split at hs
        · exact absurd hs (by simp)
        · rename_i text htext
          obtain rfl := Except.ok.inj hs
          exact Json.validUtf8_of_getString? (Json.isUtf8_of_lookup hj hlookup) htext
  | _ => simp [Stdin.stringValue, Stdin.value] at hs

structure Utf8Input (input : TriageInput) : Prop where
  eventType : validUtf8 input.eventType = true
  source : validUtf8 input.source = true
  rawDetail : validUtf8 input.rawDetail = true

theorem Extracts.utf8 (hextracts : Extracts msg input) (hmsg : msg.isUtf8 = true) :
    Utf8Input input := by
  obtain ⟨args, score, hargs, htype, hsource, -, -, hdetail⟩ := hextracts.args
  have hutf8 := isUtf8_of_jsonValue hmsg hargs
  constructor
  · exact validUtf8_of_stringValue hutf8 (by decide +kernel) htype
  · exact validUtf8_of_stringValue hutf8 (by decide +kernel) hsource
  · exact validUtf8_of_stringValue hutf8 rfl hdetail

end Extraction

section Prompts

variable {input : TriageInput}

/-- The text about an event is UTF-8 if the part of the detail in it is. -/
theorem validUtf8_eventText (htype : validUtf8 input.eventType = true)
    (hsource : validUtf8 input.source = true) :
    validUtf8 (eventText input) = validUtf8 (substr input.rawDetail 0 200) := by
  have hfront : validUtf8 (("Event: type=" : ByteString) ++ input.eventType ++
      (" source=" : ByteString) ++ input.source ++ (" score=" : ByteString) ++
      decimal input.score ++ (" detail=" : ByteString)) = true := by
    refine validUtf8_append_eq_true (validUtf8_append_eq_true (validUtf8_append_eq_true
      (validUtf8_append_eq_true (validUtf8_append_eq_true (validUtf8_append_eq_true ?_
        htype) ?_) hsource) ?_)
      (validUtf8_of_ascii (decimal_ascii _))) ?_
    all_goals decide +kernel
  rw [eventText, validUtf8_append hfront]

theorem validUtf8_fastPrompt : validUtf8 (fastPrompt input) = validUtf8 (eventText input) := by
  rw [fastPrompt, validUtf8_append (by decide +kernel)]

theorem validUtf8_heavyPrompt (htext : validUtf8 (eventText input) = true) {fast : FastResult}
    (hhint : validUtf8 fast.severityHint = true) :
    validUtf8 (heavyPrompt input fast) = true := by
  refine validUtf8_append_eq_true (validUtf8_append_eq_true (validUtf8_append_eq_true
    (validUtf8_append_eq_true (validUtf8_append_eq_true ?_ htext) ?_) hhint) ?_)
    (validUtf8_of_ascii (toStream_ascii _))
  all_goals decide +kernel

theorem callOllama_isSome {services : Services} (hdump : services.json.RefusesNonUtf8)
    (self : AiTriage) {model : ByteString} (hmodel : validUtf8 model = true)
    (prompt : ByteString) (timeoutMs : Int) :
    (self.callOllama services model prompt timeoutMs).isSome = validUtf8 prompt := by
  have hkeys : ∀ key ∈ (["model", "options", "num_predict", "prompt", "stream"] :
      List ByteString), validUtf8 key = true := by
    decide +kernel
  simp only [List.forall_mem_cons] at hkeys
  have hbody := hdump (.object [("model", .string model),
    ("options", .object [("num_predict", .numberInteger 128)]), ("prompt", .string prompt),
    ("stream", .boolean false)])
  simp only [Json.isUtf8, Json.membersUtf8, hkeys, hmodel, Bool.true_and, Bool.and_true]
    at hbody
  rw [← hbody, AiTriage.callOllama]
  cases services.json.dump _ with
  | none => rfl
  | some body => rfl

/-- What is parsed out of a reply is UTF-8. -/
theorem validUtf8_severityHint {json : Json.Library} (hparse : json.ParsesUtf8)
    (modelJson modelTag : ByteString) (timedOut : Bool) :
    validUtf8 (parseFast json modelJson modelTag timedOut).severityHint = true := by
  have hlow : validUtf8 ("LOW" : ByteString) = true := by decide +kernel
  simp only [parseFast]
  split
  · exact hlow
  · split
    · exact hlow
    · rename_i j hj
      obtain ⟨text, -, htext⟩ := Option.bind_eq_some_iff.mp hj
      split
      · exact hlow
      · split
        · exact hlow
        · rename_i severityHint hhint
          have hvalid := Json.validUtf8_of_value? (hparse text j htext) hlow hhint
          split
          · exact hvalid
          · exact hvalid

/-- The models are consulted exactly if the text about the event can be sent. -/
theorem consult_isSome {services : Services} (hdump : services.json.RefusesNonUtf8)
    (hparse : services.json.ParsesUtf8) (self : AiTriage) (input : TriageInput) :
    (self.consult services input).isSome = validUtf8 (eventText input) := by
  have hfast := callOllama_isSome hdump self
    (show validUtf8 fastModel = true by decide +kernel)
    (fastPrompt input) fastTimeoutMs
  rw [validUtf8_fastPrompt] at hfast
  rw [AiTriage.consult]
  cases hraw : self.callOllama services fastModel (fastPrompt input) fastTimeoutMs with
  | none =>
      rw [hraw] at hfast
      rw [← hfast]
      rfl
  | some fastRaw =>
      rw [hraw] at hfast
      have htext : validUtf8 (eventText input) = true := hfast.symm
      have hhint := validUtf8_severityHint hparse (extractResponse services.json fastRaw)
        fastModel (fastRaw = [])
      have hheavy := callOllama_isSome hdump self
        (show validUtf8 heavyModel = true by decide +kernel)
        (heavyPrompt input (parseFast services.json (extractResponse services.json fastRaw)
          fastModel (fastRaw = []))) heavyTimeoutMs
      rw [validUtf8_heavyPrompt htext hhint] at hheavy
      obtain ⟨heavyRaw, hraw⟩ := Option.isSome_iff_exists.mp hheavy
      simp only [bind, Option.bind, hraw, htext]
      split
      · rfl
      · rfl

/-- After the bridge's cut the text is UTF-8 exactly if no character of the detail is cut. -/
theorem validUtf8_eventText_truncated (hutf8 : Utf8Input input) :
    validUtf8 (eventText (truncateDetail input)) = cutsClean 200 input.rawDetail := by
  have htype : validUtf8 (truncateDetail input).eventType = true := by
    rw [truncateDetail_eq]
    exact hutf8.eventType
  have hsource : validUtf8 (truncateDetail input).source = true := by
    rw [truncateDetail_eq]
    exact hutf8.source
  rw [validUtf8_eventText htype hsource, truncateDetail_eq, substr, substr, List.drop_zero,
    List.drop_zero, List.take_take, min_self, validUtf8_take hutf8.rawDetail]

end Prompts

section Delivery

variable {α : Type} (platform : Platform α)

/-- The request is answered with a result of `triage`, and `evaluate_threat_score` was called
with no less than its score, followed by the audit entry of the triage. -/
def ReachesRules (inputs : Inputs) (input : TriageInput) (bridge : Globals α) : Prop :=
  ∃ result score payload,
    (dispatch platform inputs bridge (.triageEvent input)).1 = .triageResult result ∧
      input.score ≤ score ∧
      (dispatch platform inputs bridge (.triageEvent input)).2.core.engine =
        ((bridge.core.engine.evaluateThreatScore platform.wiring score "ai_triage").2.audit
          platform.wiring "ai_triage" payload)

theorem score_le_scoreForRuleEngine (input : TriageInput) (fast : FastResult)
    (heavy : Option HeavyResult) : input.score ≤ scoreForRuleEngine input fast heavy := by
  simp only [scoreForRuleEngine]
  split
  · exact le_rfl
  · omega

theorem conclude_engine {σ : Type} (wiring : Wiring σ) (input : TriageInput)
    (fast : FastResult) (heavy : Option HeavyResult) (engine : Engine σ) :
    ∃ payload, (conclude wiring input fast heavy engine).2 =
      (engine.evaluateThreatScore wiring (scoreForRuleEngine input fast heavy)
        "ai_triage").2.audit wiring "ai_triage" payload :=
  ⟨_, rfl⟩

variable {platform}

theorem truncateDetail_score (input : TriageInput) :
    (truncateDetail input).score = input.score := by
  rw [truncateDetail]
  split
  · rfl
  · rfl

theorem reachesRules_iff_consult (inputs : Inputs) (input : TriageInput) (bridge : Globals α) :
    ReachesRules platform inputs input bridge ↔
      (bridge.aiTriage.consult (platform.services inputs) (truncateDetail input)).isSome =
        true := by
  constructor
  · rintro ⟨result, score, payload, hreply, -⟩
    simp only [dispatch, dispatchTriageEvent] at hreply
    split at hreply
    · exact absurd hreply (by simp)
    · rename_i result after htriage
      obtain ⟨outcome, hconsult, -⟩ := Option.bind_eq_some_iff.mp htriage
      rw [hconsult]
      rfl
  · intro hconsult
    obtain ⟨⟨fast, heavy⟩, hconsult⟩ := Option.isSome_iff_exists.mp hconsult
    have htriage := triage_of_consult hconsult platform.wiring bridge.core.engine
    obtain ⟨payload, hengine⟩ := conclude_engine platform.wiring (truncateDetail input) fast
      heavy bridge.core.engine
    have hscore := score_le_scoreForRuleEngine (truncateDetail input) fast heavy
    rw [truncateDetail_score] at hscore
    refine ⟨(conclude platform.wiring (truncateDetail input) fast heavy bridge.core.engine).1,
      scoreForRuleEngine (truncateDetail input) fast heavy, payload, ?_, hscore, ?_⟩
    · simp only [dispatch, dispatchTriageEvent, htriage]
    · simp only [dispatch, dispatchTriageEvent, htriage]
      exact hengine

/-- A triage request reaches the rules exactly if the cut at 200 bytes does not fall within a
character of its detail. -/
theorem triage_reachesRules_iff (hdump : platform.json.RefusesNonUtf8)
    (hparse : platform.json.ParsesUtf8) {line : ByteString} {msg : Json}
    (hline : platform.json.parse line = some msg) {input : TriageInput}
    (hextracts : Extracts msg input) (inputs : Inputs) (bridge : Globals α) :
    ReachesRules platform inputs input bridge ↔ cutsClean 200 input.rawDetail = true := by
  rw [reachesRules_iff_consult]
  have hconsult := @consult_isSome (platform.services inputs) hdump hparse
    bridge.aiTriage (truncateDetail input)
  rw [hconsult, validUtf8_eventText_truncated (hextracts.utf8 (hparse line msg hline))]

end Delivery

section Samples

def triageLine (detail : ByteString) : Json :=
  .object [("args", .object [("detail", .string detail)]), ("cmd", .string "triage_event")]

def triageInput (detail : ByteString) : TriageInput where
  eventType := "unknown"
  source := "bridge"
  score := 0
  rawDetail := detail

theorem triageLine_extracts (detail : ByteString) :
    Extracts (triageLine detail) (triageInput detail) where
  cmd := rfl
  args := ⟨.object [("detail", .string detail)], 0, rfl, rfl, rfl, rfl, rfl, rfl⟩

/-- The sample bridge with a JSON library that reads one line. -/
def triagePlatform (detail : ByteString) : Platform (List (ByteString × ByteString)) :=
  { samplePlatform with
    json := Json.sampleLibrary (triageLine detail).text (triageLine detail) }

theorem triageLine_isUtf8 {detail : ByteString} (hdetail : validUtf8 detail = true) :
    (triageLine detail).isUtf8 = true := by
  have hnames : validUtf8 ("args" : ByteString) = true ∧
      validUtf8 ("detail" : ByteString) = true ∧ validUtf8 ("cmd" : ByteString) = true ∧
      validUtf8 ("triage_event" : ByteString) = true := by
    decide +kernel
  simp only [triageLine, Json.isUtf8, Json.membersUtf8, hnames, hdetail, Bool.and_self]

theorem triagePlatform_parses {detail : ByteString} (hdetail : validUtf8 detail = true) :
    (triagePlatform detail).json.ParsesUtf8 := by
  intro text j hparse
  simp only [triagePlatform, Json.sampleLibrary] at hparse
  split at hparse
  · exact Option.some.inj hparse ▸ triageLine_isUtf8 hdetail
  · exact absurd hparse (by simp)

theorem triagePlatform_reads (detail : ByteString) :
    (triagePlatform detail).json.parse (triageLine detail).text = some (triageLine detail) := by
  simp [triagePlatform, Json.sampleLibrary]

theorem scan_reachesRules_iff :
    ∃ start, launch (triagePlatform "port scan") sampleSetup false [] = .ok start ∧
      (ReachesRules (triagePlatform "port scan") sampleInputs (triageInput "port scan") start ↔
        cutsClean 200 (triageInput "port scan").rawDetail = true) := by
  have hany : (launch (triagePlatform "port scan") sampleSetup false []).toOption.any
      (fun _ => true) = true := by decide +kernel
  obtain ⟨start, hlaunch, -⟩ := exists_ok_of_any hany
  have hdetail : validUtf8 ("port scan" : ByteString) = true := by decide +kernel
  exact ⟨start, hlaunch, triage_reachesRules_iff (Json.sampleLibrary_refusesNonUtf8 _ _)
    (triagePlatform_parses hdetail) (triagePlatform_reads _) (triageLine_extracts _)
    sampleInputs start⟩

/-- The last character of this detail starts at byte 199 and ends at byte 200. -/
def accentedDetail : ByteString :=
  List.replicate 199 97 ++ ("é" : ByteString)

theorem accentedDetail_skips_rules :
    validUtf8 accentedDetail = true ∧
      ∃ start, launch (triagePlatform accentedDetail) sampleSetup false [] = .ok start ∧
        (triagePlatform accentedDetail).json.parse (triageLine accentedDetail).text =
          some (triageLine accentedDetail) ∧
        Extracts (triageLine accentedDetail) (triageInput accentedDetail) ∧
        ¬ ReachesRules (triagePlatform accentedDetail) sampleInputs
          (triageInput accentedDetail) start := by
  have hdetail : validUtf8 accentedDetail = true := by decide +kernel
  have hany : (launch (triagePlatform accentedDetail) sampleSetup false []).toOption.any
      (fun _ => true) = true := by decide +kernel
  obtain ⟨start, hlaunch, -⟩ := exists_ok_of_any hany
  refine ⟨hdetail, start, hlaunch, triagePlatform_reads _, triageLine_extracts _, ?_⟩
  have hconsult := @consult_isSome
    ((triagePlatform accentedDetail).services sampleInputs)
    (Json.sampleLibrary_refusesNonUtf8 _ _) (triagePlatform_parses hdetail) start.aiTriage
    (truncateDetail (triageInput accentedDetail))
  have htext : validUtf8 (eventText (truncateDetail (triageInput accentedDetail))) = false := by
    decide +kernel
  rw [reachesRules_iff_consult, hconsult, htext]
  decide

end Samples

end Astartis.Bridge
