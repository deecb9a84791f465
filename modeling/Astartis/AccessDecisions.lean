import Astartis.AccessAudit

/-!
Which access decisions come through the audit chain to the dashboard.
-/

namespace Astartis.Dashboard

open ActionDispatcher
open Audit
open ByteString
open FieldText

/-- Any arguments can come with a line of stdin. -/
theorem exists_request (c : AccessCommand) :
    ∃ request, AccessCommand.ofRequest? request = some c := by
  cases c with
  | zerotrustEvaluate query =>
      exact ⟨.zerotrustEvaluate query.userId query.deviceId query.sourceIp query.destinationIp
        query.requestedResource query.ssidName, rfl⟩
  | nacSimulateDevice req =>
      exact ⟨.nacSimulateDevice req.deviceMac req.deviceName req.ssidName req.identity.username
        req.identity.domain req.posture.osUpdated req.posture.antivirusRunning
        req.posture.diskEncrypted req.posture.firewallEnabled, rfl⟩

/-! Reading a key. -/

theorem take_find (text : ByteString) :
    (match find 32 text with
      | none => text
      | some length => text.take length) = text.takeWhile fun b => !decide (b = 32) := by
  induction text with
  | nil => rfl
  | cons b text ih =>
      by_cases hb : b = 32
      · subst hb
        rfl
      · rw [List.takeWhile_cons, ← ih]
        simp only [find, List.findIdx?_cons, beq_iff_eq, if_neg hb]
        cases List.findIdx? (· == (32 : UInt8)) text <;> simp [hb]

theorem findText_value? {pattern : ByteString} (hpattern : pattern ≠ []) (s : ByteString) :
    ((findText pattern s).map fun pos =>
      (s.drop (pos + pattern.length)).takeWhile fun b => !decide (b = 32)) =
      value? 32 pattern s := by
  induction s with
  | nil => rw [findText_nil hpattern]; rfl
  | cons b s ih =>
      rw [findText_cons, value?, ← ih]
      split
      · rw [Option.map_some, Nat.zero_add]
      · rw [Option.map_map]
        congr 1
        funext pos
        rw [Function.comp_apply, Nat.add_right_comm, List.drop_succ_cons]

theorem extract_eq (payload key : ByteString) :
    extract payload key = (value? 32 (key ++ ("=" : ByteString)) payload).getD [] := by
  have hkey : key ++ ("=" : ByteString) ≠ [] := List.append_ne_nil_of_right_ne_nil key (by decide)
  rw [← findText_value? hkey, extract]
  cases findText (key ++ ("=" : ByteString)) payload with
  | none => rfl
  | some pos =>
      have hlength : (key ++ ("=" : ByteString)).length = key.length + 1 := by
        rw [List.length_append]
        rfl
      rw [Option.map_some, Option.getD_some, hlength, ← Nat.add_assoc, ← take_find]
      rfl

/-! The payloads as texts of fields. -/

def zeroTrustFields (query : AccessQuery) : List (ByteString × ByteString) :=
  [("user=", query.userId), ("src=", query.sourceIp), ("dst=", query.destinationIp),
    ("resource=", query.requestedResource), ("decision=", decisionStr query.trustDecision)]

theorem zeroTrustPayload_eq (query : AccessQuery) :
    zeroTrustPayload query.context query.trustDecision = fieldsText 32 (zeroTrustFields query) := by
  have hsrc : (" src=" : ByteString) = 32 :: ("src=" : ByteString) := rfl
  have hdst : (" dst=" : ByteString) = 32 :: ("dst=" : ByteString) := rfl
  have hresource : (" resource=" : ByteString) = 32 :: ("resource=" : ByteString) := rfl
  have hdecision : (" decision=" : ByteString) = 32 :: ("decision=" : ByteString) := rfl
  rw [zeroTrustPayload, hsrc, hdst, hresource, hdecision]
  simp [fieldsText, zeroTrustFields, AccessQuery.context, AccessQuery.unscored, List.intercalate]

def nacFields (req : NacWorkflow.AccessRequest) : List (ByteString × ByteString) :=
  [("device=", req.deviceName), ("ssid=", req.ssidName), ("user=", req.identity.username),
    ("result=", resultStr (NacWorkflow.process req).result)]

theorem nacPayload_eq (req : NacWorkflow.AccessRequest) :
    nacPayload req (NacWorkflow.process req) = fieldsText 32 (nacFields req) := by
  have hssid : (" ssid=" : ByteString) = 32 :: ("ssid=" : ByteString) := rfl
  have huser : (" user=" : ByteString) = 32 :: ("user=" : ByteString) := rfl
  have hresult : (" result=" : ByteString) = 32 :: ("result=" : ByteString) := rfl
  rw [nacPayload, hssid, huser, hresult]
  simp [fieldsText, nacFields, List.intercalate]

/-- The texts of a command speak for no field but their own.  A network device has no field for
its decision, which has to stand in one of its texts. -/
def Legible : AccessCommand → Prop
  | .zerotrustEvaluate query =>
      query.userId ≠ [] ∧ 32 ∉ query.userId ∧
        Kept 32 "resource=" [query.userId, query.sourceIp, query.destinationIp]
          query.requestedResource ∧
        Kept 32 "decision="
          [query.userId, query.sourceIp, query.destinationIp, query.requestedResource]
          (decisionStr query.trustDecision)
  | .nacSimulateDevice req =>
      req.identity.username ≠ [] ∧
        Kept 32 "user=" [req.deviceName, req.ssidName] req.identity.username ∧
        FirstHolds 32 "decision=" [req.deviceName, req.ssidName, req.identity.username]
          (resultStr (NacWorkflow.process req).result) ∧
        Kept 32 "resource=" [req.deviceName, req.ssidName, req.identity.username] []

section ZeroTrust

variable (query : AccessQuery)

theorem zeroTrust_userId_iff :
    extract (zeroTrustPayload query.context query.trustDecision) "user" = query.userId ↔
      Kept 32 "user=" [] query.userId := by
  have hbefore : ∀ field ∈ (zeroTrustFields query).take 0,
      apart ("user=" : ByteString) field.1 = true := by
    simp
  rw [extract_eq, zeroTrustPayload_eq]
  exact read_own_iff (by decide) (by decide) hbefore query.userId (zeroTrustFields query).tail

theorem zeroTrust_resource_iff :
    extract (zeroTrustPayload query.context query.trustDecision) "resource" =
        query.requestedResource ↔
      Kept 32 "resource=" [query.userId, query.sourceIp, query.destinationIp]
        query.requestedResource := by
  have hbefore : ∀ field ∈ (zeroTrustFields query).take 3,
      apart ("resource=" : ByteString) field.1 = true := by
    simp only [zeroTrustFields, List.take_succ_cons, List.take_zero, List.forall_mem_cons]
    decide
  rw [extract_eq, zeroTrustPayload_eq]
  exact read_own_iff (by decide) (by decide) hbefore query.requestedResource
    ((zeroTrustFields query).drop 4)

theorem zeroTrust_decision_iff :
    extract (zeroTrustPayload query.context query.trustDecision) "decision" =
        decisionStr query.trustDecision ↔
      Kept 32 "decision="
        [query.userId, query.sourceIp, query.destinationIp, query.requestedResource]
        (decisionStr query.trustDecision) := by
  have hbefore : ∀ field ∈ (zeroTrustFields query).take 4,
      apart ("decision=" : ByteString) field.1 = true := by
    simp only [zeroTrustFields, List.take_succ_cons, List.take_zero, List.forall_mem_cons]
    decide
  rw [extract_eq, zeroTrustPayload_eq]
  exact read_own_iff (by decide) (by decide) hbefore (decisionStr query.trustDecision) []

end ZeroTrust

section Nac

variable (req : NacWorkflow.AccessRequest)

theorem resultStr_ne_nil (result : NacWorkflow.NacResult) : resultStr result ≠ [] := by
  cases result <;> decide

theorem nac_userId_iff :
    extract (nacPayload req (NacWorkflow.process req)) "user" = req.identity.username ↔
      Kept 32 "user=" [req.deviceName, req.ssidName] req.identity.username := by
  have hbefore : ∀ field ∈ (nacFields req).take 2,
      apart ("user=" : ByteString) field.1 = true := by
    simp only [nacFields, List.take_succ_cons, List.take_zero, List.forall_mem_cons]
    decide
  rw [extract_eq, nacPayload_eq]
  exact read_own_iff (by decide) (by decide) hbefore req.identity.username
    ((nacFields req).drop 3)

/-- A key that the payload does not have is looked for in the texts of the request. -/
theorem nac_extract_absent {key : ByteString} (hspace : 32 ∉ key ++ ("=" : ByteString))
    (hfields : ∀ name ∈ (["device=", "ssid=", "user=", "result="] : List ByteString),
      apart (key ++ ("=" : ByteString)) name = true)
    (hresult : ∀ result, ¬ key ++ ("=" : ByteString) <:+: resultStr result) :
    extract (nacPayload req (NacWorkflow.process req)) key =
      ([req.deviceName, req.ssidName, req.identity.username].findSome?
        (value? 32 (key ++ ("=" : ByteString)))).getD [] := by
  have hkey : key ++ ("=" : ByteString) ≠ [] := List.append_ne_nil_of_right_ne_nil key (by decide)
  have happart : ∀ field ∈ nacFields req, apart (key ++ ("=" : ByteString)) field.1 = true := by
    intro field hfield
    exact hfields field.1 (List.mem_map_of_mem (f := Prod.fst) hfield)
  rw [extract_eq, nacPayload_eq, value?_fieldsText_absent hspace hkey happart,
    ← findSome?_silent hkey [req.deviceName, req.ssidName, req.identity.username]
      (hresult (NacWorkflow.process req).result)]
  rfl

theorem nac_decision_iff :
    extract (nacPayload req (NacWorkflow.process req)) "decision" =
        resultStr (NacWorkflow.process req).result ↔
      FirstHolds 32 "decision=" [req.deviceName, req.ssidName, req.identity.username]
        (resultStr (NacWorkflow.process req).result) := by
  have hsilent : ∀ result, ¬ ("decision=" : ByteString) <:+: resultStr result := by
    intro result
    cases result <;> decide
  rw [nac_extract_absent req (by decide) (by decide) hsilent]
  exact read_something_iff (by decide) (resultStr_ne_nil _)

theorem nac_resource_iff :
    extract (nacPayload req (NacWorkflow.process req)) "resource" = [] ↔
      Kept 32 "resource=" [req.deviceName, req.ssidName, req.identity.username] [] := by
  have hsilent : ∀ result, ¬ ("resource=" : ByteString) <:+: resultStr result := by
    intro result
    cases result <;> decide
  rw [nac_extract_absent req (by decide) (by decide) hsilent]
  exact read_nothing_iff (by decide)

end Nac

/-! The entry of a command. -/

def AccessCommand.eventType : AccessCommand → ByteString
  | .zerotrustEvaluate _ => "zerotrust_evaluate"
  | .nacSimulateDevice _ => "nac_simulate"

def AccessCommand.payload : AccessCommand → ByteString
  | .zerotrustEvaluate query => zeroTrustPayload query.context query.trustDecision
  | .nacSimulateDevice req => nacPayload req (NacWorkflow.process req)

theorem decisionStr_ne_nil (decision : TrustDecision) : decisionStr decision ≠ [] := by
  cases decision <;> decide

theorem AccessCommand.decision_ne_nil (c : AccessCommand) : c.decision ≠ [] := by
  cases c with
  | zerotrustEvaluate query => exact decisionStr_ne_nil query.trustDecision
  | nacSimulateDevice req => exact resultStr_ne_nil (NacWorkflow.process req).result

theorem legible_iff (c : AccessCommand) :
    Legible c ↔ c.userId ≠ [] ∧ extract c.payload "user" = c.userId ∧
      extract c.payload "decision" = c.decision ∧ extract c.payload "resource" = c.resource := by
  cases c with
  | zerotrustEvaluate query =>
      have hkept : Kept 32 ("user=" : ByteString) [] query.userId ↔ 32 ∉ query.userId :=
        kept_iff_of_none (by decide) rfl
      simp only [Legible, AccessCommand.payload, AccessCommand.userId, AccessCommand.decision,
        AccessCommand.resource, zeroTrust_userId_iff, zeroTrust_decision_iff,
        zeroTrust_resource_iff, hkept]
      tauto
  | nacSimulateDevice req =>
      simp only [Legible, AccessCommand.payload, AccessCommand.userId, AccessCommand.decision,
        AccessCommand.resource, nac_userId_iff, nac_decision_iff, nac_resource_iff]

theorem zeroTrustDecision?_eq_some_iff {ae : AuditEntry} {ztd : ZeroTrustDecisionData}
    (hevent : isAccessEvent ae.eventType = true) :
    zeroTrustDecision? ae = some ztd ↔ zeroTrustDecision ae = ztd ∧
      (zeroTrustDecision ae).userId ≠ [] ∧ (zeroTrustDecision ae).decision ≠ [] := by
  rw [zeroTrustDecision?, if_pos hevent]
  simp only [Bool.and_eq_true, Bool.not_eq_true', List.isEmpty_eq_false_iff]
  split
  · rename_i hnonempty
    simp [hnonempty]
  · rename_i hempty
    simp [hempty]

/-- What is read from the entry of a command. -/
theorem zeroTrustDecision_of_command {c : AccessCommand} {ae : AuditEntry}
    (hevent : ae.eventType = c.eventType) (hpayload : ae.payload = c.payload) :
    isAccessEvent ae.eventType = true ∧
      (zeroTrustDecision ae).userId = extract c.payload "user" ∧
      (zeroTrustDecision ae).decision = extract c.payload "decision" ∧
      (zeroTrustDecision ae).resource = extract c.payload "resource" := by
  have haccess : isAccessEvent ae.eventType = true := by
    rw [hevent]
    cases c <;> rfl
  exact ⟨haccess, congrArg (extract · "user") hpayload, congrArg (extract · "decision") hpayload,
    congrArg (extract · "resource") hpayload⟩

/-- What is derived from the entry of a command shows the command exactly if it is legible. -/
theorem exists_shows_iff {c : AccessCommand} {ae : AuditEntry}
    (hevent : ae.eventType = c.eventType) (hpayload : ae.payload = c.payload) :
    (∃ ztd, zeroTrustDecision? ae = some ztd ∧ Shows c ztd) ↔ Legible c := by
  obtain ⟨haccess, huser, hdecision, hresource⟩ := zeroTrustDecision_of_command hevent hpayload
  simp only [legible_iff, zeroTrustDecision?_eq_some_iff haccess]
  constructor
  · rintro ⟨ztd, ⟨rfl, hnonempty, -⟩, hshows⟩
    rw [hshows.userId] at hnonempty
    exact ⟨hnonempty, huser.symm.trans hshows.userId, hdecision.symm.trans hshows.decision,
      hresource.symm.trans hshows.resource⟩
  · rintro ⟨hnonempty, huserId, hdecided, hasked⟩
    refine ⟨_, ⟨rfl, ?_, ?_⟩, ⟨huser.trans huserId, hdecision.trans hdecided,
      hresource.trans hasked⟩⟩
    · rw [huser, huserId]
      exact hnonempty
    · rw [hdecision, hdecided]
      exact c.decision_ne_nil

/-! Two lists that are filtered alike. -/

section Filtered

variable {ι κ γ δ : Type} {related : ι → κ → Prop} {f : ι → Option γ} {g : κ → Option δ}

theorem length_filterMap_le (hsilent : ∀ x y, related x y → f x = none → g y = none)
    {xs : List ι} {ys : List κ} (hxs : List.Forall₂ related xs ys) :
    (ys.filterMap g).length ≤ (xs.filterMap f).length := by
  induction hxs with
  | nil => exact le_rfl
  | @cons x y xs ys hxy _ ih =>
      cases hx : f x with
      | none => simpa [List.filterMap_cons, hx, hsilent x y hxy hx] using ih
      | some c =>
          rw [List.filterMap_cons_some hx, List.length_cons]
          cases hy : g y with
          | none => rw [List.filterMap_cons_none hy]; omega
          | some d => rw [List.filterMap_cons_some hy, List.length_cons]; omega

/-- Where nothing comes from the others, the lists agree exactly if every pair does. -/
theorem forall₂_filterMap_iff {shows : γ → δ → Prop} {agrees : γ → Prop}
    (hsilent : ∀ x y, related x y → f x = none → g y = none)
    (hagrees : ∀ x y c, related x y → f x = some c →
      ((∃ d, g y = some d ∧ shows c d) ↔ agrees c))
    {xs : List ι} {ys : List κ} (hxs : List.Forall₂ related xs ys) :
    List.Forall₂ shows (xs.filterMap f) (ys.filterMap g) ↔ ∀ c ∈ xs.filterMap f, agrees c := by
  induction hxs with
  | nil => simp
  | @cons x y xs ys hxy htail ih =>
      cases hx : f x with
      | none =>
          rw [List.filterMap_cons_none hx, List.filterMap_cons_none (hsilent x y hxy hx)]
          exact ih
      | some c =>
          rw [List.filterMap_cons_some hx, List.forall_mem_cons, ← hagrees x y c hxy hx, ← ih]
          cases hy : g y with
          | none =>
              -- one is missing, and no later one can make up for it
              rw [List.filterMap_cons_none hy]
              constructor
              · intro hall
                have hlength := hall.length_eq
                have hle := length_filterMap_le hsilent htail
                rw [List.length_cons] at hlength
                omega
              · rintro ⟨⟨d, hd, -⟩, -⟩
                exact absurd hd (by simp)
          | some d =>
              rw [List.filterMap_cons_some hy, List.forall₂_cons]
              simp only [Option.some.injEq, exists_eq_left']

/-- Where nothing comes from the others, all that is kept of one list holds exactly if all that
is kept of the other agrees. -/
theorem forall_filterMap_iff {holds : δ → Prop} {agrees : γ → Prop}
    (hsilent : ∀ x y, related x y → f x = none → g y = none)
    (hagrees : ∀ x y c, related x y → f x = some c →
      ((∀ d, g y = some d → holds d) ↔ agrees c))
    {xs : List ι} {ys : List κ} (hxs : List.Forall₂ related xs ys) :
    (∀ d ∈ ys.filterMap g, holds d) ↔ ∀ c ∈ xs.filterMap f, agrees c := by
  induction hxs with
  | nil => simp
  | @cons x y xs ys hxy _ ih =>
      cases hx : f x with
      | none => rw [List.filterMap_cons_none hx, List.filterMap_cons_none (hsilent x y hxy hx), ih]
      | some c =>
          rw [List.filterMap_cons_some hx, List.forall_mem_cons, ← hagrees x y c hxy hx, ← ih]
          cases hy : g y with
          | none => simp [List.filterMap_cons_none hy]
          | some d => simp [List.filterMap_cons_some hy]

end Filtered

/-! The chain. -/

def Entry.eventType : Entry → ByteString
  | .command c => c.eventType
  | .other eventType _ _ => eventType

def Entry.payload : Entry → ByteString
  | .command c => c.payload
  | .other _ payload _ => payload

/-- The chain has the entry as it was given. -/
def Recorded (entry : Draw × Entry) (ae : AuditEntry) : Prop :=
  ae.eventType = entry.2.eventType ∧ ae.payload = entry.2.payload

theorem append_recorded (sha256 : Sha256) (entry : Draw × Entry) (chain : AuditChain) :
    ∃ ae, (entry.2.append sha256 entry.1 chain).chain = chain.chain ++ [ae] ∧
      Recorded entry ae := by
  obtain ⟨draw, entry⟩ := entry
  cases entry with
  | command c =>
      cases c with
      | zerotrustEvaluate query => exact ⟨_, rfl, rfl, rfl⟩
      | nacSimulateDevice req => exact ⟨_, rfl, rfl, rfl⟩
  | other eventType payload hother => exact ⟨_, rfl, rfl, rfl⟩

theorem foldl_recorded (sha256 : Sha256) (entries : List (Draw × Entry)) (chain : AuditChain) :
    ∃ added, (entries.foldl (fun chain entry => entry.2.append sha256 entry.1 chain) chain).chain =
      chain.chain ++ added ∧ List.Forall₂ Recorded entries added := by
  induction entries generalizing chain with
  | nil => exact ⟨[], (List.append_nil _).symm, .nil⟩
  | cons entry entries ih =>
      obtain ⟨ae, hae, hrecorded⟩ := append_recorded sha256 entry chain
      obtain ⟨added, hadded, hall⟩ := ih (entry.2.append sha256 entry.1 chain)
      refine ⟨ae :: added, ?_, .cons hrecorded hall⟩
      rw [List.foldl_cons, hadded, hae, List.append_assoc, List.singleton_append]

theorem chainOf_recorded (sha256 : Sha256) (entries : List (Draw × Entry)) :
    List.Forall₂ Recorded entries (chainOf sha256 entries).chain := by
  obtain ⟨added, hadded, hall⟩ := foldl_recorded sha256 entries {}
  rw [chainOf, hadded]
  exact hall

theorem Recorded.of_command? {entry : Draw × Entry} {ae : AuditEntry} {c : AccessCommand}
    (hrecorded : Recorded entry ae) (hcommand : entry.2.command? = some c) :
    ae.eventType = c.eventType ∧ ae.payload = c.payload := by
  obtain ⟨draw, entry⟩ := entry
  cases entry with
  | command c' =>
      obtain rfl : c' = c := Option.some.inj hcommand
      exact hrecorded
  | other eventType payload hother => exact absurd hcommand (by simp [Entry.command?])

/-- Nothing is derived from the entries of the other components. -/
theorem zeroTrustDecision?_other (entry : Draw × Entry) (ae : AuditEntry)
    (hrecorded : Recorded entry ae) (hother : entry.2.command? = none) :
    zeroTrustDecision? ae = none := by
  obtain ⟨draw, entry⟩ := entry
  cases entry with
  | command c => exact absurd hother (by simp [Entry.command?])
  | other eventType payload hevent =>
      have haccess : isAccessEvent ae.eventType = false := hrecorded.1 ▸ hevent
      rw [zeroTrustDecision?, haccess]
      rfl

/-- The dashboard has every decision, and as it was, exactly if all commands are legible. -/
theorem decisionsSurvive_iff (sha256 : Sha256) (entries : List (Draw × Entry)) :
    DecisionsSurvive sha256 entries ↔ ∀ c ∈ commandsOf entries, Legible c := by
  refine forall₂_filterMap_iff zeroTrustDecision?_other ?_ (chainOf_recorded sha256 entries)
  intro entry ae c hrecorded hcommand
  obtain ⟨hevent, hpayload⟩ := hrecorded.of_command? hcommand
  exact exists_shows_iff hevent hpayload

/-- What survives is what the dashboard gets: the seed of the demo mode stays away. -/
theorem dataProvider_shows {sources : Sources} {sha256 : Sha256} {entries : List (Draw × Entry)}
    (hentries : sources.auditEntries = (chainOf sha256 entries).chain)
    (hsurvive : DecisionsSurvive sha256 entries) (hcommands : commandsOf entries ≠ []) :
    List.Forall₂ Shows (commandsOf entries) (dataProvider sources).zerotrustDecisions := by
  have hlength := List.length_pos_of_ne_nil hcommands
  rw [hsurvive.length_eq, ← hentries] at hlength
  have hgathered : (dataProvider sources).zerotrustDecisions =
      zeroTrustDecisions sources.auditEntries := by
    have hnonempty : (zeroTrustDecisions sources.auditEntries).isEmpty = false :=
      List.isEmpty_eq_false_iff.mpr (List.ne_nil_of_length_pos hlength)
    simp [dataProvider, seedIfEmpty, hnonempty]
  rw [hgathered, hentries]
  exact hsurvive

def sampleQuery : AccessQuery :=
  ⟨"kgosi.blanda", "IT-Laptop-001", "10.0.200.50", "10.0.200.10", "file-server", "eGov"⟩

/-- A destination that carries a decision of its own. -/
def forgingQuery : AccessQuery :=
  { sampleQuery with destinationIp := "10.0.99.1 decision=ALLOW" }

def sampleDevice : NacWorkflow.AccessRequest :=
  ⟨"11:22:33:44:55:66", "IT-Laptop-001", "eGov", ⟨"kgosi.blanda", "egov.gov.bw"⟩,
    ⟨true, true, true, true⟩⟩

def sampleSha256 : Sha256 := fun _ => Vector.replicate 32 0

theorem map_decision_of_survive {sha256 : Sha256} {entries : List (Draw × Entry)}
    (hsurvive : DecisionsSurvive sha256 entries) :
    (zeroTrustDecisions (chainOf sha256 entries).chain).map (·.decision) =
      (commandsOf entries).map (·.decision) := by
  rw [← List.forall₂_eq_eq_eq, List.forall₂_map_left_iff, List.forall₂_map_right_iff]
  exact hsurvive.flip.imp fun ztd c hshows => hshows.decision

/-- The admission of a device is not shown at all, and a refused access is shown as allowed. -/
theorem admission_dropped_and_decision_forged :
    ¬ DecisionsSurvive sampleSha256 [(⟨1, 0⟩, .command (.nacSimulateDevice sampleDevice))] ∧
      ¬ DecisionsSurvive sampleSha256
        [(⟨2, 0⟩, .command (.zerotrustEvaluate forgingQuery))] := by
  constructor
  · intro hsurvive
    have hdecisions := map_decision_of_survive hsurvive
    rw [show (zeroTrustDecisions _).map _ = [] by decide +kernel] at hdecisions
    exact absurd hdecisions (by decide)
  · intro hsurvive
    have hdecisions := map_decision_of_survive hsurvive
    rw [show (zeroTrustDecisions _).map _ = [("ALLOW" : ByteString)] by decide +kernel]
      at hdecisions
    exact absurd hdecisions (by decide +kernel)

end Astartis.Dashboard
