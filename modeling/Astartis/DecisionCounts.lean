import Astartis.AccessDecisions

/-!
The counters that the dashboard keeps of access decisions, under names of its own.
-/

namespace Astartis.Dashboard

open ActionDispatcher
open Audit
open ByteString
open FieldText
open ZeroTrustEngine

/-! The dashboard. -/

/-- `toUpperCase`, of a text in UTF-8, for what becomes a letter of a name: the small letters of
ASCII and the dotless i.  What else has a capital has none among those letters. -/
def toUpperCase : ByteString → ByteString
  | 0xC4 :: 0xB1 :: text => 73 :: toUpperCase text
  | b :: text => (if 97 ≤ b ∧ b ≤ 122 then b - 32 else b) :: toUpperCase text
  | [] => []

structure DecisionCounts where
  allowFull : Nat := 0
  allowLimited : Nat := 0
  mfaRequired : Nat := 0
  quarantine : Nat := 0
  deny : Nat := 0

/-- The names under which decisions are counted. -/
def decisionNames : List ByteString :=
  ["ALLOW_FULL", "ALLOW_LIMITED", "MFA_REQUIRED", "QUARANTINE", "DENY"]

namespace DecisionCounts

def count (counts : DecisionCounts) (z : ZeroTrustDecisionData) : DecisionCounts :=
  let k := toUpperCase z.decision
  if k = ("ALLOW_FULL" : ByteString) then { counts with allowFull := counts.allowFull + 1 }
  else if k = ("ALLOW_LIMITED" : ByteString) then
    { counts with allowLimited := counts.allowLimited + 1 }
  else if k = ("MFA_REQUIRED" : ByteString) then
    { counts with mfaRequired := counts.mfaRequired + 1 }
  else if k = ("QUARANTINE" : ByteString) then { counts with quarantine := counts.quarantine + 1 }
  else if k = ("DENY" : ByteString) then { counts with deny := counts.deny + 1 }
  else counts

def total (counts : DecisionCounts) : Nat :=
  counts.allowFull + counts.allowLimited + counts.mfaRequired + counts.quarantine + counts.deny

end DecisionCounts

/-- The counters of `updateNist`. -/
def updateNist (decisions : List ZeroTrustDecisionData) : DecisionCounts :=
  decisions.foldl DecisionCounts.count {}

/-- With these entries in the chain the dashboard counts every decision that it is given. -/
def EveryDecisionCounted (sha256 : Sha256) (sources : Sources) (entries : List (Draw × Entry)) :
    Prop :=
  let decisions := (dataProvider
    { sources with auditEntries := (chainOf sha256 entries).chain }).zerotrustDecisions
  (updateNist decisions).total = decisions.length

/-! What the commands have to say. -/

/-- The dashboard has a counter for a decision. -/
def Known (decision : ByteString) : Prop :=
  toUpperCase decision ∈ decisionNames

instance : DecidablePred Known := fun decision =>
  inferInstanceAs (Decidable (toUpperCase decision ∈ decisionNames))

/-- A request that gets neither full nor limited access. -/
def Withheld (query : AccessQuery) : Prop :=
  query.requestedResource ∈ anomalousActions ∨
    zoneOf query.destinationIp zoneMap ≠ ("enterprise" : ByteString) ∨
    zoneOf query.sourceIp zoneMap = ("public" : ByteString) ∨
    zoneOf query.sourceIp zoneMap = ("quarantine" : ByteString) ∨ query.userId ∉ knownUsers

/-- The texts of a command that stand in front of its decision. -/
def AccessCommand.texts : AccessCommand → List ByteString
  | .zerotrustEvaluate query =>
      [query.userId, query.sourceIp, query.destinationIp, query.requestedResource]
  | .nacSimulateDevice req => [req.deviceName, req.ssidName, req.identity.username]

/-- Those in front of the user. -/
def AccessCommand.textsBeforeUser : AccessCommand → List ByteString
  | .zerotrustEvaluate _ => []
  | .nacSimulateDevice req => [req.deviceName, req.ssidName]

/-- A name is read for the user: behind a `user=` in a text in front of it, or its own. -/
def Named (c : AccessCommand) : Prop :=
  ∃ user ≠ [], ReadsOwn 32 "user=" c.textsBeforeUser c.userId user

/-- Where a `decision=` stands in a text, one of the names is read behind the first, or nothing.
Where none stands there, the decision is the command's own, and a device has none. -/
def Countable (c : AccessCommand) : Prop :=
  Named c →
    (∀ decision, FirstHolds 32 "decision=" c.texts decision → decision = [] ∨ Known decision) ∧
      ∀ query, c = .zerotrustEvaluate query →
        (∀ text ∈ c.texts, ¬ ("decision=" : ByteString) <:+: text) → Withheld query

/-! Counting. -/

theorem total_count (counts : DecisionCounts) (z : ZeroTrustDecisionData) :
    (counts.count z).total = counts.total + if Known z.decision then 1 else 0 := by
  simp only [DecisionCounts.count, Known, decisionNames, List.mem_cons, List.not_mem_nil, or_false]
  split
  · rename_i hk
    simp only [hk, true_or, if_true, DecisionCounts.total]
    omega
  split
  · rename_i hk
    simp only [hk, true_or, or_true, if_true, DecisionCounts.total]
    omega
  split
  · rename_i hk
    simp only [hk, true_or, or_true, if_true, DecisionCounts.total]
    omega
  split
  · rename_i hk
    simp only [hk, true_or, or_true, if_true, DecisionCounts.total]
    omega
  split
  · rename_i hk
    simp only [hk, or_true, if_true, DecisionCounts.total]
    omega
  · rename_i hfull hlimited hmfa hquarantine hdeny
    simp only [hfull, hlimited, hmfa, hquarantine, hdeny, or_false, if_false, Nat.add_zero]

theorem total_foldl (counts : DecisionCounts) (decisions : List ZeroTrustDecisionData) :
    (decisions.foldl DecisionCounts.count counts).total =
      counts.total + decisions.countP fun z => Known z.decision := by
  induction decisions generalizing counts with
  | nil => rfl
  | cons z decisions ih =>
      rw [List.foldl_cons, ih, total_count, List.countP_cons]
      simp only [decide_eq_true_eq]
      omega

theorem total_updateNist_iff (decisions : List ZeroTrustDecisionData) :
    (updateNist decisions).total = decisions.length ↔ ∀ z ∈ decisions, Known z.decision := by
  have htotal : (updateNist decisions).total = decisions.countP fun z => Known z.decision := by
    rw [updateNist, total_foldl]
    exact Nat.zero_add _
  rw [htotal, List.countP_eq_length]
  simp only [decide_eq_true_eq]

/-- The seed of the demo mode is counted whole. -/
theorem known_demo : ∀ z ∈ demoZeroTrustDecisions, Known z.decision := by
  decide

/-! What is read out of the entry of a command. -/

theorem known_decisionStr_iff (decision : TrustDecision) :
    Known (decisionStr decision) ↔ decision ≠ .allow ∧ decision ≠ .limited := by
  cases decision <;> decide

theorem trustDecision_eq (query : AccessQuery) :
    query.trustDecision = (decisionOf query.context).1 := rfl

/-- A known user with a regular action scores enough for limited access. -/
theorem calculateTrustScore_lt_iff {ctx : AccessContext}
    (hregular : isAnomalousBehavior ctx.userId ctx.requestedResource = false) :
    calculateTrustScore ctx < 40 ↔ ctx.userId ∉ knownUsers := by
  constructor
  · intro hscore hmem
    have hknown : knownUsers.contains ctx.userId = true := by simpa using hmem
    simp only [calculateTrustScore, hknown, hregular, if_true, Bool.false_eq_true,
      if_false] at hscore
    split at hscore <;> split at hscore <;> omega
  · intro hunknown
    have := calculateTrustScore_le_of_unknown hunknown
    omega

theorem known_trustDecision_iff (query : AccessQuery) :
    Known (decisionStr query.trustDecision) ↔ Withheld query := by
  rw [known_decisionStr_iff, trustDecision_eq]
  have hanomalous : isAnomalousBehavior query.context.userId query.context.requestedResource =
      true ↔ query.requestedResource ∈ anomalousActions := List.contains_iff_mem
  have hallowed := @isCrossZoneAllowed_staff_iff (zoneOf query.sourceIp zoneMap)
    (zoneOf query.destinationIp zoneMap)
  obtain ⟨haction, hdecision⟩ | ⟨hregular, ⟨hroute, hdecision⟩ | ⟨hroute, hscored⟩⟩ :=
    decisionOf_cases query.context
  · simp [Withheld, hdecision, hanomalous.mp haction]
  · have hdenied : ¬ isCrossZoneAllowed (zoneOf query.sourceIp zoneMap)
        (zoneOf query.destinationIp zoneMap) "staff" = true := by
      rw [Bool.not_eq_true]
      exact hroute
    have hzones : zoneOf query.destinationIp zoneMap ≠ ("enterprise" : ByteString) ∨
        zoneOf query.sourceIp zoneMap = ("public" : ByteString) ∨
        zoneOf query.sourceIp zoneMap = ("quarantine" : ByteString) := by
      by_contra hgranted
      simp only [not_or, ne_eq, not_not] at hgranted
      exact hdenied (hallowed.mpr hgranted)
    rw [hdecision]
    refine iff_of_true (by simp) (.inr ?_)
    rcases hzones with hto | hpublic | hquarantine
    · exact .inl hto
    · exact .inr (.inl hpublic)
    · exact .inr (.inr (.inl hquarantine))
  · have hgranted := hallowed.mp hroute
    have haction : query.requestedResource ∉ anomalousActions := by
      rw [← hanomalous, hregular]
      simp
    have hwithheld : Withheld query ↔ query.userId ∉ knownUsers := by
      simp [Withheld, haction, hgranted.1, hgranted.2.1, hgranted.2.2]
    have hscore := calculateTrustScore_lt_iff hregular
    change _ ↔ query.userId ∉ knownUsers at hscore
    rw [hwithheld, ← hscore]
    obtain ⟨hfull, hdecision⟩ | ⟨hlimited, -, hdecision⟩ | ⟨hlow, hdecision⟩ := hscored
    · simp [hdecision]
      omega
    · simp [hdecision]
      omega
    · simp [hdecision, hlow]

theorem named_iff (c : AccessCommand) : extract c.payload "user" ≠ [] ↔ Named c := by
  have hread : ∀ user, value? 32 ("user=" : ByteString) c.payload = some user ↔
      ReadsOwn 32 "user=" c.textsBeforeUser c.userId user := by
    intro user
    cases c with
    | zerotrustEvaluate query =>
        have hbefore : ∀ field ∈ (zeroTrustFields query).take 0,
            apart ("user=" : ByteString) field.1 = true := by
          simp
        rw [AccessCommand.payload, zeroTrustPayload_eq]
        exact value?_own_eq_some_iff (by decide) (by decide) hbefore query.userId
          (zeroTrustFields query).tail
    | nacSimulateDevice req =>
        have hbefore : ∀ field ∈ (nacFields req).take 2,
            apart ("user=" : ByteString) field.1 = true := by
          simp only [nacFields, List.take_succ_cons, List.take_zero, List.forall_mem_cons]
          decide
        rw [AccessCommand.payload, nacPayload_eq]
        exact value?_own_eq_some_iff (by decide) (by decide) hbefore req.identity.username
          ((nacFields req).drop 3)
  rw [extract_eq, Named]
  change (value? 32 ("user=" : ByteString) c.payload).getD [] ≠ [] ↔ _
  simp only [← hread]
  cases value? 32 ("user=" : ByteString) c.payload <;> simp

/-- The decision that the payload of a command has in a field of its own. -/
def AccessCommand.fieldDecision : AccessCommand → ByteString
  | .zerotrustEvaluate query => decisionStr query.trustDecision
  | .nacSimulateDevice _ => []

theorem extract_decision (c : AccessCommand) :
    extract c.payload "decision" =
      (c.texts.findSome? (value? 32 "decision=")).getD c.fieldDecision := by
  cases c with
  | zerotrustEvaluate query =>
      have hbefore : ∀ field ∈ (zeroTrustFields query).take 4,
          apart ("decision=" : ByteString) field.1 = true := by
        simp only [zeroTrustFields, List.take_succ_cons, List.take_zero, List.forall_mem_cons]
        decide
      have hspace : ∀ decision, 32 ∉ decisionStr decision := by
        intro decision
        cases decision <;> decide
      have hkey : 32 ∉ ("decision=" : ByteString) := by decide
      have hown := value?_fieldsText_own hkey (by decide) hbefore
        (decisionStr query.trustDecision) []
      rw [takeWhile_ne_eq_self_iff.mpr (hspace query.trustDecision)] at hown
      rw [AccessCommand.payload, zeroTrustPayload_eq, extract_eq]
      change Option.getD (value? 32 ("decision=" : ByteString) (fieldsText 32
        ((zeroTrustFields query).take 4 ++ (("decision=" : ByteString), _) :: []))) [] = _
      rw [hown]
      change Option.getD (Option.or (AccessCommand.texts (.zerotrustEvaluate query)
        |>.findSome? (value? 32 "decision=")) _) _ = _
      cases (AccessCommand.texts (.zerotrustEvaluate query)).findSome?
        (value? 32 ("decision=" : ByteString)) <;> rfl
  | nacSimulateDevice req =>
      have hsilent : ∀ result, ¬ ("decision=" : ByteString) <:+: resultStr result := by
        intro result
        cases result <;> decide
      exact nac_extract_absent req (by decide) (by decide) hsilent

/-- What the dashboard is given of a command has a counter exactly if the command says so. -/
theorem known_extract_iff (c : AccessCommand) :
    (extract c.payload "user" ≠ [] → extract c.payload "decision" ≠ [] →
      Known (extract c.payload "decision")) ↔ Countable c := by
  have hkey : ("decision=" : ByteString) ≠ [] := by decide
  rw [named_iff, Countable, extract_decision]
  refine imp_congr_right fun _ => ?_
  cases hread : c.texts.findSome? (value? 32 ("decision=" : ByteString)) with
  | some decision =>
      have hholds := (findSome?_value?_iff hkey).mp hread
      have hfree : ¬ ∀ text ∈ c.texts, ¬ ("decision=" : ByteString) <:+: text := by
        intro hfree
        exact absurd (hread.symm.trans ((findSome?_value?_eq_none_iff hkey).mpr hfree)) (by simp)
      have honly : ∀ other, FirstHolds 32 "decision=" c.texts other ↔ other = decision := by
        intro other
        rw [← findSome?_value?_iff hkey, hread, Option.some.injEq, eq_comm]
      simp only [honly, forall_eq, hfree, false_imp_iff, imp_true_iff, and_true,
        Option.getD_some]
      exact or_iff_not_imp_left.symm
  | none =>
      have hfree := (findSome?_value?_eq_none_iff hkey).mp hread
      have hnever : ∀ other, ¬ FirstHolds 32 "decision=" c.texts other := by
        intro other
        rw [← findSome?_value?_iff hkey, hread]
        simp
      rw [Option.getD_none]
      cases c with
      | zerotrustEvaluate query =>
          have hknown := known_trustDecision_iff query
          constructor
          · intro hcounted
            refine ⟨fun other hother => absurd hother (hnever other), ?_⟩
            rintro _ ⟨rfl⟩ -
            exact hknown.mp (hcounted (decisionStr_ne_nil _))
          · rintro ⟨-, hwithheld⟩ -
            exact hknown.mpr (hwithheld query rfl hfree)
      | nacSimulateDevice req =>
          constructor
          · intro _
            exact ⟨fun other hother => absurd hother (hnever other),
              fun query hquery => nomatch hquery⟩
          · intro _ hne
            exact absurd rfl hne

/-! The chain. -/

theorem known_zeroTrustDecision?_iff {c : AccessCommand} {ae : AuditEntry}
    (hevent : ae.eventType = c.eventType) (hpayload : ae.payload = c.payload) :
    (∀ z, zeroTrustDecision? ae = some z → Known z.decision) ↔ Countable c := by
  obtain ⟨haccess, huser, hdecision, -⟩ := zeroTrustDecision_of_command hevent hpayload
  rw [← known_extract_iff, ← huser, ← hdecision]
  constructor
  · intro hknown hnamed hdecided
    exact hknown _ ((zeroTrustDecision?_eq_some_iff haccess).mpr ⟨rfl, hnamed, hdecided⟩)
  · intro hknown z hz
    obtain ⟨rfl, hnamed, hdecided⟩ := (zeroTrustDecision?_eq_some_iff haccess).mp hz
    exact hknown hnamed hdecided

theorem known_entries_iff (sha256 : Sha256) (entries : List (Draw × Entry)) :
    (∀ z ∈ zeroTrustDecisions (chainOf sha256 entries).chain, Known z.decision) ↔
      ∀ c ∈ commandsOf entries, Countable c := by
  refine forall_filterMap_iff zeroTrustDecision?_other ?_ (chainOf_recorded sha256 entries)
  intro entry ae c hrecorded hcommand
  obtain ⟨hevent, hpayload⟩ := hrecorded.of_command? hcommand
  exact known_zeroTrustDecision?_iff hevent hpayload

/-- The counters come to the number of the decisions exactly if every command that is listed is
counted. -/
theorem everyDecisionCounted_iff (sha256 : Sha256) (sources : Sources)
    (entries : List (Draw × Entry)) :
    EveryDecisionCounted sha256 sources entries ↔ ∀ c ∈ commandsOf entries, Countable c := by
  rw [EveryDecisionCounted, total_updateNist_iff, ← known_entries_iff sha256]
  change (∀ z ∈ seedIfEmpty demoZeroTrustDecisions
    (zeroTrustDecisions (chainOf sha256 entries).chain), Known z.decision) ↔ _
  rw [seedIfEmpty]
  split
  · rename_i hempty
    rw [List.isEmpty_iff.mp hempty]
    exact iff_of_true known_demo (by simp)
  · rfl

/-- The full access of a known user is listed and not counted. -/
theorem full_access_uncounted :
    ¬ EveryDecisionCounted sampleSha256 {}
      [(⟨1, 0⟩, .command (.zerotrustEvaluate sampleQuery))] := by
  intro hcounted
  rw [EveryDecisionCounted, total_updateNist_iff] at hcounted
  exact absurd hcounted (by decide +kernel)

end Astartis.Dashboard
