import Astartis.NacWorkflow
import Astartis.ZeroTrustEngine

/-!
What the engine decides for the role of a user, and the score that it records.  The directory
and the roles are those of the admission to the network.
-/

namespace Astartis.ZeroTrustEngine

open ActionDispatcher
open Audit
open PolicyEngine

section Roles

/-- The role that the directory has for a user. -/
def directoryRole (userId : ByteString) : ByteString :=
  NacWorkflow.determineRole userId []

theorem directoryRole_mem (userId : ByteString) :
    directoryRole userId ∈
      ([("it_admin" : ByteString), "staff", "contractor", "guest"] : List ByteString) := by
  have hroles : ∀ entry ∈ NacWorkflow.userRoles, entry.2 ∈
      ([("it_admin" : ByteString), "staff", "contractor", "guest"] : List ByteString) := by
    decide +kernel
  rw [directoryRole, NacWorkflow.determineRole]
  cases hrole : NacWorkflow.userRoles.lookup userId with
  | none => simp
  | some role =>
      obtain ⟨before, after, hsplit, -⟩ := List.lookup_eq_some_iff.mp hrole
      exact hroles (userId, role) (by rw [hsplit]; simp)

/-- The policy of a zone lists a role. -/
def Lists (toZone role : ByteString) : Prop :=
  ∃ allowedRoles, zonePolicies.lookup toZone = some allowedRoles ∧ role ∈ allowedRoles

theorem lists_iff {toZone role : ByteString} :
    Lists toZone role ↔
      (toZone = ("enterprise" : ByteString) ∧
        role ∈ ([("it_admin" : ByteString), "staff", "contractor"] : List ByteString)) ∨
      (toZone = ("management" : ByteString) ∧ role = ("it_admin" : ByteString)) ∨
      (toZone = ("public" : ByteString) ∧
        role ∈ ([("guest" : ByteString), "contractor"] : List ByteString)) := by
  constructor
  · rintro ⟨allowedRoles, hpolicy, hrole⟩
    obtain ⟨before, after, hsplit, -⟩ := List.lookup_eq_some_iff.mp hpolicy
    have hmem : (toZone, allowedRoles) ∈ zonePolicies := by
      rw [hsplit]
      simp
    simp only [zonePolicies, List.mem_cons, Prod.mk.injEq, List.not_mem_nil, or_false] at hmem
    rcases hmem with ⟨rfl, rfl⟩ | ⟨rfl, rfl⟩ | ⟨rfl, rfl⟩ | ⟨rfl, rfl⟩
    · exact .inl ⟨rfl, hrole⟩
    · exact .inr (.inl ⟨rfl, List.mem_singleton.mp hrole⟩)
    · exact .inr (.inr ⟨rfl, hrole⟩)
    · exact absurd hrole (by simp)
  · rintro (⟨rfl, hrole⟩ | ⟨rfl, rfl⟩ | ⟨rfl, hrole⟩)
    · exact ⟨_, rfl, hrole⟩
    · exact ⟨_, rfl, List.mem_singleton_self _⟩
    · exact ⟨_, rfl, hrole⟩

/-- A role enters the zones that list it, from a zone with a route there. -/
theorem isCrossZoneAllowed_iff {fromZone toZone role : ByteString} :
    isCrossZoneAllowed fromZone toZone role = true ↔
      fromZone ≠ ("quarantine" : ByteString) ∧
        (fromZone = ("public" : ByteString) →
          toZone ≠ ("enterprise" : ByteString) ∧ toZone ≠ ("management" : ByteString)) ∧
        Lists toZone role := by
  unfold isCrossZoneAllowed Lists
  split
  · rename_i hroute
    simp [hroute]
  rename_i henterprise
  split
  · rename_i hroute
    simp [hroute]
  rename_i hmanagement
  split
  · rename_i hquarantine
    simp [hquarantine]
  rename_i hquarantine
  have hroutes : fromZone = ("public" : ByteString) →
      toZone ≠ ("enterprise" : ByteString) ∧ toZone ≠ ("management" : ByteString) :=
    fun hpublic => ⟨fun hzone => henterprise ⟨hpublic, hzone⟩,
      fun hzone => hmanagement ⟨hpublic, hzone⟩⟩
  cases hpolicy : zonePolicies.lookup toZone with
  | none => simp
  | some allowedRoles => simpa [hquarantine] using fun _ => hroutes

/-- The zones whose policy says of a role what it says of staff. -/
def TreatedAsStaff (toZone role : ByteString) : Prop :=
  (toZone = ("enterprise" : ByteString) → role ≠ ("guest" : ByteString)) ∧
    (toZone = ("management" : ByteString) → role ≠ ("it_admin" : ByteString)) ∧
    (toZone = ("public" : ByteString) →
      role ≠ ("guest" : ByteString) ∧ role ≠ ("contractor" : ByteString))

theorem lists_staff_iff {toZone : ByteString} {userId : ByteString} :
    (Lists toZone "staff" ↔ Lists toZone (directoryRole userId)) ↔
      TreatedAsStaff toZone (directoryRole userId) := by
  have hrole := directoryRole_mem userId
  generalize directoryRole userId = role at hrole
  simp only [lists_iff, TreatedAsStaff]
  by_cases henterprise : toZone = ("enterprise" : ByteString)
  · subst henterprise
    revert role
    decide +kernel
  by_cases hmanagement : toZone = ("management" : ByteString)
  · subst hmanagement
    revert role
    decide +kernel
  by_cases hpublic : toZone = ("public" : ByteString)
  · subst hpublic
    revert role
    decide +kernel
  · simp [henterprise, hmanagement, hpublic]

/-- The route is closed to everybody, or the destination treats the role as it treats staff. -/
def RoutedAsStaff (fromZone toZone role : ByteString) : Prop :=
  fromZone = ("quarantine" : ByteString) ∨
    (fromZone = ("public" : ByteString) ∧
      (toZone = ("enterprise" : ByteString) ∨ toZone = ("management" : ByteString))) ∨
    TreatedAsStaff toZone role

variable {σ : Type} (auditAdder : AuditAdder σ) (ctx : AccessContext) (world : σ)

theorem evaluate_deny_iff (hregular : ctx.requestedResource ∉ anomalousActions) :
    (evaluate auditAdder ctx world).1 = .deny ↔
      isCrossZoneAllowed (zoneOf ctx.sourceIp zoneMap) (zoneOf ctx.destinationIp zoneMap)
        "staff" = false := by
  change (decisionOf ctx).1 = .deny ↔ _
  obtain ⟨hanomalous, -⟩ | ⟨-, ⟨hdenied, hdecision⟩ | ⟨hallowed, hscored⟩⟩ :=
    decisionOf_cases ctx
  · exact absurd (by simpa [isAnomalousBehavior] using hanomalous) hregular
  · simp [hdenied, hdecision]
  · obtain ⟨-, hdecision⟩ | ⟨-, -, hdecision⟩ | ⟨-, hdecision⟩ := hscored <;>
      simp [hallowed, hdecision]

/-- The engine asks the zone policies about staff, whoever the user is: it denies by the role of
the user exactly where the two do not differ. -/
theorem evaluate_denies_byRole_iff (hregular : ctx.requestedResource ∉ anomalousActions) :
    ((evaluate auditAdder ctx world).1 = .deny ↔
      isCrossZoneAllowed (zoneOf ctx.sourceIp zoneMap) (zoneOf ctx.destinationIp zoneMap)
        (directoryRole ctx.userId) = false) ↔
      RoutedAsStaff (zoneOf ctx.sourceIp zoneMap) (zoneOf ctx.destinationIp zoneMap)
        (directoryRole ctx.userId) := by
  rw [evaluate_deny_iff auditAdder ctx world hregular, ← Bool.not_eq_true, ← Bool.not_eq_true,
    not_iff_not, isCrossZoneAllowed_iff, isCrossZoneAllowed_iff, RoutedAsStaff,
    ← lists_staff_iff]
  tauto

/-- An administrator of the enterprise zone asks for the management zone. -/
def managementRequest : AccessContext :=
  { officeRequest with userId := "kgosi.blanda", destinationIp := "10.0.99.1" }

theorem managementRequest_not_byRole :
    ¬ ((evaluate silentAdder managementRequest ()).1 = .deny ↔
      isCrossZoneAllowed (zoneOf managementRequest.sourceIp zoneMap)
        (zoneOf managementRequest.destinationIp zoneMap)
        (directoryRole managementRequest.userId) = false) := by
  decide +kernel

theorem evaluate_denies_byRole_office :
    (evaluate silentAdder officeRequest ()).1 = .deny ↔
      isCrossZoneAllowed (zoneOf officeRequest.sourceIp zoneMap)
        (zoneOf officeRequest.destinationIp zoneMap)
        (directoryRole officeRequest.userId) = false :=
  (evaluate_denies_byRole_iff silentAdder officeRequest () (by decide)).mpr
    (.inr (.inr ⟨fun _ => by decide, fun hzone => absurd hzone (by decide),
      fun hzone => absurd hzone (by decide)⟩))

end Roles

section Scores

/-- The payload of a decision with the score that it shows. -/
def decisionPayload (ctx : AccessContext) (score : Int) (decision : TrustDecision)
    (reason : ByteString) : ByteString :=
  ("user=" : ByteString) ++ ctx.userId ++ (" device=" : ByteString) ++ ctx.deviceId ++
    (" src=" : ByteString) ++ ctx.sourceIp ++ (" dst=" : ByteString) ++
    ctx.destinationIp ++ (" resource=" : ByteString) ++ ctx.requestedResource ++
    (" ssid=" : ByteString) ++ ctx.ssidName ++ (" score=" : ByteString) ++
    ByteString.decimal score ++ (" decision=" : ByteString) ++
    decisionStr decision ++ (" reason=" : ByteString) ++ reason

theorem decisionPayload_inj {ctx : AccessContext} {score score' : Int}
    {decision : TrustDecision} {reason : ByteString} :
    decisionPayload ctx score decision reason = decisionPayload ctx score' decision reason ↔
      score = score' := by
  -- the four texts behind the score, then the text in front of it
  apply Iff.trans (List.append_left_inj reason)
  apply Iff.trans (List.append_left_inj _)
  apply Iff.trans (List.append_left_inj (decisionStr decision))
  apply Iff.trans (List.append_left_inj _)
  apply Iff.trans (List.append_right_inj _)
  exact ByteString.decimal_injective.eq_iff

/-- The entry of the decision of `evaluate`, with the score that it shows. -/
def decisionEntry (ctx : AccessContext) (score : Int) : ByteString × ByteString :=
  ("zerotrust_decision", decisionPayload ctx score (decisionOf ctx).1 (decisionOf ctx).2)

/-- The entry shows what the caller has put into the field. -/
theorem evaluate_notes (ctx : AccessContext) (notes : List (ByteString × ByteString)) :
    (evaluate noteEntry ctx notes).2 = notes ++ [decisionEntry ctx ctx.trustScore.toInt] := rfl

/-- The entry of a decision shows the score that decided. -/
def ScoreAudited (ctx : AccessContext) : Prop :=
  ∀ notes, (evaluate noteEntry ctx notes).2 =
    notes ++ [decisionEntry ctx (calculateTrustScore ctx)]

theorem scoreAudited_iff (ctx : AccessContext) :
    ScoreAudited ctx ↔ ctx.trustScore.toInt = calculateTrustScore ctx := by
  have hentry : decisionEntry ctx ctx.trustScore.toInt =
      decisionEntry ctx (calculateTrustScore ctx) ↔
        ctx.trustScore.toInt = calculateTrustScore ctx := by
    rw [decisionEntry, decisionEntry, Prod.mk.injEq, decisionPayload_inj]
    simp
  rw [ScoreAudited, ← hentry]
  constructor
  · intro haudited
    exact List.singleton_inj.mp (List.append_cancel_left (haudited []))
  · intro heq notes
    rw [evaluate_notes, heq]

theorem calculateTrustScore_bounds (ctx : AccessContext) :
    0 ≤ calculateTrustScore ctx ∧ calculateTrustScore ctx ≤ 100 := by
  refine ⟨?_, min_le_right _ _⟩
  simp only [calculateTrustScore]
  repeat' split
  all_goals omega

/-- `ctx.trust_score = score` of the bridge. -/
def withScore (ctx : AccessContext) : AccessContext :=
  { ctx with trustScore := Int32.ofInt (calculateTrustScore ctx) }

/-- The bridge fills the field in before it asks. -/
theorem scoreAudited_withScore (ctx : AccessContext) : ScoreAudited (withScore ctx) := by
  obtain ⟨hlow, hhigh⟩ := calculateTrustScore_bounds ctx
  rw [scoreAudited_iff]
  exact Int32.toInt_ofInt_of_le (by omega) (by omega)

/-- The dispatcher leaves the field at zero, which no regular request of its scores. -/
theorem scoreAudited_assessment_iff {agentName : ByteString} {ctx : AccessContext}
    (hagent : canZerotrustDeny agentName = true)
    (huser : ctx.userId = agentName ++ ("_assessment" : ByteString))
    (hfield : ctx.trustScore = 0) :
    ScoreAudited ctx ↔ ctx.requestedResource ∈ anomalousActions := by
  have hunknown : knownUsers.contains ctx.userId = false := by
    simpa [huser] using assessment_not_known hagent
  rw [scoreAudited_iff, hfield, show (0 : Int32).toInt = 0 from rfl]
  simp only [calculateTrustScore, hunknown, Bool.false_eq_true, false_and, if_false]
  split
  · rename_i hanomalous
    exact iff_of_true rfl (by simpa [isAnomalousBehavior] using hanomalous)
  · rename_i hregular
    exact iff_of_false (by decide) (by simpa [isAnomalousBehavior] using hregular)

/-- The office request is allowed with 100 and recorded with 0. -/
theorem officeRequest_not_scoreAudited : ¬ ScoreAudited officeRequest := by
  rw [scoreAudited_iff]
  decide +kernel

end Scores

end Astartis.ZeroTrustEngine
