import Astartis.ActionDispatcher

/-!
The zero-trust decision engine: subnets to zones, zones to the roles that may enter
them, and an additive trust score.
-/

namespace Astartis.ZeroTrustEngine

open ActionDispatcher
open Audit

/-- `ANOMALOUS_ACTIONS` -/
def anomalousActions : List ByteString :=
  ["login_off_hours", "mass_download", "admin_from_public_ssid",
    "privilege_escalation_attempt"]

/-- `zone_map_` in the order of its keys. -/
def zoneMap : List (ByteString × ByteString) :=
  [("10.0.200.", "enterprise"), ("10.0.300.", "quarantine"), ("10.0.99.", "management"),
    ("192.168.100.", "public")]

/-- `zone_policies_` in the order of its keys. -/
def zonePolicies : List (ByteString × List ByteString) :=
  [("enterprise", ["it_admin", "staff", "contractor"]), ("management", ["it_admin"]),
    ("public", ["guest", "contractor"]), ("quarantine", [])]

def knownUsers : List ByteString :=
  ["kgosi.blanda", "admin", "user1", "user2", "contractor1"]

def zoneOf (ip : ByteString) (zoneMap : List (ByteString × ByteString)) : ByteString :=
  match zoneMap.find? fun entry => entry.1.isPrefixOf ip with
  | some entry => entry.2
  | none => "unknown"

/-- The user is not looked at. -/
def isAnomalousBehavior (_userId action : ByteString) : Bool :=
  anomalousActions.contains action

def calculateTrustScore (ctx : AccessContext) : Int :=
  let userKnown := knownUsers.contains ctx.userId
  let score := if userKnown then 40 else 0
  let score :=
    if userKnown ∧ (ctx.ssidName = ("eGov" : ByteString) ∨
        ctx.ssidName = ("Astartis-Admin" : ByteString)) then score + 20 else score
  let score :=
    if userKnown ∧ ("10.0.200." : ByteString).isPrefixOf ctx.sourceIp then score + 20
    else score
  let score :=
    if isAnomalousBehavior ctx.userId ctx.requestedResource then score else score + 20
  min score 100

def isCrossZoneAllowed (fromZone toZone role : ByteString) : Bool :=
  if fromZone = ("public" : ByteString) ∧ toZone = ("enterprise" : ByteString) then false
  else if fromZone = ("public" : ByteString) ∧ toZone = ("management" : ByteString) then false
  else if fromZone = ("quarantine" : ByteString) then false
  else
    match zonePolicies.lookup toZone with
    | none => false
    | some allowedRoles => allowedRoles.contains role

variable {σ : Type}

def logDecision (auditAdder : AuditAdder σ) (ctx : AccessContext) (decision : TrustDecision)
    (reason : ByteString) (world : σ) : σ :=
  (auditAdder "zerotrust_decision"
    (("user=" : ByteString) ++ ctx.userId ++ (" device=" : ByteString) ++ ctx.deviceId ++
      (" src=" : ByteString) ++ ctx.sourceIp ++ (" dst=" : ByteString) ++
      ctx.destinationIp ++ (" resource=" : ByteString) ++ ctx.requestedResource ++
      (" ssid=" : ByteString) ++ ctx.ssidName ++ (" score=" : ByteString) ++
      ByteString.decimal ctx.trustScore.toInt ++ (" decision=" : ByteString) ++
      decisionStr decision ++ (" reason=" : ByteString) ++ reason) world).2

/-- The decision of `evaluate`, with its reason. -/
def decisionOf (ctx : AccessContext) : TrustDecision × ByteString :=
  let score := calculateTrustScore ctx
  let fromZone := zoneOf ctx.sourceIp zoneMap
  let toZone := zoneOf ctx.destinationIp zoneMap
  if isAnomalousBehavior ctx.userId ctx.requestedResource then
    (.mfaRequired, "Anomalous behavior detected — MFA required")
  else if !isCrossZoneAllowed fromZone toZone "staff" then
    (.deny, ("Cross-zone routing denied: " : ByteString) ++ fromZone ++
      (" → " : ByteString) ++ toZone)
  else if score ≥ 70 then
    (.allow, ("Trust score " : ByteString) ++ ByteString.decimal score ++
      (" >= 70 — full access" : ByteString))
  else if score ≥ 40 then
    (.limited, ("Trust score " : ByteString) ++ ByteString.decimal score ++
      (" — limited access" : ByteString))
  else
    (.quarantine, ("Trust score " : ByteString) ++ ByteString.decimal score ++
      (" < 40 — quarantine" : ByteString))

def evaluate (auditAdder : AuditAdder σ) (ctx : AccessContext) (world : σ) :
    TrustDecision × σ :=
  ((decisionOf ctx).1, logDecision auditAdder ctx (decisionOf ctx).1 (decisionOf ctx).2 world)

/-- A user outside the directory scores for the action alone. -/
theorem calculateTrustScore_le_of_unknown {ctx : AccessContext}
    (hunknown : ctx.userId ∉ knownUsers) : calculateTrustScore ctx ≤ 20 := by
  have hknown : knownUsers.contains ctx.userId = false := by simpa using hunknown
  simp only [calculateTrustScore, hknown, Bool.false_eq_true, false_and, if_false]
  split <;> omega

/-- The zone that staff may enter. -/
theorem staff_policies {policy : ByteString × List ByteString} (hpolicy : policy ∈ zonePolicies) :
    ("staff" : ByteString) ∈ policy.2 → policy.1 = ("enterprise" : ByteString) := by
  revert policy
  decide

/-- What the zone policies come to for the role that the engine asks about. -/
theorem isCrossZoneAllowed_staff_iff {fromZone toZone : ByteString} :
    isCrossZoneAllowed fromZone toZone "staff" = true ↔
      toZone = ("enterprise" : ByteString) ∧ fromZone ≠ ("public" : ByteString) ∧
        fromZone ≠ ("quarantine" : ByteString) := by
  unfold isCrossZoneAllowed
  constructor
  · intro hallowed
    split at hallowed
    · exact absurd hallowed (by simp)
    rename_i hfirst
    split at hallowed
    · exact absurd hallowed (by simp)
    split at hallowed
    · exact absurd hallowed (by simp)
    rename_i hquarantine
    split at hallowed
    · exact absurd hallowed (by simp)
    rename_i allowedRoles hroles
    obtain ⟨before, after, hsplit, -⟩ := List.lookup_eq_some_iff.mp hroles
    have hzone : toZone = ("enterprise" : ByteString) :=
      staff_policies (hsplit ▸ List.mem_append_right _ List.mem_cons_self)
        (List.contains_iff_mem.mp hallowed)
    exact ⟨hzone, fun hpublic => hfirst ⟨hpublic, hzone⟩, hquarantine⟩
  · rintro ⟨rfl, hpublic, hquarantine⟩
    rw [if_neg fun h => hpublic h.1, if_neg fun h => hpublic h.1, if_neg hquarantine]
    decide

/-- The branch that decided, for every decision. -/
theorem decisionOf_cases (ctx : AccessContext) :
    (isAnomalousBehavior ctx.userId ctx.requestedResource = true ∧
        (decisionOf ctx).1 = .mfaRequired) ∨
      isAnomalousBehavior ctx.userId ctx.requestedResource = false ∧
        ((isCrossZoneAllowed (zoneOf ctx.sourceIp zoneMap) (zoneOf ctx.destinationIp zoneMap)
            "staff" = false ∧ (decisionOf ctx).1 = .deny) ∨
          isCrossZoneAllowed (zoneOf ctx.sourceIp zoneMap) (zoneOf ctx.destinationIp zoneMap)
            "staff" = true ∧
            ((70 ≤ calculateTrustScore ctx ∧ (decisionOf ctx).1 = .allow) ∨
              (40 ≤ calculateTrustScore ctx ∧ calculateTrustScore ctx ≤ 69 ∧
                (decisionOf ctx).1 = .limited) ∨
              calculateTrustScore ctx < 40 ∧ (decisionOf ctx).1 = .quarantine)) := by
  simp only [decisionOf]
  split
  · rename_i hanomalous
    exact .inl ⟨hanomalous, rfl⟩
  rename_i hregular
  refine .inr ⟨by simpa using hregular, ?_⟩
  split
  · rename_i hdenied
    exact .inl ⟨by simpa using hdenied, rfl⟩
  rename_i hallowed
  refine .inr ⟨by simpa using hallowed, ?_⟩
  split
  · rename_i hfull
    exact .inl ⟨hfull, rfl⟩
  rename_i hbelow
  split
  · rename_i hlimited
    exact .inr (.inl ⟨hlimited, by omega, rfl⟩)
  · rename_i hlow
    exact .inr (.inr ⟨by omega, rfl⟩)

/-- Access is granted only into the enterprise zone, from a zone that may route there, to a
known user with a regular action and the score of the decision. -/
theorem evaluate_granted (auditAdder : AuditAdder σ) (ctx : AccessContext) (world : σ)
    (hgranted : (evaluate auditAdder ctx world).1 = .allow ∨
      (evaluate auditAdder ctx world).1 = .limited) :
    zoneOf ctx.destinationIp zoneMap = ("enterprise" : ByteString) ∧
      zoneOf ctx.sourceIp zoneMap ≠ ("public" : ByteString) ∧
      zoneOf ctx.sourceIp zoneMap ≠ ("quarantine" : ByteString) ∧
      ctx.requestedResource ∉ anomalousActions ∧ ctx.userId ∈ knownUsers ∧
      ((evaluate auditAdder ctx world).1 = .allow → 70 ≤ calculateTrustScore ctx) ∧
      ((evaluate auditAdder ctx world).1 = .limited →
        40 ≤ calculateTrustScore ctx ∧ calculateTrustScore ctx ≤ 69) := by
  change (decisionOf ctx).1 = .allow ∨ (decisionOf ctx).1 = .limited at hgranted
  change _ ∧ _ ∧ _ ∧ _ ∧ _ ∧ ((decisionOf ctx).1 = .allow → _) ∧
    ((decisionOf ctx).1 = .limited → _)
  obtain ⟨-, hdecision⟩ | ⟨hregular, ⟨-, hdecision⟩ | ⟨hallowed, hscored⟩⟩ :=
    decisionOf_cases ctx
  · simp [hdecision] at hgranted
  · simp [hdecision] at hgranted
  obtain ⟨hdestination, hpublic, hquarantine⟩ := isCrossZoneAllowed_staff_iff.mp hallowed
  have hscore : 40 ≤ calculateTrustScore ctx := by
    obtain ⟨hscore, -⟩ | ⟨hscore, -⟩ | ⟨-, hdecision⟩ := hscored
    · omega
    · exact hscore
    · simp [hdecision] at hgranted
  have hknown : ctx.userId ∈ knownUsers := by
    by_contra hunknown
    have := calculateTrustScore_le_of_unknown hunknown
    omega
  refine ⟨hdestination, hpublic, hquarantine, by simpa [isAnomalousBehavior] using hregular,
    hknown, ?_, ?_⟩
  · intro hdecision
    obtain ⟨hfull, -⟩ | ⟨-, -, hother⟩ | ⟨-, hother⟩ := hscored
    · exact hfull
    · simp [hdecision] at hother
    · simp [hdecision] at hother
  · intro hdecision
    obtain ⟨-, hother⟩ | ⟨-, hbelow, -⟩ | ⟨-, hother⟩ := hscored
    · simp [hdecision] at hother
    · exact ⟨hscore, hbelow⟩
    · simp [hdecision] at hother

/-- An office request within the enterprise zone. -/
def officeRequest : AccessContext where
  userId := "user1"
  deviceId := "Laptop-001"
  sourceIp := "10.0.200.50"
  destinationIp := "10.0.200.10"
  requestedResource := "file-server"
  ssidName := "eGov"
  trustScore := 0

/-- The audit adder of a chain that stores nothing. -/
def silentAdder : AuditAdder Unit := fun _ _ world => ([], world)

theorem evaluate_granted_office :
    70 ≤ calculateTrustScore officeRequest ∧ officeRequest.userId ∈ knownUsers :=
  have hallowed : (evaluate silentAdder officeRequest ()).1 = .allow := by decide
  have hgranted := evaluate_granted silentAdder officeRequest () (.inl hallowed)
  ⟨hgranted.2.2.2.2.2.1 hallowed, hgranted.2.2.2.2.1⟩

/-- From the public zone, whatever the destination, the engine denies exactly the requests
whose action is not anomalous. -/
theorem evaluate_public_deny_iff (auditAdder : AuditAdder σ) (ctx : AccessContext) (world : σ)
    (hsource : zoneOf ctx.sourceIp zoneMap = ("public" : ByteString)) :
    (evaluate auditAdder ctx world).1 = .deny ↔ ctx.requestedResource ∉ anomalousActions := by
  have hroute : isCrossZoneAllowed (zoneOf ctx.sourceIp zoneMap)
      (zoneOf ctx.destinationIp zoneMap) "staff" = false := by
    by_contra hallowed
    exact (isCrossZoneAllowed_staff_iff.mp (by simpa using hallowed)).2.1 hsource
  change (decisionOf ctx).1 = .deny ↔ _
  obtain ⟨hanomalous, hdecision⟩ | ⟨hregular, ⟨-, hdecision⟩ | ⟨hallowed, -⟩⟩ :=
    decisionOf_cases ctx
  · have hmem : ctx.requestedResource ∈ anomalousActions := by
      simpa [isAnomalousBehavior] using hanomalous
    simp [hdecision, hmem]
  · have hmem : ctx.requestedResource ∉ anomalousActions := by
      simpa [isAnomalousBehavior] using hregular
    simp [hdecision, hmem]
  · rw [hroute] at hallowed
    exact absurd hallowed (by simp)

/-- A guest of the public network who asks the enterprise for a mass download. -/
def guestRequest : AccessContext where
  userId := "guest"
  deviceId := "Phone-001"
  sourceIp := "192.168.100.50"
  destinationIp := "10.0.200.10"
  requestedResource := "mass_download"
  ssidName := "SmartBots"
  trustScore := 0

theorem evaluate_public_deny_iff_guest :
    (evaluate silentAdder { guestRequest with requestedResource := "file-server" } ()).1 =
      .deny :=
  (evaluate_public_deny_iff silentAdder _ () (by decide)).mpr (by decide)

theorem guestRequest_not_denied :
    zoneOf guestRequest.sourceIp zoneMap = ("public" : ByteString) ∧
      zoneOf guestRequest.destinationIp zoneMap = ("enterprise" : ByteString) ∧
      (evaluate silentAdder guestRequest ()).1 = .mfaRequired := by
  decide

section Dispatch

open PolicyEngine

/-- The dispatcher's components with this engine. -/
def withZeroTrust (effectors : Effectors σ) : Effectors σ :=
  { effectors with evaluate := evaluate effectors.auditAdder }

/-- No agent that may deny is in the directory under the name that is assessed. -/
theorem assessment_not_known {agentName : ByteString}
    (hagent : canZerotrustDeny agentName = true) :
    agentName ++ ("_assessment" : ByteString) ∉ knownUsers := by
  have hagents : ∀ name ∈ zerotrustDenyAgents,
      name ++ ("_assessment" : ByteString) ∉ knownUsers := by decide
  exact hagents agentName (List.contains_iff_mem.mp hagent)

/-- The dispatcher's assessment comes from no zone and asks for the enterprise: it is
quarantined, unless the agent's output names an anomalous action as the resource. -/
theorem decisionOf_assessment {agentName : ByteString}
    (hagent : canZerotrustDeny agentName = true) {ctx : AccessContext}
    (huser : ctx.userId = agentName ++ ("_assessment" : ByteString))
    (hsource : ctx.sourceIp = ("0.0.0.0" : ByteString))
    (hdestination : ctx.destinationIp = ("10.0.200.1" : ByteString)) :
    (decisionOf ctx).1 =
      if ctx.requestedResource ∈ anomalousActions then .mfaRequired else .quarantine := by
  have hscore : calculateTrustScore ctx ≤ 20 :=
    calculateTrustScore_le_of_unknown (huser ▸ assessment_not_known hagent)
  have hroute : isCrossZoneAllowed (zoneOf ctx.sourceIp zoneMap)
      (zoneOf ctx.destinationIp zoneMap) "staff" = true := by
    rw [hsource, hdestination]
    decide
  obtain ⟨hanomalous, hdecision⟩ | ⟨hregular, ⟨hdenied, -⟩ | ⟨-, hscored⟩⟩ :=
    decisionOf_cases ctx
  · rw [hdecision, if_pos (by simpa [isAnomalousBehavior] using hanomalous)]
  · rw [hroute] at hdenied
    exact absurd hdenied (by simp)
  · rw [if_neg (by simpa [isAnomalousBehavior] using hregular)]
    obtain ⟨hfull, -⟩ | ⟨hlimited, -⟩ | ⟨-, hdecision⟩ := hscored
    · omega
    · omega
    · exact hdecision

/-- An authorised agent's denial takes its action unless the resource it names is one of the
anomalous actions. -/
theorem tryZerotrustDeny_taken (texts : Texts) (effectors : Effectors σ)
    {outputJson agentName : ByteString} (hagent : canZerotrustDeny agentName = true)
    (out : DispatchResult) (world : σ) :
    ((tryZerotrustDeny texts (withZeroTrust effectors) outputJson agentName out world).1.map
        Prod.fst) =
      some (decide ((deviceOf texts outputJson).2 ∉ anomalousActions)) := by
  have hflagged : ("/ai_flagged_resource" : ByteString) ∉ anomalousActions := by decide
  have hempty : ([] : ByteString) ∉ anomalousActions := by decide
  simp only [tryZerotrustDeny, hagent, Bool.true_eq_false, if_false, withZeroTrust, evaluate]
  rw [decisionOf_assessment hagent rfl rfl rfl]
  by_cases hresource : (deviceOf texts outputJson).2 = []
  · simp [hresource, hflagged, hempty]
  · by_cases hanomalous : (deviceOf texts outputJson).2 ∈ anomalousActions
    · simp [hresource, hanomalous]
    · simp [hresource, hanomalous]

end Dispatch

end Astartis.ZeroTrustEngine
