import Astartis.ByteString

/-!
The admission of devices to the network: 802.1X, the directory, the posture of the device, and
the decision that follows from them.
-/

namespace Astartis.NacWorkflow

/-- The four flags that count. -/
structure DevicePosture where
  osUpdated : Bool
  antivirusRunning : Bool
  diskEncrypted : Bool
  firewallEnabled : Bool
deriving DecidableEq

structure IdentityCredentials where
  username : ByteString
  domain : ByteString
deriving DecidableEq

structure AccessRequest where
  deviceMac : ByteString
  deviceName : ByteString
  ssidName : ByteString
  identity : IdentityCredentials
  posture : DevicePosture
deriving DecidableEq

inductive NacResult
  | allowFull
  | allowLimited
  | mfaRequired
  | quarantine
  | deny
deriving DecidableEq

/-- `reauthInterval` is in seconds. -/
structure NacDecision where
  result : NacResult
  assignedVlan : ByteString
  assignedRole : ByteString
  accessibleResources : List ByteString := []
  remediationReason : ByteString
  reauthInterval : Int := 3600
deriving DecidableEq

inductive Step
  | connect
  | auth8021x
  | verifyIdentity
  | postureCheck
  | applyPolicy
  | rbacAssign
  | continuousMonitor
  | remediate
deriving DecidableEq

structure StepResult where
  step : Step
  passed : Bool
  detail : ByteString
  durationMs : Int
deriving DecidableEq

/-- `KNOWN_DEVICES` -/
def knownDevices : List ByteString :=
  ["aa:bb:cc:dd:ee:ff", "11:22:33:44:55:66", "de:ad:be:ef:00:01"]

/-- `USER_ROLES` -/
def userRoles : List (ByteString × ByteString) :=
  [("kgosi.blanda", "it_admin"), ("admin", "it_admin"), ("user1", "staff"), ("user2", "staff"),
    ("contractor1", "contractor"), ("guest", "guest")]

/-- `ROLE_RESOURCES` -/
def roleResources : List (ByteString × List ByteString) :=
  [("it_admin", ["file-server", "admin-portal", "print-server", "dc01", "backup-repo"]),
    ("staff", ["file-server", "print-server", "intranet"]), ("contractor", ["intranet"]),
    ("guest", [])]

/-- `std::tolower` on every byte. -/
def lowerMac (mac : ByteString) : ByteString :=
  mac.map fun b => if 65 ≤ b ∧ b ≤ 90 then b + 32 else b

def isKnownDevice (mac : ByteString) : Bool :=
  knownDevices.contains (lowerMac mac)

def isCompliant (posture : DevicePosture) : Bool :=
  posture.osUpdated && posture.antivirusRunning && posture.diskEncrypted &&
    posture.firewallEnabled

def authenticate8021x (ssidName : ByteString) (creds : IdentityCredentials) : Bool :=
  if ssidName = ("SmartBots" : ByteString) then true
  else !creds.username.isEmpty && !creds.domain.isEmpty

def verifyIdentity (creds : IdentityCredentials) : Bool :=
  (userRoles.lookup creds.username).isSome

/-- The domain is not looked at. -/
def determineRole (username _domain : ByteString) : ByteString :=
  (userRoles.lookup username).getD "guest"

def resourcesForRole (role : ByteString) : List ByteString :=
  (roleResources.lookup role).getD []

def buildDecision (identityOk postureOk : Bool) (role ssidName : ByteString) : NacDecision :=
  if ssidName = ("SmartBots" : ByteString) then
    { result := .allowLimited
      assignedVlan := "VLAN_100"
      assignedRole := "guest"
      remediationReason := [] }
  else if !identityOk then
    { result := .deny
      assignedVlan := []
      assignedRole := "none"
      remediationReason := "Identity verification failed — unknown user or bad credentials" }
  else if !postureOk then
    { result := .quarantine
      assignedVlan := "VLAN_300"
      assignedRole := "quarantine"
      remediationReason :=
        "Device posture non-compliant — run OS updates and enable encryption"
      reauthInterval := 300 }
  else
    { result := .allowFull
      assignedVlan := "VLAN_200"
      assignedRole := role
      accessibleResources := resourcesForRole role
      remediationReason := [] }

def process (req : AccessRequest) : NacDecision :=
  let identityOk := authenticate8021x req.ssidName req.identity && verifyIdentity req.identity
  let postureOk := isCompliant req.posture
  let role :=
    if identityOk then determineRole req.identity.username req.identity.domain
    else ("guest" : ByteString)
  buildDecision identityOk postureOk role req.ssidName

def makeStep (step : Step) (passed : Bool) (detail : ByteString) : StepResult :=
  ⟨step, passed, detail, 1⟩

def postureDetail (posture : DevicePosture) : ByteString :=
  if isCompliant posture then
    "Device posture compliant (OS updated, AV running, disk encrypted, firewall on)"
  else
    ("Posture NON-COMPLIANT:" : ByteString) ++
      (if !posture.osUpdated then (" [OS not updated]" : ByteString) else []) ++
      (if !posture.antivirusRunning then (" [AV not running]" : ByteString) else []) ++
      (if !posture.diskEncrypted then (" [disk not encrypted]" : ByteString) else []) ++
      (if !posture.firewallEnabled then (" [firewall disabled]" : ByteString) else [])

def policyDetail (vlan role : ByteString) : ByteString :=
  ("Policy: VLAN=" : ByteString) ++ vlan ++ (" role=" : ByteString) ++ role

def rbacDetail (role : ByteString) (resources : List ByteString) : ByteString :=
  ("RBAC: role=" : ByteString) ++ role ++ (" resources=" : ByteString) ++
    ByteString.decimal resources.length

def processVerbose (req : AccessRequest) : List StepResult :=
  let authOk := authenticate8021x req.ssidName req.identity
  let idOk := authOk && verifyIdentity req.identity
  let postureOk := isCompliant req.posture
  let role :=
    if idOk then determineRole req.identity.username req.identity.domain
    else ("guest" : ByteString)
  let decision := buildDecision idOk postureOk role req.ssidName
  let policyOk := decision.result = .allowFull || decision.result = .allowLimited
  let needsRemediation := decision.result = .quarantine || decision.result = .deny
  [makeStep .connect true
      (("Device " : ByteString) ++ req.deviceName ++ (" (" : ByteString) ++ req.deviceMac ++
        (") connected to " : ByteString) ++ req.ssidName),
    makeStep .auth8021x authOk
      (if authOk then
        ("802.1X EAP accepted for " : ByteString) ++ req.identity.username ++
          ("@" : ByteString) ++ req.identity.domain
      else "802.1X EAP rejected — missing credentials"),
    makeStep .verifyIdentity idOk
      (("AD/LDAP: user '" : ByteString) ++ req.identity.username ++
        (if idOk then ("' found in directory" : ByteString) else "' not found")),
    makeStep .postureCheck postureOk (postureDetail req.posture),
    makeStep .applyPolicy policyOk (policyDetail decision.assignedVlan decision.assignedRole),
    -- the role that was looked up, not the one of the decision
    makeStep .rbacAssign (policyOk && idOk) (rbacDetail role decision.accessibleResources),
    makeStep .continuousMonitor true
      (("Continuous monitoring enabled — reauth in " : ByteString) ++
        ByteString.decimal decision.reauthInterval ++ ("s" : ByteString)),
    makeStep .remediate (!needsRemediation)
      (if needsRemediation then
        ("Remediation required: " : ByteString) ++ decision.remediationReason
      else "No remediation needed")]

/-- The user has authenticated and is in the directory. -/
def identityOk (req : AccessRequest) : Bool :=
  authenticate8021x req.ssidName req.identity && verifyIdentity req.identity

section Decisions

variable (req : AccessRequest)

/-- The four decisions, each with what leads to it. -/
theorem process_cases :
    (req.ssidName = ("SmartBots" : ByteString) ∧
        process req = ⟨.allowLimited, "VLAN_100", "guest", [], [], 3600⟩) ∨
      req.ssidName ≠ ("SmartBots" : ByteString) ∧
        ((identityOk req = false ∧
            process req = ⟨.deny, [], "none", [],
              "Identity verification failed — unknown user or bad credentials", 3600⟩) ∨
          (identityOk req = true ∧ isCompliant req.posture = false ∧
            process req = ⟨.quarantine, "VLAN_300", "quarantine", [],
              "Device posture non-compliant — run OS updates and enable encryption", 300⟩) ∨
          (identityOk req = true ∧ isCompliant req.posture = true ∧
            process req = ⟨.allowFull, "VLAN_200",
              determineRole req.identity.username req.identity.domain,
              resourcesForRole (determineRole req.identity.username req.identity.domain), [],
              3600⟩)) := by
  have hprocess : process req = buildDecision (identityOk req) (isCompliant req.posture)
      (if identityOk req then determineRole req.identity.username req.identity.domain
        else ("guest" : ByteString)) req.ssidName := rfl
  rw [hprocess, buildDecision]
  split
  · rename_i hpublic
    exact .inl ⟨hpublic, rfl⟩
  rename_i hssid
  refine .inr ⟨hssid, ?_⟩
  cases hidentity : identityOk req with
  | false => exact .inl ⟨rfl, rfl⟩
  | true =>
      cases hposture : isCompliant req.posture with
      | false => exact .inr (.inl ⟨rfl, rfl, rfl⟩)
      | true => exact .inr (.inr ⟨rfl, rfl, rfl⟩)

/-- Full access is what a user of the directory gets on a compliant device, wherever 802.1X
asks for credentials. -/
theorem process_allowFull_iff :
    (process req).result = .allowFull ↔ req.ssidName ≠ ("SmartBots" : ByteString) ∧
      identityOk req = true ∧ isCompliant req.posture = true := by
  obtain ⟨hssid, hdecision⟩ | ⟨hssid, ⟨hidentity, hdecision⟩ | ⟨hidentity, hposture, hdecision⟩ |
    ⟨hidentity, hposture, hdecision⟩⟩ := process_cases req
  · simp [hdecision, hssid]
  · simp [hdecision, hidentity]
  · simp [hdecision, hposture]
  · simp [hdecision, hssid, hidentity, hposture]

theorem isCompliant_iff (posture : DevicePosture) :
    isCompliant posture = true ↔ posture.osUpdated = true ∧ posture.antivirusRunning = true ∧
      posture.diskEncrypted = true ∧ posture.firewallEnabled = true := by
  simp only [isCompliant, Bool.and_eq_true, and_assoc]

theorem lookup_resourcesForRole {role : ByteString} (hresources : resourcesForRole role ≠ []) :
    roleResources.lookup role = some (resourcesForRole role) := by
  rw [resourcesForRole] at hresources ⊢
  cases hrole : roleResources.lookup role with
  | none => exact absurd (by rw [hrole]; rfl) hresources
  | some resources => rfl

theorem lookup_determineRole {creds : IdentityCredentials}
    (hverified : verifyIdentity creds = true) :
    userRoles.lookup creds.username = some (determineRole creds.username creds.domain) := by
  obtain ⟨role, hrole⟩ := Option.isSome_iff_exists.mp hverified
  rw [determineRole, hrole, Option.getD_some]

/-- Internal resources are for authenticated users of the directory on compliant devices; the
public network and the remediation VLAN have none. -/
theorem process_confined :
    ((process req).accessibleResources ≠ [] →
      (process req).result = .allowFull ∧ req.ssidName ≠ ("SmartBots" : ByteString) ∧
        authenticate8021x req.ssidName req.identity = true ∧
        (req.posture.osUpdated = true ∧ req.posture.antivirusRunning = true ∧
          req.posture.diskEncrypted = true ∧ req.posture.firewallEnabled = true) ∧
        ∃ role, userRoles.lookup req.identity.username = some role ∧
          roleResources.lookup role = some (process req).accessibleResources) ∧
    (req.ssidName = ("SmartBots" : ByteString) →
      (process req).assignedVlan = ("VLAN_100" : ByteString) ∧
        (process req).assignedRole = ("guest" : ByteString) ∧
        (process req).accessibleResources = []) ∧
    (req.ssidName ≠ ("SmartBots" : ByteString) →
      authenticate8021x req.ssidName req.identity = true →
      (∃ role, userRoles.lookup req.identity.username = some role) →
      isCompliant req.posture = false →
      (process req).assignedVlan = ("VLAN_300" : ByteString) ∧
        (process req).accessibleResources = []) := by
  obtain ⟨hssid, hdecision⟩ | ⟨hssid, ⟨hidentity, hdecision⟩ | ⟨hidentity, hposture, hdecision⟩ |
    ⟨hidentity, hposture, hdecision⟩⟩ := process_cases req
  · rw [hdecision]
    exact ⟨fun hresources => absurd rfl hresources, fun _ => ⟨rfl, rfl, rfl⟩,
      fun hother => absurd hssid hother⟩
  · rw [hdecision]
    refine ⟨fun hresources => absurd rfl hresources, fun hpublic => absurd hpublic hssid, ?_⟩
    intro _ hauthenticated hknown _
    have hverified : verifyIdentity req.identity = true := Option.isSome_iff_exists.mpr hknown
    simp [identityOk, hauthenticated, hverified] at hidentity
  · rw [hdecision]
    exact ⟨fun hresources => absurd rfl hresources, fun hpublic => absurd hpublic hssid,
      fun _ _ _ _ => ⟨rfl, rfl⟩⟩
  · rw [hdecision]
    refine ⟨?_, fun hpublic => absurd hpublic hssid, ?_⟩
    · intro hresources
      obtain ⟨hauthenticated, hverified⟩ := Bool.and_eq_true_iff.mp hidentity
      exact ⟨rfl, hssid, hauthenticated, (isCompliant_iff req.posture).mp hposture,
        _, lookup_determineRole hverified, lookup_resourcesForRole hresources⟩
    · intro _ _ _ hother
      rw [hposture] at hother
      exact absurd hother (by simp)

/-- What the verbose run shows is what the decision says. -/
structure TraceAgrees : Prop where
  steps : (processVerbose req).map StepResult.step =
    [.connect, .auth8021x, .verifyIdentity, .postureCheck, .applyPolicy, .rbacAssign,
      .continuousMonitor, .remediate]
  policy : ∀ shown ∈ processVerbose req, shown.step = .applyPolicy →
    (shown.passed = true ↔
      (process req).result = .allowFull ∨ (process req).result = .allowLimited) ∧
    shown.detail = policyDetail (process req).assignedVlan (process req).assignedRole
  rbac : ∀ shown ∈ processVerbose req, shown.step = .rbacAssign →
    shown.detail = rbacDetail (process req).assignedRole (process req).accessibleResources

/-- The role that the verbose run looks up is the one that the decision assigns. -/
def RoleAssigned : Prop :=
  if req.ssidName = ("SmartBots" : ByteString) then
    determineRole req.identity.username req.identity.domain = ("guest" : ByteString)
  else identityOk req = true ∧ isCompliant req.posture = true

instance : Decidable (RoleAssigned req) :=
  inferInstanceAs (Decidable (if req.ssidName = ("SmartBots" : ByteString) then _ else _))

/-- `role` of the verbose run. -/
def lookedUpRole : ByteString :=
  if identityOk req then determineRole req.identity.username req.identity.domain
  else "guest"

theorem processVerbose_steps :
    (processVerbose req).map StepResult.step =
      [.connect, .auth8021x, .verifyIdentity, .postureCheck, .applyPolicy, .rbacAssign,
        .continuousMonitor, .remediate] := rfl

theorem eq_policyStep {shown : StepResult} (hshown : shown ∈ processVerbose req)
    (hstep : shown.step = .applyPolicy) :
    shown = makeStep .applyPolicy
      ((process req).result = .allowFull || (process req).result = .allowLimited)
      (policyDetail (process req).assignedVlan (process req).assignedRole) := by
  simp only [processVerbose, List.mem_cons, List.not_mem_nil, or_false] at hshown
  rcases hshown with rfl | rfl | rfl | rfl | rfl | rfl | rfl | rfl <;>
    simp only [makeStep, reduceCtorEq] at hstep
  rfl

theorem eq_rbacStep {shown : StepResult} (hshown : shown ∈ processVerbose req)
    (hstep : shown.step = .rbacAssign) :
    shown.detail = rbacDetail (lookedUpRole req) (process req).accessibleResources := by
  simp only [processVerbose, List.mem_cons, List.not_mem_nil, or_false] at hshown
  rcases hshown with rfl | rfl | rfl | rfl | rfl | rfl | rfl | rfl <;>
    simp only [makeStep, reduceCtorEq] at hstep
  rfl

theorem rbacDetail_inj {role role' : ByteString} {resources : List ByteString} :
    rbacDetail role resources = rbacDetail role' resources ↔ role = role' := by
  simp only [rbacDetail, List.append_assoc, List.append_cancel_left_eq, List.append_left_inj]

/-- No role of the directory is one of those that a refusal assigns. -/
theorem determineRole_ne {username domain : ByteString} :
    determineRole username domain ≠ ("quarantine" : ByteString) ∧
      determineRole username domain ≠ ("none" : ByteString) := by
  have hroles : ∀ entry ∈ userRoles, entry.2 ≠ ("quarantine" : ByteString) ∧
      entry.2 ≠ ("none" : ByteString) := by decide +kernel
  rw [determineRole]
  cases hrole : userRoles.lookup username with
  | none => decide
  | some role =>
      obtain ⟨before, after, hsplit, -⟩ := List.lookup_eq_some_iff.mp hrole
      exact hroles (username, role) (by rw [hsplit]; simp)

theorem lookedUpRole_eq_iff :
    lookedUpRole req = (process req).assignedRole ↔ RoleAssigned req := by
  obtain ⟨hssid, hdecision⟩ | ⟨hssid, ⟨hidentity, hdecision⟩ | ⟨hidentity, hposture, hdecision⟩ |
    ⟨hidentity, hposture, hdecision⟩⟩ := process_cases req
  · rw [RoleAssigned, if_pos hssid, hdecision, lookedUpRole]
    split
    · rfl
    · rename_i hunverified
      -- a user without an entry is a guest
      have hverified : verifyIdentity req.identity = false := by
        simpa only [identityOk, authenticate8021x, hssid, if_true, Bool.true_and,
          Bool.not_eq_true] using hunverified
      have hnone : userRoles.lookup req.identity.username = none := by
        rw [← Option.isNone_iff_eq_none]
        exact Option.isSome_eq_false_iff.mp hverified
      rw [determineRole, hnone, Option.getD_none]
  · rw [RoleAssigned, if_neg hssid, hdecision, lookedUpRole, hidentity]
    simp only [Bool.false_eq_true, if_false, false_and, iff_false]
    decide
  · rw [RoleAssigned, if_neg hssid, hdecision, lookedUpRole, hidentity, hposture]
    simp [determineRole_ne]
  · rw [RoleAssigned, if_neg hssid, hdecision, lookedUpRole, hidentity, hposture]
    simp

/-- The verbose run agrees with the decision exactly where the role that it looks up is the one
assigned. -/
theorem processVerbose_agrees_iff : TraceAgrees req ↔ RoleAssigned req := by
  rw [← lookedUpRole_eq_iff]
  constructor
  · intro hagrees
    have hmem : ∃ shown ∈ processVerbose req, shown.step = .rbacAssign := by
      simp [processVerbose, makeStep]
    obtain ⟨shown, hshown, hstep⟩ := hmem
    have hdetail := hagrees.rbac shown hshown hstep
    rw [eq_rbacStep req hshown hstep, rbacDetail_inj] at hdetail
    exact hdetail
  · intro hrole
    refine ⟨processVerbose_steps req, ?_, ?_⟩
    · intro shown hshown hstep
      rw [eq_policyStep req hshown hstep]
      exact ⟨by simp [makeStep], rfl⟩
    · intro shown hshown hstep
      rw [eq_rbacStep req hshown hstep, hrole]

/-- Full access is for a device of the registry, however its address is written. -/
def FullOnlyIfKnown : Prop :=
  (process req).result = .allowFull →
    ∀ mac, lowerMac mac = lowerMac req.deviceMac → isKnownDevice mac = true

theorem isKnownDevice_congr {mac mac' : ByteString} (hmac : lowerMac mac = lowerMac mac') :
    isKnownDevice mac = isKnownDevice mac' := by
  rw [isKnownDevice, isKnownDevice, hmac]

/-- The decision does not look at the registry, so a device outside it is kept from full access
only by what else the request lacks. -/
theorem fullOnlyIfKnown_iff :
    FullOnlyIfKnown req ↔ isKnownDevice req.deviceMac = true ∨
      req.ssidName = ("SmartBots" : ByteString) ∨ identityOk req = false ∨
        isCompliant req.posture = false := by
  rw [FullOnlyIfKnown, process_allowFull_iff]
  constructor
  · intro hknown
    by_contra hother
    simp only [not_or, Bool.not_eq_false] at hother
    obtain ⟨hunknown, hssid, hidentity, hposture⟩ := hother
    exact hunknown (hknown ⟨hssid, hidentity, hposture⟩ req.deviceMac rfl)
  · rintro (hknown | hother) ⟨hssid, hidentity, hposture⟩ mac hmac
    · rw [isKnownDevice_congr hmac, hknown]
    · simp [hssid, hidentity, hposture] at hother

end Decisions

/-- An administrator on a compliant device. -/
def adminRequest : AccessRequest where
  deviceMac := "11:22:33:44:55:66"
  deviceName := "IT-Laptop-001"
  ssidName := "eGov"
  identity := ⟨"kgosi.blanda", "egov.gov.bw"⟩
  posture := ⟨true, true, true, true⟩

/-- On the public network he is assigned the role of a guest and shown his own. -/
theorem publicAdmin_not_traceAgrees :
    ¬ TraceAgrees { adminRequest with ssidName := "SmartBots" } := by
  intro hagrees
  have hrole := hagrees.rbac (makeStep .rbacAssign true (rbacDetail "it_admin" []))
    (by decide +kernel) rfl
  rw [show (process { adminRequest with ssidName := "SmartBots" }).assignedRole =
    ("guest" : ByteString) from rfl] at hrole
  exact absurd (rbacDetail_inj.mp hrole) (by decide)

/-- Any other device with his credentials and his posture gets what his own gets. -/
theorem strangeDevice_full :
    ¬ FullOnlyIfKnown { adminRequest with deviceMac := "00:00:00:00:00:00" } := by
  intro hknown
  exact absurd (hknown (by decide +kernel) "00:00:00:00:00:00" rfl) (by decide +kernel)

end Astartis.NacWorkflow
