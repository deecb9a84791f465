import Mathlib.Data.List.Chain
import Astartis.NacWorkflow

/-!
The segments of the network: the configured SSIDs with their VLANs, the routes between VLANs,
and the VLAN that an admitted device is put into.
-/

namespace Astartis.Segmentation

open NacWorkflow

inductive SecurityPosture
  | filteredInternet
  | zeroTrust
  | management
deriving DecidableEq

/-- A bandwidth or a timeout of 0 stands for none. -/
structure SsidConfig where
  ssidName : ByteString
  vlanId : ByteString
  ipSubnet : ByteString
  gateway : ByteString
  posture : SecurityPosture
  clientIsolation : Bool
  requires8021x : Bool
  captivePortalUrl : ByteString
  bandwidthLimitMbps : Int
  sessionTimeoutMinutes : Int
deriving DecidableEq

def makePublicSsid : SsidConfig where
  ssidName := "SmartBots"
  vlanId := "VLAN_100"
  ipSubnet := "192.168.100.0/24"
  gateway := "192.168.100.1"
  posture := .filteredInternet
  clientIsolation := true
  requires8021x := false
  captivePortalUrl := "http://captive.astartis.local"
  bandwidthLimitMbps := 10
  sessionTimeoutMinutes := 60

def makeEnterpriseSsid : SsidConfig where
  ssidName := "eGov"
  vlanId := "VLAN_200"
  ipSubnet := "10.0.200.0/24"
  gateway := "10.0.200.1"
  posture := .zeroTrust
  clientIsolation := false
  requires8021x := true
  captivePortalUrl := []
  bandwidthLimitMbps := 0
  sessionTimeoutMinutes := 0

def makeManagementSsid : SsidConfig where
  ssidName := "Astartis-Admin"
  vlanId := "VLAN_999"
  ipSubnet := "10.0.99.0/24"
  gateway := "10.0.99.1"
  posture := .management
  clientIsolation := true
  requires8021x := true
  captivePortalUrl := []
  bandwidthLimitMbps := 100
  sessionTimeoutMinutes := 30

def vlanRoutingAllowed (fromVlan toVlan : ByteString) : Bool :=
  if fromVlan = ("VLAN_100" : ByteString) ∧ toVlan = ("VLAN_200" : ByteString) then false
  else if fromVlan = ("VLAN_100" : ByteString) ∧ toVlan = ("VLAN_999" : ByteString) then false
  else if fromVlan = ("VLAN_200" : ByteString) ∧ toVlan = ("VLAN_999" : ByteString) then false
  else true

def configuredSsids : List SsidConfig :=
  [makePublicSsid, makeEnterpriseSsid, makeManagementSsid]

section Routing

theorem vlanRoutingAllowed_public_iff {toVlan : ByteString} :
    vlanRoutingAllowed "VLAN_100" toVlan = true ↔
      toVlan ≠ ("VLAN_200" : ByteString) ∧ toVlan ≠ ("VLAN_999" : ByteString) := by
  have hother : ("VLAN_100" : ByteString) ≠ "VLAN_200" := by decide
  simp only [vlanRoutingAllowed, true_and, hother, false_and, if_false]
  split
  · rename_i hvlan
    simp [hvlan]
  rename_i henterprise
  split
  · rename_i hvlan
    simp [hvlan]
  · rename_i hmanagement
    simp [henterprise, hmanagement]

/-- Every VLAN but the public one routes into the enterprise. -/
theorem vlanRoutingAllowed_enterprise {fromVlan : ByteString}
    (hvlan : fromVlan ≠ ("VLAN_100" : ByteString)) :
    vlanRoutingAllowed fromVlan "VLAN_200" = true := by
  have hother : ("VLAN_200" : ByteString) ≠ "VLAN_999" := by decide
  simp [vlanRoutingAllowed, hvlan, hother]

/-- No route from the public VLAN leads to the enterprise or to the management, however many
hops it takes through VLANs that forward. -/
def PublicIsolated (forwards : ByteString → Prop) : Prop :=
  ∀ chain : List ByteString, (∀ vlan ∈ chain.dropLast, forwards vlan) →
    List.IsChain (fun fromVlan toVlan => vlanRoutingAllowed fromVlan toVlan = true)
      (("VLAN_100" : ByteString) :: chain) →
    chain.getLastD "VLAN_100" ≠ ("VLAN_200" : ByteString) ∧
      chain.getLastD "VLAN_100" ≠ ("VLAN_999" : ByteString)

/-- Through the configured VLANs a chain does not get beyond the public one before its last
hop. -/
theorem public_chain_isolated {chain : List ByteString}
    (hthrough : ∀ vlan ∈ chain.dropLast, vlan ∈ configuredSsids.map SsidConfig.vlanId)
    (hchain : List.IsChain (fun fromVlan toVlan => vlanRoutingAllowed fromVlan toVlan = true)
      (("VLAN_100" : ByteString) :: chain)) :
    chain.getLastD "VLAN_100" ≠ ("VLAN_200" : ByteString) ∧
      chain.getLastD "VLAN_100" ≠ ("VLAN_999" : ByteString) := by
  induction chain with
  | nil => decide
  | cons vlan rest ih =>
      obtain ⟨hhop, hrest⟩ := List.isChain_cons_cons.mp hchain
      obtain ⟨henterprise, hmanagement⟩ := vlanRoutingAllowed_public_iff.mp hhop
      rcases rest with _ | ⟨next, rest⟩
      · exact ⟨henterprise, hmanagement⟩
      · have hvlan : vlan ∈ configuredSsids.map SsidConfig.vlanId := hthrough vlan (by simp)
        have hpublic : vlan = ("VLAN_100" : ByteString) := by
          simpa [configuredSsids, makePublicSsid, makeEnterpriseSsid, makeManagementSsid,
            henterprise, hmanagement] using hvlan
        subst hpublic
        exact ih (fun vlan hmem => hthrough vlan (by simp [hmem])) hrest

/-- The rules isolate the public VLAN exactly as long as only the configured VLANs forward. -/
theorem publicIsolated_iff (forwards : ByteString → Prop) :
    PublicIsolated forwards ↔
      ∀ vlan, forwards vlan → vlan ∈ configuredSsids.map SsidConfig.vlanId := by
  constructor
  · intro hisolated vlan hforwards
    by_contra hvlan
    simp only [configuredSsids, List.map_cons, List.map_nil, List.mem_cons, List.not_mem_nil,
      or_false, not_or, makePublicSsid, makeEnterpriseSsid, makeManagementSsid] at hvlan
    obtain ⟨hpublic, henterprise, hmanagement⟩ := hvlan
    have hfirst : vlanRoutingAllowed "VLAN_100" vlan = true :=
      vlanRoutingAllowed_public_iff.mpr ⟨henterprise, hmanagement⟩
    have hchain : List.IsChain
        (fun fromVlan toVlan => vlanRoutingAllowed fromVlan toVlan = true)
        [("VLAN_100" : ByteString), vlan, ("VLAN_200" : ByteString)] :=
      .cons_cons hfirst (.cons_cons (vlanRoutingAllowed_enterprise hpublic) (.singleton _))
    exact (hisolated [vlan, "VLAN_200"] (by simpa using hforwards) hchain).1 rfl
  · intro hforwards chain hthrough hchain
    exact public_chain_isolated (fun vlan hmem => hforwards vlan (hthrough vlan hmem)) hchain

/-- The remediation VLAN leads from the public VLAN into the enterprise. -/
theorem remediation_not_isolated : ¬ PublicIsolated fun _ => True := by
  intro hisolated
  have hchain : List.IsChain
      (fun fromVlan toVlan => vlanRoutingAllowed fromVlan toVlan = true)
      [("VLAN_100" : ByteString), ("VLAN_300" : ByteString), ("VLAN_200" : ByteString)] :=
    .cons_cons (by decide) (.cons_cons (by decide) (.singleton _))
  exact (hisolated ["VLAN_300", "VLAN_200"] (by simp) hchain).1 rfl

end Routing

section Admission

variable (req : AccessRequest)

/-- The request ends with one of the two results that let the device in. -/
def LetIn : Prop :=
  (process req).result = .allowFull ∨ (process req).result = .allowLimited

/-- A device that is let in is on a configured SSID and gets the VLAN of that SSID. -/
def VlanFollowsSsid : Prop :=
  (∀ config ∈ configuredSsids, req.ssidName = config.ssidName → LetIn req →
    (process req).assignedVlan = config.vlanId) ∧
  ((∀ config ∈ configuredSsids, req.ssidName ≠ config.ssidName) → ¬ LetIn req)

theorem letIn_cases :
    (LetIn req ∧ req.ssidName = ("SmartBots" : ByteString) ∧
        (process req).assignedVlan = ("VLAN_100" : ByteString)) ∨
      (LetIn req ∧ req.ssidName ≠ ("SmartBots" : ByteString) ∧
        (identityOk req = true ∧ isCompliant req.posture = true) ∧
        (process req).assignedVlan = ("VLAN_200" : ByteString)) ∨
      (¬ LetIn req ∧ (identityOk req = false ∨ isCompliant req.posture = false)) := by
  rw [LetIn]
  obtain ⟨hssid, hdecision⟩ | ⟨hssid, ⟨hidentity, hdecision⟩ | ⟨hidentity, hposture, hdecision⟩ |
    ⟨hidentity, hposture, hdecision⟩⟩ := process_cases req
  · rw [hdecision]
    exact .inl ⟨.inr rfl, hssid, rfl⟩
  · rw [hdecision]
    exact .inr (.inr ⟨by simp, .inl hidentity⟩)
  · rw [hdecision]
    exact .inr (.inr ⟨by simp, .inr hposture⟩)
  · rw [hdecision]
    exact .inr (.inl ⟨.inl rfl, hssid, ⟨hidentity, hposture⟩, rfl⟩)

/-- The decision knows one SSID by name and treats every other one as the enterprise's. -/
theorem vlanFollowsSsid_iff :
    VlanFollowsSsid req ↔ req.ssidName = ("SmartBots" : ByteString) ∨
      req.ssidName = ("eGov" : ByteString) ∨ identityOk req = false ∨
        isCompliant req.posture = false := by
  have hnames : ("eGov" : ByteString) ≠ "SmartBots" ∧
      ("Astartis-Admin" : ByteString) ≠ "SmartBots" ∧
      ("Astartis-Admin" : ByteString) ≠ "eGov" ∧ ("VLAN_200" : ByteString) ≠ "VLAN_999" := by
    decide
  obtain ⟨hegov, hadmin, hadmin', hvlans⟩ := hnames
  simp only [VlanFollowsSsid, configuredSsids, List.forall_mem_cons, List.not_mem_nil,
    false_implies, implies_true, and_true, makePublicSsid, makeEnterpriseSsid,
    makeManagementSsid]
  obtain ⟨hletIn, hssid, hvlan⟩ | ⟨hletIn, hssid, ⟨hidentity, hposture⟩, hvlan⟩ |
    ⟨hrefused, hcause⟩ := letIn_cases req
  · simp [hssid, hvlan, Ne.symm hegov, Ne.symm hadmin]
  · simp only [hletIn, hssid, hvlan, hidentity, hposture, hvlans, false_implies, true_implies,
      not_true_eq_false, imp_false, Bool.true_eq_false, or_false, false_or, not_false_iff,
      true_and, implies_true, ne_eq]
    constructor
    · rintro ⟨hmanagement, hconfigured⟩
      by_contra henterprise
      exact hconfigured ⟨henterprise, hmanagement⟩
    · intro henterprise
      exact ⟨fun hmanagement => hadmin' (hmanagement.symm.trans henterprise),
        fun hother => hother.1 henterprise⟩
  · simp [hrefused, hcause]

/-- The administrator of the management network ends in the enterprise VLAN. -/
theorem managementRequest_not_followed :
    ¬ VlanFollowsSsid { adminRequest with ssidName := "Astartis-Admin" } := by
  intro hfollows
  have hvlan := hfollows.1 makeManagementSsid (by simp [configuredSsids]) rfl
    (.inl (by decide +kernel))
  exact absurd hvlan (by decide +kernel)

end Admission

end Astartis.Segmentation
