import Astartis.BlockLimit
import Astartis.CommandLine
import Astartis.RemoteAddress
import Astartis.RuleNames

/-!
What a block of an address reaches.  The allowlist is compared with the text of the address, while
the text goes to the command line of `netsh`, which takes it as a list of sets of addresses.
-/

namespace Astartis.Firewall

open Audit
open CommandLine
open RemoteAddress

def Direction.text : Direction → ByteString
  | .inbound => "in"
  | .outbound => "out"

/-- The arguments that `add_rule` writes for `netsh`. -/
def addRuleArgs (name ip : ByteString) (dir : Direction) : ByteString :=
  ("advfirewall firewall add rule" : ByteString) ++ (" name=\"" : ByteString) ++ name ++
    ("\"" : ByteString) ++ (" protocol=any" : ByteString) ++
    (" dir=" : ByteString) ++ dir.text ++ (" action=block" : ByteString) ++
    (" remoteip=" : ByteString) ++ ip

/-- The command line of `run_netsh`. -/
def netshLine (args : ByteString) : ByteString :=
  ("netsh " : ByteString) ++ args

def addRuleOptions (name ip : ByteString) (dir : Direction) : List ByteString :=
  ["netsh", "advfirewall", "firewall", "add", "rule", ("name=" : ByteString) ++ name,
    "protocol=any", ("dir=" : ByteString) ++ dir.text, "action=block",
    ("remoteip=" : ByteString) ++ ip]

section Options

def addRuleLayout (dir : Direction) : Layout where
  start := "netsh advfirewall firewall add rule name=\""
  options := ("protocol=any dir=" : ByteString) ++ dir.text ++
    (" action=block remoteip=" : ByteString)
  before := ["netsh", "advfirewall", "firewall", "add", "rule"]
  nameKey := "name="
  later := ["protocol=any", ("dir=" : ByteString) ++ dir.text, "action=block"]
  key := "remoteip="
  run_start := by decide +kernel
  run_options := by cases dir <;> decide +kernel
  length_start := by decide +kernel
  length_options := by cases dir <;> decide +kernel
  start_zero := by decide +kernel
  options_zero := by cases dir <;> decide +kernel

theorem netshLine_eq (name ip : ByteString) (dir : Direction) :
    netshLine (addRuleArgs name ip dir) = (addRuleLayout dir).line name ip := by
  have hstart : (addRuleLayout dir).start = ("netsh " : ByteString) ++
      ("advfirewall firewall add rule" : ByteString) ++ (" name=\"" : ByteString) := by
    cases dir <;> decide +kernel
  have hoptions : 34 :: 32 :: (addRuleLayout dir).options = ("\"" : ByteString) ++
      (" protocol=any" : ByteString) ++ (" dir=" : ByteString) ++ dir.text ++
      (" action=block" : ByteString) ++ (" remoteip=" : ByteString) := by
    cases dir <;> decide +kernel
  rw [Layout.line, hstart, hoptions]
  simp only [netshLine, addRuleArgs, List.append_assoc]

theorem addRuleOptions_eq (name ip : ByteString) (dir : Direction) :
    addRuleOptions name ip dir = (addRuleLayout dir).written name ip := rfl

/-- The two calls for a block get the options that are written for them. -/
def ActiveBlock.TakenAsWritten (ab : ActiveBlock) : Prop :=
  arguments (netshLine (addRuleArgs ab.ruleNameIn ab.ip .inbound)) =
      addRuleOptions ab.ruleNameIn ab.ip .inbound ∧
    arguments (netshLine (addRuleArgs ab.ruleNameOut ab.ip .outbound)) =
      addRuleOptions ab.ruleNameOut ab.ip .outbound

theorem mem_safeIp {ip : ByteString} {b : UInt8} (hb : b ≠ 45 ∧ b ≠ 46 ∧ b ≠ 58) :
    b ∈ safeIp ip ↔ b ∈ ip := by
  rw [safeIp, List.mem_map]
  constructor
  · rintro ⟨c, hc, rfl⟩
    split at hb
    · exact absurd rfl hb.1
    · rename_i hother
      rw [if_neg hother]
      exact hc
  · intro hmem
    exact ⟨b, hmem, if_neg (not_or.mpr hb.2)⟩

/-- A stem has a quote or a zero byte exactly if the address has one. -/
theorem mem_makeRuleStem {ms : Int64} {ip : ByteString} {b : UInt8} (hb : b = 0 ∨ b = 34) :
    b ∈ makeRuleStem ms ip ↔ b ∈ ip := by
  have hnumber : b ∉ ByteString.decimal ms.toInt := by
    have hdigits : ∀ n, b ∉ ByteString.natText 10 n := by
      intro n hmem
      obtain ⟨d, hd, hdigit⟩ := ByteString.mem_natText (by omega) hmem
      have hnat := congrArg UInt8.toNat hdigit
      rw [ByteString.digitByte_toNat (by omega), if_pos hd] at hnat
      rcases hb with rfl | rfl
      all_goals
        simp at hnat
        omega
    rw [ByteString.decimal]
    split
    · have hminus : b ≠ 45 := by
        rcases hb with rfl | rfl <;> decide
      simp [hminus, hdigits]
    · exact hdigits _
  have hfixed : b ∉ ("Astartis-Block-" : ByteString) ∧ b ∉ ("-" : ByteString) := by
    rcases hb with rfl | rfl <;> decide +kernel
  have hspelled : b ∈ safeIp ip ↔ b ∈ ip := by
    apply mem_safeIp
    rcases hb with rfl | rfl <;> decide
  rw [← hspelled]
  show b ∈ ("Astartis-Block-" : ByteString) ++ safeIp ip ++ ("-" : ByteString) ++
    ByteString.decimal ms.toInt ↔ b ∈ safeIp ip
  simp only [List.mem_append, hfixed, hnumber, false_or, or_false]

theorem takenAsWritten_iff (attempt : Attempt) (ip : ByteString) (ttl : Int32) :
    (FirewallBlocker.newBlock attempt ip ttl).TakenAsWritten ↔ Unbroken ip ∧ 0 ∉ ip := by
  have hcall : ∀ (dir : Direction) (back : ByteString) (last : UInt8),
      (last ≠ 0 ∧ last ≠ 34 ∧ last ≠ 92) → (0 ∉ back ∧ 34 ∉ back) →
      (arguments (netshLine (addRuleArgs
          (makeRuleStem attempt.stemMs ip ++ (back ++ [last])) ip dir)) =
        addRuleOptions (makeRuleStem attempt.stemMs ip ++ (back ++ [last])) ip dir ↔
          Unbroken ip ∧ 0 ∉ ip) := by
    intro dir back last hlast hback
    have hmem : ∀ b, b = 0 ∨ b = 34 → b ∉ back →
        (b ∈ makeRuleStem attempt.stemMs ip ++ back ↔ b ∈ ip) := by
      intro b hb hnot
      rw [List.mem_append, or_iff_left hnot, mem_makeRuleStem hb]
    rw [netshLine_eq, addRuleOptions_eq, ← List.append_assoc]
    exact Layout.arguments_line_iff hlast (hmem 34 (.inr rfl) hback.2) (hmem 0 (.inl rfl) hback.1)
  have hin := hcall .inbound [45, 105] 110 (by decide) (by decide)
  have hout := hcall .outbound [45, 111, 117] 116 (by decide) (by decide)
  show _ ∧ _ ↔ _
  constructor
  · rintro ⟨htaken, -⟩
    exact hin.mp htaken
  · intro hplain
    exact ⟨hin.mpr hplain, hout.mpr hplain⟩

end Options

/-- A block of the address gets the options that are written for it, and no set that the address
denotes contains an address of the allowlist. -/
structure FirewallBlocker.Confines (literal : ByteString → Option Address)
    (self : FirewallBlocker) (ab : ActiveBlock) : Prop where
  options : ab.TakenAsWritten
  spares : ∀ set, Denotes literal ab.ip set →
    ∀ entry ∈ self.allowlist, ∀ a, literal entry = some a → a ∉ set

theorem FirewallBlocker.confines_iff (literal : ByteString → Option Address)
    (self : FirewallBlocker) (attempt : Attempt) (ip : ByteString) (ttl : Int32) :
    self.Confines literal (newBlock attempt ip ttl) ↔ (Unbroken ip ∧ 0 ∉ ip) ∧
      ∀ entry ∈ self.allowlist, ∀ a, literal entry = some a → reaches literal ip a = false := by
  have hspares : (∀ set, Denotes literal ip set →
        ∀ entry ∈ self.allowlist, ∀ a, literal entry = some a → a ∉ set) ↔
      ∀ entry ∈ self.allowlist, ∀ a, literal entry = some a → reaches literal ip a = false := by
    simp only [← Bool.not_eq_true, reaches_iff, not_exists, not_and]
    constructor
    · intro h entry hentry a ha set hset
      exact h set hset entry hentry a ha
    · intro h set hset entry hentry a ha
      exact h entry hentry a ha set hset
  constructor
  · rintro ⟨hoptions, hset⟩
    exact ⟨(takenAsWritten_iff attempt ip ttl).mp hoptions, hspares.mp hset⟩
  · rintro ⟨hplain, hreaches⟩
    exact ⟨(takenAsWritten_iff attempt ip ttl).mpr hplain, hspares.mpr hreaches⟩

section Block

variable {σ : Type} (auditAdder : AuditAdder σ) (attempt : Attempt) (ip : ByteString)
  (ttlS : Int32) (self : FirewallBlocker) (rules : List Rule) (world : σ)

theorem FirewallBlocker.blocked_iff :
    (self.block auditAdder attempt ip ttlS rules world).1.blocked = true ↔
      self.Accepts attempt ip := by
  rw [Accepts, isBlocked, block]
  split
  · rename_i hlisted
    simp [List.contains_iff_mem.mp hlisted]
  · rename_i hlisted
    have hfree : ip ∉ self.allowlist := fun h => hlisted (List.contains_iff_mem.mpr h)
    split
    · rename_i hblocked
      simp [hblocked]
    · rename_i hblocked
      dsimp only
      split
      · rename_i hfailed
        simp [hfailed]
      · rename_i hfailed
        exact iff_of_true rfl ⟨hfree, Bool.not_eq_true _ ▸ hblocked, hfailed⟩

end Block

section Dispatch

open ActionDispatcher

variable {texts : Texts} {outputJson agentName ip : ByteString}

/-- The targets of a dispatch have digits and dots only. -/
theorem mem_of_mem_targets (hip : ip ∈ targets texts outputJson agentName) :
    ∀ b ∈ ip, (48 ≤ b.toNat ∧ b.toNat ≤ 57) ∨ b = 46 := by
  obtain ⟨⟨p, q, r, s, hgroups, hnumerals⟩, -⟩ := groups_of_mem_targets hip
  have hdigits : ∀ g ∈ [p, q, r, s], ∀ b ∈ g, 48 ≤ b.toNat ∧ b.toNat ≤ 57 :=
    fun g hg b hb => digit_bounds ((hnumerals g hg).digits b hb)
  simp only [List.forall_mem_cons, List.not_mem_nil, IsEmpty.forall_iff, implies_true,
    and_true] at hdigits
  obtain ⟨hp, hq, hr, hs⟩ := hdigits
  intro b hb
  rw [eq_of_groups hgroups] at hb
  simp only [List.mem_append, List.mem_cons] at hb
  rcases hb with hb | hb | hb | hb | hb | hb | hb
  · exact .inl (hp b hb)
  · exact .inr hb
  · exact .inl (hq b hb)
  · exact .inr hb
  · exact .inl (hr b hb)
  · exact .inr hb
  · exact .inl (hs b hb)

/-- A dispatch adds no option, and leaves the addresses of the allowlist alone unless its target
is another spelling of one of them. -/
theorem target_confined_iff (hip : ip ∈ targets texts outputJson agentName)
    (literal : ByteString → Option Address) (self : FirewallBlocker) (attempt : Attempt)
    (ttl : Int32) :
    self.Confines literal (FirewallBlocker.newBlock attempt ip ttl) ↔
      ∀ entry ∈ self.allowlist, ∀ a, literal entry = some a → literal ip ≠ some a := by
  have hbytes := mem_of_mem_targets hip
  have hother : ∀ b ∈ ([0, 9, 32, 34, 44, 45, 47] : ByteString), b ∉ ip := by
    have hnone : ∀ b ∈ ([0, 9, 32, 34, 44, 45, 47] : ByteString),
        ¬ ((48 ≤ b.toNat ∧ b.toNat ≤ 57) ∨ b = 46) := by
      decide +kernel
    intro b hb hmem
    exact hnone b hb (hbytes b hmem)
  have hany : ip.map lower ≠ ("any" : ByteString) := by
    intro heq
    have hmem : 97 ∈ ip.map lower := heq ▸ by decide +kernel
    obtain ⟨b, hb, hlower⟩ := List.mem_map.mp hmem
    rcases hbytes b hb with hdigit | rfl
    · rw [lower, if_neg] at hlower
      · rw [hlower] at hdigit
        exact absurd hdigit (by decide)
      · rw [UInt8.le_iff_toNat_le]
        rintro ⟨hcapital, -⟩
        have hcapital' : 65 ≤ b.toNat := hcapital
        omega
    · exact absurd hlower (by decide)
  have hplain : Unbroken ip ∧ 0 ∉ ip := by
    refine ⟨fun b hb => ⟨?_, ?_, ?_⟩, hother 0 (by decide)⟩
    all_goals
      rintro rfl
      exact absurd hb (hother _ (by decide))
  rw [FirewallBlocker.confines_iff, and_iff_right hplain]
  simp only [← Bool.not_eq_true, ne_eq, reaches_of_unmarked (hother 44 (by decide))
    (hother 45 (by decide)) (hother 47 (by decide)) hany]

end Dispatch

/-- Four octets in decimal. -/
def dottedQuad (text : ByteString) : Option Address :=
  match ActionDispatcher.groups text with
  | [a, b, c, d] =>
      let octets := [a, b, c, d].map ActionDispatcher.octet
      let number := octets.foldl (fun n octet => 256 * n + octet) 0
      if h : [a, b, c, d].all (fun g => !g.isEmpty && g.all Regex.isDigit) ∧
          (∀ octet ∈ octets, octet ≤ 255) ∧ number < 2 ^ Family.v4.width then
        some ⟨.v4, number, h.2.2⟩
      else none
  | _ => none

end Astartis.Firewall
