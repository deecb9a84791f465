import Std.Data.TreeMap
import Astartis.AuditChain

namespace Astartis.Firewall

open Audit

structure BlockResult where
  blocked : Bool
  reason : ByteString
  ruleNameIn : ByteString := []
  ruleNameOut : ByteString := []
deriving DecidableEq

structure ActiveBlock where
  ip : ByteString
  ruleNameIn : ByteString
  ruleNameOut : ByteString
  blockedAtMs : Int64
  expiresAtMs : Int64
  auditEntryId : ByteString
deriving DecidableEq

inductive Direction
  | inbound
  | outbound
deriving DecidableEq

/-- A block rule of the firewall. -/
structure Rule where
  name : ByteString
  remoteIp : ByteString
  dir : Direction
deriving DecidableEq

/-- `add_rule` with the outcome of its `netsh` call. -/
def addRule (ok : Bool) (name ip : ByteString) (dir : Direction) (rules : List Rule) :
    List Rule :=
  if ok then rules ++ [⟨name, ip, dir⟩] else rules

/-- `delete_rule` with the outcome of its `netsh` call, which deletes every rule of
that name. -/
def deleteRule (ok : Bool) (name : ByteString) (rules : List Rule) : List Rule :=
  if ok then rules.filter fun rule => rule.name ≠ name else rules

def makeRuleStem (nowMs : Int64) (ip : ByteString) : ByteString :=
  let safeIp := ip.map fun b => if b = 46 ∨ b = 58 then 45 else b
  ("Astartis-Block-" : ByteString) ++ safeIp ++ ("-" : ByteString) ++
    ByteString.decimal nowMs.toInt

def defaultTtlSeconds : Int32 := 900

/-- The object with the addresses that are never blocked. -/
structure FirewallBlocker where
  defaultTtlS : Int32 := defaultTtlSeconds
  allowlist : List ByteString := ["127.0.0.1", "::1", "0.0.0.0"]
  blocks : Std.TreeMap ByteString ActiveBlock := {}

/-- The clock readings and the outcomes of the two `netsh` calls of one `block`. -/
structure Attempt where
  stemMs : Int64
  nowMs : Int64
  addIn : Bool
  addOut : Bool

/-- The clock reading and the outcomes of the two `netsh` calls of one removal. -/
structure Removal where
  nowMs : Int64
  deleteIn : Bool
  deleteOut : Bool

def Removal.rules (removal : Removal) (ab : ActiveBlock) (rules : List Rule) : List Rule :=
  deleteRule removal.deleteOut ab.ruleNameOut
    (deleteRule removal.deleteIn ab.ruleNameIn rules)

namespace FirewallBlocker

variable {σ : Type} (auditAdder : AuditAdder σ)

def construct (defaultTtlS : Int32) (detected extraAllowlist : List ByteString) :
    FirewallBlocker :=
  { defaultTtlS := if 0 < defaultTtlS then defaultTtlS else defaultTtlSeconds
    allowlist := (["127.0.0.1", "::1", "0.0.0.0"] : List ByteString) ++ detected ++
      extraAllowlist }

def effectiveTtl (ttlS : Int32) (self : FirewallBlocker) : Int32 :=
  if 0 < ttlS then ttlS else self.defaultTtlS

def blockPayload (ttl : Int32) (ab : ActiveBlock) : ByteString :=
  ("ip=" : ByteString) ++ ab.ip ++ (" rule_in=" : ByteString) ++ ab.ruleNameIn ++
    (" rule_out=" : ByteString) ++ ab.ruleNameOut ++
    (" ttl_s=" : ByteString) ++ ByteString.decimal ttl.toInt ++
    (" expires_at_ms=" : ByteString) ++ ByteString.decimal ab.expiresAtMs.toInt

def unblockPayload (nowMs : Int64) (ab : ActiveBlock) : ByteString :=
  ("ip=" : ByteString) ++ ab.ip ++ (" rule_in=" : ByteString) ++ ab.ruleNameIn ++
    (" rule_out=" : ByteString) ++ ab.ruleNameOut ++
    (" blocked_at_ms=" : ByteString) ++ ByteString.decimal ab.blockedAtMs.toInt ++
    (" unblocked_at_ms=" : ByteString) ++ ByteString.decimal nowMs.toInt

/-- The record of a block, before its audit entry is written. -/
def newBlock (attempt : Attempt) (ip : ByteString) (ttl : Int32) : ActiveBlock :=
  let stem := makeRuleStem attempt.stemMs ip
  { ip := ip
    ruleNameIn := stem ++ ("-in" : ByteString)
    ruleNameOut := stem ++ ("-out" : ByteString)
    blockedAtMs := attempt.nowMs
    expiresAtMs := attempt.nowMs + ttl.toInt64 * 1000
    auditEntryId := [] }

def block (attempt : Attempt) (ip : ByteString) (ttlS : Int32) (self : FirewallBlocker)
    (rules : List Rule) (world : σ) : BlockResult × FirewallBlocker × List Rule × σ :=
  if self.allowlist.contains ip then
    ({ blocked := false
       reason := ("ip " : ByteString) ++ ip ++
        (" is in the allowlist (loopback/gateway/DNS) — not blocked" : ByteString) },
      self, rules, world)
  else if self.blocks.contains ip then
    ({ blocked := false
       reason := ("ip " : ByteString) ++ ip ++ (" is already blocked" : ByteString) },
      self, rules, world)
  else
    let ttl := self.effectiveTtl ttlS
    let ab := newBlock attempt ip ttl
    let rules := addRule attempt.addOut ab.ruleNameOut ip .outbound
      (addRule attempt.addIn ab.ruleNameIn ip .inbound rules)
    if attempt.addIn = false ∧ attempt.addOut = false then
      ({ blocked := false
         reason := ("netsh add rule failed for " : ByteString) ++ ip ++
          (" (not elevated?)" : ByteString) },
        self, rules, world)
    else
      let (auditEntryId, world) := auditAdder "firewall_block" (blockPayload ttl ab) world
      ({ blocked := true
         reason := "blocked"
         ruleNameIn := ab.ruleNameIn
         ruleNameOut := ab.ruleNameOut },
        { self with blocks := self.blocks.insert ip { ab with auditEntryId := auditEntryId } },
        rules, world)

/-- `do_unblock_locked` for the entry of `ip`. -/
def doUnblockLocked (removal : Removal) (ip : ByteString) (ab : ActiveBlock)
    (self : FirewallBlocker) (rules : List Rule) (world : σ) :
    FirewallBlocker × List Rule × σ :=
  ({ self with blocks := self.blocks.erase ip }, removal.rules ab rules,
    (auditAdder "firewall_unblock" (unblockPayload removal.nowMs ab) world).2)

def unblock (removal : Removal) (ip : ByteString) (self : FirewallBlocker)
    (rules : List Rule) (world : σ) : Bool × FirewallBlocker × List Rule × σ :=
  match self.blocks[ip]? with
  | none => (false, self, rules, world)
  | some ab => (true, self.doUnblockLocked auditAdder removal ip ab rules world)

/-- The loop over the entries in one turn of `expiry_loop`. -/
def expireEntries (now : Int64) (removals : ByteString → Removal) :
    List (ByteString × ActiveBlock) → FirewallBlocker × List Rule × σ →
      FirewallBlocker × List Rule × σ
  | [], state => state
  | (ip, ab) :: rest, (self, rules, world) =>
      if ab.expiresAtMs ≤ now then
        expireEntries now removals rest
          (self.doUnblockLocked auditAdder (removals ip) ip ab rules world)
      else expireEntries now removals rest (self, rules, world)

def expire (now : Int64) (removals : ByteString → Removal) (self : FirewallBlocker)
    (rules : List Rule) (world : σ) : FirewallBlocker × List Rule × σ :=
  expireEntries auditAdder now removals self.blocks.toList (self, rules, world)

/-- The destructor: the rules are deleted without an audit entry. -/
def destroy (removals : ByteString → Removal) (self : FirewallBlocker) (rules : List Rule) :
    FirewallBlocker × List Rule :=
  ({ self with blocks := {} },
    self.blocks.toList.foldl (fun rules kv => (removals kv.1).rules kv.2 rules) rules)

def isBlocked (ip : ByteString) (self : FirewallBlocker) : Bool :=
  self.blocks.contains ip

def activeBlocks (self : FirewallBlocker) : List ActiveBlock :=
  self.blocks.toList.map Prod.snd

end FirewallBlocker

end Astartis.Firewall
