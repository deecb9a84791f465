import Astartis.FirewallBlocker
import Astartis.TransitionSystem

/-!
The table of a `FirewallBlocker` against the rules that are installed.  Every `netsh` call
succeeds or fails on its own, and the table is updated as if both calls of a pair had.
-/

namespace Astartis.Firewall

open Audit
open TransitionSystem

/-- A blocker with the firewall it works on. -/
structure Host (σ : Type) where
  blocker : FirewallBlocker := {}
  rules : List Rule := []
  world : σ
  destroyed : Bool := false

inductive Operation
  | block (attempt : Attempt) (ip : ByteString) (ttlS : Int32)
  | unblock (removal : Removal) (ip : ByteString)
  | expire (now : Int64) (removals : ByteString → Removal)
  | destroy (removals : ByteString → Removal)

namespace Host

variable {σ : Type} (auditAdder : AuditAdder σ)

def perform (operation : Operation) (s : Host σ) : Host σ :=
  match operation with
  | .block attempt ip ttlS =>
      let (_, blocker, rules, world) :=
        s.blocker.block auditAdder attempt ip ttlS s.rules s.world
      { s with blocker := blocker, rules := rules, world := world }
  | .unblock removal ip =>
      let (_, blocker, rules, world) :=
        s.blocker.unblock auditAdder removal ip s.rules s.world
      { s with blocker := blocker, rules := rules, world := world }
  | .expire now removals =>
      let (blocker, rules, world) :=
        s.blocker.expire auditAdder now removals s.rules s.world
      { s with blocker := blocker, rules := rules, world := world }
  | .destroy removals =>
      let (blocker, rules) := s.blocker.destroy removals s.rules
      { s with blocker := blocker, rules := rules, destroyed := true }

/-- Operations run under the mutex, one after the other, until the destructor has run. -/
def system (blocker : FirewallBlocker) (world : σ) : System (Host σ) Operation where
  Init := fun s => blocker.blocks = {} ∧ s = { blocker := blocker, world := world }
  Step := fun s operation s' => s.destroyed = false ∧ s' = s.perform auditAdder operation

def Entry (s : Host σ) (ip : ByteString) (ab : ActiveBlock) : Prop :=
  s.blocker.blocks[ip]? = some ab

end Host

def ActiveBlock.Names (ab : ActiveBlock) (name : ByteString) : Prop :=
  name = ab.ruleNameIn ∨ name = ab.ruleNameOut

namespace Host

variable {σ : Type}

def Installed (s : Host σ) (name : ByteString) : Prop :=
  ∃ rule ∈ s.rules, rule.name = name

def Recorded (s : Host σ) (name : ByteString) : Prop :=
  ∃ ip ab, s.Entry ip ab ∧ ab.Names name

/-- The installed rules are those of the table, and each of its addresses is blocked in
both directions. -/
structure Mirrors (s : Host σ) : Prop where
  names : ∀ name, s.Installed name ↔ s.Recorded name
  both : ∀ ip ab, s.Entry ip ab →
    ⟨ab.ruleNameIn, ip, .inbound⟩ ∈ s.rules ∧ ⟨ab.ruleNameOut, ip, .outbound⟩ ∈ s.rules

/-- The entries that an operation removes. -/
def Removes (s : Host σ) : Operation → ByteString → ActiveBlock → Prop
  | .block .., _, _ => False
  | .unblock _ ip, ip', ab => ip' = ip ∧ s.Entry ip ab
  | .expire now _, ip, ab => s.Entry ip ab ∧ ab.expiresAtMs ≤ now
  | .destroy _, ip, ab => s.Entry ip ab

end Host

/-- A successful call of this removal deletes the rules of the name. -/
def Removal.Deletes (removal : Removal) (ab : ActiveBlock) (name : ByteString) : Prop :=
  (removal.deleteIn = true ∧ name = ab.ruleNameIn) ∨
    (removal.deleteOut = true ∧ name = ab.ruleNameOut)

/-- The calls of an operation for the entry of an address. -/
def Operation.removal? : Operation → ByteString → Option Removal
  | .block .., _ => none
  | .unblock removal _, _ => some removal
  | .expire _ removals, ip => some (removals ip)
  | .destroy removals, ip => some (removals ip)

theorem Removal.Deletes.names {removal : Removal} {ab : ActiveBlock} {name : ByteString}
    (h : removal.Deletes ab name) : ab.Names name := by
  rcases h with ⟨-, hname⟩ | ⟨-, hname⟩
  · exact .inl hname
  · exact .inr hname

theorem Removal.mem_rules (removal : Removal) (ab : ActiveBlock) (rules : List Rule)
    (rule : Rule) :
    rule ∈ removal.rules ab rules ↔ rule ∈ rules ∧ ¬ removal.Deletes ab rule.name := by
  cases hin : removal.deleteIn <;> cases hout : removal.deleteOut <;>
    simp [Removal.rules, deleteRule, Removal.Deletes, hin, hout]
  tauto

namespace Host

variable {σ : Type}

/-- A name whose rules are deleted by a call of the operation. -/
def Deleted (s : Host σ) (operation : Operation) (name : ByteString) : Prop :=
  ∃ ip ab removal, s.Removes operation ip ab ∧ operation.removal? ip = some removal ∧
    removal.Deletes ab name

/-- An entry keeps this name through the operation. -/
def Kept (s : Host σ) (operation : Operation) (name : ByteString) : Prop :=
  ∃ ip ab, s.Entry ip ab ∧ ¬ s.Removes operation ip ab ∧ ab.Names name

/-- When the calls of an operation succeed and fail together as far as it matters: both
rules of a new block are there, or none was added, and a rule name of a removed entry is
deleted exactly if no other entry has it. -/
def Paired (s : Host σ) (operation : Operation) : Prop :=
  (∀ attempt ip ttlS, operation = .block attempt ip ttlS → ip ∉ s.blocker.allowlist →
    s.blocker.blocks.contains ip = false →
    let ab := FirewallBlocker.newBlock attempt ip (s.blocker.effectiveTtl ttlS)
    (attempt.addIn = false ∧ attempt.addOut = false) ∨
      ((attempt.addIn = true ∨ ⟨ab.ruleNameIn, ip, .inbound⟩ ∈ s.rules) ∧
        (attempt.addOut = true ∨ ⟨ab.ruleNameOut, ip, .outbound⟩ ∈ s.rules))) ∧
  ∀ ip ab name, s.Removes operation ip ab → ab.Names name →
    (s.Deleted operation name ↔ ¬ s.Kept operation name)

end Host

section Expiry

variable {σ : Type} (auditAdder : AuditAdder σ) (now : Int64)
  (removals : ByteString → Removal)

theorem mem_expireEntries_rules (entries : List (ByteString × ActiveBlock))
    (state : FirewallBlocker × List Rule × σ) (rule : Rule) :
    rule ∈ (FirewallBlocker.expireEntries auditAdder now removals entries state).2.1 ↔
      rule ∈ state.2.1 ∧ ∀ entry ∈ entries, entry.2.expiresAtMs ≤ now →
        ¬ (removals entry.1).Deletes entry.2 rule.name := by
  induction entries generalizing state with
  | nil => simp [FirewallBlocker.expireEntries]
  | cons entry rest ih =>
      simp only [FirewallBlocker.expireEntries, List.forall_mem_cons]
      split
      · rename_i hexpired
        rw [ih]
        simp only [FirewallBlocker.doUnblockLocked, Removal.mem_rules, hexpired,
          forall_const, and_assoc]
      · rename_i hfresh
        rw [ih]
        simp only [hfresh, IsEmpty.forall_iff, true_and]

theorem expireEntries_entry (entries : List (ByteString × ActiveBlock))
    (state : FirewallBlocker × List Rule × σ) (ip : ByteString) (ab : ActiveBlock) :
    (FirewallBlocker.expireEntries auditAdder now removals entries state).1.blocks[ip]? =
        some ab ↔
      state.1.blocks[ip]? = some ab ∧ ∀ entry ∈ entries, entry.2.expiresAtMs ≤ now →
        entry.1 ≠ ip := by
  induction entries generalizing state with
  | nil => simp [FirewallBlocker.expireEntries]
  | cons entry rest ih =>
      simp only [FirewallBlocker.expireEntries, List.forall_mem_cons]
      split
      · rename_i hexpired
        rw [ih]
        simp only [FirewallBlocker.doUnblockLocked, Std.TreeMap.getElem?_erase, hexpired,
          forall_const, ← and_assoc]
        by_cases hip : entry.1 = ip
        · simp [hip]
        · simp [hip]
      · rename_i hfresh
        rw [ih]
        simp only [hfresh, IsEmpty.forall_iff, true_and]

theorem mem_foldl_rules (entries : List (ByteString × ActiveBlock)) (rules : List Rule)
    (rule : Rule) :
    rule ∈ entries.foldl (fun rules kv => (removals kv.1).rules kv.2 rules) rules ↔
      rule ∈ rules ∧ ∀ entry ∈ entries, ¬ (removals entry.1).Deletes entry.2 rule.name := by
  induction entries generalizing rules with
  | nil => simp
  | cons entry rest ih =>
      simp only [List.foldl_cons, List.forall_mem_cons]
      rw [ih, Removal.mem_rules, and_assoc]

end Expiry

namespace Host

variable {σ : Type} (auditAdder : AuditAdder σ) (s : Host σ)

/-- What is removed was in the table. -/
theorem entry_of_removes {s : Host σ} {operation : Operation} {ip : ByteString}
    {ab : ActiveBlock} (hremoves : s.Removes operation ip ab) : s.Entry ip ab := by
  cases operation with
  | block attempt ip' ttlS => exact hremoves.elim
  | unblock removal ip' =>
      obtain ⟨rfl, hentry⟩ := hremoves
      exact hentry
  | expire now removals => exact hremoves.1
  | destroy removals => exact hremoves

/-- What an operation other than `block` does: the rules with a deleted name go, and the
entries that are removed. -/
structure RemovalSpec (operation : Operation) (s' : Host σ) : Prop where
  rules : ∀ rule, rule ∈ s'.rules ↔ rule ∈ s.rules ∧ ¬ s.Deleted operation rule.name
  entries : ∀ ip ab, s'.Entry ip ab ↔ s.Entry ip ab ∧ ¬ s.Removes operation ip ab

theorem perform_unblock (removal : Removal) (ip : ByteString) :
    s.RemovalSpec (.unblock removal ip) (s.perform auditAdder (.unblock removal ip)) := by
  simp only [perform, FirewallBlocker.unblock]
  split
  · rename_i hnone
    constructor
    · simp [Deleted, Removes, Entry, hnone]
    · rintro ip' ab
      simp only [Entry, Removes, hnone, reduceCtorEq, and_false, not_false_eq_true, and_true]
  · rename_i found hfound
    constructor
    · intro rule
      simp [FirewallBlocker.doUnblockLocked, Removal.mem_rules, Deleted, Removes, Entry,
        Operation.removal?, hfound]
    · intro ip' ab
      simp only [Entry, FirewallBlocker.doUnblockLocked, Std.TreeMap.getElem?_erase, Removes]
      by_cases hip : ip = ip'
      · simp [hip]
      · simp [hip, Ne.symm hip]

theorem perform_expire (now : Int64) (removals : ByteString → Removal) :
    s.RemovalSpec (.expire now removals) (s.perform auditAdder (.expire now removals)) := by
  simp only [perform, FirewallBlocker.expire]
  constructor
  · intro rule
    rw [mem_expireEntries_rules]
    simp only [Deleted, Removes, Entry, Operation.removal?, Prod.forall,
      Std.TreeMap.mem_toList_iff_getElem?_eq_some]
    apply and_congr_right
    intro _
    constructor
    · rintro hkept ⟨ip, ab, removal, ⟨hentry, hexpired⟩, hremoval, hdeletes⟩
      obtain rfl := Option.some.inj hremoval
      exact hkept ip ab hentry hexpired hdeletes
    · intro hkept ip ab hentry hexpired hdeletes
      exact hkept ⟨ip, ab, removals ip, ⟨hentry, hexpired⟩, rfl, hdeletes⟩
  · intro ip ab
    simp only [Entry, Removes]
    rw [expireEntries_entry]
    simp only [Prod.forall, Std.TreeMap.mem_toList_iff_getElem?_eq_some]
    apply and_congr_right
    intro hentry
    constructor
    · rintro hkept ⟨-, hexpired⟩
      exact hkept ip ab hentry hexpired rfl
    · rintro hkept ip' ab' hentry' hexpired rfl
      obtain rfl := Option.some.inj (hentry.symm.trans hentry')
      exact hkept ⟨hentry, hexpired⟩

theorem perform_destroy (removals : ByteString → Removal) :
    s.RemovalSpec (.destroy removals) (s.perform auditAdder (.destroy removals)) := by
  simp only [perform, FirewallBlocker.destroy]
  constructor
  · intro rule
    rw [mem_foldl_rules]
    simp only [Deleted, Removes, Entry, Operation.removal?, Prod.forall,
      Std.TreeMap.mem_toList_iff_getElem?_eq_some]
    apply and_congr_right
    intro _
    constructor
    · rintro hkept ⟨ip, ab, removal, hentry, hremoval, hdeletes⟩
      obtain rfl := Option.some.inj hremoval
      exact hkept ip ab hentry hdeletes
    · intro hkept ip ab hentry hdeletes
      exact hkept ⟨ip, ab, removals ip, hentry, rfl, hdeletes⟩
  · intro ip ab
    simp [Entry, Removes]

/-- After a removal the table mirrors the rules exactly if the calls for the removed names
succeed and fail as they should. -/
theorem RemovalSpec.mirrors_iff {operation : Operation} {s s' : Host σ}
    (hspec : s.RemovalSpec operation s') (hmirrors : s.Mirrors) :
    s'.Mirrors ↔ ∀ ip ab name, s.Removes operation ip ab → ab.Names name →
      (s.Deleted operation name ↔ ¬ s.Kept operation name) := by
  have hinstalled : ∀ name, s'.Installed name ↔
      s.Recorded name ∧ ¬ s.Deleted operation name := by
    intro name
    rw [← hmirrors.names]
    simp only [Installed, hspec.rules]
    constructor
    · rintro ⟨rule, ⟨hrule, hkept⟩, rfl⟩
      exact ⟨⟨rule, hrule, rfl⟩, hkept⟩
    · rintro ⟨⟨rule, hrule, rfl⟩, hkept⟩
      exact ⟨rule, ⟨hrule, hkept⟩, rfl⟩
  have hrecorded : ∀ name, s'.Recorded name ↔ s.Kept operation name := by
    intro name
    simp only [Recorded, Kept, hspec.entries, and_assoc]
  constructor
  · intro hafter ip ab name hremoves hname
    have hbefore : s.Recorded name := ⟨ip, ab, entry_of_removes hremoves, hname⟩
    have hnames := hafter.names name
    rw [hinstalled, hrecorded] at hnames
    simp only [hbefore, true_and] at hnames
    rw [← hnames, not_not]
  · intro hpaired
    -- a name of an entry that stays is not deleted
    have hstays : ∀ name, s.Kept operation name → ¬ s.Deleted operation name := by
      intro name hkept hdeleted
      obtain ⟨ip, ab, removal, hremoves, -, hname⟩ := id hdeleted
      exact (hpaired ip ab name hremoves hname.names).mp hdeleted hkept
    constructor
    · intro name
      rw [hinstalled, hrecorded]
      constructor
      · rintro ⟨⟨ip, ab, hentry, hname⟩, hkept⟩
        by_cases hremoves : s.Removes operation ip ab
        · by_contra hgone
          exact hkept ((hpaired ip ab name hremoves hname).mpr hgone)
        · exact ⟨ip, ab, hentry, hremoves, hname⟩
      · rintro ⟨ip, ab, hentry, hremoves, hname⟩
        exact ⟨⟨ip, ab, hentry, hname⟩, hstays name ⟨ip, ab, hentry, hremoves, hname⟩⟩
    · intro ip ab hentry
      obtain ⟨hbefore, hremoves⟩ := (hspec.entries ip ab).mp hentry
      obtain ⟨hin, hout⟩ := hmirrors.both ip ab hbefore
      simp only [hspec.rules]
      exact ⟨⟨hin, hstays _ ⟨ip, ab, hbefore, hremoves, .inl rfl⟩⟩,
        ⟨hout, hstays _ ⟨ip, ab, hbefore, hremoves, .inr rfl⟩⟩⟩

theorem mem_addRule (ok : Bool) (name ip : ByteString) (dir : Direction)
    (rules : List Rule) (rule : Rule) :
    rule ∈ addRule ok name ip dir rules ↔
      rule ∈ rules ∨ (ok = true ∧ rule = ⟨name, ip, dir⟩) := by
  cases ok <;> simp [addRule]

/-- What a block does that reaches `netsh` with a success: the new entry, and the rules whose
calls succeeded. -/
structure AdditionSpec (attempt : Attempt) (ip : ByteString) (new : ActiveBlock)
    (s' : Host σ) : Prop where
  rules : ∀ rule, rule ∈ s'.rules ↔
    (rule ∈ s.rules ∨ (attempt.addIn = true ∧ rule = ⟨new.ruleNameIn, ip, .inbound⟩)) ∨
      (attempt.addOut = true ∧ rule = ⟨new.ruleNameOut, ip, .outbound⟩)
  entries : ∀ ip' ab, s'.Entry ip' ab ↔ (ip' = ip ∧ ab = new) ∨ s.Entry ip' ab

theorem perform_block {attempt : Attempt} {ip : ByteString} {ttlS : Int32} {s : Host σ}
    (hallowed : ip ∉ s.blocker.allowlist) (hfree : s.blocker.blocks.contains ip = false)
    (hadded : ¬ (attempt.addIn = false ∧ attempt.addOut = false)) :
    let ab := FirewallBlocker.newBlock attempt ip (s.blocker.effectiveTtl ttlS)
    s.AdditionSpec attempt ip
      { ab with auditEntryId := (auditAdder "firewall_block"
        (FirewallBlocker.blockPayload (s.blocker.effectiveTtl ttlS) ab) s.world).1 }
      (s.perform auditAdder (.block attempt ip ttlS)) := by
  intro ab
  have hallowed' : s.blocker.allowlist.contains ip = false := by simpa using hallowed
  constructor
  · intro rule
    simp only [perform, FirewallBlocker.block, hallowed', hfree, if_neg hadded,
      Bool.false_eq_true, if_false, mem_addRule, ab]
  · intro ip' ab'
    simp only [Entry, perform, FirewallBlocker.block, hallowed', hfree, if_neg hadded,
      Bool.false_eq_true, if_false, Std.TreeMap.getElem?_insert]
    by_cases hip : ip = ip'
    · subst hip
      have hnot : ¬ s.blocker.blocks[ip]? = some ab' := by
        intro hentry
        rw [Std.TreeMap.contains_eq_isSome_getElem?, hentry] at hfree
        exact absurd hfree (by simp)
      simp [hnot, ab, eq_comm]
    · simp [hip, Ne.symm hip]

section Addition

variable {s s' : Host σ} {attempt : Attempt} {ip : ByteString} {new : ActiveBlock}

theorem AdditionSpec.mem_inbound (hspec : s.AdditionSpec attempt ip new s') :
    ⟨new.ruleNameIn, ip, .inbound⟩ ∈ s'.rules ↔
      attempt.addIn = true ∨ ⟨new.ruleNameIn, ip, .inbound⟩ ∈ s.rules := by
  rw [hspec.rules]
  simp [or_comm]

theorem AdditionSpec.mem_outbound (hspec : s.AdditionSpec attempt ip new s') :
    ⟨new.ruleNameOut, ip, .outbound⟩ ∈ s'.rules ↔
      attempt.addOut = true ∨ ⟨new.ruleNameOut, ip, .outbound⟩ ∈ s.rules := by
  rw [hspec.rules]
  simp [or_comm]

/-- After an addition the table mirrors the rules exactly if both rules of the new entry are
there. -/
theorem AdditionSpec.mirrors_iff (hspec : s.AdditionSpec attempt ip new s')
    (hmirrors : s.Mirrors) :
    s'.Mirrors ↔ ⟨new.ruleNameIn, ip, .inbound⟩ ∈ s'.rules ∧
      ⟨new.ruleNameOut, ip, .outbound⟩ ∈ s'.rules := by
  have hnew : s'.Entry ip new := (hspec.entries ip new).mpr (.inl ⟨rfl, rfl⟩)
  constructor
  · intro hafter
    exact hafter.both ip new hnew
  · rintro ⟨hin, hout⟩
    constructor
    · intro name
      constructor
      · rintro ⟨rule, hrule, rfl⟩
        rcases (hspec.rules rule).mp hrule with (hold | ⟨-, rfl⟩) | ⟨-, rfl⟩
        · obtain ⟨ip', ab, hentry, hnames⟩ := (hmirrors.names _).mp ⟨rule, hold, rfl⟩
          exact ⟨ip', ab, (hspec.entries ip' ab).mpr (.inr hentry), hnames⟩
        · exact ⟨ip, new, hnew, .inl rfl⟩
        · exact ⟨ip, new, hnew, .inr rfl⟩
      · rintro ⟨ip', ab, hentry, hnames⟩
        rcases (hspec.entries ip' ab).mp hentry with ⟨rfl, rfl⟩ | hold
        · rcases hnames with rfl | rfl
          · exact ⟨_, hin, rfl⟩
          · exact ⟨_, hout, rfl⟩
        · obtain ⟨rule, hrule, rfl⟩ := (hmirrors.names name).mpr ⟨ip', ab, hold, hnames⟩
          exact ⟨rule, (hspec.rules rule).mpr (.inl (.inl hrule)), rfl⟩
    · intro ip' ab hentry
      rcases (hspec.entries ip' ab).mp hentry with ⟨rfl, rfl⟩ | hold
      · exact ⟨hin, hout⟩
      · obtain ⟨hoin, hoout⟩ := hmirrors.both ip' ab hold
        exact ⟨(hspec.rules _).mpr (.inl (.inl hoin)), (hspec.rules _).mpr (.inl (.inl hoout))⟩

end Addition

/-- A block that reaches `netsh` with a success leaves both rules, or breaks the table. -/
theorem perform_block_mirrors_iff {attempt : Attempt} {ip : ByteString} {ttlS : Int32}
    {s : Host σ} (hmirrors : s.Mirrors) (hallowed : ip ∉ s.blocker.allowlist)
    (hfree : s.blocker.blocks.contains ip = false)
    (hadded : ¬ (attempt.addIn = false ∧ attempt.addOut = false)) :
    let ab := FirewallBlocker.newBlock attempt ip (s.blocker.effectiveTtl ttlS)
    (s.perform auditAdder (.block attempt ip ttlS)).Mirrors ↔
      (attempt.addIn = true ∨ ⟨ab.ruleNameIn, ip, .inbound⟩ ∈ s.rules) ∧
        (attempt.addOut = true ∨ ⟨ab.ruleNameOut, ip, .outbound⟩ ∈ s.rules) := by
  have hspec := @perform_block σ auditAdder attempt ip ttlS s hallowed hfree hadded
  rw [hspec.mirrors_iff hmirrors, hspec.mem_inbound, hspec.mem_outbound]

/-- A block that adds nothing changes neither the table nor the rules. -/
theorem perform_block_of_refused {attempt : Attempt} {ip : ByteString} {ttlS : Int32}
    {s : Host σ} (hrefused : ip ∈ s.blocker.allowlist ∨
      s.blocker.blocks.contains ip = true ∨
      (attempt.addIn = false ∧ attempt.addOut = false)) :
    s.perform auditAdder (.block attempt ip ttlS) = s := by
  simp only [perform, FirewallBlocker.block]
  split
  · rfl
  · rename_i hallowed
    split
    · rfl
    · rename_i hfree
      have hfailed := (hrefused.resolve_left (by simpa using hallowed)).resolve_left
        (by simpa using hfree)
      simp [hfailed, addRule]

theorem perform_mirrors_iff {s : Host σ} (hmirrors : s.Mirrors) (operation : Operation) :
    (s.perform auditAdder operation).Mirrors ↔ s.Paired operation := by
  cases operation with
  | block attempt ip ttlS =>
      have hremovals : ∀ ip' ab name, s.Removes (.block attempt ip ttlS) ip' ab →
          ab.Names name → (s.Deleted (.block attempt ip ttlS) name ↔
            ¬ s.Kept (.block attempt ip ttlS) name) := fun _ _ _ hremoves => hremoves.elim
      by_cases hrefused : ip ∈ s.blocker.allowlist ∨ s.blocker.blocks.contains ip = true ∨
          (attempt.addIn = false ∧ attempt.addOut = false)
      · rw [perform_block_of_refused auditAdder hrefused]
        simp only [hmirrors, true_iff]
        refine ⟨?_, hremovals⟩
        rintro attempt' ip' ttlS' heq hallowed hfree
        obtain ⟨rfl, rfl, rfl⟩ := Operation.block.inj heq
        exact .inl ((hrefused.resolve_left (by simpa using hallowed)).resolve_left
          (by simp [hfree]))
      · simp only [not_or, Bool.not_eq_true] at hrefused
        obtain ⟨hallowed, hfree, hadded⟩ := hrefused
        have hboth := @perform_block_mirrors_iff σ auditAdder attempt ip ttlS s hmirrors
          hallowed hfree hadded
        constructor
        · intro hafter
          refine ⟨?_, hremovals⟩
          rintro attempt' ip' ttlS' heq - -
          obtain ⟨rfl, rfl, rfl⟩ := Operation.block.inj heq
          exact .inr (hboth.mp hafter)
        · intro hpaired
          exact hboth.mpr
            ((hpaired.1 attempt ip ttlS rfl hallowed hfree).resolve_left hadded)
  | unblock removal ip =>
      rw [(s.perform_unblock auditAdder removal ip).mirrors_iff hmirrors]
      simp [Paired]
  | expire now removals =>
      rw [(s.perform_expire auditAdder now removals).mirrors_iff hmirrors]
      simp [Paired]
  | destroy removals =>
      rw [(s.perform_destroy auditAdder removals).mirrors_iff hmirrors]
      simp [Paired]

/-- The table mirrors the firewall after every operation of a run exactly if all pairs of
`netsh` calls of the run succeed and fail together. -/
theorem trace_mirrors_iff (auditAdder : AuditAdder σ) (blocker : FirewallBlocker) (world : σ)
    (steps : List (Transition (Host σ) Operation)) (s : Host σ)
    (htrace : Trace (system auditAdder blocker world) steps s) :
    (∀ t ∈ steps, t.after.Mirrors) ↔ ∀ t ∈ steps, t.before.Paired t.label := by
  refine htrace.forall_after_iff (I := fun _ => True) ?_ (fun _ _ _ _ _ => trivial) ?_
  · rintro _ ⟨hempty, rfl⟩
    refine ⟨trivial, fun name => ?_, fun ip ab hentry => ?_⟩
    · simp [Installed, Recorded, Entry, hempty]
    · simp [Entry, hempty] at hentry
  · rintro s operation _ - hmirrors ⟨-, rfl⟩
    exact perform_mirrors_iff auditAdder hmirrors operation

def scannerIp : ByteString := "203.0.113.7"

def freshHost : Host (List (ByteString × ByteString)) := { world := [] }

def pairedBlock : Operation :=
  .block ⟨1000, 1001, true, true⟩ scannerIp 0

def pairedUnblock : Operation :=
  .unblock ⟨2000, true, true⟩ scannerIp

/-- The scanner is blocked and unblocked, with every call succeeding. -/
theorem paired_run_mirrors :
    ∃ steps s, Trace (system noteEntry {} []) steps s ∧
      steps.map Transition.label = [pairedBlock, pairedUnblock] ∧
      ∀ t ∈ steps, t.after.Mirrors := by
  have hstart : Trace (system noteEntry {} []) [] freshHost := .start ⟨rfl, rfl⟩
  have hblock : (system noteEntry {} []).Step freshHost pairedBlock
      (freshHost.perform noteEntry pairedBlock) := ⟨rfl, rfl⟩
  have hunblock : (system noteEntry {} []).Step (freshHost.perform noteEntry pairedBlock)
      pairedUnblock ((freshHost.perform noteEntry pairedBlock).perform noteEntry
        pairedUnblock) := ⟨rfl, rfl⟩
  have htrace := (hstart.extend hblock).extend hunblock
  refine ⟨_, _, htrace, rfl, (trace_mirrors_iff noteEntry {} [] _ _ htrace).mpr ?_⟩
  simp only [List.nil_append, List.cons_append, List.forall_mem_cons, List.not_mem_nil,
    IsEmpty.forall_iff, implies_true, and_true]
  refine ⟨⟨?_, fun _ _ _ hremoves => hremoves.elim⟩, ⟨?_, ?_⟩⟩
  · rintro attempt ip ttlS heq - -
    obtain ⟨rfl, rfl, rfl⟩ := Operation.block.inj heq
    exact .inr ⟨.inl rfl, .inl rfl⟩
  · intro attempt ip ttlS heq
    simp [pairedUnblock] at heq
  · rintro ip ab name hremoves hname
    have hdeleted : (freshHost.perform noteEntry pairedBlock).Deleted pairedUnblock name :=
      ⟨ip, ab, ⟨2000, true, true⟩, hremoves, rfl, hname.imp (⟨rfl, ·⟩) (⟨rfl, ·⟩)⟩
    simp only [hdeleted, true_iff]
    rintro ⟨ip', ab', hentry, hstays, -⟩
    -- the scanner has the only entry
    have hip : ip' = scannerIp := by
      by_contra hne
      change (Std.TreeMap.insert {} scannerIp _)[ip']? = some ab' at hentry
      simp [Ne.symm hne] at hentry
    exact hstays ⟨hip, hip ▸ hentry⟩

def halfBlock : Operation :=
  .block ⟨1000, 1001, true, false⟩ scannerIp 0

/-- The second of the two rules cannot be added. -/
theorem half_block_not_mirrored :
    ∃ s, Reachable (system noteEntry {} []) s ∧ s.blocker.isBlocked scannerIp = true ∧
      ¬ s.Mirrors := by
  have hstart : Trace (system noteEntry {} []) [] freshHost := .start ⟨rfl, rfl⟩
  have hblock : (system noteEntry {} []).Step freshHost halfBlock
      (freshHost.perform noteEntry halfBlock) := ⟨rfl, rfl⟩
  refine ⟨_, ⟨_, hstart.extend hblock⟩, by decide +kernel, fun hmirrors => ?_⟩
  have hinbound : ∀ rule ∈ (freshHost.perform noteEntry halfBlock).rules,
      rule.dir = .inbound := by decide +kernel
  have hentry : (freshHost.perform noteEntry halfBlock).Entry scannerIp _ := rfl
  exact absurd (hinbound _ (hmirrors.both scannerIp _ hentry).2) (by simp)

end Host

end Astartis.Firewall
