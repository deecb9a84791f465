import Astartis.FirewallMirror

/-!
One turn of `expiry_loop` with its iterator, which walks the ordered map while entries are
erased from it.
-/

namespace Astartis.Firewall

open Audit
open TransitionSystem

section Iterator

variable {α β : Type*} [Ord α] [Std.TransOrd α] [Std.LawfulEqOrd α]

/-- The key that `begin()` points to, without a value at the end. -/
def iteratorBegin (blocks : Std.TreeMap α β) : Option α :=
  blocks.toList.head?.map Prod.fst

/-- The key that `std::next` of the iterator at `key` points to. -/
def iteratorNext (blocks : Std.TreeMap α β) (key : α) : Option α :=
  (blocks.toList.find? fun entry => (compare key entry.1).isLT).map Prod.fst

variable {blocks : Std.TreeMap α β} {kept rest : List (α × β)} {key : α} {value : β}

omit [Std.LawfulEqOrd α] in
/-- Around an entry of the map, the keys are smaller before it and greater after it. -/
theorem keys_of_split (hsplit : blocks.toList = kept ++ (key, value) :: rest) :
    (∀ entry ∈ kept, compare entry.1 key = .lt) ∧
      ∀ entry ∈ rest, compare key entry.1 = .lt := by
  have hordered := blocks.ordered_keys_toList
  rw [hsplit, List.pairwise_append, List.pairwise_cons] at hordered
  exact ⟨fun entry hentry => hordered.2.2 entry hentry _ List.mem_cons_self,
    hordered.2.1.1⟩

omit [Std.LawfulEqOrd α] in
theorem iteratorNext_of_split (hsplit : blocks.toList = kept ++ (key, value) :: rest) :
    iteratorNext blocks key = rest.head?.map Prod.fst := by
  obtain ⟨hbefore, hafter⟩ := keys_of_split hsplit
  have hskip : kept.find? (fun entry => (compare key entry.1).isLT) = none := by
    rw [List.find?_eq_none]
    intro entry hentry
    have hgt : compare key entry.1 = .gt := Std.OrientedCmp.gt_of_lt (hbefore entry hentry)
    simp [hgt]
  rw [iteratorNext, hsplit, List.find?_append, hskip, Option.none_or, List.find?_cons]
  simp only [Std.ReflCmp.compare_self, Ordering.isLT_eq]
  rcases rest with _ | ⟨entry, rest⟩
  · rfl
  · simp [hafter entry List.mem_cons_self]

/-- Erasing the entry at the iterator leaves the entries around it as they are. -/
theorem toList_erase_of_split (hsplit : blocks.toList = kept ++ (key, value) :: rest) :
    (blocks.erase key).toList = kept ++ rest := by
  obtain ⟨hbefore, hafter⟩ := keys_of_split hsplit
  have hordered : (kept ++ rest).Pairwise fun a b => compare a.1 b.1 = .lt := by
    have hsublist : (kept ++ rest).Sublist blocks.toList := by
      rw [hsplit]
      exact (List.sublist_cons_self _ rest).append_left kept
    exact blocks.ordered_keys_toList.sublist hsublist
  have hdistinct : ∀ {entries : List (α × β)},
      (entries.Pairwise fun a b => compare a.1 b.1 = .lt) → entries.Nodup := by
    intro entries hentries
    apply hentries.imp
    rintro a _ hlt rfl
    exact absurd hlt (by simp [Std.ReflCmp.compare_self])
  have hmem : ∀ entry, entry ∈ (blocks.erase key).toList ↔ entry ∈ kept ++ rest := by
    rintro ⟨key', value'⟩
    rw [Std.TreeMap.mem_toList_iff_getElem?_eq_some, Std.TreeMap.getElem?_erase]
    split
    · rename_i hkey
      obtain rfl : key = key' := Std.LawfulEqOrd.eq_of_compare hkey
      have hnot : (key, value') ∉ kept ++ rest := by
        intro hentry
        rcases List.mem_append.mp hentry with hentry | hentry
        · exact absurd (hbefore _ hentry) (by simp [Std.ReflCmp.compare_self])
        · exact absurd (hafter _ hentry) (by simp [Std.ReflCmp.compare_self])
      simp [hnot]
    · rename_i hkey
      have hne : key' ≠ key := by
        rintro rfl
        exact hkey Std.ReflCmp.compare_self
      rw [← Std.TreeMap.mem_toList_iff_getElem?_eq_some, hsplit]
      simp [hne]
  apply List.Perm.eq_of_pairwise
  · intro a b _ _ hlt hgt
    have hswap : compare b.1 a.1 = .gt := Std.OrientedCmp.gt_of_lt hlt
    rw [hswap] at hgt
    exact absurd hgt (by simp)
  · exact (blocks.erase key).ordered_keys_toList
  · exact hordered
  · exact (List.perm_ext_iff_of_nodup (hdistinct (blocks.erase key).ordered_keys_toList)
      (hdistinct hordered)).mpr hmem

end Iterator

/-- A turn of the loop under way, with the keys it has looked at and the names it has
passed to `delete_rule`. -/
structure Pass (σ : Type) where
  blocker : FirewallBlocker
  rules : List Rule
  world : σ
  visited : List ByteString := []
  deletions : List ByteString := []

namespace Pass

variable {σ : Type} (auditAdder : AuditAdder σ) (now : Int64)
  (removals : ByteString → Removal)

def visit (ip : ByteString) (pass : Pass σ) : Pass σ :=
  { pass with visited := pass.visited ++ [ip] }

/-- `do_unblock_locked` for the element at the iterator. -/
def unblock (removal : Removal) (ip : ByteString) (ab : ActiveBlock) (pass : Pass σ) :
    Pass σ :=
  let (blocker, rules, world) :=
    pass.blocker.doUnblockLocked auditAdder removal ip ab pass.rules pass.world
  { pass with
    blocker := blocker
    rules := rules
    world := world
    deletions := pass.deletions ++ [ab.ruleNameIn, ab.ruleNameOut] }

/-- The loop from an iterator on.  It has no result when the element at the iterator is
gone or the turns run out. -/
def walk : Nat → Option ByteString → Pass σ → Option (Pass σ)
  | _, none, pass => some pass
  | 0, some _, _ => none
  | turns + 1, some ip, pass =>
      match pass.blocker.blocks[ip]? with
      | none => none
      | some ab =>
          let next := iteratorNext pass.blocker.blocks ip
          if ab.expiresAtMs ≤ now then
            walk turns next ((pass.visit ip).unblock auditAdder (removals ip) ip ab)
          else walk turns next (pass.visit ip)

/-- The turn of the loop on a map of blocks, as many steps as it has entries. -/
def run (blocker : FirewallBlocker) (rules : List Rule) (world : σ) : Option (Pass σ) :=
  walk auditAdder now removals blocker.blocks.toList.length (iteratorBegin blocker.blocks)
    { blocker := blocker, rules := rules, world := world }

/-- The entries that are due. -/
def due (entries : List (ByteString × ActiveBlock)) : List (ByteString × ActiveBlock) :=
  entries.filter fun entry => entry.2.expiresAtMs ≤ now

/-- The result of a walk over the rest of the entries. -/
def finish (rest : List (ByteString × ActiveBlock)) (pass : Pass σ) : Pass σ :=
  let (blocker, rules, world) := FirewallBlocker.expireEntries auditAdder now removals rest
    (pass.blocker, pass.rules, pass.world)
  { blocker := blocker
    rules := rules
    world := world
    visited := pass.visited ++ rest.map Prod.fst
    deletions := pass.deletions ++
      (due now rest).flatMap fun entry => [entry.2.ruleNameIn, entry.2.ruleNameOut] }

/-- The invariant of the walk: the map holds the entries that were kept, in front of the
iterator, and the entries that are still to be visited. -/
theorem walk_of_split {kept rest : List (ByteString × ActiveBlock)} {pass : Pass σ}
    (hsplit : pass.blocker.blocks.toList = kept ++ rest) :
    walk auditAdder now removals rest.length (rest.head?.map Prod.fst) pass =
      some (pass.finish auditAdder now removals rest) := by
  induction rest generalizing kept pass with
  | nil => simp [walk, finish, due, FirewallBlocker.expireEntries]
  | cons entry rest ih =>
      obtain ⟨ip, ab⟩ := entry
      have hentry : pass.blocker.blocks[ip]? = some ab := by
        rw [← Std.TreeMap.mem_toList_iff_getElem?_eq_some, hsplit]
        simp
      simp only [List.head?_cons, Option.map_some, List.length_cons, walk, hentry,
        iteratorNext_of_split hsplit]
      split
      · rename_i hexpired
        have herased : ((pass.visit ip).unblock auditAdder (removals ip) ip
            ab).blocker.blocks.toList = kept ++ rest := toList_erase_of_split hsplit
        rw [ih herased]
        simp [finish, visit, unblock, due, FirewallBlocker.expireEntries,
          FirewallBlocker.doUnblockLocked, hexpired]
      · rename_i hfresh
        have hpassed : (pass.visit ip).blocker.blocks.toList = (kept ++ [(ip, ab)]) ++ rest :=
          hsplit.trans (List.append_cons kept (ip, ab) rest)
        rw [ih hpassed]
        simp [finish, visit, due, FirewallBlocker.expireEntries, hfresh]

/-- The walk ends, after it has visited every entry once and in order. -/
theorem run_eq (blocker : FirewallBlocker) (rules : List Rule) (world : σ) :
    run auditAdder now removals blocker rules world =
      some (({ blocker := blocker, rules := rules, world := world } : Pass σ).finish
        auditAdder now removals blocker.blocks.toList) :=
  @walk_of_split σ auditAdder now removals [] _ _ rfl

/-- The walk computes what the operation of the blocker does. -/
theorem run_eq_expire (blocker : FirewallBlocker) (rules : List Rule) (world : σ) :
    (run auditAdder now removals blocker rules world).map
        (fun pass => (pass.blocker, pass.rules, pass.world)) =
      some (blocker.expire auditAdder now removals rules world) := by
  rw [run_eq]
  rfl

/-- The audit entries of the removals, in the order of the entries. -/
def auditRemovals (entries : List (ByteString × ActiveBlock)) (world : σ) : σ :=
  entries.foldl (fun world entry => (auditAdder "firewall_unblock"
    (FirewallBlocker.unblockPayload (removals entry.1).nowMs entry.2) world).2) world

theorem expireEntries_world (entries : List (ByteString × ActiveBlock))
    (state : FirewallBlocker × List Rule × σ) :
    (FirewallBlocker.expireEntries auditAdder now removals entries state).2.2 =
      auditRemovals auditAdder removals (due now entries) state.2.2 := by
  induction entries generalizing state with
  | nil => rfl
  | cons entry rest ih =>
      simp only [FirewallBlocker.expireEntries]
      split
      · rename_i hexpired
        rw [ih]
        simp [due, hexpired, auditRemovals, FirewallBlocker.doUnblockLocked]
      · rename_i hfresh
        rw [ih]
        simp [due, hfresh]

end Pass

namespace Host

variable {σ : Type} (auditAdder : AuditAdder σ)

/-- The address that an entry records is the key under which it is stored. -/
def KeysRecorded (s : Host σ) : Prop :=
  ∀ ip ab, s.Entry ip ab → ab.ip = ip

theorem perform_keysRecorded {s : Host σ} (hkeys : s.KeysRecorded) (operation : Operation) :
    (s.perform auditAdder operation).KeysRecorded := by
  intro ip ab hentry
  cases operation with
  | block attempt ip' ttlS =>
      by_cases hrefused : ip' ∈ s.blocker.allowlist ∨ s.blocker.blocks.contains ip' = true ∨
          (attempt.addIn = false ∧ attempt.addOut = false)
      · rw [perform_block_of_refused auditAdder hrefused] at hentry
        exact hkeys ip ab hentry
      · simp only [not_or, Bool.not_eq_true] at hrefused
        obtain ⟨hallowed, hfree, hadded⟩ := hrefused
        have hspec := @perform_block σ auditAdder attempt ip' ttlS s hallowed hfree hadded
        rcases (hspec.entries ip ab).mp hentry with ⟨rfl, rfl⟩ | hold
        · rfl
        · exact hkeys ip ab hold
  | unblock removal ip' =>
      exact hkeys ip ab (((s.perform_unblock auditAdder removal ip').entries ip ab).mp hentry).1
  | expire now removals =>
      exact hkeys ip ab (((s.perform_expire auditAdder now removals).entries ip ab).mp hentry).1
  | destroy removals =>
      exact hkeys ip ab (((s.perform_destroy auditAdder removals).entries ip ab).mp hentry).1

theorem reachable_keysRecorded {blocker : FirewallBlocker} {world : σ} {s : Host σ}
    (hreachable : Reachable (system auditAdder blocker world) s) : s.KeysRecorded := by
  obtain ⟨steps, htrace⟩ := hreachable
  refine htrace.history_invariant (I := fun _ s => s.KeysRecorded) ?_ ?_
  · rintro _ ⟨hempty, rfl⟩ ip ab hentry
    simp [Entry, hempty] at hentry
  · rintro _ s operation _ hkeys ⟨-, rfl⟩
    exact perform_keysRecorded auditAdder hkeys operation

end Host

/-- A turn of the expiry loop on any map, and the keys of the maps that occur. -/
theorem expiry_pass {σ : Type} (auditAdder : AuditAdder σ) :
    (∀ (now : Int64) (removals : ByteString → Removal) (blocker : FirewallBlocker)
      (rules : List Rule) (world : σ),
      ∃ pass, Pass.run auditAdder now removals blocker rules world = some pass ∧
        pass.visited = blocker.blocks.keys ∧ pass.visited.Nodup ∧
        (∀ (ip : ByteString) (ab : ActiveBlock), pass.blocker.blocks[ip]? = some ab ↔
          blocker.blocks[ip]? = some ab ∧ ¬ ab.expiresAtMs ≤ now) ∧
        pass.deletions = (Pass.due now blocker.blocks.toList).flatMap
          (fun entry => [entry.2.ruleNameIn, entry.2.ruleNameOut]) ∧
        (∀ rule, rule ∈ pass.rules ↔ rule ∈ rules ∧
          ∀ entry ∈ Pass.due now blocker.blocks.toList,
            ¬ (removals entry.1).Deletes entry.2 rule.name) ∧
        pass.world = Pass.auditRemovals auditAdder removals
          (Pass.due now blocker.blocks.toList) world) ∧
      ∀ (blocker : FirewallBlocker) (world : σ) (s : Host σ),
        Reachable (Host.system auditAdder blocker world) s →
          ∀ ip ab, s.Entry ip ab → ab.ip = ip := by
  constructor
  · intro now removals blocker rules world
    have hvisited : blocker.blocks.toList.map Prod.fst = blocker.blocks.keys :=
      Std.TreeMap.map_fst_toList_eq_keys
    refine ⟨_, Pass.run_eq auditAdder now removals blocker rules world, hvisited, ?_, ?_, rfl,
      ?_, ?_⟩
    · change (blocker.blocks.toList.map Prod.fst).Nodup
      rw [hvisited]
      exact Std.TreeMap.nodup_keys
    · intro ip ab
      have hspec := ((⟨blocker, rules, world, false⟩ : Host σ).perform_expire auditAdder now
        removals).entries ip ab
      refine hspec.trans ?_
      simp only [Host.Entry, Host.Removes]
      tauto
    · intro rule
      change rule ∈ (FirewallBlocker.expireEntries auditAdder now removals
        blocker.blocks.toList (blocker, rules, world)).2.1 ↔ _
      rw [mem_expireEntries_rules]
      simp only [Pass.due, List.mem_filter, decide_eq_true_eq, and_imp]
    · exact Pass.expireEntries_world auditAdder now removals blocker.blocks.toList _
  · intro blocker world s hreachable
    exact Host.reachable_keysRecorded auditAdder hreachable

theorem expiry_pass_scanner :
    ∃ s, Reachable (Host.system noteEntry {} []) s ∧
      s.blocker.isBlocked Host.scannerIp = true ∧ ∀ ip ab, s.Entry ip ab → ab.ip = ip := by
  have hstart : Trace (Host.system noteEntry {} []) [] Host.freshHost := .start ⟨rfl, rfl⟩
  have hblock : (Host.system noteEntry {} []).Step Host.freshHost Host.pairedBlock
      (Host.freshHost.perform noteEntry Host.pairedBlock) := ⟨rfl, rfl⟩
  have hreachable : Reachable (Host.system noteEntry {} [])
      (Host.freshHost.perform noteEntry Host.pairedBlock) := ⟨_, hstart.extend hblock⟩
  exact ⟨_, hreachable, by decide +kernel, (expiry_pass noteEntry).2 {} [] _ hreachable⟩

end Astartis.Firewall
