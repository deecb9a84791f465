import Astartis.FirewallMirror
import Astartis.RoutableBlocks

/-!
How many addresses the dispatcher keeps blocked.  The blocker has no limit of its own, and the
dispatcher does not ask the policy for one.
-/

namespace Astartis.Firewall

open Audit

/-- A block of the address is recorded. -/
def FirewallBlocker.Accepts (attempt : Attempt) (ip : ByteString) (self : FirewallBlocker) :
    Prop :=
  ip ∉ self.allowlist ∧ self.isBlocked ip = false ∧
    ¬ (attempt.addIn = false ∧ attempt.addOut = false)

instance (attempt : Attempt) (ip : ByteString) (self : FirewallBlocker) :
    Decidable (self.Accepts attempt ip) :=
  inferInstanceAs (Decidable (_ ∧ _ ∧ _))

namespace Host

variable {σ : Type}

/-- The blocked addresses. -/
def active (s : Host σ) : Finset ByteString :=
  s.blocker.blocks.keys.toFinset

theorem mem_active {s : Host σ} {ip : ByteString} :
    ip ∈ s.active ↔ s.blocker.isBlocked ip = true := by
  simp [active, FirewallBlocker.isBlocked]

theorem length_activeBlocks (s : Host σ) :
    s.blocker.activeBlocks.length = s.active.card := by
  rw [active, List.toFinset_card_of_nodup Std.TreeMap.nodup_keys, Std.TreeMap.length_keys,
    FirewallBlocker.activeBlocks, List.length_map, Std.TreeMap.length_toList]

theorem mem_active_iff_entry {s : Host σ} {ip : ByteString} :
    ip ∈ s.active ↔ ∃ ab, s.Entry ip ab := by
  rw [mem_active, FirewallBlocker.isBlocked, Std.TreeMap.contains_eq_isSome_getElem?,
    Option.isSome_iff_exists]
  rfl

/-- The address is not kept off, and one of the two rules is added. -/
def Passes (allowlist : List ByteString) (attempt : Attempt) (ip : ByteString) : Prop :=
  ip ∉ allowlist ∧ ¬ (attempt.addIn = false ∧ attempt.addOut = false)

instance (allowlist : List ByteString) (attempt : Attempt) (ip : ByteString) :
    Decidable (Passes allowlist attempt ip) :=
  inferInstanceAs (Decidable (_ ∧ _))

/-- The blocked addresses after an attempt to block one more. -/
def admitted (allowlist : List ByteString) (attempt : Attempt) (active : Finset ByteString)
    (ip : ByteString) : Finset ByteString :=
  if Passes allowlist attempt ip then insert ip active else active

/-- An attempt adds its address exactly if the blocker accepts it. -/
theorem admitted_active (s : Host σ) (attempt : Attempt) (ip : ByteString) :
    admitted s.blocker.allowlist attempt s.active ip =
      if s.blocker.Accepts attempt ip then insert ip s.active else s.active := by
  rw [admitted]
  split
  · rename_i hpassed
    split
    · rfl
    · rename_i hrefused
      apply Finset.insert_eq_of_mem
      rw [mem_active]
      by_contra hfree
      exact hrefused ⟨hpassed.1, Bool.eq_false_iff.mpr hfree, hpassed.2⟩
  · rename_i hrefused
    rw [if_neg fun haccepts => hrefused ⟨haccepts.1, haccepts.2.2⟩]

theorem active_perform_block (auditAdder : AuditAdder σ) (s : Host σ) (attempt : Attempt)
    (ip : ByteString) (ttlS : Int32) :
    (s.perform auditAdder (.block attempt ip ttlS)).active =
      admitted s.blocker.allowlist attempt s.active ip := by
  rw [admitted]
  by_cases hallowed : ip ∈ s.blocker.allowlist
  · rw [perform_block_of_refused auditAdder (.inl hallowed), if_neg fun h => h.1 hallowed]
  by_cases hfailed : attempt.addIn = false ∧ attempt.addOut = false
  · rw [perform_block_of_refused auditAdder (.inr (.inr hfailed)), if_neg fun h => h.2 hfailed]
  rw [if_pos ⟨hallowed, hfailed⟩]
  by_cases hblocked : s.blocker.blocks.contains ip = true
  · rw [perform_block_of_refused auditAdder (.inr (.inl hblocked)),
      Finset.insert_eq_of_mem (mem_active.mpr hblocked)]
  · ext ip'
    have hentries := (@perform_block σ auditAdder attempt ip ttlS s hallowed
      (Bool.eq_false_iff.mpr hblocked) hfailed).entries ip'
    simp only [mem_active_iff_entry, Finset.mem_insert, hentries]
    constructor
    · rintro ⟨ab, ⟨rfl, -⟩ | hentry⟩
      · exact .inl rfl
      · exact .inr ⟨ab, hentry⟩
    · rintro (rfl | ⟨ab, hentry⟩)
      · exact ⟨_, .inl ⟨rfl, rfl⟩⟩
      · exact ⟨ab, .inr hentry⟩

theorem allowlist_perform_block (auditAdder : AuditAdder σ) (s : Host σ) (attempt : Attempt)
    (ip : ByteString) (ttlS : Int32) :
    (s.perform auditAdder (.block attempt ip ttlS)).blocker.allowlist = s.blocker.allowlist := by
  simp only [perform, FirewallBlocker.block]
  split
  · rfl
  · split
    · rfl
    · split <;> rfl

theorem active_perform_expire (auditAdder : AuditAdder σ) (s : Host σ) (now : Int64)
    (removals : ByteString → Removal) :
    (s.perform auditAdder (.expire now removals)).active ⊆ s.active := by
  intro ip hactive
  obtain ⟨ab, hentry⟩ := mem_active_iff_entry.mp hactive
  have hspec := s.perform_expire auditAdder now removals
  exact mem_active_iff_entry.mpr ⟨ab, ((hspec.entries ip ab).mp hentry).1⟩

end Host

end Astartis.Firewall

namespace Astartis.ActionDispatcher

open Audit
open Firewall
open PolicyEngine
open TransitionSystem

section Refinement

variable {σ τ : Type}

/-- Components that do the same over a finer state. -/
structure Effectors.Refines (fine : Effectors τ) (coarse : Effectors σ) (forget : τ → σ) :
    Prop where
  block : ∀ ip ttlS world,
    coarse.block ip ttlS (forget world) = (fine.block ip ttlS world).map id forget
  quarantineFile : ∀ srcPath virusName world,
    coarse.quarantineFile srcPath virusName (forget world) =
      (fine.quarantineFile srcPath virusName world).map id forget
  serve : ∀ sessionId path attacker world,
    coarse.serve sessionId path attacker (forget world) =
      (fine.serve sessionId path attacker world).map id forget
  evaluate : ∀ ctx world,
    coarse.evaluate ctx (forget world) = (fine.evaluate ctx world).map id forget
  auditAdder : ∀ eventType payload world,
    coarse.auditAdder eventType payload (forget world) =
      (fine.auditAdder eventType payload world).map id forget

variable {fine : Effectors τ} {coarse : Effectors σ} {forget : τ → σ} (texts : Texts)
  (outputJson agentName : ByteString)

/-- An attempt with the finer components. -/
def AttemptRefines (fine : Attempt τ) (coarse : Attempt σ) (forget : τ → σ) : Prop :=
  ∀ out world, coarse out (forget world) = (fine out world).map id forget

theorem tryFirewallBlock_refines (h : fine.Refines coarse forget) :
    AttemptRefines (tryFirewallBlock texts fine outputJson agentName)
      (tryFirewallBlock texts coarse outputJson agentName) forget := by
  intro out world
  simp only [tryFirewallBlock, h.block, h.auditAdder, Prod.map]
  split
  · rfl
  · split <;> rfl

theorem tryQuarantine_refines (h : fine.Refines coarse forget) :
    AttemptRefines (tryQuarantine texts fine outputJson agentName)
      (tryQuarantine texts coarse outputJson agentName) forget := by
  intro out world
  simp only [tryQuarantine, h.quarantineFile, h.auditAdder, Prod.map]
  split
  · rfl
  · split <;> rfl

theorem tryDeception_refines (h : fine.Refines coarse forget) :
    AttemptRefines (tryDeception texts fine outputJson agentName)
      (tryDeception texts coarse outputJson agentName) forget := by
  intro out world
  simp only [tryDeception, h.serve, h.auditAdder, Prod.map]
  split <;> rfl

theorem tryZerotrustDeny_refines (h : fine.Refines coarse forget) :
    AttemptRefines (tryZerotrustDeny texts fine outputJson agentName)
      (tryZerotrustDeny texts coarse outputJson agentName) forget := by
  intro out world
  simp only [tryZerotrustDeny, h.evaluate, h.auditAdder, Prod.map]
  split <;> rfl

/-- Attempts and the attempts that refine them. -/
theorem firstTaken_refines (attempts : List (Attempt τ × Attempt σ))
    (h : ∀ a ∈ attempts, AttemptRefines a.1 a.2 forget) :
    AttemptRefines (firstTaken (attempts.map Prod.fst)) (firstTaken (attempts.map Prod.snd))
      forget := by
  induction attempts with
  | nil => exact fun _ _ => rfl
  | cons attempt rest ih =>
      intro out world
      have hrest := ih fun a ha => h a (List.mem_cons_of_mem _ ha)
      simp only [List.map_cons, firstTaken, h attempt List.mem_cons_self out world]
      rcases attempt.1 out world with ⟨_ | ⟨_ | _, out'⟩, after⟩
      · rfl
      · exact hrest out' after
      · rfl

/-- A dispatch over the finer state is the dispatch over what it stands for. -/
theorem dispatch_refines (h : fine.Refines coarse forget) (world : τ) :
    dispatch texts coarse agentName outputJson (forget world) =
      (dispatch texts fine agentName outputJson world).map id forget := by
  by_cases houtput : outputJson = []
  · simp only [dispatch, if_pos houtput, Prod.map, id_eq]
  rw [dispatch_eq_finish texts coarse agentName houtput,
    dispatch_eq_finish texts fine agentName houtput]
  have hattempts := firstTaken_refines
    [(tryFirewallBlock texts fine outputJson agentName,
        tryFirewallBlock texts coarse outputJson agentName),
      (tryQuarantine texts fine outputJson agentName,
        tryQuarantine texts coarse outputJson agentName),
      (tryDeception texts fine outputJson agentName,
        tryDeception texts coarse outputJson agentName),
      (tryZerotrustDeny texts fine outputJson agentName,
        tryZerotrustDeny texts coarse outputJson agentName)]
    (by simpa using ⟨tryFirewallBlock_refines texts outputJson agentName h,
      tryQuarantine_refines texts outputJson agentName h,
      tryDeception_refines texts outputJson agentName h,
      tryZerotrustDeny_refines texts outputJson agentName h⟩) {} world
  change firstTaken (attempts texts coarse agentName outputJson) {} (forget world) =
    (firstTaken (attempts texts fine agentName outputJson) {} world).map id forget at hattempts
  rw [hattempts]
  rcases firstTaken (attempts texts fine agentName outputJson) {} world with
    ⟨_ | ⟨_ | _, result⟩, after⟩
  · rfl
  · simp only [finish, Prod.map, id_eq, h.auditAdder]
  · rfl

theorem recorded_refines (effectors : Effectors σ) :
    effectors.recorded.Refines effectors Prod.fst :=
  ⟨fun _ _ _ => rfl, fun _ _ _ => rfl, fun _ _ _ _ => rfl, fun _ _ => rfl, fun _ _ _ => rfl⟩

/-- What every component keeps. -/
structure Effectors.Preserves (effectors : Effectors σ) (P : σ → Prop) : Prop where
  block : ∀ ip ttlS world, P world → P (effectors.block ip ttlS world).2
  quarantineFile : ∀ srcPath virusName world, P world →
    P (effectors.quarantineFile srcPath virusName world).2
  serve : ∀ sessionId path attacker world, P world →
    P (effectors.serve sessionId path attacker world).2
  evaluate : ∀ ctx world, P world → P (effectors.evaluate ctx world).2
  auditAdder : ∀ eventType payload world, P world →
    P (effectors.auditAdder eventType payload world).2

/-- The components over the states with what they keep. -/
def Effectors.restrict {effectors : Effectors σ} {P : σ → Prop} (h : effectors.Preserves P) :
    Effectors {world : σ // P world} where
  block := fun ip ttlS world =>
    ((effectors.block ip ttlS world).1, ⟨_, h.block ip ttlS world world.2⟩)
  quarantineFile := fun srcPath virusName world =>
    ((effectors.quarantineFile srcPath virusName world).1,
      ⟨_, h.quarantineFile srcPath virusName world world.2⟩)
  serve := fun sessionId path attacker world =>
    ((effectors.serve sessionId path attacker world).1,
      ⟨_, h.serve sessionId path attacker world world.2⟩)
  evaluate := fun ctx world =>
    ((effectors.evaluate ctx world).1, ⟨_, h.evaluate ctx world world.2⟩)
  auditAdder := fun eventType payload world =>
    ((effectors.auditAdder eventType payload world).1,
      ⟨_, h.auditAdder eventType payload world world.2⟩)

/-- A dispatch keeps what every component keeps. -/
theorem dispatch_preserves {effectors : Effectors σ} {P : σ → Prop}
    (h : effectors.Preserves P) {world : σ} (hworld : P world) :
    P (dispatch texts effectors agentName outputJson world).2 := by
  have hrefines : (Effectors.restrict h).Refines effectors Subtype.val :=
    ⟨fun _ _ _ => rfl, fun _ _ _ => rfl, fun _ _ _ _ => rfl, fun _ _ => rfl, fun _ _ _ => rfl⟩
  have hdispatch := dispatch_refines texts outputJson agentName hrefines ⟨world, hworld⟩
  change dispatch texts effectors agentName outputJson world = _ at hdispatch
  rw [hdispatch]
  exact (dispatch texts (Effectors.restrict h) agentName outputJson ⟨world, hworld⟩).2.2

end Refinement

section Limit

variable {σ : Type} (texts : Texts) (effectors : Effectors σ)

/-- The components with a firewall beside the state of the others. -/
def Effectors.withFirewall (attempt : Firewall.Attempt) : Effectors (Host σ) where
  block := fun ip ttlS s =>
    ((s.blocker.block effectors.auditAdder attempt ip ttlS s.rules s.world).1,
      s.perform effectors.auditAdder (.block attempt ip ttlS))
  quarantineFile := fun srcPath virusName s =>
    let (entryId, world) := effectors.quarantineFile srcPath virusName s.world
    (entryId, { s with world := world })
  serve := fun sessionId path attacker s =>
    let (tier, world) := effectors.serve sessionId path attacker s.world
    (tier, { s with world := world })
  evaluate := fun ctx s =>
    let (decision, world) := effectors.evaluate ctx s.world
    (decision, { s with world := world })
  auditAdder := fun eventType payload s =>
    let (entryId, world) := effectors.auditAdder eventType payload s.world
    (entryId, { s with world := world })

/-- The calls so far made these addresses of the blocked ones. -/
def Admits (attempt : Firewall.Attempt) (start : Host σ) (state : Host σ × List Call) : Prop :=
  state.1.blocker.allowlist = start.blocker.allowlist ∧
    state.1.active = (blockedIps state.2).foldl
      (Host.admitted start.blocker.allowlist attempt) start.active

theorem withFirewall_preserves (attempt : Firewall.Attempt) (start : Host σ) :
    (effectors.withFirewall attempt).recorded.Preserves (Admits attempt start) := by
  have hother : ∀ (s : Host σ) (calls : List Call) (call : Call) (world : σ),
      call.blocked? = none → Admits attempt start (s, calls) →
        Admits attempt start ({ s with world := world }, calls ++ [call]) := by
    rintro s calls call world hcall ⟨hallowlist, hactive⟩
    have hnone : blockedIps [call] = [] := by simp [blockedIps, hcall]
    refine ⟨hallowlist, ?_⟩
    rw [blockedIps_append, hnone, List.append_nil]
    exact hactive
  constructor
  · rintro ip ttlS ⟨s, calls⟩ ⟨hallowlist, hactive⟩
    refine ⟨(Host.allowlist_perform_block _ s attempt ip ttlS).trans hallowlist, ?_⟩
    change (s.perform effectors.auditAdder (.block attempt ip ttlS)).active =
      (blockedIps (calls ++ [.block ip ttlS _])).foldl _ _
    rw [Host.active_perform_block, blockedIps_append, List.foldl_append, ← hactive]
    exact congrArg (Host.admitted · attempt s.active ip) hallowlist
  · exact fun _ _ state h => hother state.1 state.2 _ _ rfl h
  · exact fun _ _ _ state h => hother state.1 state.2 _ _ rfl h
  · exact fun _ state h => hother state.1 state.2 _ _ rfl h
  · exact fun _ _ state h => hother state.1 state.2 _ _ rfl h

/-- What runs beside a dispatcher. -/
inductive Turn
  | dispatch (agentName outputJson : ByteString) (attempt : Firewall.Attempt)
  | expire (now : Int64) (removals : ByteString → Removal)

def Turn.run (s : Host σ) : Turn → Host σ
  | .dispatch agentName outputJson attempt =>
      (ActionDispatcher.dispatch texts (effectors.withFirewall attempt) agentName outputJson s).2
  | .expire now removals => s.perform effectors.auditAdder (.expire now removals)

/-- A dispatch tries to block its target, and touches no other block. -/
theorem run_dispatch_active (attempt : Firewall.Attempt) (agentName outputJson : ByteString)
    (s : Host σ) :
    (Turn.run texts effectors s (.dispatch agentName outputJson attempt)).blocker.allowlist =
        s.blocker.allowlist ∧
      (Turn.run texts effectors s (.dispatch agentName outputJson attempt)).active =
        (targets texts outputJson agentName).foldl (Host.admitted s.blocker.allowlist attempt)
          s.active := by
  have hstart : Admits attempt s (s, []) := ⟨rfl, rfl⟩
  have hrun := dispatch_preserves texts outputJson agentName
    (withFirewall_preserves effectors attempt s) hstart
  have hplain := dispatch_refines texts outputJson agentName
    (recorded_refines (effectors.withFirewall attempt)) (s, [])
  rw [← dispatch_blockedIps texts (effectors.withFirewall attempt) outputJson agentName s,
    ← hrun.2]
  exact ⟨(congrArg (fun p => p.2.blocker.allowlist) hplain).trans hrun.1,
    congrArg (fun p => p.2.active) hplain⟩

/-- Dispatches and expiry passes, from an empty blocker on. -/
def dispatchSystem (blocker : FirewallBlocker) (world : σ) : System (Host σ) Turn where
  Init := fun s => blocker.blocks = {} ∧ s = { blocker := blocker, world := world }
  Step := fun s turn s' => s' = turn.run texts effectors s

/-- No more blocks are active than the policy has, or a person approves. -/
def WithinLimit (s : Host σ) : Prop :=
  s.blocker.activeBlocks.length ≤ maxConcurrentBlocks ∨
    ∃ actionType, requireHumanApproval actionType = true

/-- A block that the turn adds is not one too many. -/
def HasRoom (s : Host σ) (turn : Turn) : Prop :=
  ∀ agentName outputJson attempt, turn = .dispatch agentName outputJson attempt →
    ∀ ip ∈ targets texts outputJson agentName, s.blocker.Accepts attempt ip →
      s.blocker.activeBlocks.length < maxConcurrentBlocks

theorem withinLimit_iff (s : Host σ) : WithinLimit s ↔ s.active.card ≤ maxConcurrentBlocks := by
  simp [WithinLimit, requireHumanApproval, s.length_activeBlocks]

/-- At most one address is blocked. -/
theorem targets_cases (agentName outputJson : ByteString) :
    targets texts outputJson agentName = [] ∨
      ∃ ip, targets texts outputJson agentName = [ip] := by
  rw [targets]
  split
  · cases ((scannedTexts texts outputJson).flatMap candidates).head? with
    | none => exact .inl rfl
    | some ip => exact .inr ⟨ip, rfl⟩
  · exact .inl rfl

theorem Turn.withinLimit_iff {s : Host σ} (hwithin : WithinLimit s) (turn : Turn) :
    WithinLimit (turn.run texts effectors s) ↔ HasRoom texts s turn := by
  rw [ActionDispatcher.withinLimit_iff] at hwithin ⊢
  cases turn with
  | expire now removals =>
      refine iff_of_true ?_ fun _ _ _ h => absurd h (by simp)
      exact (Finset.card_le_card (Host.active_perform_expire _ s now removals)).trans hwithin
  | dispatch agentName outputJson attempt =>
      have hroom : HasRoom texts s (.dispatch agentName outputJson attempt) ↔
          ∀ ip ∈ targets texts outputJson agentName, s.blocker.Accepts attempt ip →
            s.active.card < maxConcurrentBlocks := by
        simp only [HasRoom, s.length_activeBlocks]
        constructor
        · intro h
          exact h agentName outputJson attempt rfl
        · rintro h _ _ _ hturn
          obtain ⟨rfl, rfl, rfl⟩ := Turn.dispatch.inj hturn
          exact h
      rw [hroom, (run_dispatch_active texts effectors attempt agentName outputJson s).2]
      rcases targets_cases texts agentName outputJson with hnone | ⟨ip, hip⟩
      · simpa [hnone] using hwithin
      rw [hip, List.foldl_cons, List.foldl_nil, List.forall_mem_singleton, Host.admitted_active]
      split
      · rename_i haccepts
        have hnew : ip ∉ s.active := by simp [Host.mem_active, haccepts.2.1]
        rw [Finset.card_insert_of_notMem hnew, Nat.succ_le_iff]
        simp only [haccepts, true_implies]
      · rename_i hrefused
        exact iff_of_true hwithin fun haccepts => absurd haccepts hrefused

theorem run_dispatch_mem_active (attempt : Firewall.Attempt) (agentName outputJson : ByteString)
    (s : Host σ) (ip : ByteString) :
    ip ∈ (Turn.run texts effectors s (.dispatch agentName outputJson attempt)).active ↔
      ip ∈ s.active ∨
        (ip ∈ targets texts outputJson agentName ∧ s.blocker.Accepts attempt ip) := by
  rw [(run_dispatch_active texts effectors attempt agentName outputJson s).2]
  rcases targets_cases texts agentName outputJson with hnone | ⟨target, htarget⟩
  · simp [hnone]
  rw [htarget, List.foldl_cons, List.foldl_nil, Host.admitted_active, List.mem_singleton]
  split
  · rename_i haccepts
    rw [Finset.mem_insert, or_comm]
    apply or_congr_right
    constructor
    · rintro rfl
      exact ⟨rfl, haccepts⟩
    · exact And.left
  · rename_i hrefused
    refine (or_iff_left ?_).symm
    rintro ⟨rfl, haccepts⟩
    exact hrefused haccepts

/-- Every authorised block is dispatched, however many are active: a dispatch adds its target
exactly if the blocker accepts it, and an expiry pass adds nothing.  So the blocks of a run stay
within the limit exactly if every dispatch that adds one finds room for it. -/
theorem trace_auto_dispatched (blocker : FirewallBlocker) (world : σ)
    {steps : List (Transition (Host σ) Turn)} {s : Host σ}
    (htrace : Trace (dispatchSystem texts effectors blocker world) steps s) :
    (∀ t ∈ steps, ∀ agentName outputJson attempt,
        t.label = .dispatch agentName outputJson attempt → ∀ ip, ip ∈ t.after.active ↔
          ip ∈ t.before.active ∨
            (ip ∈ targets texts outputJson agentName ∧ t.before.blocker.Accepts attempt ip)) ∧
      (∀ t ∈ steps, ∀ now removals, t.label = .expire now removals →
        t.after.active ⊆ t.before.active) ∧
      ((∀ t ∈ steps, WithinLimit t.after) ↔ ∀ t ∈ steps, HasRoom texts t.before t.label) := by
  refine ⟨?_, ?_, ?_⟩
  · intro t ht agentName outputJson attempt hturn ip
    have hstep : t.after = t.label.run texts effectors t.before := htrace.step_of_mem ht
    rw [hstep, hturn]
    exact run_dispatch_mem_active texts effectors attempt agentName outputJson t.before ip
  · intro t ht now removals hturn
    have hstep : t.after = t.label.run texts effectors t.before := htrace.step_of_mem ht
    rw [hstep, hturn]
    exact Host.active_perform_expire effectors.auditAdder t.before now removals
  · refine htrace.forall_after_iff (I := fun _ => True) ?_ (fun _ _ _ _ _ => trivial) ?_
    · rintro _ ⟨hempty, rfl⟩
      exact ⟨trivial, .inl (by simp [FirewallBlocker.activeBlocks, hempty])⟩
    · rintro s turn _ - hwithin rfl
      exact turn.withinLimit_iff texts effectors hwithin

end Limit

section Samples

def hostIp (n : Nat) : ByteString :=
  ("8.8.8." : ByteString) ++ ByteString.natText 10 n

/-- An agent names a host, and `netsh` adds both rules. -/
def hostTurn (n : Nat) : Turn :=
  .dispatch "incident_responder" (hostIp n) ⟨1000, 1001, true, true⟩

theorem hostIp_injective : Function.Injective hostIp := by
  intro m n h
  exact ByteString.natText_injective (by decide) (by decide) (List.append_cancel_left h)

theorem targets_hostIp : ∀ n < 101,
    targets rawTexts (hostIp n) "incident_responder" = [hostIp n] ∧
      hostIp n ∉ (["127.0.0.1", "::1", "0.0.0.0"] : List ByteString) := by
  decide +kernel

theorem reachable_hosts (n : Nat) (hn : n ≤ 101) :
    ∃ steps s, Trace (dispatchSystem rawTexts willingEffectors {} ()) steps s ∧
      steps.map Transition.label = (List.range n).map hostTurn ∧
      s.blocker.allowlist = (["127.0.0.1", "::1", "0.0.0.0"] : List ByteString) ∧
      s.active = (Finset.range n).image hostIp := by
  induction n with
  | zero =>
      exact ⟨[], { world := () }, .start ⟨rfl, rfl⟩, rfl, rfl, rfl⟩
  | succ n ih =>
      obtain ⟨steps, s, htrace, hlabels, hallowlist, hactive⟩ := ih (by omega)
      obtain ⟨htarget, hallowed⟩ := targets_hostIp n (by omega)
      have hrun := run_dispatch_active rawTexts willingEffectors ⟨1000, 1001, true, true⟩
        "incident_responder" (hostIp n) s
      have hturn : hostTurn n = .dispatch "incident_responder" (hostIp n)
        ⟨1000, 1001, true, true⟩ := rfl
      rw [htarget, List.foldl_cons, List.foldl_nil, Host.admitted, hallowlist,
        if_pos ⟨hallowed, by simp⟩, hactive, ← hturn] at hrun
      generalize hnext : Turn.run rawTexts willingEffectors s (hostTurn n) = next at hrun
      refine ⟨_, next, htrace.extend hnext.symm, ?_, hrun.1, ?_⟩
      · simp [hlabels, List.range_succ]
      · rw [Finset.range_add_one, Finset.image_insert]
        exact hrun.2

theorem first_host_withinLimit :
    ∃ steps s, Trace (dispatchSystem rawTexts willingEffectors {} ()) steps s ∧
      steps.map Transition.label = [hostTurn 0] ∧ ∀ t ∈ steps, WithinLimit t.after := by
  have hstart : Trace (dispatchSystem rawTexts willingEffectors {} ()) [] { world := () } :=
    .start ⟨rfl, rfl⟩
  have hstep : (dispatchSystem rawTexts willingEffectors {} ()).Step { world := () } (hostTurn 0)
      ((hostTurn 0).run rawTexts willingEffectors { world := () }) := rfl
  have htrace := hstart.extend hstep
  refine ⟨_, _, htrace, rfl,
    (trace_auto_dispatched rawTexts willingEffectors {} () htrace).2.2.mpr ?_⟩
  simp only [List.nil_append, List.forall_mem_singleton]
  intro _ _ _ _ _ _ _
  decide

/-- A hundred hosts and one more. -/
theorem hundred_and_one_hosts_blocked :
    ∃ s, Reachable (dispatchSystem rawTexts willingEffectors {} ()) s ∧ ¬ WithinLimit s := by
  obtain ⟨steps, s, htrace, -, -, hactive⟩ := reachable_hosts 101 (le_refl _)
  refine ⟨s, ⟨steps, htrace⟩, ?_⟩
  rw [withinLimit_iff, hactive, Finset.card_image_of_injective _ hostIp_injective,
    Finset.card_range]
  decide

end Samples

end Astartis.ActionDispatcher
