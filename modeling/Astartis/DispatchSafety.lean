import Astartis.ActionDispatcher

/-!
What a dispatch is allowed to do.  The components are instrumented so that they note every
call along with its outcome; the calls are then compared with the policy.
-/

namespace Astartis.ActionDispatcher

open Audit
open Firewall
open PolicyEngine

/-- The actions in the order in which they are attempted. -/
inductive Action
  | firewallBlock
  | quarantine
  | deception
  | zerotrustDeny
deriving DecidableEq

namespace Action

def rank : Action → Nat
  | .firewallBlock => 0
  | .quarantine => 1
  | .deception => 2
  | .zerotrustDeny => 3

def allowed (agentName : ByteString) : Action → Bool
  | .firewallBlock => canBlockFirewall agentName
  | .quarantine => canQuarantine agentName
  | .deception => canDeceive agentName
  | .zerotrustDeny => canZerotrustDeny agentName

end Action

/-- A call of a component with its outcome. -/
inductive Call
  | block (ip : ByteString) (ttlS : Int32) (result : BlockResult)
  | quarantineFile (srcPath virusName entryId : ByteString)
  | serve (sessionId path attacker : ByteString) (tier : Int32)
  | evaluate (ctx : AccessContext) (decision : TrustDecision)
  | audit (eventType payload : ByteString)
deriving DecidableEq

/-- The action that a call attempts, and whether it succeeded. -/
def Call.attempt? : Call → Option (Action × Bool)
  | .block _ _ result => some (.firewallBlock, result.blocked)
  | .quarantineFile _ _ entryId => some (.quarantine, entryId ≠ [])
  | .serve .. => some (.deception, true)
  | .evaluate _ decision => some (.zerotrustDeny, decision = .deny || decision = .quarantine)
  | .audit .. => none

/-- The components with a list of the calls made so far. -/
def Effectors.recorded {σ : Type} (effectors : Effectors σ) : Effectors (σ × List Call) where
  block := fun ip ttlS (world, calls) =>
    let (result, world) := effectors.block ip ttlS world
    (result, (world, calls ++ [.block ip ttlS result]))
  quarantineFile := fun srcPath virusName (world, calls) =>
    let (entryId, world) := effectors.quarantineFile srcPath virusName world
    (entryId, (world, calls ++ [.quarantineFile srcPath virusName entryId]))
  serve := fun sessionId path attacker (world, calls) =>
    let (tier, world) := effectors.serve sessionId path attacker world
    (tier, (world, calls ++ [.serve sessionId path attacker tier]))
  evaluate := fun ctx (world, calls) =>
    let (decision, world) := effectors.evaluate ctx world
    (decision, (world, calls ++ [.evaluate ctx decision]))
  auditAdder := fun eventType payload (world, calls) =>
    let (entryId, world) := effectors.auditAdder eventType payload world
    (entryId, (world, calls ++ [.audit eventType payload]))

/-- The calls of one attempt at an action: none unless the policy allows it, and otherwise
one call and its audit entry, whose outcome is returned. -/
inductive AttemptCalls (agentName : ByteString) (action : Action) :
    Option Bool → List Call → Prop
  | idle {taken : Option Bool} (hidle : taken ≠ some true) :
      AttemptCalls agentName action taken []
  | made {taken : Bool} {call : Call} (eventType payload : ByteString)
      (hallowed : action.allowed agentName = true)
      (hcall : call.attempt? = some (action, taken)) :
      AttemptCalls agentName action (some taken) [call, .audit eventType payload]

/-- The recorded attempt runs like the plain one and notes its calls. -/
def Records {σ : Type} (agentName : ByteString) (action : Action) (plain : Attempt σ)
    (recorded : Attempt (σ × List Call)) : Prop :=
  ∀ out world calls, ∃ new,
    recorded out (world, calls) =
        ((plain out world).1, ((plain out world).2, calls ++ new)) ∧
      AttemptCalls agentName action ((plain out world).1.map Prod.fst) new

section Attempts

variable {σ : Type} {agentName : ByteString} {action : Action} (world : σ) (calls : List Call)

theorem exists_idle {outcome : Option (Bool × DispatchResult)}
    (hidle : outcome.map Prod.fst ≠ some true) :
    ∃ new, (outcome, (world, calls)) = (outcome, (world, calls ++ new)) ∧
      AttemptCalls agentName action (outcome.map Prod.fst) new :=
  ⟨[], by simp, .idle hidle⟩

/-- The call and the audit entry that were noted one after the other. -/
theorem exists_made {taken : Bool} {out : DispatchResult} {call : Call}
    {eventType payload : ByteString} (hallowed : ¬ action.allowed agentName = false)
    (hcall : call.attempt? = some (action, taken)) :
    ∃ new, (some (taken, out), (world, (calls ++ [call]) ++ [.audit eventType payload])) =
        (some (taken, out), (world, calls ++ new)) ∧
      AttemptCalls agentName action (some taken) new := by
  refine ⟨[call, .audit eventType payload], ?_, .made _ _ ?_ hcall⟩
  · rw [List.append_assoc]
    rfl
  · simpa using hallowed

variable (texts : Texts) (effectors : Effectors σ) (outputJson : ByteString)

theorem tryFirewallBlock_records :
    Records agentName .firewallBlock (tryFirewallBlock texts effectors outputJson agentName)
      (tryFirewallBlock texts effectors.recorded outputJson agentName) := by
  intro out world calls
  simp only [tryFirewallBlock]
  split
  · exact exists_idle world calls (by simp)
  · rename_i hallowed
    split
    · exact exists_idle world calls (by simp)
    · exact exists_idle world calls (by simp)
    · exact exists_made _ _ hallowed rfl

theorem tryQuarantine_records :
    Records agentName .quarantine (tryQuarantine texts effectors outputJson agentName)
      (tryQuarantine texts effectors.recorded outputJson agentName) := by
  intro out world calls
  simp only [tryQuarantine]
  split
  · exact exists_idle world calls (by simp)
  · rename_i hallowed
    split
    · exact exists_idle world calls (by simp)
    · exact exists_idle world calls (by simp)
    · exact exists_made _ _ hallowed rfl

theorem tryDeception_records :
    Records agentName .deception (tryDeception texts effectors outputJson agentName)
      (tryDeception texts effectors.recorded outputJson agentName) := by
  intro out world calls
  simp only [tryDeception]
  split
  · exact exists_idle world calls (by simp)
  · rename_i hallowed
    exact exists_made _ _ hallowed rfl

theorem tryZerotrustDeny_records :
    Records agentName .zerotrustDeny (tryZerotrustDeny texts effectors outputJson agentName)
      (tryZerotrustDeny texts effectors.recorded outputJson agentName) := by
  intro out world calls
  simp only [tryZerotrustDeny]
  split
  · exact exists_idle world calls (by simp)
  · rename_i hallowed
    exact exists_made _ _ hallowed rfl

end Attempts

def attemptsOf (calls : List Call) : List (Action × Bool) :=
  calls.filterMap Call.attempt?

/-- Calls for some of these actions, in their order and up to the first success. -/
structure InOrder (agentName : ByteString) (actions : List Action) (calls : List Call) :
    Prop where
  permitted : ∀ attempt ∈ attemptsOf calls,
    attempt.1 ∈ actions ∧ attempt.1.allowed agentName = true
  ordered : (attemptsOf calls).Pairwise fun earlier later =>
    earlier.1.rank < later.1.rank ∧ earlier.2 = false
  idle : (∀ action ∈ actions, action.allowed agentName = false) → calls = []

/-- An action with its attempt and the recorded form of it. -/
abbrev Instrumented (σ : Type) := Action × Attempt σ × Attempt (σ × List Call)

theorem attemptsOf_attempt {agentName : ByteString} {action : Action} {taken : Option Bool}
    {calls : List Call} (hcalls : AttemptCalls agentName action taken calls) :
    ∀ attempt ∈ attemptsOf calls, attempt.1 = action ∧
      action.allowed agentName = true ∧ taken = some attempt.2 := by
  cases hcalls with
  | idle _ => simp [attemptsOf]
  | made eventType payload hallowed hcall =>
      have haudit : (Call.audit eventType payload).attempt? = none := rfl
      simp [attemptsOf, hcall, haudit, hallowed]

@[simp] theorem attemptsOf_audit (eventType payload : ByteString) :
    attemptsOf [.audit eventType payload] = [] := rfl

theorem attemptsOf_append (first rest : List Call) :
    attemptsOf (first ++ rest) = attemptsOf first ++ attemptsOf rest :=
  List.filterMap_append

/-- The calls of an attempt, and of the later ones after it failed. -/
theorem AttemptCalls.inOrder_append {agentName : ByteString} {action : Action}
    {actions : List Action} {taken : Option Bool} {first rest : List Call}
    (hfirst : AttemptCalls agentName action taken first)
    (hrest : InOrder agentName actions rest)
    (hsorted : ∀ later ∈ actions, action.rank < later.rank)
    (hfailed : rest ≠ [] → taken = some false) :
    InOrder agentName (action :: actions) (first ++ rest) := by
  have hattempts := attemptsOf_attempt hfirst
  constructor
  · intro attempt hattempt
    rw [attemptsOf_append, List.mem_append] at hattempt
    rcases hattempt with hattempt | hattempt
    · obtain ⟨rfl, hallowed, -⟩ := hattempts attempt hattempt
      exact ⟨List.mem_cons_self, hallowed⟩
    · obtain ⟨hmem, hallowed⟩ := hrest.permitted attempt hattempt
      exact ⟨List.mem_cons_of_mem _ hmem, hallowed⟩
  · rw [attemptsOf_append, List.pairwise_append]
    refine ⟨?_, hrest.ordered, ?_⟩
    · cases hfirst with
      | idle _ => exact List.Pairwise.nil
      | made eventType payload hallowed hcall =>
          simp [attemptsOf, hcall, show (Call.audit eventType payload).attempt? = none from rfl]
    · intro earlier hearlier later hlater
      obtain ⟨rfl, -, htaken⟩ := hattempts earlier hearlier
      have hne : rest ≠ [] := by
        rintro rfl
        simp [attemptsOf] at hlater
      rw [hfailed hne] at htaken
      exact ⟨hsorted _ (hrest.permitted later hlater).1, (Option.some.inj htaken).symm⟩
  · intro hnone
    have hrest := hrest.idle fun later hlater => hnone later (List.mem_cons_of_mem _ hlater)
    cases hfirst with
    | idle _ => exact hrest
    | made eventType payload hallowed hcall =>
        rw [hnone action List.mem_cons_self] at hallowed
        simp at hallowed

theorem InOrder.nil (agentName : ByteString) (actions : List Action) :
    InOrder agentName actions [] :=
  ⟨by simp [attemptsOf], by simp [attemptsOf], fun _ => rfl⟩

theorem firstTaken_records {σ : Type} {agentName : ByteString}
    (attempts : List (Instrumented σ))
    (hrecords : ∀ a ∈ attempts, Records agentName a.1 a.2.1 a.2.2)
    (hsorted : (attempts.map Prod.fst).Pairwise fun a b => a.rank < b.rank)
    (out : DispatchResult) (world : σ) (calls : List Call) :
    ∃ new,
      firstTaken (attempts.map fun a => a.2.2) out (world, calls) =
        ((firstTaken (attempts.map fun a => a.2.1) out world).1,
          ((firstTaken (attempts.map fun a => a.2.1) out world).2, calls ++ new)) ∧
      InOrder agentName (attempts.map Prod.fst) new := by
  induction attempts generalizing out world calls with
  | nil => exact ⟨[], by simp [firstTaken], .nil agentName []⟩
  | cons attempt rest ih =>
      obtain ⟨first, hrun, hcalls⟩ := hrecords attempt (by simp) out world calls
      rw [List.map_cons, List.pairwise_cons] at hsorted
      simp only [List.map_cons, firstTaken, hrun]
      cases hplain : attempt.2.1 out world with
      | mk outcome after =>
          rw [hplain] at hcalls
          rcases outcome with _ | ⟨taken, out'⟩
          · refine ⟨first, rfl, ?_⟩
            have hall := hcalls.inOrder_append (.nil agentName (rest.map Prod.fst)) hsorted.1
              (by simp)
            simpa using hall
          · cases taken with
            | true =>
                refine ⟨first, rfl, ?_⟩
                have hall := hcalls.inOrder_append (.nil agentName (rest.map Prod.fst))
                  hsorted.1 (by simp)
                simpa using hall
            | false =>
                obtain ⟨later, hlater, hinorder⟩ := ih
                  (fun a ha => hrecords a (List.mem_cons_of_mem _ ha)) hsorted.2 out' after
                  (calls ++ first)
                refine ⟨first ++ later, ?_, hcalls.inOrder_append hinorder hsorted.1
                  fun _ => rfl⟩
                simp only [hlater, List.append_assoc]

/-- Everything a dispatch does: calls for actions that the policy allows, in order of
priority, none after the first success, and at most an audit entry otherwise. -/
structure Authorised (agentName : ByteString) (calls : List Call) : Prop where
  permitted : ∀ attempt ∈ attemptsOf calls, attempt.1.allowed agentName = true
  ordered : (attemptsOf calls).Pairwise fun earlier later =>
    earlier.1.rank < later.1.rank ∧ earlier.2 = false
  idle : (∀ action, Action.allowed agentName action = false) →
    calls = [] ∨ ∃ eventType payload, calls = [.audit eventType payload]

section Conclusion

variable {σ : Type} (texts : Texts) (effectors : Effectors σ)
  (agentName agentOutputJson : ByteString)

/-- The attempts of a dispatch, in their order. -/
def attempts : List (Attempt σ) :=
  [tryFirewallBlock texts effectors agentOutputJson agentName,
    tryQuarantine texts effectors agentOutputJson agentName,
    tryDeception texts effectors agentOutputJson agentName,
    tryZerotrustDeny texts effectors agentOutputJson agentName]

/-- What a dispatch makes of the outcome of its attempts: without an action it writes the
advisory entry. -/
def finish : Option (Bool × DispatchResult) × σ → Option DispatchResult × σ
  | (none, world) => (none, world)
  | (some (true, result), world) => (some result, world)
  | (some (false, result), world) =>
      let (auditEntryId, world) := effectors.auditAdder "action_dispatcher_advisory"
        (("agent=" : ByteString) ++ agentName ++
          (" reason=no_actionable_output" : ByteString)) world
      (some { result with auditEntryId := auditEntryId }, world)

variable {agentOutputJson}

theorem dispatch_eq_finish (houtput : agentOutputJson ≠ []) (world : σ) :
    dispatch texts effectors agentName agentOutputJson world =
      finish effectors agentName
        (firstTaken (attempts texts effectors agentName agentOutputJson) {} world) := by
  simp only [dispatch, if_neg houtput]
  change _ = finish effectors agentName (firstTaken [_, _, _, _] {} world)
  split
  · rename_i htaken
    rw [htaken]
    rfl
  · rename_i htaken
    rw [htaken]
    rfl
  · rename_i htaken
    rw [htaken]
    rfl

variable (agentOutputJson)

def instrumentedAttempts : List (Instrumented σ) :=
  [(.firewallBlock, tryFirewallBlock texts effectors agentOutputJson agentName,
      tryFirewallBlock texts effectors.recorded agentOutputJson agentName),
    (.quarantine, tryQuarantine texts effectors agentOutputJson agentName,
      tryQuarantine texts effectors.recorded agentOutputJson agentName),
    (.deception, tryDeception texts effectors agentOutputJson agentName,
      tryDeception texts effectors.recorded agentOutputJson agentName),
    (.zerotrustDeny, tryZerotrustDeny texts effectors agentOutputJson agentName,
      tryZerotrustDeny texts effectors.recorded agentOutputJson agentName)]

theorem instrumentedAttempts_records :
    ∀ a ∈ instrumentedAttempts texts effectors agentName agentOutputJson,
      Records agentName a.1 a.2.1 a.2.2 := by
  simp only [instrumentedAttempts, List.forall_mem_cons, List.not_mem_nil, IsEmpty.forall_iff,
    implies_true, and_true]
  exact ⟨tryFirewallBlock_records texts effectors agentOutputJson,
    tryQuarantine_records texts effectors agentOutputJson,
    tryDeception_records texts effectors agentOutputJson,
    tryZerotrustDeny_records texts effectors agentOutputJson⟩

end Conclusion

theorem dispatch_authorised {σ : Type} (texts : Texts) (effectors : Effectors σ)
    (agentName agentOutputJson : ByteString) (world : σ) :
    ∃ calls,
      dispatch texts effectors.recorded agentName agentOutputJson (world, []) =
        ((dispatch texts effectors agentName agentOutputJson world).1,
          ((dispatch texts effectors agentName agentOutputJson world).2, calls)) ∧
      Authorised agentName calls := by
  by_cases houtput : agentOutputJson = []
  · simp only [dispatch, if_pos houtput]
    exact ⟨[], rfl, by simp [attemptsOf], by simp [attemptsOf], fun _ => .inl rfl⟩
  rw [dispatch_eq_finish texts effectors agentName houtput,
    dispatch_eq_finish texts effectors.recorded agentName houtput]
  obtain ⟨new, hrun, hinorder⟩ := firstTaken_records
    (instrumentedAttempts texts effectors agentName agentOutputJson)
    (instrumentedAttempts_records texts effectors agentName agentOutputJson)
    (by simp [instrumentedAttempts, Action.rank]) {} world []
  have hattempts : firstTaken (attempts texts effectors.recorded agentName agentOutputJson) {}
      (world, []) =
        ((firstTaken (attempts texts effectors agentName agentOutputJson) {} world).1,
          ((firstTaken (attempts texts effectors agentName agentOutputJson) {} world).2,
            new)) := hrun
  have hpermitted : ∀ attempt ∈ attemptsOf new, attempt.1.allowed agentName = true :=
    fun attempt hattempt => (hinorder.permitted attempt hattempt).2
  have hidle : (∀ action, Action.allowed agentName action = false) → new = [] := fun hnone =>
    hinorder.idle fun action _ => hnone action
  have hreturned : Authorised agentName new :=
    ⟨hpermitted, hinorder.ordered, fun hnone => .inl (hidle hnone)⟩
  rw [hattempts]
  rcases firstTaken (attempts texts effectors agentName agentOutputJson) {} world with
    ⟨_ | ⟨_ | _, result⟩, after⟩
  · exact ⟨new, rfl, hreturned⟩
  · -- no action was taken: the advisory entry follows
    refine ⟨_, rfl, ?_, ?_, ?_⟩
    · simpa only [attemptsOf_append, attemptsOf_audit, List.append_nil] using hpermitted
    · simpa only [attemptsOf_append, attemptsOf_audit, List.append_nil]
        using hinorder.ordered
    · intro hnone
      exact .inr ⟨_, _, by rw [hidle hnone]; rfl⟩
  · exact ⟨new, rfl, hreturned⟩

end Astartis.ActionDispatcher
