import Astartis.RoutableBlocks

/-!
What the result of a dispatch tells about its run.  The audit chain is instrumented so that it
notes the ids of its entries, and the result is compared with these entries and with the effects
that were attempted.
-/

namespace Astartis.ActionDispatcher

open Audit
open Firewall
open PolicyEngine

/-- An attempted effect under the names by which a result reports it. -/
structure Effect where
  actionType : ByteString
  target : ByteString
  succeeded : Bool
deriving DecidableEq

/-- The effect that a call attempts. -/
def Call.effect? : Call → Option Effect
  | .block ip _ result => some ⟨"firewall_block", ip, result.blocked⟩
  | .quarantineFile srcPath _ entryId => some ⟨"quarantine", srcPath, entryId ≠ []⟩
  | .serve sessionId .. => some ⟨"deception", sessionId, true⟩
  | .evaluate ctx decision =>
      some ⟨"zerotrust_deny", ctx.deviceId, decision = .deny || decision = .quarantine⟩
  | .audit .. => none

def effectsOf (calls : List Call) : List Effect :=
  calls.filterMap Call.effect?

theorem effectsOf_append (first rest : List Call) :
    effectsOf (first ++ rest) = effectsOf first ++ effectsOf rest :=
  List.filterMap_append

@[simp] theorem effectsOf_audit (eventType payload : ByteString) :
    effectsOf [.audit eventType payload] = [] := rfl

/-- The components with a list of the ids of the audit entries written so far. -/
def Effectors.noted {σ : Type} (effectors : Effectors σ) :
    Effectors (σ × List ByteString) where
  block := fun ip ttlS (world, ids) =>
    let (result, world) := effectors.block ip ttlS world
    (result, (world, ids))
  quarantineFile := fun srcPath virusName (world, ids) =>
    let (entryId, world) := effectors.quarantineFile srcPath virusName world
    (entryId, (world, ids))
  serve := fun sessionId path attacker (world, ids) =>
    let (tier, world) := effectors.serve sessionId path attacker world
    (tier, (world, ids))
  evaluate := fun ctx (world, ids) =>
    let (decision, world) := effectors.evaluate ctx world
    (decision, (world, ids))
  auditAdder := fun eventType payload (world, ids) =>
    let (entryId, world) := effectors.auditAdder eventType payload world
    (entryId, (world, ids ++ [entryId]))

/-- The matcher gives up on the raw output, where nothing catches the exception. -/
def Unreadable (texts : Texts) (outputJson : ByteString) : Prop :=
  texts.givesUp ipRe outputJson = true ∨
    texts.givesUp (pathRe outputJson.length) outputJson = true

/-- What one attempt adds to the audit entries and to the calls, by what it returns. -/
inductive AttemptTells (texts : Texts) (outputJson : ByteString) (out : DispatchResult) :
    Option (Bool × DispatchResult) → List ByteString → List Call → Prop
  | raised (hraised : Unreadable texts outputJson) : AttemptTells texts outputJson out none [] []
  | skipped : AttemptTells texts outputJson out (some (false, out)) [] []
  | made {result : DispatchResult} {call : Call} (eventType payload : ByteString)
      (hcall : call.effect? = some ⟨result.actionType, result.target, result.actionTaken⟩) :
      AttemptTells texts outputJson out (some (result.actionTaken, result))
        [result.auditEntryId] [call, .audit eventType payload]

/-- The instrumented attempt runs like the plain one, and what it returns tells what it did. -/
def Tells {σ : Type} (texts : Texts) (outputJson : ByteString) (plain : Attempt σ)
    (instrumented : Attempt ((σ × List ByteString) × List Call)) : Prop :=
  ∀ out world ids calls, ∃ newIds newCalls,
    instrumented out ((world, ids), calls) =
        ((plain out world).1, (((plain out world).2, ids ++ newIds), calls ++ newCalls)) ∧
      AttemptTells texts outputJson out (plain out world).1 newIds newCalls

/-- The structured pass catches its exceptions, so only the raw one ends a scan. -/
theorem extract_of_scanOutput_eq_none {texts : Texts}
    {extract : ByteString → Option ByteString} {first second outputJson : ByteString}
    (hscan : scanOutput texts extract first second outputJson = none) :
    extract outputJson = none := by
  simp only [scanOutput] at hscan
  split at hscan
  · exact hscan
  · rename_i hfound
    rw [hscan] at hfound
    exact absurd rfl hfound

section Attempts

variable {σ : Type} {texts : Texts} {outputJson : ByteString} {out : DispatchResult}
variable (world : σ) (ids : List ByteString) (calls : List Call)

/-- The outcome of an attempt that touches no component. -/
theorem exists_untouched {outcome : Option (Bool × DispatchResult)}
    (htells : AttemptTells texts outputJson out outcome [] []) :
    ∃ newIds newCalls,
      (outcome, ((world, ids), calls)) =
          (outcome, ((world, ids ++ newIds), calls ++ newCalls)) ∧
        AttemptTells texts outputJson out outcome newIds newCalls :=
  ⟨[], [], by simp only [List.append_nil], htells⟩

/-- The outcome of an attempt that makes its call and writes its entry. -/
theorem exists_told {taken : Bool} {result : DispatchResult} {call : Call}
    {entryId eventType payload : ByteString} (htaken : result.actionTaken = taken)
    (hentry : result.auditEntryId = entryId)
    (hcall : call.effect? = some ⟨result.actionType, result.target, taken⟩) :
    ∃ newIds newCalls,
      (some (taken, result), ((world, ids ++ [entryId]),
          (calls ++ [call]) ++ [.audit eventType payload])) =
          (some (taken, result), ((world, ids ++ newIds), calls ++ newCalls)) ∧
        AttemptTells texts outputJson out (some (taken, result)) newIds newCalls := by
  subst htaken hentry
  refine ⟨[result.auditEntryId], [call, .audit eventType payload], ?_, .made _ _ hcall⟩
  rw [List.append_assoc]
  rfl

variable (effectors : Effectors σ) (agentName : ByteString)

theorem tryFirewallBlock_tells :
    Tells texts outputJson (tryFirewallBlock texts effectors outputJson agentName)
      (tryFirewallBlock texts effectors.noted.recorded outputJson agentName) := by
  intro out world ids calls
  simp only [tryFirewallBlock]
  split
  · exact exists_untouched world ids calls .skipped
  · split
    · rename_i hscan
      have hraw := extract_of_scanOutput_eq_none hscan
      have hgives : texts.givesUp ipRe outputJson = true := by
        simpa [extractIpv4] using hraw
      exact exists_untouched world ids calls (.raised (.inl hgives))
    · exact exists_untouched world ids calls .skipped
    · exact exists_told _ ids calls rfl rfl rfl

theorem tryQuarantine_tells :
    Tells texts outputJson (tryQuarantine texts effectors outputJson agentName)
      (tryQuarantine texts effectors.noted.recorded outputJson agentName) := by
  intro out world ids calls
  simp only [tryQuarantine]
  split
  · exact exists_untouched world ids calls .skipped
  · split
    · rename_i hscan
      have hraw := extract_of_scanOutput_eq_none hscan
      have hgives : texts.givesUp (pathRe outputJson.length) outputJson = true := by
        simpa [extractFilepath, regexSearch] using hraw
      exact exists_untouched world ids calls (.raised (.inr hgives))
    · exact exists_untouched world ids calls .skipped
    · exact exists_told _ ids calls rfl rfl rfl

theorem tryDeception_tells :
    Tells texts outputJson (tryDeception texts effectors outputJson agentName)
      (tryDeception texts effectors.noted.recorded outputJson agentName) := by
  intro out world ids calls
  simp only [tryDeception]
  split
  · exact exists_untouched world ids calls .skipped
  · exact exists_told _ ids calls rfl rfl rfl

theorem tryZerotrustDeny_tells :
    Tells texts outputJson (tryZerotrustDeny texts effectors outputJson agentName)
      (tryZerotrustDeny texts effectors.noted.recorded outputJson agentName) := by
  intro out world ids calls
  simp only [tryZerotrustDeny]
  split
  · exact exists_untouched world ids calls .skipped
  · exact exists_told _ ids calls rfl rfl rfl

end Attempts

/-- The state between the attempts: nothing has succeeded, and the result names an effect that
failed unless none was attempted. -/
structure Pending (out : DispatchResult) (calls : List Call) : Prop where
  untaken : out.actionTaken = false
  failed : ∀ effect ∈ effectsOf calls, effect.succeeded = false
  reported :
    (out.actionType = ("advisory" : ByteString) ∧ out.target = [] ∧ effectsOf calls = []) ∨
      ⟨out.actionType, out.target, false⟩ ∈ effectsOf calls

/-- The state after an attempt that took its action. -/
structure Taken (out : DispatchResult) (ids : List ByteString) (calls : List Call) :
    Prop where
  taken : out.actionTaken = true
  entry : out.auditEntryId ∈ ids
  reported : ⟨out.actionType, out.target, true⟩ ∈ effectsOf calls

/-- What is known when the attempts are over, by what they returned. -/
def Concluded (texts : Texts) (outputJson : ByteString) (ids : List ByteString)
    (calls : List Call) : Option (Bool × DispatchResult) → Prop
  | none => Unreadable texts outputJson ∧ ∀ effect ∈ effectsOf calls, effect.succeeded = false
  | some (true, result) => Taken result ids calls
  | some (false, result) => Pending result calls

section Runs

variable {σ : Type} {texts : Texts} {outputJson : ByteString}

theorem AttemptTells.concluded {out : DispatchResult} {outcome : Option (Bool × DispatchResult)}
    {newIds : List ByteString} {calls newCalls : List Call}
    (htells : AttemptTells texts outputJson out outcome newIds newCalls)
    (hpending : Pending out calls) (ids : List ByteString) :
    Concluded texts outputJson (ids ++ newIds) (calls ++ newCalls) outcome := by
  cases htells with
  | raised hraised =>
      rw [List.append_nil, List.append_nil]
      exact ⟨hraised, hpending.failed⟩
  | skipped =>
      rw [List.append_nil, List.append_nil]
      exact hpending
  | @made result call eventType payload hcall =>
      have heffects : effectsOf (calls ++ [call, .audit eventType payload]) =
          effectsOf calls ++ [⟨result.actionType, result.target, result.actionTaken⟩] := by
        rw [effectsOf_append]
        simp [effectsOf, hcall, show (Call.audit eventType payload).effect? = none from rfl]
      cases htaken : result.actionTaken with
      | true =>
          refine ⟨htaken, by simp, ?_⟩
          rw [heffects, htaken]
          simp
      | false =>
          refine ⟨htaken, ?_, .inr ?_⟩
          · intro effect heffect
            rw [heffects, htaken, List.mem_append, List.mem_singleton] at heffect
            rcases heffect with heffect | rfl
            · exact hpending.failed effect heffect
            · rfl
          · rw [heffects, htaken]
            simp

/-- The attempts one after the other, by induction on the list. -/
theorem firstTaken_tells
    (attempts : List (Attempt σ × Attempt ((σ × List ByteString) × List Call)))
    (htells : ∀ a ∈ attempts, Tells texts outputJson a.1 a.2) (out : DispatchResult) (world : σ)
    (ids : List ByteString) (calls : List Call) (hpending : Pending out calls) :
    ∃ ids' calls',
      firstTaken (attempts.map Prod.snd) out ((world, ids), calls) =
          ((firstTaken (attempts.map Prod.fst) out world).1,
            (((firstTaken (attempts.map Prod.fst) out world).2, ids'), calls')) ∧
        Concluded texts outputJson ids' calls'
          (firstTaken (attempts.map Prod.fst) out world).1 := by
  induction attempts generalizing out world ids calls with
  | nil => exact ⟨ids, calls, rfl, hpending⟩
  | cons attempt rest ih =>
      obtain ⟨newIds, newCalls, hrun, hattempt⟩ :=
        htells attempt List.mem_cons_self out world ids calls
      have hconcluded := hattempt.concluded hpending ids
      simp only [List.map_cons, firstTaken, hrun]
      rcases hplain : attempt.1 out world with ⟨_ | ⟨_ | _, out'⟩, after⟩
      · rw [hplain] at hconcluded
        exact ⟨_, _, rfl, hconcluded⟩
      · rw [hplain] at hconcluded
        exact ih (fun a ha => htells a (List.mem_cons_of_mem _ ha)) out' after _ _ hconcluded
      · rw [hplain] at hconcluded
        exact ⟨_, _, rfl, hconcluded⟩

end Runs

/-- The result names the effect that succeeded, or the last one that failed, or none; and an id
of an entry that was written. -/
def Reported (texts : Texts) (outputJson : ByteString) (ids : List ByteString)
    (calls : List Call) : Option DispatchResult → Prop
  | none => Unreadable texts outputJson ∧ ∀ effect ∈ effectsOf calls, effect.succeeded = false
  | some result =>
      (outputJson ≠ [] → result.auditEntryId ∈ ids) ∧
        (result.actionTaken = true ↔ ⟨result.actionType, result.target, true⟩ ∈ effectsOf calls) ∧
        (result.actionTaken = false →
          (result.actionType = ("advisory" : ByteString) ∧ result.target = [] ∧
              effectsOf calls = []) ∨
            ⟨result.actionType, result.target, false⟩ ∈ effectsOf calls)

theorem Taken.result_reported {texts : Texts} {outputJson : ByteString} {result : DispatchResult}
    {ids : List ByteString} {calls : List Call} (htaken : Taken result ids calls) :
    Reported texts outputJson ids calls (some result) := by
  refine ⟨fun _ => htaken.entry, ⟨fun _ => htaken.reported, fun _ => htaken.taken⟩, ?_⟩
  intro huntaken
  rw [htaken.taken] at huntaken
  contradiction

theorem Pending.result_reported {texts : Texts} {outputJson : ByteString} {result : DispatchResult}
    {ids : List ByteString} {calls : List Call} (hpending : Pending result calls)
    (hentry : outputJson ≠ [] → result.auditEntryId ∈ ids) :
    Reported texts outputJson ids calls (some result) := by
  refine ⟨hentry, ⟨?_, ?_⟩, fun _ => hpending.reported⟩
  · intro htaken
    rw [hpending.untaken] at htaken
    contradiction
  · intro hsucceeded
    exact absurd (hpending.failed _ hsucceeded) (by simp)

/-- What the end of a dispatch adds to what its attempts concluded. -/
theorem finish_reported {σ : Type} {texts : Texts} {outputJson : ByteString}
    (effectors : Effectors σ) (agentName : ByteString)
    {outcome : Option (Bool × DispatchResult)} {ids : List ByteString} {calls : List Call}
    (hconcluded : Concluded texts outputJson ids calls outcome) (world : σ) :
    ∃ ids' calls',
      finish effectors.noted.recorded agentName (outcome, ((world, ids), calls)) =
          ((finish effectors agentName (outcome, world)).1,
            (((finish effectors agentName (outcome, world)).2, ids'), calls')) ∧
        Reported texts outputJson ids' calls' (finish effectors agentName (outcome, world)).1 := by
  rcases outcome with _ | ⟨_ | _, result⟩
  · exact ⟨ids, calls, rfl, hconcluded⟩
  · -- no action was taken: the advisory entry replaces that of a failed attempt
    refine ⟨_, _, rfl, ?_⟩
    apply Pending.result_reported
    · refine ⟨hconcluded.untaken, ?_, ?_⟩
      · simpa only [effectsOf_append, effectsOf_audit, List.append_nil] using hconcluded.failed
      · simpa only [effectsOf_append, effectsOf_audit, List.append_nil] using hconcluded.reported
    · exact fun _ => List.mem_append_right _ (List.mem_singleton_self _)
  · exact ⟨ids, calls, rfl, hconcluded.result_reported⟩

/-- Every dispatch of an output writes an entry whose id it returns, and reports what it did. -/
theorem dispatch_reported {σ : Type} (texts : Texts) (effectors : Effectors σ)
    (agentName agentOutputJson : ByteString) (world : σ) :
    ∃ ids calls,
      dispatch texts effectors.noted.recorded agentName agentOutputJson ((world, []), []) =
          ((dispatch texts effectors agentName agentOutputJson world).1,
            (((dispatch texts effectors agentName agentOutputJson world).2, ids), calls)) ∧
        Reported texts agentOutputJson ids calls
          (dispatch texts effectors agentName agentOutputJson world).1 := by
  have hnew : Pending {} [] := ⟨rfl, by simp [effectsOf], .inl ⟨rfl, rfl, rfl⟩⟩
  by_cases houtput : agentOutputJson = []
  · simp only [dispatch, if_pos houtput]
    refine ⟨[], [], rfl, ?_⟩
    apply Pending.result_reported
    · exact ⟨rfl, hnew.failed, .inl ⟨rfl, rfl, rfl⟩⟩
    · exact fun hne => absurd houtput hne
  rw [dispatch_eq_finish texts effectors agentName houtput,
    dispatch_eq_finish texts effectors.noted.recorded agentName houtput]
  let paired : List (Attempt σ × Attempt ((σ × List ByteString) × List Call)) :=
    (attempts texts effectors agentName agentOutputJson).zip
      (attempts texts effectors.noted.recorded agentName agentOutputJson)
  have htells : ∀ a ∈ paired, Tells texts agentOutputJson a.1 a.2 := by
    simp only [paired, attempts, List.zip_cons_cons, List.zip_nil_left, List.forall_mem_cons,
      List.not_mem_nil, IsEmpty.forall_iff, implies_true, and_true]
    exact ⟨tryFirewallBlock_tells effectors agentName, tryQuarantine_tells effectors agentName,
      tryDeception_tells effectors agentName, tryZerotrustDeny_tells effectors agentName⟩
  obtain ⟨ids, calls, hrun, hconcluded⟩ :=
    firstTaken_tells paired htells {} world [] [] hnew
  have hattempts : firstTaken (attempts texts effectors.noted.recorded agentName
      agentOutputJson) {} ((world, []), []) =
        ((firstTaken (attempts texts effectors agentName agentOutputJson) {} world).1,
          (((firstTaken (attempts texts effectors agentName agentOutputJson) {} world).2,
            ids), calls)) := hrun
  rw [hattempts]
  exact finish_reported effectors agentName hconcluded _

/-- The result names a written entry; it says that an action was taken exactly if the effect that
it names succeeded, and nothing else than advice otherwise. -/
def AdvisesUnlessTaken {σ : Type}
    (run : Option DispatchResult × ((σ × List ByteString) × List Call)) : Prop :=
  ∃ result, run.1 = some result ∧ result.auditEntryId ∈ run.2.1.2 ∧
    (result.actionTaken = true ↔ ⟨result.actionType, result.target, true⟩ ∈ effectsOf run.2.2) ∧
    (result.actionTaken = false →
      result.actionType = ("advisory" : ByteString) ∧ result.target = [])

/-- A firewall that refuses every block. -/
def refusingEffectors : Effectors Unit :=
  { willingEffectors with
    block := fun _ _ world => ({ blocked := false, reason := "netsh add rule failed" }, world) }

/-- A block that failed is reported as the block that it was. -/
theorem failed_block_reported :
    let run := dispatch rawTexts refusingEffectors.noted.recorded "incident_responder"
      "Block 203.0.113.7 at once" (((), []), [])
    run.1 = some
        { actionTaken := false
          actionType := "firewall_block"
          target := "203.0.113.7"
          auditEntryId := "entry-1"
          errorMessage := "netsh add rule failed" } ∧
      ¬ AdvisesUnlessTaken run := by
  intro run
  have hresult : run.1 = some
      { actionTaken := false
        actionType := "firewall_block"
        target := "203.0.113.7"
        auditEntryId := "entry-1"
        errorMessage := "netsh add rule failed" } := by
    decide +kernel
  refine ⟨hresult, ?_⟩
  rintro ⟨result, hreturned, -, -, hadvice⟩
  rw [hresult] at hreturned
  obtain rfl := Option.some.inj hreturned
  exact absurd (hadvice rfl).2 (by decide +kernel)

end Astartis.ActionDispatcher
