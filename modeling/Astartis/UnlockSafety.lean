import Mathlib.Data.Finset.Card
import Astartis.TransitionSystem
import Astartis.UnlockProtocol

namespace Astartis.Unlock

open Access
open Audit
open Crypto
open TransitionSystem
open Worm

structure Recorded (α : Type) where
  unlockCalls : List ByteString
  world : α

def Callbacks.recording {α : Type} (callbacks : Callbacks α) : Callbacks (Recorded α) where
  auditAdder := fun eventType payload w =>
    let (entryId, world) := callbacks.auditAdder eventType payload w.world
    (entryId, { w with world := world })
  tokenAudit := fun eventType payload w =>
    let (entryId, world) := callbacks.tokenAudit eventType payload w.world
    (entryId, { w with world := world })
  wormUnlock := fun authority w =>
    { unlockCalls := w.unlockCalls ++ [authority]
      world := callbacks.wormUnlock authority w.world }

/-- The operations on an `UnlockProtocol`.  A vote is cast with whatever the token
store holds and the clock shows at that time. -/
inductive UnlockCall
  | registerApprover (name : ByteString) (side : ApproverSide)
      (publicKeyDer tokenId : ByteString)
  | beginSession
  | getChallenge (draw : Option (Vector UInt8 32)) (approverName : ByteString)
  | castVote (tokenStore : TokenStore) (now : Int64) (approverName : ByteString)
      (signedReq : SignedRequest)

def UnlockCall.isBeginSession : UnlockCall → Bool
  | .beginSession => true
  | _ => false

structure UnlockRun (α : Type) where
  protocol : UnlockProtocol
  world : Recorded α

section

variable {α : Type} (callbacks : Callbacks α) (scheme : SignatureScheme)

def UnlockRun.perform (run : UnlockRun α) : UnlockCall → UnlockRun α
  | .registerApprover name side publicKeyDer tokenId =>
      { run with protocol := run.protocol.registerApprover name side publicKeyDer tokenId }
  | .beginSession => { run with protocol := run.protocol.beginSession }
  | .getChallenge draw approverName =>
      match run.protocol.getChallenge draw approverName with
      | none => run
      | some (_, protocol) => { run with protocol := protocol }
  | .castVote tokenStore now approverName signedReq =>
      let (_, protocol, world) := run.protocol.castVote callbacks.recording scheme
        tokenStore now approverName signedReq run.world
      { protocol := protocol, world := world }

def unlockSystem (threshold : Int) (world : α) : System (UnlockRun α) UnlockCall :=
  ofFunction { protocol := .construct threshold, world := ⟨[], world⟩ }
    (UnlockRun.perform callbacks scheme)

abbrev UnlockStep (α : Type) := Transition (UnlockRun α) UnlockCall

/-- The step is a `begin_session` that opens a session. -/
def Opens (t : UnlockStep α) : Prop :=
  t.label.isBeginSession = true ∧ t.before.protocol.state ≠ .collecting

instance : DecidablePred (Opens (α := α)) := fun _ =>
  inferInstanceAs (Decidable (_ ∧ _))

def CallsUnlock (t : UnlockStep α) : Prop :=
  t.after.world.unlockCalls ≠ t.before.world.unlockCalls

/-- The step is a `get_challenge` that generates the challenge for the name. -/
def Issues (t : UnlockStep α) (name challenge : ByteString) : Prop :=
  ∃ draw : Vector UInt8 32, draw.toList = challenge ∧
    t.label = .getChallenge (some draw) name ∧
    t.before.protocol.challenges[name]? = none ∧
    t.after.protocol.challenges[name]? = some challenge

/-- The step is a `cast_vote` that accepts a vote of the name, for a request that
carries the challenge and a signature accepted under the key of the record, while
the record's token is in scope. -/
def AcceptsVote (t : UnlockStep α) (name : ByteString) (record : ApproverRecord)
    (challenge : ByteString) : Prop :=
  ∃ tokenStore now signedReq,
    t.label = .castVote tokenStore now name signedReq ∧
    (t.before.protocol.castVote callbacks.recording scheme tokenStore now name signedReq
      t.before.world).1.accepted = true ∧
    signedReq.challenge = challenge ∧
    verifySignedRequest scheme signedReq challenge record.publicKeyDer = true ∧
    (tokenStore.checkAccess callbacks.recording.tokenAudit now record.tokenId
      "worm_unlock_vote" t.before.world).1.granted = true

def IssuedIn (segment : List (UnlockStep α)) (name challenge : ByteString) : Prop :=
  ∃ t ∈ segment, Issues t name challenge

/-- Within the steps a vote of the name was accepted, on a challenge generated for the
name earlier in them. -/
def EndorsedIn (segment : List (UnlockStep α)) (name : ByteString)
    (record : ApproverRecord) : Prop :=
  ∃ earlier vote later challenge, segment = earlier ++ vote :: later ∧
    IssuedIn earlier name challenge ∧ AcceptsVote callbacks scheme vote name record challenge

def session (steps : List (UnlockStep α)) : List (UnlockStep α) :=
  afterLast Opens steps

structure SessionInvariant (threshold : Int) (steps : List (UnlockStep α))
    (run : UnlockRun α) : Prop where
  threshold : run.protocol.threshold = (UnlockProtocol.construct threshold).threshold
  opened : run.protocol.state = .collecting → ∃ t ∈ steps, Opens t
  quiet : run.protocol.state = .collecting → ∀ t ∈ session steps, ¬ CallsUnlock t
  issued : run.protocol.state = .collecting → ∀ name challenge : ByteString,
    run.protocol.challenges[name]? = some challenge →
      IssuedIn (session steps) name challenge
  endorsed : run.protocol.state = .collecting → ∀ name : ByteString,
    run.protocol.votes[name]? = some true →
      ∃ record, run.protocol.approvers[name]? = some record ∧
        EndorsedIn callbacks scheme (session steps) name record

/-- What stands behind a call of `worm_unlock` made by the step `t` of a run that made
the steps `pre` before. -/
structure Authorised (threshold : Int) (pre : List (UnlockStep α)) (t : UnlockStep α) :
    Prop where
  castVote : ∃ tokenStore now approverName signedReq,
    t.label = .castVote tokenStore now approverName signedReq
  collecting : t.before.protocol.state = .collecting
  granted : t.after.protocol.state = .granted
  called : t.after.world.unlockCalls = t.before.world.unlockCalls ++
    [ByteString.ofString "12eye_protocol_demo_scale"]
  endorsed : ∃ before opening segment, pre = before ++ opening :: segment ∧ Opens opening ∧
    (∀ u ∈ segment, ¬ Opens u ∧ ¬ CallsUnlock u) ∧
    ∃ names : Finset ByteString,
      (UnlockProtocol.construct threshold).threshold ≤ names.card ∧
      ∀ name ∈ names, ∃ record, t.before.protocol.approvers[name]? = some record ∧
        EndorsedIn callbacks scheme (segment ++ [t]) name record

end

section

variable {α : Type} {callbacks : Callbacks α} {scheme : SignatureScheme}

theorem recording_wired : callbacks.recording.Wired Recorded.unlockCalls
    (fun calls => calls ++ [ByteString.ofString "12eye_protocol_demo_scale"]) where
  audit := fun _ _ _ => rfl
  tokenAudit := fun _ _ _ => rfl
  unlock := fun _ => rfl

theorem session_concat (steps : List (UnlockStep α)) (t : UnlockStep α) (ht : ¬ Opens t) :
    session (steps ++ [t]) = session steps ++ [t] := by
  rw [session, afterLast_concat, if_neg ht]
  rfl

theorem session_opening (steps : List (UnlockStep α)) (t : UnlockStep α) (ht : Opens t) :
    session (steps ++ [t]) = [] := by
  rw [session, afterLast_concat, if_pos ht]

theorem IssuedIn.concat {segment : List (UnlockStep α)} {name challenge : ByteString}
    (h : IssuedIn segment name challenge) (t : UnlockStep α) :
    IssuedIn (segment ++ [t]) name challenge := by
  obtain ⟨issue, hmem, hissue⟩ := h
  exact ⟨issue, by simp [hmem], hissue⟩

theorem EndorsedIn.concat {segment : List (UnlockStep α)} {name : ByteString}
    {record : ApproverRecord} (h : EndorsedIn callbacks scheme segment name record)
    (t : UnlockStep α) : EndorsedIn callbacks scheme (segment ++ [t]) name record := by
  obtain ⟨earlier, vote, later, challenge, rfl, hrest⟩ := h
  exact ⟨earlier, vote, later ++ [t], challenge, by simp, hrest⟩

/-- An accepted vote together with the issue of its challenge endorses the approver. -/
theorem endorsedIn_of_voteAccepted {segment : List (UnlockStep α)} {t : UnlockStep α}
    {tokenStore : TokenStore} {now : Int64} {name : ByteString} {signedReq : SignedRequest}
    {record : ApproverRecord} {challenge : ByteString}
    (hlabel : t.label = .castVote tokenStore now name signedReq)
    (hvote : VoteAccepted callbacks.recording scheme tokenStore now name signedReq
      t.before.protocol t.before.world record challenge)
    (haccepted : (t.before.protocol.castVote callbacks.recording scheme tokenStore now name
      signedReq t.before.world).1.accepted = true)
    (hissued : IssuedIn segment name challenge) :
    EndorsedIn callbacks scheme (segment ++ [t]) name record :=
  ⟨segment, t, [], challenge, rfl, hissued, tokenStore, now, signedReq, hlabel, haccepted,
    challenge_eq_of_verifySignedRequest hvote.verified, hvote.verified, hvote.inScope⟩

/-- A step that opens no session and leaves the state alone passes on what the session
knows, as long as it calls no unlock and explains its new challenges and votes. -/
theorem SessionInvariant.extend {threshold : Int} {steps : List (UnlockStep α)}
    {run after : UnlockRun α} {call : UnlockCall}
    (hinv : SessionInvariant callbacks scheme threshold steps run)
    (hopens : ¬ Opens ⟨run, call, after⟩)
    (hthreshold : after.protocol.threshold = run.protocol.threshold)
    (hstate : after.protocol.state = .collecting → run.protocol.state = .collecting)
    (hquiet : after.protocol.state = .collecting →
      after.world.unlockCalls = run.world.unlockCalls)
    (happrovers : ∀ (name : ByteString) (record : ApproverRecord),
      run.protocol.approvers[name]? = some record →
        after.protocol.approvers[name]? = some record)
    (hissued : after.protocol.state = .collecting → ∀ name challenge : ByteString,
      after.protocol.challenges[name]? = some challenge →
        run.protocol.challenges[name]? = some challenge ∨
          Issues ⟨run, call, after⟩ name challenge)
    (hendorsed : after.protocol.state = .collecting → ∀ name : ByteString,
      after.protocol.votes[name]? = some true →
        run.protocol.votes[name]? = some true ∨
          ∃ record, after.protocol.approvers[name]? = some record ∧
            EndorsedIn callbacks scheme (session steps ++ [⟨run, call, after⟩]) name record) :
    SessionInvariant callbacks scheme threshold (steps ++ [⟨run, call, after⟩]) after := by
  have hsession := session_concat steps ⟨run, call, after⟩ hopens
  refine ⟨hthreshold.trans hinv.threshold, ?_, ?_, ?_, ?_⟩
  · intro hcollecting
    obtain ⟨t, ht, hopen⟩ := hinv.opened (hstate hcollecting)
    exact ⟨t, by simp [ht], hopen⟩
  · intro hcollecting t ht
    rw [hsession] at ht
    rcases List.mem_append.mp ht with ht | ht
    · exact hinv.quiet (hstate hcollecting) t ht
    · obtain rfl := List.mem_singleton.mp ht
      exact not_not.mpr (hquiet hcollecting)
  · intro hcollecting name challenge hchallenge
    rw [hsession]
    rcases hissued hcollecting name challenge hchallenge with h | h
    · exact (hinv.issued (hstate hcollecting) name challenge h).concat _
    · exact ⟨_, by simp, h⟩
  · intro hcollecting name hvote
    rw [hsession]
    rcases hendorsed hcollecting name hvote with h | h
    · obtain ⟨record, hrecord, hendorsedIn⟩ := hinv.endorsed (hstate hcollecting) name h
      exact ⟨record, happrovers name record hrecord, hendorsedIn.concat _⟩
    · exact h

/-- A step that opens no session and changes nothing passes on what the session knows. -/
theorem SessionInvariant.extend_same {threshold : Int} {steps : List (UnlockStep α)}
    {run : UnlockRun α} {call : UnlockCall}
    (hinv : SessionInvariant callbacks scheme threshold steps run)
    (hopens : ¬ Opens ⟨run, call, run⟩) :
    SessionInvariant callbacks scheme threshold (steps ++ [⟨run, call, run⟩]) run := by
  apply hinv.extend hopens
  · rfl
  · intro hcollecting
    exact hcollecting
  · intro _
    rfl
  · intro name record hrecord
    exact hrecord
  · intro _ name challenge hchallenge
    exact Or.inl hchallenge
  · intro _ name hvote
    exact Or.inl hvote

theorem invariant_registerApprover {threshold : Int} {steps : List (UnlockStep α)}
    {run : UnlockRun α} (hinv : SessionInvariant callbacks scheme threshold steps run)
    (name : ByteString) (side : ApproverSide) (publicKeyDer tokenId : ByteString) :
    SessionInvariant callbacks scheme threshold
      (steps ++ [⟨run, .registerApprover name side publicKeyDer tokenId,
        run.perform callbacks scheme (.registerApprover name side publicKeyDer tokenId)⟩])
      (run.perform callbacks scheme (.registerApprover name side publicKeyDer tokenId)) := by
  apply hinv.extend
  · rintro ⟨h, -⟩
    simp [UnlockCall.isBeginSession] at h
  · exact UnlockProtocol.registerApprover_threshold _ _ _ _ _
  · intro hstate
    exact (UnlockProtocol.registerApprover_state _ _ _ _ _).symm.trans hstate
  · intro _
    rfl
  · intro other record hrecord
    exact UnlockProtocol.registerApprover_approvers _ _ _ _ _ hrecord
  · intro _ other challenge hchallenge
    rw [UnlockRun.perform, UnlockProtocol.registerApprover_challenges] at hchallenge
    exact Or.inl hchallenge
  · intro _ other hvote
    exact Or.inl (UnlockProtocol.registerApprover_votes _ _ _ _ _ hvote)

theorem invariant_beginSession {threshold : Int} {steps : List (UnlockStep α)}
    {run : UnlockRun α} (hinv : SessionInvariant callbacks scheme threshold steps run) :
    SessionInvariant callbacks scheme threshold
      (steps ++ [⟨run, .beginSession, run.perform callbacks scheme .beginSession⟩])
      (run.perform callbacks scheme .beginSession) := by
  by_cases hcollecting : run.protocol.state = .collecting
  · have hsame : run.perform callbacks scheme .beginSession = run := by
      rw [UnlockRun.perform, UnlockProtocol.beginSession_of_collecting hcollecting]
    rw [hsame]
    apply hinv.extend_same
    rintro ⟨-, h⟩
    exact h hcollecting
  · have hopens : Opens (⟨run, .beginSession, run.perform callbacks scheme .beginSession⟩ :
        UnlockStep α) := ⟨rfl, hcollecting⟩
    have hfresh := fun name => UnlockProtocol.beginSession_fresh hcollecting name
    refine ⟨?_, ?_, ?_, ?_, ?_⟩
    · exact (UnlockProtocol.beginSession_threshold _).trans hinv.threshold
    · intro _
      exact ⟨_, by simp, hopens⟩
    · intro _ t ht
      rw [session_opening steps _ hopens] at ht
      simp at ht
    · intro _ name challenge hchallenge
      rw [UnlockRun.perform, (hfresh name).1] at hchallenge
      simp at hchallenge
    · intro _ name hvote
      exact absurd hvote (hfresh name).2

theorem invariant_getChallenge {threshold : Int} {steps : List (UnlockStep α)}
    {run : UnlockRun α} (hinv : SessionInvariant callbacks scheme threshold steps run)
    (draw : Option (Vector UInt8 32)) (approverName : ByteString) :
    SessionInvariant callbacks scheme threshold
      (steps ++ [⟨run, .getChallenge draw approverName,
        run.perform callbacks scheme (.getChallenge draw approverName)⟩])
      (run.perform callbacks scheme (.getChallenge draw approverName)) := by
  have hopens : ∀ after, ¬ Opens (⟨run, .getChallenge draw approverName, after⟩ :
      UnlockStep α) := by
    rintro after ⟨h, -⟩
    simp [UnlockCall.isBeginSession] at h
  rw [UnlockRun.perform]
  split
  · exact hinv.extend_same (hopens _)
  · rename_i challenge after hget
    rcases UnlockProtocol.getChallenge_cases hget with rfl | ⟨bytes, rfl, hnone, rfl⟩
    · exact hinv.extend_same (hopens _)
    · apply hinv.extend (hopens _)
      · rfl
      · intro hcollecting
        exact hcollecting
      · intro _
        rfl
      · intro name record hrecord
        exact hrecord
      · intro _ name challenge' hchallenge
        rw [Std.TreeMap.getElem?_insert] at hchallenge
        split at hchallenge
        · rename_i heq
          have hname : approverName = name := by simpa using heq
          subst hname
          refine Or.inr ⟨bytes, Option.some.inj hchallenge, rfl, hnone, ?_⟩
          simpa using hchallenge
        · exact Or.inl hchallenge
      · intro _ name hvote
        exact Or.inl hvote

theorem invariant_castVote {threshold : Int} {steps : List (UnlockStep α)}
    {run : UnlockRun α} (hinv : SessionInvariant callbacks scheme threshold steps run)
    (tokenStore : TokenStore) (now : Int64) (approverName : ByteString)
    (signedReq : SignedRequest) :
    SessionInvariant callbacks scheme threshold
      (steps ++ [⟨run, .castVote tokenStore now approverName signedReq,
        run.perform callbacks scheme (.castVote tokenStore now approverName signedReq)⟩])
      (run.perform callbacks scheme (.castVote tokenStore now approverName signedReq)) := by
  have hopens : ∀ after, ¬ Opens (⟨run, .castVote tokenStore now approverName signedReq,
      after⟩ : UnlockStep α) := by
    rintro after ⟨h, -⟩
    simp [UnlockCall.isBeginSession] at h
  rcases castVote_cases recording_wired scheme tokenStore now approverName signedReq
    run.protocol run.world with ⟨record, challenge, hvote, haccepted⟩ | hrejected
  · have hcounted := haccepted.counted
    apply hinv.extend (hopens _)
    · exact hcounted.threshold
    · intro _
      exact hvote.collecting
    · intro hcollecting
      rcases haccepted.settled with ⟨-, hgranted, -, -⟩ | ⟨-, -, -, hobserved⟩
      · exact absurd (hgranted.symm.trans hcollecting) (by decide)
      · exact hobserved
    · intro name other hrecord
      exact (congrArg (fun m => m[name]?) hcounted.approvers).trans hrecord
    · intro _ name other hchallenge
      have herase := (congrArg (fun m => m[name]?) hcounted.challenges).symm.trans hchallenge
      simp only [Std.TreeMap.getElem?_erase] at herase
      split at herase
      · simp at herase
      · exact Or.inl herase
    · intro _ name hvoted
      rcases (hcounted.votes name).mp hvoted with rfl | hbefore
      · refine Or.inr ⟨record, ?_, ?_⟩
        · exact (congrArg (fun m => m[name]?) hcounted.approvers).trans hvote.registered
        · exact endorsedIn_of_voteAccepted rfl hvote haccepted.accepted
            (hinv.issued hvote.collecting name challenge hvote.issued)
      · exact Or.inl hbefore
  · have hkept := hrejected.kept
    apply hinv.extend (hopens _)
    · exact hkept.threshold
    · intro hcollecting
      exact hkept.state.symm.trans hcollecting
    · intro _
      exact hrejected.observed
    · intro name other hrecord
      exact (congrArg (fun m => m[name]?) hkept.approvers).trans hrecord
    · intro _ name other hchallenge
      exact Or.inl ((congrArg (fun m => m[name]?) hkept.challenges).symm.trans hchallenge)
    · intro _ name hvoted
      exact Or.inl ((hkept.votes name).mp hvoted)

theorem sessionInvariant {threshold : Int} {world : α} {steps : List (UnlockStep α)}
    {run : UnlockRun α}
    (htrace : Trace (unlockSystem callbacks scheme threshold world) steps run) :
    SessionInvariant callbacks scheme threshold steps run := by
  refine htrace.history_invariant (I := SessionInvariant callbacks scheme threshold) ?_ ?_
  · rintro _ rfl
    have hidle : (UnlockProtocol.construct threshold).state ≠ .collecting := by
      simp only [UnlockProtocol.construct]
      split <;> simp
    exact ⟨rfl, fun h => absurd h hidle, fun h => absurd h hidle, fun h => absurd h hidle,
      fun h => absurd h hidle⟩
  · rintro steps run call _ hinv rfl
    cases call with
    | registerApprover name side publicKeyDer tokenId =>
        exact invariant_registerApprover hinv name side publicKeyDer tokenId
    | beginSession => exact invariant_beginSession hinv
    | getChallenge draw approverName => exact invariant_getChallenge hinv draw approverName
    | castVote tokenStore now approverName signedReq =>
        exact invariant_castVote hinv tokenStore now approverName signedReq

/-- Only a `cast_vote` calls `worm_unlock`, and only when it grants. -/
theorem callsUnlock_cases {run : UnlockRun α} {call : UnlockCall}
    (hcalls : CallsUnlock ⟨run, call, run.perform callbacks scheme call⟩) :
    ∃ tokenStore now approverName signedReq, ∃ record challenge,
      call = .castVote tokenStore now approverName signedReq ∧
      VoteAccepted callbacks.recording scheme tokenStore now approverName signedReq
        run.protocol run.world record challenge ∧
      Accepted Recorded.unlockCalls
        (fun calls => calls ++ [ByteString.ofString "12eye_protocol_demo_scale"])
        approverName run.protocol run.world
        (run.protocol.castVote callbacks.recording scheme tokenStore now approverName
          signedReq run.world) := by
  cases call with
  | registerApprover name side publicKeyDer tokenId => exact absurd rfl hcalls
  | beginSession => exact absurd rfl hcalls
  | getChallenge draw approverName =>
      refine absurd ?_ hcalls
      dsimp only [UnlockRun.perform]
      split <;> rfl
  | castVote tokenStore now approverName signedReq =>
      rcases castVote_cases recording_wired scheme tokenStore now approverName signedReq
        run.protocol run.world with ⟨record, challenge, hvote, haccepted⟩ | hrejected
      · exact ⟨tokenStore, now, approverName, signedReq, record, challenge, rfl, hvote,
          haccepted⟩
      · exact absurd hrejected.observed hcalls

theorem authorised_of_callsUnlock {threshold : Int} {world : α}
    {pre post : List (UnlockStep α)} {t : UnlockStep α} {final : UnlockRun α}
    (htrace : Trace (unlockSystem callbacks scheme threshold world) (pre ++ t :: post) final)
    (hcalls : CallsUnlock t) : Authorised callbacks scheme threshold pre t := by
  obtain ⟨hbefore, hstep⟩ := htrace.split
  obtain ⟨run, call, after⟩ := t
  obtain rfl : after = run.perform callbacks scheme call := hstep
  have hinv := sessionInvariant hbefore
  obtain ⟨tokenStore, now, approverName, signedReq, record, challenge, rfl, hvote,
    haccepted⟩ := callsUnlock_cases hcalls
  have hcounted := haccepted.counted
  rcases haccepted.settled with ⟨hreached, hgranted, -, hcalled⟩ | ⟨-, -, -, hquiet⟩
  · obtain ⟨before, opening, hopening, hsplit⟩ :=
      exists_eq_append_afterLast Opens (hinv.opened hvote.collecting)
    refine ⟨⟨_, _, _, _, rfl⟩, hvote.collecting, hgranted, hcalled, before, opening,
      session pre, hsplit, hopening, ?_, ?_⟩
    · intro u hu
      exact ⟨not_mark_of_mem_afterLast Opens hu, hinv.quiet hvote.collecting u hu⟩
    · refine ⟨(voters (run.protocol.castVote callbacks.recording scheme tokenStore now
        approverName signedReq run.world).2.1.votes).toFinset, ?_, ?_⟩
      · rw [List.toFinset_card_of_nodup (voters_nodup _), ← hinv.threshold,
          ← hcounted.threshold]
        exact hreached
      · intro name hname
        rw [List.mem_toFinset, mem_voters, hcounted.votes name] at hname
        rcases hname with rfl | hname
        · exact ⟨record, hvote.registered, endorsedIn_of_voteAccepted rfl hvote
            haccepted.accepted (hinv.issued hvote.collecting name challenge hvote.issued)⟩
        · obtain ⟨other, hother, hendorsed⟩ := hinv.endorsed hvote.collecting name hname
          exact ⟨other, hother, hendorsed.concat _⟩
  · exact absurd hquiet hcalls

/-- In every run, `worm_unlock` is only called by a `cast_vote` that grants an open
session, with enough approvers endorsed by that session, and between two calls a new
session is opened. -/
theorem wormUnlock_authorised {threshold : Int} {world : α} {steps : List (UnlockStep α)}
    {final : UnlockRun α}
    (htrace : Trace (unlockSystem callbacks scheme threshold world) steps final) :
    (∀ pre t post, steps = pre ++ t :: post → CallsUnlock t →
        Authorised callbacks scheme threshold pre t) ∧
      ∀ pre t mid u post, steps = pre ++ t :: mid ++ u :: post → CallsUnlock t →
        CallsUnlock u → ∃ opening ∈ mid, Opens opening := by
  refine ⟨?_, ?_⟩
  · rintro pre t post rfl hcalls
    exact authorised_of_callsUnlock htrace hcalls
  · rintro pre t mid u post rfl ht hu
    obtain ⟨before, opening, segment, hsplit, hopening, hquiet, -⟩ :=
      (authorised_of_callsUnlock htrace hu).endorsed
    have hnotOpening : t ≠ opening := by
      rintro rfl
      have hshort : pre ++ t :: mid ++ u :: post = pre ++ t :: (mid ++ u :: post) := by simp
      obtain ⟨_, _, _, _, hlabel⟩ := (authorised_of_callsUnlock (hshort ▸ htrace) ht).castVote
      have hbegin := hopening.1
      rw [hlabel] at hbegin
      exact absurd hbegin (by simp [UnlockCall.isBeginSession])
    rcases List.append_eq_append_iff.mp hsplit with ⟨as, -, hrest⟩ | ⟨bs, -, hrest⟩
    · rcases as with _ | ⟨first, as⟩
      · exact absurd (List.cons.inj hrest).1 hnotOpening
      · have hmid : mid = as ++ opening :: segment := (List.cons.inj hrest).2
        exact ⟨opening, by simp [hmid], hopening⟩
    · rcases bs with _ | ⟨first, bs⟩
      · exact absurd (List.cons.inj hrest).1.symm hnotOpening
      · have hsegment : segment = bs ++ t :: mid := (List.cons.inj hrest).2
        exact absurd ht (hquiet t (by simp [hsegment])).2

end

def sampleScheme : SignatureScheme where
  publicKeyDer := id
  sign := fun key _ message => key ++ message
  verify := fun message signature key => signature = key ++ message

def sampleApprovers : List ByteString := ["astartis-1", "client-1", "client-2"]

def sampleTokens : TokenStore where
  tokens := sampleApprovers.foldl (fun tokens name =>
    tokens.insert name ⟨⟨name, name, "worm_unlock_vote", 0, 30000⟩, false⟩) {}

def sampleVote (name : ByteString) : UnlockCall :=
  .castVote sampleTokens 1000 name
    (makeSignedRequest sampleScheme [] 900 ⟨name, name⟩ (List.replicate 32 7))

/-- All approvers register, a session opens, all get a challenge and all but the last
one vote. -/
def sampleCalls : List UnlockCall :=
  sampleApprovers.map (fun name => .registerApprover name .client name name) ++
    [.beginSession] ++
    sampleApprovers.map (.getChallenge (some (Vector.replicate 32 7))) ++
    [sampleVote "astartis-1", sampleVote "client-1"]

def sampleStart : UnlockRun (Lockdown (List (ByteString × ByteString))) where
  protocol := .construct 3
  world := ⟨[], { worm := { state := .locked }, audit := [] }⟩

theorem third_vote_authorised :
    let perform := UnlockRun.perform (Callbacks.ofLockdown noteEntry) sampleScheme
    let steps := execute perform sampleStart (sampleCalls ++ [sampleVote "client-2"])
    ∃ pre t, steps = pre ++ [t] ∧ CallsUnlock t ∧
      Authorised (Callbacks.ofLockdown noteEntry) sampleScheme 3 pre t := by
  intro perform steps
  have htrace : Trace (unlockSystem (Callbacks.ofLockdown noteEntry) sampleScheme 3
      { worm := { state := .locked }, audit := [] }) steps _ :=
    trace_execute sampleStart perform (sampleCalls ++ [sampleVote "client-2"])
  have hsplit := execute_concat perform sampleStart sampleCalls (sampleVote "client-2")
  have hcalls : CallsUnlock (⟨sampleCalls.foldl perform sampleStart, sampleVote "client-2",
      perform (sampleCalls.foldl perform sampleStart) (sampleVote "client-2")⟩ :
        UnlockStep (Lockdown (List (ByteString × ByteString)))) := by
    simp only [CallsUnlock]
    decide +kernel
  exact ⟨_, _, hsplit, hcalls, (wormUnlock_authorised htrace).1 _ _ [] hsplit hcalls⟩

end Astartis.Unlock
