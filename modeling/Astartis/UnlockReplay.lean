import Astartis.UnlockBallot

/-!
Challenges over the runs of the unlock protocol: each is spent once, in the session it was
generated for.
-/

namespace Astartis.Unlock

open Access
open Audit
open Crypto
open TransitionSystem
open Worm

section

variable {α : Type} (callbacks : Callbacks α) (scheme : SignatureScheme)

/-- The challenge a `get_challenge` returns. -/
def issued? (t : UnlockStep α) : Option ByteString :=
  match t.label with
  | .getChallenge draw approverName =>
      (t.before.protocol.getChallenge draw approverName).map Prod.fst
  | _ => none

def issuedChallenges (steps : List (UnlockStep α)) : List ByteString :=
  steps.filterMap issued?

/-- The challenge that a `get_challenge` has `generate_challenge` make. -/
def drawn? (t : UnlockStep α) : Option ByteString :=
  match t.label with
  | .getChallenge draw approverName =>
      if t.before.protocol.approvers.contains approverName then
        match t.before.protocol.challenges[approverName]? with
        | some _ => none
        | none => draw.map Vector.toList
      else none
  | _ => none

def drawnChallenges (steps : List (UnlockStep α)) : List ByteString :=
  steps.filterMap drawn?

def spentChallenges (steps : List (UnlockStep α)) : List ByteString :=
  (acceptedVotes callbacks scheme steps).map fun vote => vote.signedReq.challenge

/-- The pending challenges were made since the session opened, each for one approver, and no
challenge is spent twice. -/
structure ChallengesKept (steps : List (UnlockStep α)) (run : UnlockRun α) : Prop where
  drawn : ∀ name challenge : ByteString, run.protocol.challenges[name]? = some challenge →
    challenge ∈ drawnChallenges (session steps)
  distinct : ∀ name other challenge : ByteString,
    run.protocol.challenges[name]? = some challenge →
    run.protocol.challenges[other]? = some challenge → name = other
  unspent : ∀ name challenge : ByteString, run.protocol.challenges[name]? = some challenge →
    challenge ∉ spentChallenges callbacks scheme steps
  spent : spentChallenges callbacks scheme steps ⊆ drawnChallenges steps
  once : (spentChallenges callbacks scheme steps).Nodup

end

section

variable {α : Type} {callbacks : Callbacks α} {scheme : SignatureScheme}
  {steps : List (UnlockStep α)}

theorem drawnChallenges_concat (t : UnlockStep α) :
    drawnChallenges (steps ++ [t]) = drawnChallenges steps ++ (drawn? t).toList :=
  filterMap_concat drawn? steps t

theorem drawnChallenges_concat_none {t : UnlockStep α} (hdrawn : drawn? t = none) :
    drawnChallenges (steps ++ [t]) = drawnChallenges steps := by
  rw [drawnChallenges_concat, hdrawn, Option.toList_none, List.append_nil]

theorem spentChallenges_concat (t : UnlockStep α) :
    spentChallenges callbacks scheme (steps ++ [t]) = spentChallenges callbacks scheme steps ++
      ((acceptedVote? callbacks scheme t).map fun vote => vote.signedReq.challenge).toList := by
  rw [spentChallenges, acceptedVotes_concat, List.map_append, spentChallenges]
  cases acceptedVote? callbacks scheme t <;> rfl

theorem spentChallenges_concat_none {t : UnlockStep α}
    (hvote : acceptedVote? callbacks scheme t = none) :
    spentChallenges callbacks scheme (steps ++ [t]) = spentChallenges callbacks scheme steps := by
  rw [spentChallenges_concat, hvote, Option.map_none, Option.toList_none, List.append_nil]

theorem drawnChallenges_session : drawnChallenges (session steps) ⊆ drawnChallenges steps :=
  ((afterLast_suffix Opens steps).sublist.filterMap drawn?).subset

theorem PassesVote.counted {t : UnlockStep α} {vote : AcceptedVote}
    (hpasses : PassesVote callbacks scheme t vote)
    (hstep : t.after = t.before.perform callbacks scheme t.label) :
    Counted vote.approverName t.before.protocol t.after.protocol := by
  obtain ⟨tokenStore, now, challenge, hlabel, hvote⟩ := hpasses
  rw [hstep, hlabel]
  rcases castVote_cases recording_wired scheme tokenStore now vote.approverName vote.signedReq
    t.before.protocol t.before.world with ⟨-, -, -, haccepted⟩ | hrejected
  · exact haccepted.counted
  · exact absurd (hrejected.accepted.symm.trans (castVote_accepted hvote)) (by decide)

theorem PassesVote.pending {t : UnlockStep α} {vote : AcceptedVote}
    (hpasses : PassesVote callbacks scheme t vote) :
    t.before.protocol.challenges[vote.approverName]? = some vote.signedReq.challenge := by
  obtain ⟨_, _, challenge, -, hvote⟩ := hpasses
  rw [challenge_eq_of_verifySignedRequest hvote.verified]
  exact hvote.issued

/-- A step makes one challenge and stores it, or it stores none. -/
theorem challenges_cases (run : UnlockRun α) (call : UnlockCall) :
    let t : UnlockStep α := ⟨run, call, run.perform callbacks scheme call⟩
    (drawn? t = none ∧ ∀ name challenge : ByteString,
      t.after.protocol.challenges[name]? = some challenge →
        run.protocol.challenges[name]? = some challenge) ∨
    ∃ name challenge, drawn? t = some challenge ∧ acceptedVote? callbacks scheme t = none ∧
      ¬ Opens t ∧
      t.after.protocol.challenges = run.protocol.challenges.insert name challenge := by
  intro t
  cases call with
  | registerApprover name side publicKeyDer tokenId =>
      refine .inl ⟨rfl, fun other challenge hchallenge => ?_⟩
      exact (congrArg (fun m => m[other]?) (UnlockProtocol.registerApprover_challenges name side
        publicKeyDer tokenId run.protocol)).symm.trans hchallenge
  | beginSession =>
      refine .inl ⟨rfl, fun name challenge hchallenge => ?_⟩
      by_cases hcollecting : run.protocol.state = .collecting
      · have hsame : t.after.protocol = run.protocol :=
          UnlockProtocol.beginSession_of_collecting hcollecting
        rwa [hsame] at hchallenge
      · exact absurd (hchallenge.symm.trans
          (UnlockProtocol.beginSession_fresh hcollecting name).1) (by simp)
  | getChallenge draw approverName =>
      by_cases hregistered : run.protocol.approvers.contains approverName = true
      · cases hpending : run.protocol.challenges[approverName]? with
        | some pending =>
            refine .inl ⟨by simp [t, drawn?, hregistered, hpending], fun name challenge => ?_⟩
            simp [t, UnlockRun.perform, UnlockProtocol.getChallenge, hregistered, hpending]
        | none =>
            cases draw with
            | none =>
                refine .inl ⟨by simp [t, drawn?, hregistered, hpending],
                  fun name challenge => ?_⟩
                simp [t, UnlockRun.perform, UnlockProtocol.getChallenge, hregistered, hpending]
            | some bytes =>
                refine .inr ⟨approverName, bytes.toList,
                  by simp [t, drawn?, hregistered, hpending], rfl, not_opens rfl, ?_⟩
                simp [t, UnlockRun.perform, UnlockProtocol.getChallenge, hregistered, hpending]
      · refine .inl ⟨by simp [t, drawn?, hregistered], fun name challenge => ?_⟩
        simp [t, UnlockRun.perform, UnlockProtocol.getChallenge, hregistered]
  | castVote tokenStore now approverName signedReq =>
      refine .inl ⟨rfl, fun name challenge hchallenge => ?_⟩
      rcases castVote_cases recording_wired scheme tokenStore now approverName signedReq
        run.protocol run.world with ⟨-, -, -, haccepted⟩ | hrejected
      · have herase := (congrArg (fun m => m[name]?) haccepted.counted.challenges).symm.trans
          hchallenge
        simp only [Std.TreeMap.getElem?_erase] at herase
        split at herase
        · simp at herase
        · exact herase
      · exact (congrArg (fun m => m[name]?) hrejected.kept.challenges).symm.trans hchallenge

/-- A step that makes no challenge passes on what is known of them, with a vote accepted for
its own challenge. -/
theorem ChallengesKept.keep {t : UnlockStep α}
    (hkept : ChallengesKept callbacks scheme steps t.before)
    (hstep : t.after = t.before.perform callbacks scheme t.label)
    (hopens : ¬ Opens t) (hdrawn : drawn? t = none)
    (hchallenges : ∀ name challenge : ByteString,
      t.after.protocol.challenges[name]? = some challenge →
        t.before.protocol.challenges[name]? = some challenge) :
    ChallengesKept callbacks scheme (steps ++ [t]) t.after := by
  have hsame : drawnChallenges (steps ++ [t]) = drawnChallenges steps :=
    drawnChallenges_concat_none hdrawn
  have hsession : drawnChallenges (session (steps ++ [t])) = drawnChallenges (session steps) := by
    rw [session_concat steps t hopens, drawnChallenges_concat_none hdrawn]
  have hdrawnKept : ∀ name challenge : ByteString,
      t.after.protocol.challenges[name]? = some challenge →
        challenge ∈ drawnChallenges (session (steps ++ [t])) := by
    intro name challenge hchallenge
    rw [hsession]
    exact hkept.drawn name challenge (hchallenges name challenge hchallenge)
  have hdistinct : ∀ name other challenge : ByteString,
      t.after.protocol.challenges[name]? = some challenge →
      t.after.protocol.challenges[other]? = some challenge → name = other := by
    intro name other challenge hname hother
    exact hkept.distinct _ _ _ (hchallenges _ _ hname) (hchallenges _ _ hother)
  cases hvote : acceptedVote? callbacks scheme t with
  | none =>
      have hspent : spentChallenges callbacks scheme (steps ++ [t]) =
          spentChallenges callbacks scheme steps := spentChallenges_concat_none hvote
      refine ⟨hdrawnKept, hdistinct, fun name challenge hchallenge => ?_, ?_, ?_⟩
      · rw [hspent]
        exact hkept.unspent name challenge (hchallenges name challenge hchallenge)
      · rw [hspent, hsame]
        exact hkept.spent
      · rw [hspent]
        exact hkept.once
  | some vote =>
      have hpasses := (acceptedVote?_eq_some_iff t vote).mp hvote
      have hpending := hpasses.pending
      have hspent : spentChallenges callbacks scheme (steps ++ [t]) =
          spentChallenges callbacks scheme steps ++ [vote.signedReq.challenge] := by
        rw [spentChallenges_concat, hvote, Option.map_some, Option.toList_some]
      refine ⟨hdrawnKept, hdistinct, fun name challenge hchallenge => ?_, ?_, ?_⟩
      · have hbefore := hchallenges name challenge hchallenge
        rw [hspent, List.mem_append, List.mem_singleton]
        rintro (hspentBefore | rfl)
        · exact hkept.unspent name challenge hbefore hspentBefore
        · have hname := hkept.distinct name vote.approverName _ hbefore hpending
          rw [(hpasses.counted hstep).challenges, hname] at hchallenge
          simp at hchallenge
      · rw [hspent, hsame]
        refine List.append_subset.mpr ⟨hkept.spent, ?_⟩
        rw [List.cons_subset]
        exact ⟨drawnChallenges_session (hkept.drawn _ _ hpending), List.nil_subset _⟩
      · rw [hspent, ← List.concat_eq_append, List.nodup_concat]
        exact ⟨hkept.unspent _ _ hpending, hkept.once⟩

/-- A challenge that no earlier call made is pending for one approver and not spent. -/
theorem ChallengesKept.draw {t : UnlockStep α} {name challenge : ByteString}
    (hkept : ChallengesKept callbacks scheme steps t.before) (hopens : ¬ Opens t)
    (hvote : acceptedVote? callbacks scheme t = none) (hdrawn : drawn? t = some challenge)
    (hchallenges : t.after.protocol.challenges =
      t.before.protocol.challenges.insert name challenge)
    (hnew : challenge ∉ drawnChallenges steps) :
    ChallengesKept callbacks scheme (steps ++ [t]) t.after := by
  have hspent : spentChallenges callbacks scheme (steps ++ [t]) =
      spentChallenges callbacks scheme steps := spentChallenges_concat_none hvote
  have hsession : drawnChallenges (session (steps ++ [t])) =
      drawnChallenges (session steps) ++ [challenge] := by
    rw [session_concat steps t hopens, drawnChallenges_concat, hdrawn, Option.toList_some]
  have hpending : ∀ other c : ByteString, t.after.protocol.challenges[other]? = some c →
      (other = name ∧ c = challenge) ∨
        (c ≠ challenge ∧ t.before.protocol.challenges[other]? = some c) := by
    intro other c hother
    rw [hchallenges, Std.TreeMap.getElem?_insert] at hother
    split at hother
    · rename_i heq
      exact .inl ⟨(by simpa using heq : name = other).symm, (Option.some.inj hother).symm⟩
    · refine .inr ⟨?_, hother⟩
      rintro rfl
      exact hnew (drawnChallenges_session (hkept.drawn other c hother))
  constructor
  · intro other c hother
    rw [hsession, List.mem_append, List.mem_singleton]
    rcases hpending other c hother with ⟨-, hc⟩ | ⟨-, hbefore⟩
    · exact .inr hc
    · exact .inl (hkept.drawn other c hbefore)
  · intro first second c hfirst hsecond
    rcases hpending first c hfirst with ⟨rfl, rfl⟩ | ⟨hne, hfirst⟩
    · rcases hpending second c hsecond with ⟨rfl, -⟩ | ⟨hne, -⟩
      · rfl
      · exact absurd rfl hne
    · rcases hpending second c hsecond with ⟨-, hc⟩ | ⟨-, hsecond⟩
      · exact absurd hc hne
      · exact hkept.distinct first second c hfirst hsecond
  · intro other c hother
    rw [hspent]
    rcases hpending other c hother with ⟨-, rfl⟩ | ⟨-, hbefore⟩
    · exact fun hmem => hnew (hkept.spent hmem)
    · exact hkept.unspent other c hbefore
  · rw [hspent, drawnChallenges_concat]
    exact fun c hc => List.mem_append_left _ (hkept.spent hc)
  · rw [hspent]
    exact hkept.once

theorem UnlockCall.eq_beginSession {call : UnlockCall} (hcall : call.isBeginSession = true) :
    call = .beginSession := by
  cases call with
  | beginSession => rfl
  | registerApprover name side publicKeyDer tokenId => simp [isBeginSession] at hcall
  | getChallenge draw approverName => simp [isBeginSession] at hcall
  | castVote tokenStore now approverName signedReq => simp [isBeginSession] at hcall

/-- An opening forgets the pending challenges. -/
theorem ChallengesKept.opening {t : UnlockStep α}
    (hkept : ChallengesKept callbacks scheme steps t.before)
    (hstep : t.after = t.before.perform callbacks scheme t.label) (hopens : Opens t) :
    ChallengesKept callbacks scheme (steps ++ [t]) t.after := by
  have hbegin := UnlockCall.eq_beginSession hopens.1
  have hempty : ∀ name : ByteString, t.after.protocol.challenges[name]? = none := by
    intro name
    rw [hstep, hbegin]
    exact (UnlockProtocol.beginSession_fresh hopens.2 name).1
  have hspent : spentChallenges callbacks scheme (steps ++ [t]) =
      spentChallenges callbacks scheme steps :=
    spentChallenges_concat_none (by simp [acceptedVote?, hbegin])
  have hdrawn : drawnChallenges (steps ++ [t]) = drawnChallenges steps :=
    drawnChallenges_concat_none (by simp [drawn?, hbegin])
  refine ⟨fun name _ h => ?_, fun name _ _ h => ?_, fun name _ h => ?_, ?_, ?_⟩
  · simp [hempty name] at h
  · simp [hempty name] at h
  · simp [hempty name] at h
  · rw [hspent, hdrawn]
    exact hkept.spent
  · rw [hspent]
    exact hkept.once

theorem challengesKept_of_trace {threshold : Int} {world : α} {run : UnlockRun α}
    (htrace : Trace (unlockSystem callbacks scheme threshold world) steps run)
    (hdraws : (drawnChallenges steps).Nodup) : ChallengesKept callbacks scheme steps run := by
  revert hdraws
  refine htrace.history_invariant (I := fun steps run =>
    (drawnChallenges steps).Nodup → ChallengesKept callbacks scheme steps run) ?_ ?_
  · rintro _ rfl -
    have hempty : (UnlockProtocol.construct threshold).challenges = {} := by
      simp only [UnlockProtocol.construct]
      split <;> rfl
    refine ⟨fun name _ h => ?_, fun name _ _ h => ?_, fun name _ h => ?_, ?_, ?_⟩
    · simp [hempty] at h
    · simp [hempty] at h
    · simp [hempty] at h
    · exact List.nil_subset _
    · exact List.nodup_nil
  · rintro steps run call _ ih rfl hdraws
    rw [drawnChallenges_concat, List.nodup_append] at hdraws
    have hkept := ih hdraws.1
    by_cases hopens : Opens (⟨run, call, run.perform callbacks scheme call⟩ : UnlockStep α)
    · exact hkept.opening rfl hopens
    · rcases @challenges_cases α callbacks scheme run call with ⟨hdrawn, hchallenges⟩ |
        ⟨name, challenge, hdrawn, hvote, -, hchallenges⟩
      · exact hkept.keep rfl hopens hdrawn hchallenges
      · apply hkept.draw hopens hvote hdrawn hchallenges
        intro hmem
        exact hdraws.2.2 challenge hmem challenge (by rw [hdrawn]; simp) rfl

theorem length_of_drawn {t : UnlockStep α} {challenge : ByteString}
    (hdrawn : drawn? t = some challenge) : challenge.length = 32 := by
  unfold drawn? at hdrawn
  split at hdrawn
  · split at hdrawn
    · split at hdrawn
      · simp at hdrawn
      · obtain ⟨bytes, -, rfl⟩ := Option.map_eq_some_iff.mp hdrawn
        simp
    · simp at hdrawn
  · simp at hdrawn

/-- What `get_challenge` returns was made by it at some time, or it is the empty challenge of an
unknown approver. -/
theorem issued_cases {t : UnlockStep α} {challenge : ByteString}
    (hkept : ChallengesKept callbacks scheme steps t.before)
    (hissued : issued? t = some challenge) :
    challenge = [] ∨ challenge ∈ drawnChallenges (steps ++ [t]) := by
  rw [drawnChallenges_concat, List.mem_append, Option.mem_toList]
  unfold issued? at hissued
  split at hissued
  · rename_i draw approverName hlabel
    unfold UnlockProtocol.getChallenge at hissued
    split at hissued
    · rename_i hregistered
      split at hissued
      · rename_i pending hpending
        obtain rfl : pending = challenge := by simpa using hissued
        exact .inr (.inl (drawnChallenges_session (hkept.drawn _ _ hpending)))
      · rename_i hpending
        refine .inr (.inr ?_)
        rw [drawn?, hlabel]
        simpa [hregistered, hpending] using hissued
    · exact .inl (by simpa using hissued.symm)
  · simp at hissued

theorem issuedChallenges_cases {threshold : Int} {world : α} {run : UnlockRun α}
    {challenge : ByteString}
    (htrace : Trace (unlockSystem callbacks scheme threshold world) steps run)
    (hdraws : (drawnChallenges steps).Nodup) (hissued : challenge ∈ issuedChallenges steps) :
    challenge = [] ∨ challenge ∈ drawnChallenges steps := by
  obtain ⟨t, ht, hreturned⟩ := List.mem_filterMap.mp hissued
  obtain ⟨before, after, rfl⟩ := List.append_of_mem ht
  have hearlier : (drawnChallenges (before ++ [t])).Sublist
      (drawnChallenges (before ++ t :: after)) :=
    List.Sublist.filterMap _ (by simp)
  have hbefore : (drawnChallenges before).Sublist (drawnChallenges (before ++ t :: after)) :=
    List.Sublist.filterMap _ (by simp)
  rcases issued_cases (challengesKept_of_trace htrace.split.1 (hbefore.nodup hdraws))
    hreturned with hempty | hmem
  · exact .inl hempty
  · exact .inr (hearlier.subset hmem)

theorem drawnChallenges_append (before after : List (UnlockStep α)) :
    drawnChallenges (before ++ after) = drawnChallenges before ++ drawnChallenges after :=
  List.filterMap_append

/-- A vote is accepted only for a challenge made since the session opened. -/
theorem accepted_drawn {threshold : Int} {world : α} {before segment post : List (UnlockStep α)}
    {opening t : UnlockStep α} {final : UnlockRun α}
    (htrace : Trace (unlockSystem callbacks scheme threshold world)
      (before ++ opening :: segment ++ t :: post) final)
    (hdraws : (drawnChallenges (before ++ opening :: segment)).Nodup) (hopens : Opens opening)
    {vote : AcceptedVote} (hpasses : PassesVote callbacks scheme t vote) :
    vote.signedReq.challenge ∈ drawnChallenges segment := by
  have hkept := challengesKept_of_trace htrace.split.1 hdraws
  have hdrawn := hkept.drawn _ _ hpasses.pending
  rw [session, afterLast_append_cons Opens hopens] at hdrawn
  exact drawnChallenges_session hdrawn

/-- As long as `generate_challenge` does not repeat itself, no request is accepted twice, and
none is accepted for a challenge issued before the session opened. -/
theorem requests_accepted_once {threshold : Int} {world : α} {final : UnlockRun α}
    (htrace : Trace (unlockSystem callbacks scheme threshold world) steps final)
    (hdraws : (drawnChallenges steps).Nodup) :
    ((acceptedVotes callbacks scheme steps).map AcceptedVote.signedReq).Nodup ∧
      ∀ before opening segment t post tokenStore now approverName signedReq,
        steps = before ++ opening :: segment ++ t :: post → Opens opening →
        t.label = .castVote tokenStore now approverName signedReq →
        signedReq.challenge ∈ issuedChallenges before →
        (t.before.protocol.castVote callbacks.recording scheme tokenStore now approverName
          signedReq t.before.world).1.accepted = false := by
  constructor
  · have honce := (challengesKept_of_trace htrace hdraws).once
    have hchallenges : spentChallenges callbacks scheme steps =
        ((acceptedVotes callbacks scheme steps).map AcceptedVote.signedReq).map
          SignedRequest.challenge := by
      rw [List.map_map]
      rfl
    rw [hchallenges] at honce
    exact honce.of_map _
  · rintro before opening segment t post tokenStore now approverName signedReq rfl hopens hlabel
      hissued
    rcases castVote_cases recording_wired scheme tokenStore now approverName signedReq
      t.before.protocol t.before.world with ⟨record, challenge, hvote, -⟩ | hrejected
    · have hpasses : PassesVote callbacks scheme t ⟨approverName, record, signedReq⟩ :=
        ⟨tokenStore, now, challenge, hlabel, hvote⟩
      rw [drawnChallenges_append] at hdraws
      have hsession := accepted_drawn htrace hdraws.of_append_left hopens hpasses
      have hdisjoint := hdraws.of_append_left
      rw [drawnChallenges_append] at hdisjoint
      rw [List.append_assoc, List.cons_append] at htrace
      rcases issuedChallenges_cases htrace.split.1 hdisjoint.of_append_left hissued with
        hempty | hearlier
      · obtain ⟨u, -, hdrawn⟩ := List.mem_filterMap.mp hsession
        have hlength := length_of_drawn hdrawn
        rw [hempty] at hlength
        simp at hlength
      · have hlater : signedReq.challenge ∈ drawnChallenges (opening :: segment) :=
          (List.Sublist.filterMap _ (List.sublist_cons_self opening segment)).subset hsession
        exact absurd rfl ((List.nodup_append.mp hdisjoint).2.2 _ hearlier _ hlater)
    · exact hrejected.accepted

end

/-- Three approvers unlock, and the first of their votes is sent again to a second session. -/
def replayCalls : List UnlockCall :=
  seatCalls mixedSides id ++
    [lastVote id, .beginSession, seatVote id ("approver-1", 1)]

theorem replay_accepted_once :
    let callbacks := Callbacks.ofLockdown noteEntry
    let steps := execute (UnlockRun.perform callbacks sampleScheme) sampleStart replayCalls
    let votes := acceptedVotes callbacks sampleScheme steps
    (votes.map AcceptedVote.signedReq).Nodup ∧ votes.length = 3 := by
  intro callbacks steps votes
  have htrace : Trace (unlockSystem callbacks sampleScheme 3
      { worm := { state := .locked }, audit := [] }) steps _ :=
    trace_execute sampleStart (UnlockRun.perform callbacks sampleScheme) replayCalls
  have hdraws : (drawnChallenges steps).Nodup := by decide +kernel
  exact ⟨(requests_accepted_once htrace hdraws).1, by decide +kernel⟩

end Astartis.Unlock
