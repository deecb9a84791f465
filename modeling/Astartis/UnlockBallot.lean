import Mathlib.Data.Finset.Card
import Astartis.UnlockSafety

/-!
The votes a session has accepted, and who stands behind them when it grants.
-/

namespace Astartis.Unlock

open Access
open Audit
open Crypto
open TransitionSystem
open Worm

/-- A vote that `cast_vote` accepted, with the registration it was verified under. -/
structure AcceptedVote where
  approverName : ByteString
  record : ApproverRecord
  signedReq : SignedRequest
deriving DecidableEq

section

variable {α : Type} (callbacks : Callbacks α) (scheme : SignatureScheme)

def acceptedVote? (t : UnlockStep α) : Option AcceptedVote :=
  match t.label with
  | .castVote tokenStore now approverName signedReq =>
      if (t.before.protocol.castVote callbacks.recording scheme tokenStore now approverName
          signedReq t.before.world).1.accepted then
        t.before.protocol.approvers[approverName]?.map fun record =>
          ⟨approverName, record, signedReq⟩
      else none
  | _ => none

def acceptedVotes (steps : List (UnlockStep α)) : List AcceptedVote :=
  steps.filterMap (acceptedVote? callbacks scheme)

/-- The step is a `cast_vote` that returns `unlocked`. -/
def Grants (t : UnlockStep α) : Prop :=
  ∃ tokenStore now approverName signedReq,
    t.label = .castVote tokenStore now approverName signedReq ∧
    (t.before.protocol.castVote callbacks.recording scheme tokenStore now approverName
      signedReq t.before.world).1.unlocked = true

/-- The step is a `cast_vote` that passes all checks on the vote. -/
def PassesVote (t : UnlockStep α) (vote : AcceptedVote) : Prop :=
  ∃ tokenStore now challenge,
    t.label = .castVote tokenStore now vote.approverName vote.signedReq ∧
    VoteAccepted callbacks.recording scheme tokenStore now vote.approverName vote.signedReq
      t.before.protocol t.before.world vote.record challenge

end

/-- The votes are those the protocol has counted. -/
structure Tallied (votes : List AcceptedVote) (protocol : UnlockProtocol) : Prop where
  registered : ∀ vote ∈ votes, protocol.approvers[vote.approverName]? = some vote.record
  voted : ∀ name : ByteString,
    protocol.votes[name]? = some true ↔ name ∈ votes.map AcceptedVote.approverName
  nodup : (votes.map AcceptedVote.approverName).Nodup
  below : (votes.length : Int) < protocol.threshold

theorem Tallied.countVotes_eq {votes : List AcceptedVote} {protocol : UnlockProtocol}
    (htallied : Tallied votes protocol) : countVotes protocol.votes = votes.length := by
  have hperm : (voters protocol.votes).Perm (votes.map AcceptedVote.approverName) := by
    rw [List.perm_ext_iff_of_nodup (voters_nodup _) htallied.nodup]
    intro name
    rw [mem_voters, htallied.voted]
  rw [countVotes, hperm.length_eq, List.length_map]

section

variable {α : Type} {callbacks : Callbacks α} {scheme : SignatureScheme}

theorem acceptedVotes_concat (steps : List (UnlockStep α)) (t : UnlockStep α) :
    acceptedVotes callbacks scheme (steps ++ [t]) =
      acceptedVotes callbacks scheme steps ++ (acceptedVote? callbacks scheme t).toList :=
  filterMap_concat (acceptedVote? callbacks scheme) steps t

/-- The votes accepted are those that pass all checks. -/
theorem acceptedVote?_eq_some_iff (t : UnlockStep α) (vote : AcceptedVote) :
    acceptedVote? callbacks scheme t = some vote ↔ PassesVote callbacks scheme t vote := by
  constructor
  · intro hvote
    unfold acceptedVote? at hvote
    split at hvote
    · rename_i tokenStore now approverName signedReq hlabel
      split at hvote
      · rename_i haccepted
        rcases castVote_cases recording_wired scheme tokenStore now approverName signedReq
          t.before.protocol t.before.world with ⟨record, challenge, hpasses, -⟩ | hrejected
        · rw [hpasses.registered] at hvote
          obtain rfl := Option.some.inj hvote
          exact ⟨tokenStore, now, challenge, hlabel, hpasses⟩
        · rw [hrejected.accepted] at haccepted
          exact absurd haccepted (by simp)
      · simp at hvote
    · simp at hvote
  · rintro ⟨tokenStore, now, challenge, hlabel, hpasses⟩
    simp only [acceptedVote?, hlabel]
    rw [if_pos (castVote_accepted hpasses), hpasses.registered]
    rfl

theorem grants_iff (t : UnlockStep α) :
    Grants callbacks scheme t ↔ ∃ vote, PassesVote callbacks scheme t vote ∧
      t.before.protocol.threshold ≤ countVotes t.before.protocol.votes + 1 := by
  constructor
  · rintro ⟨tokenStore, now, approverName, signedReq, hlabel, hunlocked⟩
    obtain ⟨⟨record, challenge, hpasses⟩, hreached⟩ :=
      (castVote_unlocked_iff recording_wired).mp hunlocked
    exact ⟨⟨approverName, record, signedReq⟩, ⟨tokenStore, now, challenge, hlabel, hpasses⟩,
      hreached⟩
  · rintro ⟨vote, ⟨tokenStore, now, challenge, hlabel, hpasses⟩, hreached⟩
    exact ⟨tokenStore, now, vote.approverName, vote.signedReq, hlabel,
      (castVote_unlocked_iff recording_wired).mpr ⟨⟨_, _, hpasses⟩, hreached⟩⟩

/-- A step other than an accepted vote adds nothing to the votes and opens no new count. -/
theorem Tallied.keep {votes : List AcceptedVote} {before after : UnlockProtocol}
    (htallied : Tallied votes before) (hthreshold : after.threshold = before.threshold)
    (happrovers : ∀ (name : ByteString) (record : ApproverRecord),
      before.approvers[name]? = some record → after.approvers[name]? = some record)
    (hvotes : ∀ name : ByteString,
      after.votes[name]? = some true ↔ before.votes[name]? = some true) :
    Tallied votes after where
  registered := fun vote hvote => happrovers _ _ (htallied.registered vote hvote)
  voted := fun name => (hvotes name).trans (htallied.voted name)
  nodup := htallied.nodup
  below := hthreshold ▸ htallied.below

theorem Tallied.count {votes : List AcceptedVote} {vote : AcceptedVote}
    {before after : UnlockProtocol} (htallied : Tallied votes before)
    (hcounted : Counted vote.approverName before after)
    (hregistered : before.approvers[vote.approverName]? = some vote.record)
    (hfresh : before.votes[vote.approverName]? ≠ some true)
    (hbelow : countVotes after.votes < after.threshold) : Tallied (votes ++ [vote]) after where
  registered := by
    intro other hother
    rw [hcounted.approvers]
    rcases List.mem_append.mp hother with hother | hother
    · exact htallied.registered other hother
    · obtain rfl := List.mem_singleton.mp hother
      exact hregistered
  voted := by
    intro name
    rw [hcounted.votes, htallied.voted, List.map_append, List.mem_append]
    simp only [List.map_cons, List.map_nil, List.mem_singleton]
    exact or_comm
  nodup := by
    rw [List.map_append, List.map_singleton, ← List.concat_eq_append, List.nodup_concat]
    exact ⟨fun h => hfresh ((htallied.voted _).mpr h), htallied.nodup⟩
  below := by
    have hcount := countVotes_of_counted hcounted hfresh
    rw [htallied.countVotes_eq] at hcount
    rw [List.length_append, List.length_singleton]
    push_cast
    rwa [← hcount]

theorem not_opens {t : UnlockStep α} (hcall : t.label.isBeginSession = false) : ¬ Opens t := by
  rintro ⟨hbegin, -⟩
  exact absurd (hcall.symm.trans hbegin) (by decide)

/-- Calls within a session add their accepted votes to it. -/
theorem acceptedVotes_session {steps : List (UnlockStep α)} {t : UnlockStep α}
    (hopens : ¬ Opens t) :
    acceptedVotes callbacks scheme (session (steps ++ [t])) =
      acceptedVotes callbacks scheme (session steps) ++
        (acceptedVote? callbacks scheme t).toList := by
  rw [session_concat steps t hopens, acceptedVotes_concat]

theorem getChallenge_kept {run : UnlockRun α} (draw : Option (Vector UInt8 32))
    (approverName : ByteString) :
    let after := (run.perform callbacks scheme (.getChallenge draw approverName)).protocol
    after.state = run.protocol.state ∧ after.threshold = run.protocol.threshold ∧
      after.approvers = run.protocol.approvers ∧ after.votes = run.protocol.votes := by
  dsimp only [UnlockRun.perform]
  split
  · exact ⟨rfl, rfl, rfl, rfl⟩
  · rename_i challenge after hget
    rcases UnlockProtocol.getChallenge_cases hget with rfl | ⟨bytes, -, -, rfl⟩
    · exact ⟨rfl, rfl, rfl, rfl⟩
    · exact ⟨rfl, rfl, rfl, rfl⟩

theorem Tallied.registerApprover {votes : List AcceptedVote} {protocol : UnlockProtocol}
    (htallied : Tallied votes protocol) (name : ByteString) (side : ApproverSide)
    (publicKeyDer tokenId : ByteString) :
    Tallied votes (protocol.registerApprover name side publicKeyDer tokenId) := by
  refine htallied.keep (UnlockProtocol.registerApprover_threshold _ _ _ _ _)
    (fun other record => UnlockProtocol.registerApprover_approvers _ _ _ _ _) fun other =>
    ⟨UnlockProtocol.registerApprover_votes _ _ _ _ _, fun hvoted => ?_⟩
  unfold UnlockProtocol.registerApprover
  split
  · exact hvoted
  · rename_i hnew
    rw [Std.TreeMap.getElem?_insert]
    split
    · rename_i heq
      have hname : name = other := by simpa using heq
      obtain ⟨vote, hvote, hother⟩ := List.mem_map.mp ((htallied.voted other).mp hvoted)
      have hregistered := htallied.registered vote hvote
      rw [hother, ← hname] at hregistered
      refine absurd (Std.TreeMap.contains_iff_mem.mpr ?_) hnew
      exact Std.TreeMap.mem_iff_isSome_getElem?.mpr (by simp [hregistered])
    · exact hvoted

/-- A fresh session has counted no votes. -/
theorem Tallied.beginSession {protocol : UnlockProtocol} (hclosed : protocol.state ≠ .collecting) :
    Tallied [] protocol.beginSession where
  registered := by simp
  voted := fun name => by simp [(UnlockProtocol.beginSession_fresh hclosed name).2]
  nodup := by simp
  below := by simpa using protocol.threshold_pos

theorem Tallied.castVote {votes : List AcceptedVote} {run : UnlockRun α}
    (htallied : Tallied votes run.protocol) (tokenStore : TokenStore) (now : Int64)
    (approverName : ByteString) (signedReq : SignedRequest) :
    let call := UnlockCall.castVote tokenStore now approverName signedReq
    let after := run.perform callbacks scheme call
    after.protocol.state = .collecting →
      Tallied (votes ++ (acceptedVote? callbacks scheme ⟨run, call, after⟩).toList)
        after.protocol := by
  intro call after hcollecting
  rcases castVote_cases recording_wired scheme tokenStore now approverName signedReq
    run.protocol run.world with ⟨record, challenge, hvote, haccepted⟩ | hrejected
  · have hsome : acceptedVote? callbacks scheme ⟨run, call, after⟩ =
        some ⟨approverName, record, signedReq⟩ :=
      (acceptedVote?_eq_some_iff _ _).mpr ⟨tokenStore, now, challenge, rfl, hvote⟩
    rw [hsome, Option.toList_some]
    rcases haccepted.settled with ⟨-, hgranted, -⟩ | ⟨hbelow, -⟩
    · exact absurd (hgranted.symm.trans hcollecting) (by decide)
    · exact htallied.count haccepted.counted hvote.registered hvote.fresh hbelow
  · have hnone : acceptedVote? callbacks scheme ⟨run, call, after⟩ = none := by
      simp only [acceptedVote?, call, hrejected.accepted]
      rfl
    rw [hnone, Option.toList_none, List.append_nil]
    refine htallied.keep hrejected.kept.threshold (fun name other hrecord => ?_)
      hrejected.kept.votes
    exact (congrArg (fun m => m[name]?) hrejected.kept.approvers).trans hrecord

/-- Only a vote takes the protocol out of a collecting session. -/
theorem collecting_before {run : UnlockRun α} {call : UnlockCall}
    (hcall : call.isBeginSession = false)
    (hcollecting : (run.perform callbacks scheme call).protocol.state = .collecting) :
    run.protocol.state = .collecting := by
  cases call with
  | registerApprover name side publicKeyDer tokenId =>
      exact (UnlockProtocol.registerApprover_state _ _ _ _ _).symm.trans hcollecting
  | beginSession => simp [UnlockCall.isBeginSession] at hcall
  | getChallenge draw approverName =>
      exact (getChallenge_kept draw approverName).1.symm.trans hcollecting
  | castVote tokenStore now approverName signedReq =>
      rcases castVote_cases recording_wired scheme tokenStore now approverName signedReq
        run.protocol run.world with ⟨record, challenge, hvote, -⟩ | hrejected
      · exact hvote.collecting
      · exact hrejected.kept.state.symm.trans hcollecting

theorem tallied_of_trace {threshold : Int} {world : α} {steps : List (UnlockStep α)}
    {run : UnlockRun α}
    (htrace : Trace (unlockSystem callbacks scheme threshold world) steps run) :
    run.protocol.state = .collecting →
      Tallied (acceptedVotes callbacks scheme (session steps)) run.protocol := by
  refine htrace.history_invariant (I := fun steps run => run.protocol.state = .collecting →
    Tallied (acceptedVotes callbacks scheme (session steps)) run.protocol) ?_ ?_
  · rintro _ rfl hcollecting
    simp only [UnlockProtocol.construct] at hcollecting
    split at hcollecting <;> simp at hcollecting
  · rintro steps run call _ ih rfl hcollecting
    cases call with
    | registerApprover name side publicKeyDer tokenId =>
        rw [acceptedVotes_session (not_opens rfl)]
        simp only [acceptedVote?, Option.toList_none, List.append_nil]
        exact (ih (collecting_before rfl hcollecting)).registerApprover name side publicKeyDer
          tokenId
    | beginSession =>
        by_cases hopen : run.protocol.state = .collecting
        · have hsame : run.perform callbacks scheme .beginSession = run := by
            rw [UnlockRun.perform, UnlockProtocol.beginSession_of_collecting hopen]
          rw [hsame, acceptedVotes_session fun hopens => hopens.2 hopen]
          simpa [acceptedVote?] using ih hopen
        · rw [session_opening steps _ ⟨rfl, hopen⟩]
          exact Tallied.beginSession hopen
    | getChallenge draw approverName =>
        obtain ⟨-, hthreshold, happrovers, hvotes⟩ :=
          @getChallenge_kept α callbacks scheme run draw approverName
        rw [acceptedVotes_session (not_opens rfl)]
        have htallied := ih (collecting_before rfl hcollecting)
        simpa [acceptedVote?] using htallied.keep hthreshold
          (fun name record hrecord => happrovers ▸ hrecord) fun name => by rw [hvotes]
    | castVote tokenStore now approverName signedReq =>
        rw [acceptedVotes_session (not_opens rfl)]
        exact (ih (collecting_before rfl hcollecting)).castVote tokenStore now approverName
          signedReq hcollecting

end

/-! Both sides behind a grant. -/

def BothSides (votes : List AcceptedVote) : Prop :=
  (∃ vote ∈ votes, vote.record.side = .astartis) ∧ ∃ vote ∈ votes, vote.record.side = .client

instance : DecidablePred BothSides := fun _ =>
  inferInstanceAs (Decidable (_ ∧ _))

theorem bothSides_concat_iff (votes : List AcceptedVote) (vote : AcceptedVote) :
    BothSides (votes ++ [vote]) ↔ ∃ other ∈ votes, other.record.side ≠ vote.record.side := by
  have hsides : ∀ side : ApproverSide, side ≠ .astartis ↔ side = .client := by
    intro side
    cases side <;> simp
  have hothers : ∀ side : ApproverSide, side ≠ .client ↔ side = .astartis := by
    intro side
    cases side <;> simp
  simp only [BothSides, List.mem_append, List.mem_singleton, or_and_right, exists_or,
    exists_eq_left]
  cases hside : vote.record.side with
  | astartis => simp [hsides]
  | client => simp [hothers]

section

variable {α : Type} (callbacks : Callbacks α) (scheme : SignatureScheme)

/-- Somebody whose side is not `side` is recorded as having voted. -/
def OtherSideVoted (side : ApproverSide) (protocol : UnlockProtocol) : Prop :=
  ∃ (name : ByteString) (record : ApproverRecord), protocol.votes[name]? = some true ∧
    protocol.approvers[name]? = some record ∧ record.side ≠ side

/-- A vote that passes the checks and reaches the threshold comes when somebody of the other
side has voted. -/
def BringsSecondSide (t : UnlockStep α) : Prop :=
  ∀ vote : AcceptedVote, PassesVote callbacks scheme t vote →
    t.before.protocol.threshold ≤ countVotes t.before.protocol.votes + 1 →
    OtherSideVoted vote.record.side t.before.protocol

/-- The approvers registered with a side. -/
def approversOf (side : ApproverSide) (protocol : UnlockProtocol) : List ByteString :=
  (protocol.approvers.toList.filter fun approver => approver.2.side = side).map Prod.fst

end

section

variable {α : Type} {callbacks : Callbacks α} {scheme : SignatureScheme}

theorem PassesVote.tallied {threshold : Int} {world : α} {pre : List (UnlockStep α)}
    {t : UnlockStep α} {vote : AcceptedVote}
    (hpasses : PassesVote callbacks scheme t vote)
    (htrace : Trace (unlockSystem callbacks scheme threshold world) pre t.before) :
    Tallied (acceptedVotes callbacks scheme (session pre)) t.before.protocol := by
  obtain ⟨_, _, _, -, hvote⟩ := hpasses
  exact tallied_of_trace htrace hvote.collecting

theorem PassesVote.not_opens {t : UnlockStep α} {vote : AcceptedVote}
    (hpasses : PassesVote callbacks scheme t vote) : ¬ Opens t := by
  obtain ⟨_, _, _, hlabel, -⟩ := hpasses
  exact Unlock.not_opens (by rw [hlabel]; rfl)

theorem PassesVote.acceptedVotes_session {pre : List (UnlockStep α)} {t : UnlockStep α}
    {vote : AcceptedVote} (hpasses : PassesVote callbacks scheme t vote) :
    acceptedVotes callbacks scheme (session (pre ++ [t])) =
      acceptedVotes callbacks scheme (session pre) ++ [vote] := by
  have hvote := (acceptedVote?_eq_some_iff t vote).mpr hpasses
  rw [Unlock.acceptedVotes_session hpasses.not_opens, hvote, Option.toList_some]

theorem mem_approversOf {side : ApproverSide} {protocol : UnlockProtocol} {name : ByteString}
    {record : ApproverRecord} (hrecord : protocol.approvers[name]? = some record)
    (hside : record.side = side) : name ∈ approversOf side protocol := by
  refine List.mem_map.mpr ⟨(name, record), List.mem_filter.mpr ⟨?_, ?_⟩, rfl⟩
  · exact Std.TreeMap.mem_toList_iff_getElem?_eq_some.mpr hrecord
  · simpa using hside

/-- With fewer approvers on each side than the threshold, no side can grant alone. -/
theorem bringsSecondSide_of_few {threshold : Int} {world : α} {pre : List (UnlockStep α)}
    {t : UnlockStep α}
    (htrace : Trace (unlockSystem callbacks scheme threshold world) pre t.before)
    (hfew : ∀ side, ((approversOf side t.before.protocol).length : Int) <
      t.before.protocol.threshold) : BringsSecondSide callbacks scheme t := by
  intro vote hpasses hreached
  have htallied := hpasses.tallied htrace
  obtain ⟨_, _, _, -, hvote⟩ := hpasses
  by_contra hnone
  simp only [OtherSideVoted, not_exists, not_and, not_not] at hnone
  have hsubset : (vote.approverName :: (acceptedVotes callbacks scheme (session pre)).map
      AcceptedVote.approverName) ⊆ approversOf vote.record.side t.before.protocol := by
    intro name hname
    rcases List.mem_cons.mp hname with rfl | hname
    · exact mem_approversOf hvote.registered rfl
    · obtain ⟨other, hother, rfl⟩ := List.mem_map.mp hname
      have hregistered := htallied.registered other hother
      exact mem_approversOf hregistered
        (hnone _ _ ((htallied.voted _).mpr hname) hregistered)
  have hnodup : (vote.approverName :: (acceptedVotes callbacks scheme (session pre)).map
      AcceptedVote.approverName).Nodup :=
    List.nodup_cons.mpr ⟨fun h => hvote.fresh ((htallied.voted _).mpr h), htallied.nodup⟩
  have hlength := (hnodup.subperm hsubset).length_le
  rw [List.length_cons, List.length_map] at hlength
  rw [htallied.countVotes_eq] at hreached
  have hside := hfew vote.record.side
  omega

/-- The grants of a run have votes of both sides behind them exactly when every vote that
reaches the threshold brings a second side. -/
theorem grants_bothSides_iff {threshold : Int} {world : α} {steps : List (UnlockStep α)}
    {final : UnlockRun α}
    (htrace : Trace (unlockSystem callbacks scheme threshold world) steps final) :
    (∀ pre t post, steps = pre ++ t :: post → Grants callbacks scheme t →
        BothSides (acceptedVotes callbacks scheme (session (pre ++ [t])))) ↔
      ∀ t ∈ steps, BringsSecondSide callbacks scheme t := by
  have hstep : ∀ pre t post, steps = pre ++ t :: post → ∀ vote,
      PassesVote callbacks scheme t vote →
      (BothSides (acceptedVotes callbacks scheme (session (pre ++ [t]))) ↔
        OtherSideVoted vote.record.side t.before.protocol) := by
    rintro pre t post rfl vote hpasses
    have htallied := hpasses.tallied htrace.split.1
    rw [hpasses.acceptedVotes_session, bothSides_concat_iff]
    constructor
    · rintro ⟨other, hother, hside⟩
      exact ⟨other.approverName, other.record,
        (htallied.voted _).mpr (List.mem_map_of_mem hother), htallied.registered other hother,
        hside⟩
    · rintro ⟨name, record, hvoted, hrecord, hside⟩
      obtain ⟨other, hother, rfl⟩ := List.mem_map.mp ((htallied.voted name).mp hvoted)
      have hsame : record = other.record :=
        Option.some.inj (hrecord.symm.trans (htallied.registered other hother))
      exact ⟨other, hother, hsame ▸ hside⟩
  constructor
  · intro hgrants t ht vote hpasses hreached
    obtain ⟨pre, post, hsplit⟩ := List.append_of_mem ht
    exact (hstep pre t post hsplit vote hpasses).mp
      (hgrants pre t post hsplit ((grants_iff t).mpr ⟨vote, hpasses, hreached⟩))
  · intro hbrings pre t post hsplit hgrants
    obtain ⟨vote, hpasses, hreached⟩ := (grants_iff t).mp hgrants
    exact (hstep pre t post hsplit vote hpasses).mpr
      (hbrings t (hsplit ▸ by simp) vote hpasses hreached)

end

def seats : List (ByteString × UInt8) := [("approver-1", 1), ("approver-2", 2), ("approver-3", 3)]

def seatTokens : TokenStore where
  tokens := seats.foldl (fun tokens seat =>
    tokens.insert seat.1 ⟨⟨seat.1, seat.1, "worm_unlock_vote", 0, 30000⟩, false⟩) {}

def seatVote (signer : ByteString → ByteString) (seat : ByteString × UInt8) : UnlockCall :=
  .castVote seatTokens 1000 seat.1 (makeSignedRequest sampleScheme [] 900
    ⟨signer seat.1, signer seat.1⟩ (List.replicate 32 seat.2))

/-- Three approvers register, a session opens, all get a challenge and all but the last one
vote, each with the name and the key of a signer. -/
def seatCalls (side : ByteString → ApproverSide) (signer : ByteString → ByteString) :
    List UnlockCall :=
  seats.map (fun seat => .registerApprover seat.1 (side seat.1) (signer seat.1) seat.1) ++
    [.beginSession] ++
    seats.map (fun seat => .getChallenge (some (Vector.replicate 32 seat.2)) seat.1) ++
    [seatVote signer ("approver-1", 1), seatVote signer ("approver-2", 2)]

def lastVote (signer : ByteString → ByteString) : UnlockCall := seatVote signer ("approver-3", 3)

def mixedSides (name : ByteString) : ApproverSide :=
  if name = ByteString.ofString "approver-1" then .astartis else .client

/-- Three approvers of the client side unlock without the other side. -/
theorem clients_unlock_alone :
    let callbacks := Callbacks.ofLockdown noteEntry
    let perform := UnlockRun.perform callbacks sampleScheme
    let steps := execute perform sampleStart (seatCalls (fun _ => .client) id ++ [lastVote id])
    (∃ final, Trace (unlockSystem callbacks sampleScheme 3
      { worm := { state := .locked }, audit := [] }) steps final) ∧
    ∃ pre t, steps = pre ++ [t] ∧ Grants callbacks sampleScheme t ∧
      ¬ BothSides (acceptedVotes callbacks sampleScheme (session (pre ++ [t]))) := by
  intro callbacks perform steps
  have hsplit := execute_concat perform sampleStart (seatCalls (fun _ => .client) id) (lastVote id)
  refine ⟨⟨_, trace_execute sampleStart perform _⟩, _, _, hsplit,
    ⟨_, _, _, _, rfl, by decide +kernel⟩, ?_⟩
  rw [← hsplit]
  decide +kernel

theorem mixed_bothSides :
    let callbacks := Callbacks.ofLockdown noteEntry
    let steps := execute (UnlockRun.perform callbacks sampleScheme) sampleStart
      (seatCalls mixedSides id ++ [lastVote id])
    ∀ pre t post, steps = pre ++ t :: post → Grants callbacks sampleScheme t →
      BothSides (acceptedVotes callbacks sampleScheme (session (pre ++ [t]))) := by
  intro callbacks steps
  have htrace : Trace (unlockSystem callbacks sampleScheme 3
      { worm := { state := .locked }, audit := [] }) steps _ :=
    trace_execute sampleStart (UnlockRun.perform callbacks sampleScheme) _
  have hfew : ∀ t ∈ steps, ∀ side ∈ [ApproverSide.astartis, .client],
      ((approversOf side t.before.protocol).length : Int) < t.before.protocol.threshold := by
    decide +kernel
  apply (grants_bothSides_iff htrace).mpr
  intro t ht
  obtain ⟨pre, post, hsplit⟩ := List.append_of_mem ht
  rw [hsplit] at htrace
  exact bringsSecondSide_of_few htrace.split.1 fun side => hfew t ht side (by cases side <;> simp)

/-! The keys behind a grant. -/

/-- The votes name their approvers, and stand for enough keys. -/
structure OneKeyOneVote (threshold : Int) (votes : List AcceptedVote) : Prop where
  keys : threshold ≤ (votes.map fun vote => vote.record.publicKeyDer).toFinset.card
  names : ∀ vote ∈ votes, vote.signedReq.identityName = vote.approverName

def OwnKeys (votes : List AcceptedVote) : Prop :=
  (votes.map fun vote => vote.record.publicKeyDer).Nodup ∧
    ∀ vote ∈ votes, vote.signedReq.identityName = vote.approverName

section

variable {α : Type} (callbacks : Callbacks α) (scheme : SignatureScheme)

/-- A vote that passes the checks names its approver, and nobody has voted under its key. -/
def VotesUnderOwnKey (t : UnlockStep α) : Prop :=
  ∀ vote : AcceptedVote, PassesVote callbacks scheme t vote →
    vote.signedReq.identityName = vote.approverName ∧
    ∀ (name : ByteString) (record : ApproverRecord),
      t.before.protocol.votes[name]? = some true →
      t.before.protocol.approvers[name]? = some record →
      record.publicKeyDer ≠ vote.record.publicKeyDer

end

section

variable {α : Type} {callbacks : Callbacks α} {scheme : SignatureScheme}

theorem ownKeys_concat_iff (votes : List AcceptedVote) (vote : AcceptedVote) :
    OwnKeys (votes ++ [vote]) ↔ OwnKeys votes ∧
      vote.signedReq.identityName = vote.approverName ∧
      ∀ other ∈ votes, other.record.publicKeyDer ≠ vote.record.publicKeyDer := by
  have hkeys : ((votes ++ [vote]).map fun vote => vote.record.publicKeyDer).Nodup ↔
      (∀ other ∈ votes, other.record.publicKeyDer ≠ vote.record.publicKeyDer) ∧
        (votes.map fun vote => vote.record.publicKeyDer).Nodup := by
    rw [List.map_append, List.map_singleton, ← List.concat_eq_append, List.nodup_concat]
    simp
  have hnames : (∀ other ∈ votes ++ [vote], other.signedReq.identityName = other.approverName) ↔
      (∀ other ∈ votes, other.signedReq.identityName = other.approverName) ∧
        vote.signedReq.identityName = vote.approverName := by
    simp only [List.mem_append, List.mem_singleton, or_imp, forall_and, forall_eq]
  rw [OwnKeys, OwnKeys, hkeys, hnames]
  tauto

theorem oneKeyOneVote_iff {threshold : Int} {votes : List AcceptedVote}
    (hlength : threshold = votes.length) : OneKeyOneVote threshold votes ↔ OwnKeys votes := by
  have hcard : ∀ keys : List ByteString, (keys.length : Int) ≤ keys.toFinset.card ↔
      keys.Nodup := by
    intro keys
    rw [Nat.cast_le, ← Multiset.coe_nodup, ← Multiset.toFinset_card_eq_card_iff_nodup]
    have hle := Multiset.toFinset_card_le (keys : Multiset ByteString)
    rw [Multiset.coe_card] at hle ⊢
    exact ⟨fun h => le_antisymm hle h, fun h => h.ge⟩
  have hkeys := hcard (votes.map fun vote => vote.record.publicKeyDer)
  rw [List.length_map, ← hlength] at hkeys
  exact ⟨fun h => ⟨hkeys.mp h.keys, h.names⟩, fun h => ⟨hkeys.mpr h.1, h.2⟩⟩

theorem ownKeys_step {threshold : Int} {world : α} {pre : List (UnlockStep α)}
    {t : UnlockStep α}
    (htrace : Trace (unlockSystem callbacks scheme threshold world) pre t.before)
    (hopens : ¬ Opens t) :
    OwnKeys (acceptedVotes callbacks scheme (session (pre ++ [t]))) ↔
      OwnKeys (acceptedVotes callbacks scheme (session pre)) ∧
        VotesUnderOwnKey callbacks scheme t := by
  cases hvote : acceptedVote? callbacks scheme t with
  | none =>
      have hvacuous : VotesUnderOwnKey callbacks scheme t := by
        intro vote hpasses
        exact absurd (hvote.symm.trans ((acceptedVote?_eq_some_iff t vote).mpr hpasses)) (by simp)
      rw [acceptedVotes_session hopens, hvote, Option.toList_none, List.append_nil]
      exact (and_iff_left hvacuous).symm
  | some vote =>
      have hpasses := (acceptedVote?_eq_some_iff t vote).mp hvote
      have htallied := hpasses.tallied htrace
      rw [hpasses.acceptedVotes_session, ownKeys_concat_iff]
      apply and_congr_right
      intro _
      constructor
      · rintro ⟨hname, hkeys⟩ other hother
        obtain rfl : vote = other :=
          Option.some.inj (hvote.symm.trans ((acceptedVote?_eq_some_iff t other).mpr hother))
        refine ⟨hname, fun name record hvoted hrecord => ?_⟩
        obtain ⟨earlier, hearlier, rfl⟩ := List.mem_map.mp ((htallied.voted name).mp hvoted)
        obtain rfl : record = earlier.record :=
          Option.some.inj (hrecord.symm.trans (htallied.registered earlier hearlier))
        exact hkeys earlier hearlier
      · intro hown
        obtain ⟨hname, hkeys⟩ := hown vote hpasses
        exact ⟨hname, fun other hother => hkeys other.approverName other.record
          ((htallied.voted _).mpr (List.mem_map_of_mem hother))
          (htallied.registered other hother)⟩

theorem ownKeys_iff {threshold : Int} {world : α} {steps : List (UnlockStep α)}
    {run : UnlockRun α}
    (htrace : Trace (unlockSystem callbacks scheme threshold world) steps run) :
    OwnKeys (acceptedVotes callbacks scheme (session steps)) ↔
      ∀ u ∈ session steps, VotesUnderOwnKey callbacks scheme u := by
  induction htrace with
  | start _ => simp [session, afterLast, acceptedVotes, OwnKeys]
  | @extend steps run after call htrace _ ih =>
      by_cases hopens : Opens (⟨run, call, after⟩ : UnlockStep α)
      · simp [session_opening steps _ hopens, acceptedVotes, OwnKeys]
      · rw [ownKeys_step htrace hopens, ih, session_concat steps _ hopens]
        simp only [List.mem_append, List.mem_singleton, or_imp, forall_and, forall_eq]

/-- Behind a grant every key stands for one vote, cast in the name of its approver, exactly
when every vote of the session was cast so. -/
theorem grants_oneKeyOneVote_iff {threshold : Int} {world : α} {steps : List (UnlockStep α)}
    {final : UnlockRun α}
    (htrace : Trace (unlockSystem callbacks scheme threshold world) steps final) :
    ∀ pre t post, steps = pre ++ t :: post → Grants callbacks scheme t →
      (OneKeyOneVote t.before.protocol.threshold
          (acceptedVotes callbacks scheme (session (pre ++ [t]))) ↔
        ∀ u ∈ session (pre ++ [t]), VotesUnderOwnKey callbacks scheme u) := by
  rintro pre t post rfl hgrants
  obtain ⟨vote, hpasses, hreached⟩ := (grants_iff t).mp hgrants
  obtain ⟨hbefore, hstep⟩ := htrace.split
  have htallied := hpasses.tallied hbefore
  have hlength : t.before.protocol.threshold =
      (acceptedVotes callbacks scheme (session (pre ++ [t]))).length := by
    have hbelow := htallied.below
    rw [htallied.countVotes_eq] at hreached
    rw [hpasses.acceptedVotes_session, List.length_append, List.length_singleton]
    push_cast
    omega
  rw [oneKeyOneVote_iff hlength]
  exact ownKeys_iff (hbefore.extend hstep)

end

/-- Every approver votes in its own name, under its own key. -/
theorem seats_votesUnderOwnKey :
    let callbacks := Callbacks.ofLockdown noteEntry
    let steps := execute (UnlockRun.perform callbacks sampleScheme) sampleStart
      (seatCalls mixedSides id ++ [lastVote id])
    ∀ u ∈ session steps, VotesUnderOwnKey callbacks sampleScheme u := by
  intro callbacks steps
  have htrace : Trace (unlockSystem callbacks sampleScheme 3
      { worm := { state := .locked }, audit := [] }) steps _ :=
    trace_execute sampleStart (UnlockRun.perform callbacks sampleScheme) _
  have hsplit := execute_concat (UnlockRun.perform callbacks sampleScheme) sampleStart
    (seatCalls mixedSides id) (lastVote id)
  have hone := grants_oneKeyOneVote_iff htrace _ _ [] hsplit
    ⟨_, _, _, _, rfl, by decide +kernel⟩
  rw [← hsplit] at hone
  exact hone.mp ⟨by decide +kernel, by decide +kernel⟩

/-- One key, registered under three names, signs all votes in a name of its own. -/
theorem one_holder_unlocks :
    let callbacks := Callbacks.ofLockdown noteEntry
    let perform := UnlockRun.perform callbacks sampleScheme
    let steps := execute perform sampleStart
      (seatCalls mixedSides (fun _ => "holder") ++ [lastVote fun _ => "holder"])
    let votes := acceptedVotes callbacks sampleScheme (session steps)
    (∃ final, Trace (unlockSystem callbacks sampleScheme 3
      { worm := { state := .locked }, audit := [] }) steps final) ∧
    (∃ pre t, steps = pre ++ [t] ∧ Grants callbacks sampleScheme t) ∧
      (votes.map fun vote => vote.record.publicKeyDer).toFinset.card = 1 ∧
      (∀ vote ∈ votes, vote.signedReq.identityName ≠ vote.approverName) ∧
      ¬ OneKeyOneVote 3 votes := by
  intro callbacks perform steps votes
  have hsplit := execute_concat perform sampleStart (seatCalls mixedSides fun _ => "holder")
    (lastVote fun _ => "holder")
  have hcard : (votes.map fun vote => vote.record.publicKeyDer).toFinset.card = 1 := by
    decide +kernel
  refine ⟨⟨_, trace_execute sampleStart perform _⟩,
    ⟨_, _, hsplit, _, _, _, _, rfl, by decide +kernel⟩, hcard, by decide +kernel, fun hone => ?_⟩
  have hkeys := hone.keys
  rw [hcard] at hkeys
  exact absurd hkeys (by decide)

end Astartis.Unlock
