import Astartis.AccessToken
import Astartis.CryptoIdentity
import Astartis.WormLock

namespace Astartis.Unlock

open Access
open Audit
open Crypto
open Worm

inductive ApproverSide
  | astartis
  | client
deriving DecidableEq

structure ApproverRecord where
  name : ByteString
  side : ApproverSide
  publicKeyDer : ByteString
  tokenId : ByteString
deriving DecidableEq

structure VoteResult where
  accepted : Bool
  reason : ByteString
  votesNow : Int
  threshold : Int
  unlocked : Bool
deriving DecidableEq

inductive ProtocolState
  | idle
  | collecting
  | granted
deriving DecidableEq

structure ApproverStatus where
  name : ByteString
  side : ApproverSide
  voted : Bool

structure UnlockStatus where
  state : ProtocolState
  votesCollected : Int
  threshold : Int
  approvers : List ApproverStatus

/-- What an `UnlockProtocol` is constructed with.  The token store it refers to
audits through an adder of its own. -/
structure Callbacks (σ : Type) where
  auditAdder : AuditAdder σ
  tokenAudit : AuditAdder σ
  wormUnlock : ByteString → σ → σ

def Callbacks.ofLockdown {α : Type} (auditAdder : AuditAdder α) : Callbacks (Lockdown α) where
  auditAdder := Lockdown.addEntry auditAdder
  tokenAudit := Lockdown.addEntry auditAdder
  wormUnlock := Lockdown.lift auditAdder

def demoThreshold : Int := 3

def productionThreshold : Int := 12

structure UnlockProtocol where
  threshold : Int
  threshold_pos : 0 < threshold
  state : ProtocolState := .idle
  approvers : Std.TreeMap ByteString ApproverRecord := {}
  challenges : Std.TreeMap ByteString ByteString := {}
  votes : Std.TreeMap ByteString Bool := {}

def voters (votes : Std.TreeMap ByteString Bool) : List ByteString :=
  (votes.toList.filter Prod.snd).map Prod.fst

def countVotes (votes : Std.TreeMap ByteString Bool) : Int :=
  (voters votes).length

namespace UnlockProtocol

variable {σ : Type} (callbacks : Callbacks σ)

def construct (threshold : Int) : UnlockProtocol :=
  if h : threshold > 0 then { threshold := threshold, threshold_pos := h }
  else { threshold := demoThreshold, threshold_pos := by decide }

def registerApprover (name : ByteString) (side : ApproverSide)
    (publicKeyDer tokenId : ByteString) (self : UnlockProtocol) : UnlockProtocol :=
  if self.approvers.contains name then self
  else { self with
    approvers := self.approvers.insert name ⟨name, side, publicKeyDer, tokenId⟩
    votes := self.votes.insert name false }

def beginSession (self : UnlockProtocol) : UnlockProtocol :=
  if self.state = .collecting then self
  else { self with
    votes := self.votes.map fun _ _ => false
    challenges := {}
    state := .collecting }

/-- `get_challenge`.  `none` is the exception of a failing random generator. -/
def getChallenge (draw : Option (Vector UInt8 32)) (approverName : ByteString)
    (self : UnlockProtocol) : Option (ByteString × UnlockProtocol) :=
  if self.approvers.contains approverName then
    match self.challenges[approverName]? with
    | some challenge => some (challenge, self)
    | none =>
        draw.map fun draw =>
          (draw.toList, { self with
            challenges := self.challenges.insert approverName draw.toList })
  else some ([], self)

def reject (approverName reason : ByteString) (self : UnlockProtocol) (world : σ) :
    VoteResult × UnlockProtocol × σ :=
  let payload := ("approver=" : ByteString) ++ approverName ++
    (" reason=" : ByteString) ++ reason
  let world := (callbacks.auditAdder "worm_unlock_vote_rejected" payload world).2
  (⟨false, reason, countVotes self.votes, self.threshold, false⟩, self, world)

/-- Steps 6 and 7 of `cast_vote`. -/
def accept (approverName : ByteString) (self : UnlockProtocol) (world : σ) :
    VoteResult × UnlockProtocol × σ :=
  let self := { self with
    votes := self.votes.insert approverName true
    challenges := self.challenges.erase approverName }
  let collected := countVotes self.votes
  let payload := ("approver=" : ByteString) ++ approverName ++
    (" votes_now=" : ByteString) ++ ByteString.decimal collected ++
    ("/" : ByteString) ++ ByteString.decimal self.threshold
  let world := (callbacks.auditAdder "worm_unlock_vote" payload world).2
  if collected ≥ self.threshold then
    let self := { self with state := .granted }
    let payload := ("votes=" : ByteString) ++ ByteString.decimal collected ++
      (" threshold=" : ByteString) ++ ByteString.decimal self.threshold
    let world := (callbacks.auditAdder "worm_unlock_granted" payload world).2
    (⟨true, "ok", collected, self.threshold, true⟩, self,
      callbacks.wormUnlock "12eye_protocol_demo_scale" world)
  else (⟨true, "ok", collected, self.threshold, false⟩, self, world)

def castVote (scheme : SignatureScheme) (tokenStore : TokenStore) (now : Int64)
    (approverName : ByteString) (signedReq : SignedRequest) (self : UnlockProtocol)
    (world : σ) : VoteResult × UnlockProtocol × σ :=
  if self.state = .idle then
    self.reject callbacks approverName "not_collecting" world
  else if self.state = .granted then
    self.reject callbacks approverName "already_granted" world
  else
    match self.approvers[approverName]? with
    | none => self.reject callbacks approverName "unknown_approver" world
    | some record =>
        -- reading `votes_[approver_name]` creates a missing entry
        let self := { self with votes := self.votes.insertIfNew approverName false }
        if self.votes.getD approverName false then
          self.reject callbacks approverName "duplicate" world
        else
          let (ar, world) := tokenStore.checkAccess callbacks.tokenAudit now
            record.tokenId "worm_unlock_vote" world
          if ar.granted = false then
            self.reject callbacks approverName
              (("scope_denied:" : ByteString) ++ ar.reason) world
          else
            match self.challenges[approverName]? with
            | none => self.reject callbacks approverName "no_challenge_issued" world
            | some challenge =>
                if verifySignedRequest scheme signedReq challenge record.publicKeyDer then
                  self.accept callbacks approverName world
                else
                  self.reject callbacks approverName "bad_signature" world

def votesCollected (self : UnlockProtocol) : Int :=
  countVotes self.votes

def status (self : UnlockProtocol) : UnlockStatus where
  state := self.state
  votesCollected := countVotes self.votes
  threshold := self.threshold
  approvers := self.approvers.toList.map fun kv =>
    ⟨kv.1, kv.2.side, self.votes.getD kv.1 false⟩

end UnlockProtocol

namespace UnlockProtocol

section Register

variable (name : ByteString) (side : ApproverSide) (publicKeyDer tokenId : ByteString)
  (self : UnlockProtocol)

@[simp] theorem registerApprover_state :
    (self.registerApprover name side publicKeyDer tokenId).state = self.state := by
  simp only [registerApprover]
  split <;> rfl

@[simp] theorem registerApprover_threshold :
    (self.registerApprover name side publicKeyDer tokenId).threshold = self.threshold := by
  simp only [registerApprover]
  split <;> rfl

@[simp] theorem registerApprover_challenges :
    (self.registerApprover name side publicKeyDer tokenId).challenges = self.challenges := by
  simp only [registerApprover]
  split <;> rfl

/-- Registration never changes the record of a registered name. -/
theorem registerApprover_approvers {other : ByteString} {record : ApproverRecord}
    (hrecord : self.approvers[other]? = some record) :
    (self.registerApprover name side publicKeyDer tokenId).approvers[other]? =
      some record := by
  simp only [registerApprover]
  split
  · exact hrecord
  · rename_i hnew
    rw [Std.TreeMap.getElem?_insert]
    split
    · rename_i heq
      have hname : name = other := by simpa using heq
      have hmem : other ∈ self.approvers :=
        Std.TreeMap.mem_iff_isSome_getElem?.mpr (by simp [hrecord])
      exact absurd (Std.TreeMap.contains_iff_mem.mpr (hname ▸ hmem)) hnew
    · exact hrecord

theorem registerApprover_votes {other : ByteString}
    (hvote : (self.registerApprover name side publicKeyDer tokenId).votes[other]? =
      some true) : self.votes[other]? = some true := by
  unfold registerApprover at hvote
  split at hvote
  · exact hvote
  · rw [Std.TreeMap.getElem?_insert] at hvote
    split at hvote
    · simp at hvote
    · exact hvote

end Register

@[simp] theorem beginSession_state (self : UnlockProtocol) :
    self.beginSession.state = .collecting := by
  simp only [beginSession]
  split
  · assumption
  · rfl

@[simp] theorem beginSession_threshold (self : UnlockProtocol) :
    self.beginSession.threshold = self.threshold := by
  simp only [beginSession]
  split <;> rfl

theorem beginSession_of_collecting {self : UnlockProtocol}
    (hcollecting : self.state = .collecting) : self.beginSession = self := by
  rw [beginSession, if_pos hcollecting]

theorem beginSession_fresh {self : UnlockProtocol} (hclosed : self.state ≠ .collecting)
    (name : ByteString) :
    self.beginSession.challenges[name]? = none ∧
      self.beginSession.votes[name]? ≠ some true := by
  rw [beginSession, if_neg hclosed]
  refine ⟨by simp, ?_⟩
  rw [Std.TreeMap.getElem?_map]
  cases self.votes[name]? <;> simp

/-- A `get_challenge` at most records one freshly generated challenge. -/
theorem getChallenge_cases {draw : Option (Vector UInt8 32)} {approverName : ByteString}
    {self after : UnlockProtocol} {challenge : ByteString}
    (hget : self.getChallenge draw approverName = some (challenge, after)) :
    after = self ∨ ∃ bytes, draw = some bytes ∧ self.challenges[approverName]? = none ∧
      after = { self with
        challenges := self.challenges.insert approverName bytes.toList } := by
  unfold getChallenge at hget
  split at hget
  · split at hget
    · exact Or.inl (Prod.mk.inj (Option.some.inj hget)).2.symm
    · rename_i hnone
      obtain ⟨bytes, hdraw, hpair⟩ := Option.map_eq_some_iff.mp hget
      exact Or.inr ⟨bytes, hdraw, hnone, (Prod.mk.inj hpair).2.symm⟩
  · exact Or.inl (Prod.mk.inj (Option.some.inj hget)).2.symm

end UnlockProtocol

theorem voters_nodup (votes : Std.TreeMap ByteString Bool) : (voters votes).Nodup := by
  have hdistinct := votes.distinct_keys_toList.filter Prod.snd
  simp only [voters]
  rw [List.Nodup, List.pairwise_map]
  refine hdistinct.imp ?_
  intro a b hne heq
  exact hne (by simpa using heq)

theorem mem_voters {votes : Std.TreeMap ByteString Bool} {name : ByteString} :
    name ∈ voters votes ↔ votes[name]? = some true := by
  simp [voters, Std.TreeMap.mem_toList_iff_getElem?_eq_some]

structure VoteAccepted {σ : Type} (callbacks : Callbacks σ) (scheme : SignatureScheme)
    (tokenStore : TokenStore) (now : Int64) (approverName : ByteString)
    (signedReq : SignedRequest) (before : UnlockProtocol) (world : σ)
    (record : ApproverRecord) (challenge : ByteString) : Prop where
  collecting : before.state = .collecting
  registered : before.approvers[approverName]? = some record
  fresh : before.votes[approverName]? ≠ some true
  inScope : (tokenStore.checkAccess callbacks.tokenAudit now record.tokenId
    "worm_unlock_vote" world).1.granted = true
  issued : before.challenges[approverName]? = some challenge
  verified : verifySignedRequest scheme signedReq challenge record.publicKeyDer = true

structure Counted (approverName : ByteString) (before after : UnlockProtocol) : Prop where
  approvers : after.approvers = before.approvers
  threshold : after.threshold = before.threshold
  challenges : after.challenges = before.challenges.erase approverName
  votes : ∀ name : ByteString, after.votes[name]? = some true ↔
    name = approverName ∨ before.votes[name]? = some true

structure Kept (before after : UnlockProtocol) : Prop where
  state : after.state = before.state
  approvers : after.approvers = before.approvers
  threshold : after.threshold = before.threshold
  challenges : after.challenges = before.challenges
  votes : ∀ name : ByteString, after.votes[name]? = some true ↔ before.votes[name]? = some true

/-- Auditing does not show in what is observed of the world, and `worm_unlock` shows
as `unlocked`. -/
structure Callbacks.Wired {σ β : Type} (callbacks : Callbacks σ) (observe : σ → β)
    (unlocked : β → β) : Prop where
  audit : ∀ eventType payload world,
    observe (callbacks.auditAdder eventType payload world).2 = observe world
  tokenAudit : ∀ eventType payload world,
    observe (callbacks.tokenAudit eventType payload world).2 = observe world
  unlock : ∀ world, observe (callbacks.wormUnlock "12eye_protocol_demo_scale" world) =
    unlocked (observe world)

structure Accepted {σ β : Type} (observe : σ → β) (unlocked : β → β)
    (approverName : ByteString) (before : UnlockProtocol) (world : σ)
    (outcome : VoteResult × UnlockProtocol × σ) : Prop where
  counted : Counted approverName before outcome.2.1
  accepted : outcome.1.accepted = true
  settled :
    (outcome.2.1.threshold ≤ countVotes outcome.2.1.votes ∧
        outcome.2.1.state = .granted ∧ outcome.1.unlocked = true ∧
        observe outcome.2.2 = unlocked (observe world)) ∨
      (countVotes outcome.2.1.votes < outcome.2.1.threshold ∧
        outcome.2.1.state = .collecting ∧ outcome.1.unlocked = false ∧
        observe outcome.2.2 = observe world)

structure Rejected {σ β : Type} (observe : σ → β) (before : UnlockProtocol) (world : σ)
    (outcome : VoteResult × UnlockProtocol × σ) : Prop where
  kept : Kept before outcome.2.1
  accepted : outcome.1.accepted = false
  unlocked : outcome.1.unlocked = false
  observed : observe outcome.2.2 = observe world

section CastVote

variable {σ β : Type} {callbacks : Callbacks σ} {observe : σ → β} {unlocked : β → β}

theorem insertIfNew_votes (votes : Std.TreeMap ByteString Bool)
    (approverName name : ByteString) :
    (votes.insertIfNew approverName false)[name]? = some true ↔
      votes[name]? = some true := by
  rw [Std.TreeMap.getElem?_insertIfNew]
  split
  · rename_i hnew
    have hname : approverName = name := by simpa using hnew.1
    have hnone : votes[name]? = none :=
      Std.TreeMap.getElem?_eq_none (hname ▸ hnew.2)
    simp [hnone]
  · rfl

theorem getD_votes (votes : Std.TreeMap ByteString Bool) (name : ByteString) :
    votes.getD name false = true ↔ votes[name]? = some true := by
  rw [Std.TreeMap.getD_eq_getD_getElem?]
  cases votes[name]? <;> simp

theorem insert_votes (votes : Std.TreeMap ByteString Bool)
    (approverName name : ByteString) :
    (votes.insert approverName true)[name]? = some true ↔
      name = approverName ∨ votes[name]? = some true := by
  rw [Std.TreeMap.getElem?_insert]
  split
  · rename_i heq
    have hname : approverName = name := by simpa using heq
    simp [hname]
  · rename_i hne
    have hname : name ≠ approverName := fun h => hne (by simp [h])
    simp [hname]

theorem accept_accepted (hwired : callbacks.Wired observe unlocked)
    (approverName : ByteString) (self : UnlockProtocol) (world : σ)
    (hcollecting : self.state = .collecting) :
    Accepted observe unlocked approverName self world
      (self.accept callbacks approverName world) := by
  simp only [UnlockProtocol.accept]
  split
  · rename_i hreached
    refine ⟨⟨rfl, rfl, rfl, insert_votes _ _⟩, rfl, Or.inl ⟨hreached, rfl, rfl, ?_⟩⟩
    simp only [hwired.unlock, hwired.audit]
  · rename_i hreached
    refine ⟨⟨rfl, rfl, rfl, insert_votes _ _⟩, rfl,
      Or.inr ⟨not_le.mp hreached, hcollecting, rfl, ?_⟩⟩
    simp only [hwired.audit]

theorem reject_rejected (hwired : callbacks.Wired observe unlocked)
    (approverName reason : ByteString) (self : UnlockProtocol) (world : σ) :
    Rejected observe self world (self.reject callbacks approverName reason world) :=
  ⟨⟨rfl, rfl, rfl, rfl, fun _ => Iff.rfl⟩, rfl, rfl, hwired.audit _ _ _⟩

theorem checkAccess_observe (hwired : callbacks.Wired observe unlocked) (now : Int64)
    (tokenId requiredScope : ByteString) (tokenStore : TokenStore) (world : σ) :
    observe (tokenStore.checkAccess callbacks.tokenAudit now tokenId requiredScope world).2 =
      observe world := by
  rcases tokenStore.checkAccess_world callbacks.tokenAudit now tokenId requiredScope world
    with h | ⟨payload, h⟩
  · rw [h]
  · rw [h, hwired.tokenAudit]

/-- A vote is either accepted under all conditions or rejected without a trace in the
protocol. -/
theorem castVote_cases (hwired : callbacks.Wired observe unlocked)
    (scheme : SignatureScheme) (tokenStore : TokenStore) (now : Int64)
    (approverName : ByteString) (signedReq : SignedRequest) (self : UnlockProtocol)
    (world : σ) :
    (∃ record challenge,
      VoteAccepted callbacks scheme tokenStore now approverName signedReq self world
          record challenge ∧
        Accepted observe unlocked approverName self world
          (self.castVote callbacks scheme tokenStore now approverName signedReq world)) ∨
      Rejected observe self world
        (self.castVote callbacks scheme tokenStore now approverName signedReq world) := by
  have htouch : ∀ (w : σ) (outcome : VoteResult × UnlockProtocol × σ),
      observe w = observe world →
      Rejected observe
        { self with votes := self.votes.insertIfNew approverName false } w outcome →
      Rejected observe self world outcome := by
    rintro w outcome hw ⟨hkept, haccepted, hunlocked, hobserved⟩
    refine ⟨⟨hkept.state, hkept.approvers, hkept.threshold, hkept.challenges, ?_⟩,
      haccepted, hunlocked, hobserved.trans hw⟩
    intro name
    exact (hkept.votes name).trans (insertIfNew_votes self.votes approverName name)
  have hcount : ∀ (w : σ) (outcome : VoteResult × UnlockProtocol × σ),
      observe w = observe world →
      Accepted observe unlocked approverName
        { self with votes := self.votes.insertIfNew approverName false } w outcome →
      Accepted observe unlocked approverName self world outcome := by
    rintro w outcome hw ⟨hcounted, haccepted, hsettled⟩
    refine ⟨⟨hcounted.approvers, hcounted.threshold, hcounted.challenges, ?_⟩, haccepted, ?_⟩
    · intro name
      refine (hcounted.votes name).trans ?_
      rw [insertIfNew_votes]
    · rw [← hw]
      exact hsettled
  unfold UnlockProtocol.castVote
  split
  · exact Or.inr (reject_rejected hwired _ _ self world)
  rename_i hidle
  split
  · exact Or.inr (reject_rejected hwired _ _ self world)
  rename_i hgranted
  have hcollecting : self.state = .collecting := by
    cases hstate : self.state <;> simp_all
  split
  · exact Or.inr (reject_rejected hwired _ _ self world)
  rename_i record hregistered
  dsimp only
  split
  · exact Or.inr (htouch world _ rfl (reject_rejected hwired _ _ _ world))
  rename_i hfresh
  have hobserve := checkAccess_observe hwired now record.tokenId "worm_unlock_vote"
    tokenStore world
  split
  · exact Or.inr (htouch _ _ hobserve (reject_rejected hwired _ _ _ _))
  rename_i hscope
  split
  · exact Or.inr (htouch _ _ hobserve (reject_rejected hwired _ _ _ _))
  rename_i challenge hissued
  split
  · rename_i hverified
    refine Or.inl ⟨record, challenge, ⟨hcollecting, hregistered, ?_, ?_, hissued, hverified⟩, ?_⟩
    · intro hvoted
      exact hfresh ((getD_votes _ _).mpr ((insertIfNew_votes _ _ _).mpr hvoted))
    · simpa using hscope
    · have haccept := accept_accepted hwired approverName
        { self with votes := self.votes.insertIfNew approverName false }
        (tokenStore.checkAccess callbacks.tokenAudit now record.tokenId
          "worm_unlock_vote" world).2 hcollecting
      exact hcount _ _ hobserve haccept
  · exact Or.inr (htouch _ _ hobserve (reject_rejected hwired _ _ _ _))

/-- A vote grants an open session and unlocks, or it leaves the state of the protocol
and what is observed of the world. -/
theorem castVote_outcome (hwired : callbacks.Wired observe unlocked)
    (scheme : SignatureScheme) (tokenStore : TokenStore) (now : Int64)
    (approverName : ByteString) (signedReq : SignedRequest) (self : UnlockProtocol)
    (world : σ) :
    let outcome := self.castVote callbacks scheme tokenStore now approverName signedReq world
    (outcome.1.unlocked = true ∧ self.state = .collecting ∧ outcome.2.1.state = .granted ∧
        observe outcome.2.2 = unlocked (observe world)) ∨
      (outcome.1.unlocked = false ∧ outcome.2.1.state = self.state ∧
        observe outcome.2.2 = observe world) := by
  intro outcome
  rcases castVote_cases hwired scheme tokenStore now approverName signedReq self world with
    ⟨_, _, hvote, haccepted⟩ | hrejected
  · rcases haccepted.settled with ⟨-, hgranted, hunlocked, hobserved⟩ |
      ⟨-, hcollecting, hunlocked, hobserved⟩
    · exact Or.inl ⟨hunlocked, hvote.collecting, hgranted, hobserved⟩
    · exact Or.inr ⟨hunlocked, hcollecting.trans hvote.collecting.symm, hobserved⟩
  · exact Or.inr ⟨hrejected.unlocked, hrejected.kept.state, hrejected.observed⟩

end CastVote

theorem Callbacks.ofLockdown_wired {α : Type} (auditAdder : AuditAdder α) :
    (Callbacks.ofLockdown auditAdder).Wired Lockdown.isLocked (fun _ => false) where
  audit := fun _ _ _ => rfl
  tokenAudit := fun _ _ _ => rfl
  unlock := Lockdown.lift_isLocked auditAdder "12eye_protocol_demo_scale"

theorem countVotes_of_counted {approverName : ByteString} {before after : UnlockProtocol}
    (hcounted : Counted approverName before after)
    (hfresh : before.votes[approverName]? ≠ some true) :
    countVotes after.votes = countVotes before.votes + 1 := by
  have hnew : approverName ∉ voters before.votes := fun h => hfresh (mem_voters.mp h)
  have hperm : (voters after.votes).Perm (approverName :: voters before.votes) := by
    rw [List.perm_ext_iff_of_nodup (voters_nodup _)
      (List.nodup_cons.mpr ⟨hnew, voters_nodup _⟩)]
    intro name
    rw [mem_voters, hcounted.votes, List.mem_cons, mem_voters]
  simp only [countVotes]
  rw [hperm.length_eq]
  simp

section Granting

variable {σ : Type} {callbacks : Callbacks σ} {scheme : SignatureScheme}
  {tokenStore : TokenStore} {now : Int64} {approverName : ByteString}
  {signedReq : SignedRequest} {self : UnlockProtocol} {world : σ}

/-- Under its conditions a vote is counted. -/
theorem castVote_eq_accept {record : ApproverRecord} {challenge : ByteString}
    (hvote : VoteAccepted callbacks scheme tokenStore now approverName signedReq self world
      record challenge) :
    self.castVote callbacks scheme tokenStore now approverName signedReq world =
      UnlockProtocol.accept callbacks approverName
        { self with votes := self.votes.insertIfNew approverName false }
        (tokenStore.checkAccess callbacks.tokenAudit now record.tokenId "worm_unlock_vote"
          world).2 := by
  have hfresh : (self.votes.insertIfNew approverName false).getD approverName false ≠ true := by
    rw [Ne, getD_votes, insertIfNew_votes]
    exact hvote.fresh
  simp only [UnlockProtocol.castVote]
  rw [if_neg (by simp [hvote.collecting]), if_neg (by simp [hvote.collecting])]
  simp only [hvote.registered]
  rw [if_neg hfresh, if_neg (by simp [hvote.inScope])]
  simp only [hvote.issued, hvote.verified, if_true]

theorem castVote_accepted {record : ApproverRecord} {challenge : ByteString}
    (hvote : VoteAccepted callbacks scheme tokenStore now approverName signedReq self world
      record challenge) :
    (self.castVote callbacks scheme tokenStore now approverName signedReq
      world).1.accepted = true := by
  rw [castVote_eq_accept hvote, UnlockProtocol.accept]
  dsimp only
  split <;> rfl

/-- `cast_vote` reports a grant exactly for an accepted vote that reaches the
threshold. -/
theorem castVote_unlocked_iff {β : Type} {observe : σ → β} {unlocked : β → β}
    (hwired : callbacks.Wired observe unlocked) :
    (self.castVote callbacks scheme tokenStore now approverName signedReq world).1.unlocked =
        true ↔
      (∃ record challenge, VoteAccepted callbacks scheme tokenStore now approverName
        signedReq self world record challenge) ∧
        self.threshold ≤ countVotes self.votes + 1 := by
  rcases castVote_cases hwired scheme tokenStore now approverName signedReq self world with
    ⟨record, challenge, hvote, haccepted⟩ | hrejected
  · have hcount := countVotes_of_counted haccepted.counted hvote.fresh
    have hthreshold := haccepted.counted.threshold
    rcases haccepted.settled with ⟨hreached, -, hunlocked, -⟩ | ⟨hbelow, -, hunlocked, -⟩
    · rw [hcount, hthreshold] at hreached
      exact ⟨fun _ => ⟨⟨record, challenge, hvote⟩, hreached⟩, fun _ => hunlocked⟩
    · rw [hcount, hthreshold] at hbelow
      constructor
      · intro h
        exact absurd h (by simp [hunlocked])
      · rintro ⟨-, hreached⟩
        exact absurd hreached (not_le.mpr hbelow)
  · constructor
    · intro h
      exact absurd h (by simp [hrejected.unlocked])
    · rintro ⟨⟨record, challenge, hvote⟩, -⟩
      exact absurd (hrejected.accepted.symm.trans (castVote_accepted hvote)) (by decide)

end Granting

end Astartis.Unlock
