import Astartis.AccessToken
import Astartis.TransitionSystem

/-!
Histories of tokens.  The store holds exactly the tokens that the grants of a run have issued,
and of each of them whether a revocation has succeeded.
-/

namespace Astartis.Access

open Audit
open TransitionSystem

variable {σ : Type} (auditAdder : AuditAdder σ)

inductive Op
  | grant (draw : Option (Vector UInt8 16)) (identity scope : ByteString) (ttlMs : Int64)
  | revoke (tokenId reason : ByteString)
  | checkAccess (tokenId requiredScope : ByteString)

/-- A call, and the time at which it is made. -/
structure Call where
  now : Int64
  op : Op

/-- A store and the state in which its audit log is. -/
structure Audited (σ : Type) where
  store : TokenStore := {}
  world : σ

abbrev Run (σ : Type) := List (Transition (Audited σ) Call)

def Call.perform (call : Call) (s : Audited σ) : Audited σ :=
  match call.op with
  | .grant draw identity scope ttlMs =>
      match s.store.grant auditAdder draw call.now identity scope ttlMs s.world with
      | .error _ => s
      | .ok (_, store, world) => ⟨store, world⟩
  | .revoke tokenId reason =>
      let (_, store, world) := s.store.revoke auditAdder tokenId reason s.world
      ⟨store, world⟩
  | .checkAccess tokenId requiredScope =>
      { s with
        world := (s.store.checkAccess auditAdder call.now tokenId requiredScope s.world).2 }

/-- Runs of a new store. -/
def tokenSystem : System (Audited σ) Call where
  Init := fun s => s.store = {}
  Step := fun s call s' => s' = call.perform auditAdder s

/-! What the calls return. -/

def issued? (t : Transition (Audited σ) Call) : Option AccessToken :=
  match t.label.op with
  | .grant draw identity scope ttlMs =>
      match t.before.store.grant auditAdder draw t.label.now identity scope ttlMs
        t.before.world with
      | .error _ => none
      | .ok (tok, _) => some tok
  | _ => none

def revokes (tokenId : ByteString) (t : Transition (Audited σ) Call) : Bool :=
  match t.label.op with
  | .revoke tokenId' reason =>
      tokenId' = tokenId && (t.before.store.revoke auditAdder tokenId' reason t.before.world).1
  | _ => false

def answer? (tokenId requiredScope : ByteString) (t : Transition (Audited σ) Call) :
    Option AccessResult :=
  match t.label.op with
  | .checkAccess tokenId' requiredScope' =>
      if tokenId' = tokenId ∧ requiredScope' = requiredScope then
        some (t.before.store.checkAccess auditAdder t.label.now tokenId' requiredScope'
          t.before.world).1
      else none
  | _ => none

/-- The generated ids are distinct. -/
def DistinctIds (steps : Run σ) : Prop :=
  ((steps.filterMap (issued? auditAdder)).map (·.tokenId)).Nodup

def ClockNonDecreasing (steps : Run σ) : Prop :=
  (steps.map (·.label.now)).Pairwise (· ≤ ·)

namespace TokenStore

variable {auditAdder} {self : TokenStore} {world : σ} {now : Int64}

theorem checkAccess_granted_iff {tokenId requiredScope : ByteString} :
    (self.checkAccess auditAdder now tokenId requiredScope world).1.granted = true ↔
      ∃ stored, self.tokens[tokenId]? = some stored ∧ now < stored.token.expiresAtMs ∧
        stored.revoked = false ∧ stored.token.scope = requiredScope := by
  simp only [checkAccess]
  split
  · rename_i hnone
    simp [hnone]
  · rename_i stored hstored
    simp only [hstored, Option.some.injEq, exists_eq_left']
    split
    · rename_i hexpired
      simp [Int64.not_lt.mpr hexpired]
    · rename_i hlive
      split
      · rename_i hrevoked
        simp [hrevoked]
      · rename_i hrevoked
        split
        · rename_i hscope
          simp [hscope]
        · rename_i hscope
          exact iff_of_true rfl ⟨Int64.not_le.mp hlive, by simpa using hrevoked,
            by simpa using hscope⟩

theorem reason_of_final {granted : Bool} {reason : ByteString}
    (hfinal : (⟨granted, reason⟩ : AccessResult) = ⟨false, "expired"⟩ ∨
      (⟨granted, reason⟩ : AccessResult) = ⟨false, "revoked"⟩) :
    reason = ("expired" : ByteString) ∨ reason = ("revoked" : ByteString) :=
  hfinal.imp (congrArg AccessResult.reason) (congrArg AccessResult.reason)

/-- What stands behind an answer that is final. -/
theorem checkAccess_final {tokenId requiredScope : ByteString}
    (hfinal : (self.checkAccess auditAdder now tokenId requiredScope world).1 = ⟨false, "expired"⟩ ∨
      (self.checkAccess auditAdder now tokenId requiredScope world).1 = ⟨false, "revoked"⟩) :
    ∃ stored, self.tokens[tokenId]? = some stored ∧
      (stored.token.expiresAtMs ≤ now ∨ stored.revoked = true) := by
  simp only [checkAccess] at hfinal
  split at hfinal
  · exact absurd (reason_of_final hfinal) (by decide +kernel)
  · rename_i stored hstored
    refine ⟨stored, hstored, ?_⟩
    split at hfinal
    · rename_i hexpired
      exact .inl hexpired
    · split at hfinal
      · rename_i hrevoked
        exact .inr hrevoked
      · split at hfinal
        · exact absurd (reason_of_final hfinal) (by decide +kernel)
        · exact absurd (reason_of_final hfinal) (by decide +kernel)

/-- A denial is audited with the answer it gives, a grant of access is not. -/
theorem checkAccess_audit {tokenId requiredScope : ByteString} :
    ((self.checkAccess auditAdder now tokenId requiredScope world).1.granted = true →
        (self.checkAccess auditAdder now tokenId requiredScope world).2 = world) ∧
      ((self.checkAccess auditAdder now tokenId requiredScope world).1.granted = false →
        ∃ details, (self.checkAccess auditAdder now tokenId requiredScope world).2 =
          (auditAdder "token_denied" (("token_id=" : ByteString) ++ tokenId ++ details ++
            (" reason=" : ByteString) ++
            (self.checkAccess auditAdder now tokenId requiredScope world).1.reason) world).2) := by
  simp only [checkAccess]
  split
  · refine ⟨by simp, fun _ => ⟨(" required_scope=" : ByteString) ++ requiredScope, ?_⟩⟩
    have hreason : (" reason=not_found" : ByteString) =
        (" reason=" : ByteString) ++ ("not_found" : ByteString) := by decide +kernel
    simp only [hreason, List.append_assoc]
  · rename_i stored _
    -- the other denials say who holds the token and for what
    have hdetails : ∀ scopeName lastPart reason : ByteString,
        lastPart = (" reason=" : ByteString) ++ reason →
        ∃ details, (auditAdder "token_denied" (("token_id=" : ByteString) ++ tokenId ++
            (" identity=" : ByteString) ++ stored.token.identityName ++ scopeName ++
            stored.token.scope ++ (" required_scope=" : ByteString) ++ requiredScope ++
            lastPart) world).2 =
          (auditAdder "token_denied" (("token_id=" : ByteString) ++ tokenId ++ details ++
            (" reason=" : ByteString) ++ reason) world).2 := by
      rintro scopeName lastPart reason rfl
      refine ⟨(" identity=" : ByteString) ++ stored.token.identityName ++ scopeName ++
        stored.token.scope ++ (" required_scope=" : ByteString) ++ requiredScope, ?_⟩
      simp only [List.append_assoc]
    split
    · exact ⟨by simp, fun _ => hdetails _ _ ("expired" : ByteString) (by decide +kernel)⟩
    · split
      · exact ⟨by simp, fun _ => hdetails _ _ ("revoked" : ByteString) (by decide +kernel)⟩
      · split
        · exact ⟨by simp, fun _ =>
            hdetails _ _ ("scope_mismatch" : ByteString) (by decide +kernel)⟩
        · exact ⟨fun _ => rfl, by simp⟩

theorem grant_ok {draw : Option (Vector UInt8 16)} {identity scope : ByteString}
    {ttlMs : Int64} {tok : AccessToken} {after : TokenStore} {world' : σ}
    (hgrant : self.grant auditAdder draw now identity scope ttlMs world =
      .ok (tok, after, world')) :
    tok.scope = scope ∧ tok.grantedAtMs = now ∧ tok.expiresAtMs = now + ttlMs ∧
      ¬ ttlMs ≤ 0 ∧ after.tokens = self.tokens.insert tok.tokenId ⟨tok, false⟩ := by
  simp only [grant] at hgrant
  split at hgrant
  · exact absurd hgrant (by simp)
  split at hgrant
  · exact absurd hgrant (by simp)
  split at hgrant
  · exact absurd hgrant (by simp)
  rename_i hpositive
  split at hgrant
  · exact absurd hgrant (by simp)
  · simp only [Except.ok.injEq, Prod.mk.injEq] at hgrant
    obtain ⟨rfl, rfl, -⟩ := hgrant
    exact ⟨rfl, rfl, rfl, hpositive, rfl⟩

/-- What `revoke` burns, if it answers true. -/
theorem revoke_eq {tokenId reason : ByteString} :
    ((self.revoke auditAdder tokenId reason world).1 = true ↔
        ∃ stored, self.tokens[tokenId]? = some stored ∧ stored.revoked = false) ∧
      ∀ id, (self.revoke auditAdder tokenId reason world).2.1.tokens[id]? =
        (self.tokens[id]?).map fun stored =>
          if tokenId = id then { stored with revoked := true } else stored := by
  simp only [revoke]
  cases hfound : self.tokens[tokenId]? with
  | none =>
      refine ⟨by simp, fun id => ?_⟩
      by_cases hid : tokenId = id
      · subst hid
        simp [hfound]
      · simp [hid]
  | some stored =>
      cases hrevoked : stored.revoked with
      | true =>
          refine ⟨by simp [hrevoked], fun id => ?_⟩
          by_cases hid : tokenId = id
          · subst hid
            have hsame : { stored with revoked := true } = stored := by rw [← hrevoked]
            simp [hfound, hsame, hrevoked]
          · simp [hid, hrevoked]
      | false =>
          refine ⟨by simp [hrevoked], fun id => ?_⟩
          simp only [hrevoked, Bool.false_eq_true, if_false, Std.TreeMap.getElem?_insert]
          by_cases hid : tokenId = id
          · subst hid
            simp [hfound]
          · have hcompare : compare tokenId id ≠ .eq := fun h =>
              hid (Std.LawfulEqCmp.eq_of_compare h)
            simp [hid, hcompare]

end TokenStore

section Steps

/-- The tokens of the store are those issued, the revoked ones those burned. -/
structure Ledger (steps : Run σ) (s : Audited σ) : Prop where
  issued : ∀ id (stored : StoredToken), s.store.tokens[id]? = some stored →
    stored.token.tokenId = id ∧ ∃ t ∈ steps, issued? auditAdder t = some stored.token
  kept : ∀ t ∈ steps, ∀ tok, issued? auditAdder t = some tok →
    ∃ stored, s.store.tokens[tok.tokenId]? = some stored
  revoked : ∀ id (stored : StoredToken), s.store.tokens[id]? = some stored →
    (stored.revoked = true ↔ ∃ t ∈ steps, revokes auditAdder id t = true)
  burned : ∀ t ∈ steps, ∀ id, revokes auditAdder id t = true →
    ∃ stored, s.store.tokens[id]? = some stored

variable {auditAdder} {steps : Run σ} {s : Audited σ} {t : Transition (Audited σ) Call}

/-- A step that issues nothing, burns what the predicate says, and keeps the tokens. -/
theorem Ledger.burn (hledger : Ledger auditAdder steps s) {s' : Audited σ}
    (burns : ByteString → Bool)
    (hissued : issued? auditAdder t = none) (hrevokes : ∀ id, revokes auditAdder id t = burns id)
    (hfound : ∀ id, burns id = true → ∃ stored, s.store.tokens[id]? = some stored)
    (htokens : ∀ id : ByteString, s'.store.tokens[id]? = (s.store.tokens[id]?).map fun stored =>
      { stored with revoked := stored.revoked || burns id }) :
    Ledger auditAdder (steps ++ [t]) s' := by
  have hsome : ∀ (id : ByteString) stored, s.store.tokens[id]? = some stored →
      ∃ stored', s'.store.tokens[id]? = some stored' := by
    intro id stored hstored
    exact ⟨_, by rw [htokens, hstored]; rfl⟩
  refine ⟨fun id stored' hstored' => ?_, fun u hu tok htok => ?_, fun id stored' hstored' => ?_,
    fun u hu id hburns => ?_⟩
  · rw [htokens] at hstored'
    obtain ⟨stored, hstored, rfl⟩ := Option.map_eq_some_iff.mp hstored'
    obtain ⟨hid, u, hu, htok⟩ := hledger.issued id stored hstored
    exact ⟨hid, u, by simp [hu], htok⟩
  · rcases List.mem_append.mp hu with hu | hu
    · obtain ⟨stored, hstored⟩ := hledger.kept u hu tok htok
      exact hsome _ _ hstored
    · obtain rfl := List.mem_singleton.mp hu
      exact absurd (hissued.symm.trans htok) (by simp)
  · rw [htokens] at hstored'
    obtain ⟨stored, hstored, rfl⟩ := Option.map_eq_some_iff.mp hstored'
    simp only [Bool.or_eq_true, hledger.revoked id stored hstored, List.mem_append,
      List.mem_singleton, or_and_right, exists_or, exists_eq_left, hrevokes]
  · rcases List.mem_append.mp hu with hu | hu
    · obtain ⟨stored, hstored⟩ := hledger.burned u hu id hburns
      exact hsome _ _ hstored
    · obtain rfl := List.mem_singleton.mp hu
      obtain ⟨stored, hstored⟩ := hfound id ((hrevokes id).symm.trans hburns)
      exact hsome _ _ hstored

/-- A step that issues a token with a new id. -/
theorem Ledger.issue (hledger : Ledger auditAdder steps s) {s' : Audited σ} {tok : AccessToken}
    (hissued : issued? auditAdder t = some tok) (hrevokes : ∀ id, revokes auditAdder id t = false)
    (hfresh : ∀ u ∈ steps, ∀ other, issued? auditAdder u = some other →
      other.tokenId ≠ tok.tokenId)
    (htokens : ∀ id : ByteString, s'.store.tokens[id]? =
      if tok.tokenId = id then some ⟨tok, false⟩ else s.store.tokens[id]?) :
    Ledger auditAdder (steps ++ [t]) s' := by
  have hnew : ∀ id, tok.tokenId = id → ∀ u ∈ steps, revokes auditAdder id u = false := by
    rintro id rfl u hu
    rw [Bool.eq_false_iff]
    intro hburns
    obtain ⟨stored, hstored⟩ := hledger.burned u hu _ hburns
    obtain ⟨hid, v, hv, hother⟩ := hledger.issued _ stored hstored
    exact hfresh v hv _ hother hid
  have hsome : ∀ id : ByteString, (∃ stored, s.store.tokens[id]? = some stored) →
      ∃ stored', s'.store.tokens[id]? = some stored' := by
    rintro id ⟨stored, hstored⟩
    rw [htokens]
    split
    · exact ⟨_, rfl⟩
    · exact ⟨_, hstored⟩
  refine ⟨fun id stored' hstored' => ?_, fun u hu other hother => ?_,
    fun id stored' hstored' => ?_, fun u hu id hburns => ?_⟩
  · rw [htokens] at hstored'
    split at hstored'
    · rename_i hid
      obtain rfl := Option.some.inj hstored'
      exact ⟨hid, t, by simp, hissued⟩
    · obtain ⟨hid, u, hu, htok⟩ := hledger.issued id stored' hstored'
      exact ⟨hid, u, by simp [hu], htok⟩
  · rcases List.mem_append.mp hu with hu | hu
    · exact hsome _ (hledger.kept u hu other hother)
    · obtain rfl := List.mem_singleton.mp hu
      obtain rfl := Option.some.inj (hissued.symm.trans hother)
      exact ⟨_, by rw [htokens, if_pos rfl]⟩
  · have hlast : (∃ u ∈ steps ++ [t], revokes auditAdder id u = true) ↔
        ∃ u ∈ steps, revokes auditAdder id u = true := by
      simp only [List.mem_append, List.mem_singleton, or_and_right, exists_or, exists_eq_left,
        hrevokes, Bool.false_eq_true, or_false]
    rw [hlast]
    rw [htokens] at hstored'
    split at hstored'
    · rename_i hid
      obtain rfl := Option.some.inj hstored'
      refine iff_of_false (by simp) ?_
      rintro ⟨u, hu, hburns⟩
      exact absurd hburns (by rw [hnew id hid u hu]; simp)
    · exact hledger.revoked id stored' hstored'
  · rcases List.mem_append.mp hu with hu | hu
    · exact hsome _ (hledger.burned u hu id hburns)
    · obtain rfl := List.mem_singleton.mp hu
      exact absurd hburns (by rw [hrevokes]; simp)

theorem Ledger.step (hledger : Ledger auditAdder steps s) (call : Call)
    (hfresh : ∀ tok, issued? auditAdder ⟨s, call, call.perform auditAdder s⟩ = some tok →
      ∀ u ∈ steps, ∀ other, issued? auditAdder u = some other → other.tokenId ≠ tok.tokenId) :
    Ledger auditAdder (steps ++ [⟨s, call, call.perform auditAdder s⟩])
      (call.perform auditAdder s) := by
  obtain ⟨now, op⟩ := call
  cases op with
  | checkAccess tokenId requiredScope =>
      refine hledger.burn (fun _ => false) rfl (fun _ => rfl) (by simp) fun id => ?_
      simp [Call.perform]
  | revoke tokenId reason =>
      have hrevoke := @TokenStore.revoke_eq _ auditAdder s.store s.world tokenId reason
      refine hledger.burn (fun id => tokenId = id &&
        (s.store.revoke auditAdder tokenId reason s.world).1) rfl (fun _ => rfl)
        (fun id hburns => ?_) fun id => ?_
      · rw [Bool.and_eq_true, decide_eq_true_eq] at hburns
        obtain ⟨stored, hstored, -⟩ := hrevoke.1.mp hburns.2
        exact ⟨stored, hburns.1 ▸ hstored⟩
      · simp only [Call.perform, hrevoke.2 id]
        cases hfound : s.store.tokens[id]? with
        | none => rfl
        | some stored =>
            by_cases hid : tokenId = id
            · subst hid
              -- who is not burned by this call has been burned before
              have hresult : (stored.revoked ||
                  (s.store.revoke auditAdder tokenId reason s.world).1) = true := by
                cases hrevoked : stored.revoked with
                | true => rfl
                | false => exact hrevoke.1.mpr ⟨stored, hfound, hrevoked⟩
              simp [hresult]
            · simp [hid]
  | grant draw identity scope ttlMs =>
      cases hgrant : s.store.grant auditAdder draw now identity scope ttlMs s.world with
      | error msg =>
          refine hledger.burn (fun _ => false) ?_ (fun _ => rfl) (by simp) fun id => ?_
          · simp only [issued?, hgrant]
          · simp [Call.perform, hgrant]
      | ok result =>
          obtain ⟨tok, store, world⟩ := result
          have hissued : issued? auditAdder ⟨s, ⟨now, .grant draw identity scope ttlMs⟩,
              Call.perform auditAdder ⟨now, .grant draw identity scope ttlMs⟩ s⟩ = some tok := by
            simp only [issued?, hgrant]
          refine hledger.issue hissued (fun _ => rfl) (hfresh tok hissued) fun id => ?_
          simp only [Call.perform, hgrant, (TokenStore.grant_ok hgrant).2.2.2.2,
            Std.TreeMap.getElem?_insert]
          by_cases hid : tok.tokenId = id
          · simp [hid]
          · have hcompare : compare tok.tokenId id ≠ .eq := fun h =>
              hid (Std.LawfulEqCmp.eq_of_compare h)
            simp [hid, hcompare]

theorem DistinctIds.concat (hdistinct : DistinctIds auditAdder (steps ++ [t])) :
    DistinctIds auditAdder steps ∧ ∀ tok, issued? auditAdder t = some tok →
      ∀ u ∈ steps, ∀ other, issued? auditAdder u = some other → other.tokenId ≠ tok.tokenId := by
  rw [DistinctIds, List.filterMap_append, List.map_append, List.nodup_append] at hdistinct
  refine ⟨hdistinct.1, fun tok htok u hu other hother => ?_⟩
  refine hdistinct.2.2 _ (List.mem_map_of_mem (List.mem_filterMap.mpr ⟨u, hu, hother⟩)) _ ?_
  exact List.mem_map_of_mem (List.mem_filterMap.mpr ⟨t, by simp, htok⟩)

/-- An id belongs to one token. -/
theorem DistinctIds.unique (hdistinct : DistinctIds auditAdder steps)
    {u v : Transition (Audited σ) Call} (hu : u ∈ steps) (hv : v ∈ steps) {tok tok' : AccessToken}
    (htok : issued? auditAdder u = some tok) (htok' : issued? auditAdder v = some tok')
    (hid : tok.tokenId = tok'.tokenId) : tok = tok' :=
  List.inj_on_of_nodup_map hdistinct (List.mem_filterMap.mpr ⟨u, hu, htok⟩)
    (List.mem_filterMap.mpr ⟨v, hv, htok'⟩) hid

theorem DistinctIds.before {during : Run σ} (hdistinct : DistinctIds auditAdder (steps ++ during)) :
    DistinctIds auditAdder steps := by
  rw [DistinctIds, List.filterMap_append, List.map_append, List.nodup_append] at hdistinct
  exact hdistinct.1

theorem ledger_of_trace (htrace : Trace (tokenSystem auditAdder) steps s)
    (hdistinct : DistinctIds auditAdder steps) : Ledger auditAdder steps s := by
  refine htrace.history_invariant
    (I := fun steps s => DistinctIds auditAdder steps → Ledger auditAdder steps s) ?_ ?_ hdistinct
  · intro s hinit _
    have hempty : ∀ id : ByteString, s.store.tokens[id]? = none := by
      intro id
      rw [show s.store = {} from hinit]
      exact Std.TreeMap.getElem?_emptyc
    exact ⟨by simp [hempty], by simp, by simp [hempty], by simp⟩
  · rintro steps s call s' ih rfl hdistinct
    exact (ih hdistinct.concat.1).step call hdistinct.concat.2

theorem answer?_eq_some {tokenId requiredScope : ByteString} {result : AccessResult}
    (hanswer : answer? auditAdder tokenId requiredScope t = some result) :
    t.label.op = .checkAccess tokenId requiredScope ∧
      (t.before.store.checkAccess auditAdder t.label.now tokenId requiredScope
        t.before.world).1 = result := by
  simp only [answer?] at hanswer
  split at hanswer
  · rename_i hop
    split at hanswer
    · rename_i hsame
      obtain ⟨rfl, rfl⟩ := hsame
      exact ⟨hop, Option.some.inj hanswer⟩
    · exact absurd hanswer (by simp)
  · exact absurd hanswer (by simp)

theorem issued?_eq_some {tok : AccessToken} (hissued : issued? auditAdder t = some tok) :
    ∃ draw identity ttlMs, t.label.op = .grant draw identity tok.scope ttlMs ∧
      0 < ttlMs ∧ tok.expiresAtMs = t.label.now + ttlMs := by
  simp only [issued?] at hissued
  split at hissued
  · rename_i draw identity scope ttlMs hop
    split at hissued
    · exact absurd hissued (by simp)
    · rename_i hgrant
      obtain rfl := Option.some.inj hissued
      obtain ⟨rfl, -, hexpires, hpositive, -⟩ := TokenStore.grant_ok hgrant
      exact ⟨draw, identity, ttlMs, hop, Int64.not_le.mp hpositive, hexpires⟩
  · exact absurd hissued (by simp)

/-- An end of life beyond the range of the clock has wrapped around and is past. -/
theorem toInt_lt_of_lt_add {now grantedAt ttlMs : Int64} (hpositive : 0 < ttlMs)
    (hlt : now < grantedAt + ttlMs) : now.toInt < grantedAt.toInt + ttlMs.toInt := by
  rw [Int64.lt_iff_toInt_lt, Int64.toInt_add] at hlt
  rw [Int64.lt_iff_toInt_lt, Int64.toInt_zero] at hpositive
  have hnow := now.toInt_lt
  have hgranted := grantedAt.le_toInt
  rcases lt_or_ge (grantedAt.toInt + ttlMs.toInt) (2 ^ 63) with hinside | hbeyond
  · rwa [Int.bmod_eq_of_le (by omega) (by omega)] at hlt
  · omega

/-- A token is unrevoked as long as no revocation has succeeded. -/
theorem Ledger.not_revoked_iff (hledger : Ledger auditAdder steps s) {id : ByteString}
    {stored : StoredToken} (hstored : s.store.tokens[id]? = some stored) :
    stored.revoked = false ↔ ∀ r ∈ steps, revokes auditAdder id r = false := by
  rw [← Bool.not_eq_true, hledger.revoked id stored hstored]
  simp only [not_exists, not_and, Bool.not_eq_true]

theorem Ledger.granted (hledger : Ledger auditAdder steps t.before)
    {tokenId requiredScope : ByteString} {result : AccessResult}
    (hanswer : answer? auditAdder tokenId requiredScope t = some result)
    (hgranted : result.granted = true) :
    ∃ g ∈ steps, ∃ draw identity ttlMs tok,
      g.label.op = .grant draw identity requiredScope ttlMs ∧
      issued? auditAdder g = some tok ∧ tok.tokenId = tokenId ∧
      t.label.now.toInt < g.label.now.toInt + ttlMs.toInt ∧
      ∀ r ∈ steps, revokes auditAdder tokenId r = false := by
  obtain ⟨-, rfl⟩ := answer?_eq_some hanswer
  obtain ⟨stored, hstored, hlive, hrevoked, rfl⟩ := TokenStore.checkAccess_granted_iff.mp hgranted
  obtain ⟨hid, g, hg, hissued⟩ := hledger.issued _ stored hstored
  obtain ⟨draw, identity, ttlMs, hop, hpositive, hexpires⟩ := issued?_eq_some hissued
  rw [hexpires] at hlive
  exact ⟨g, hg, draw, identity, ttlMs, _, hop, hissued, hid,
    toInt_lt_of_lt_add hpositive hlive, (hledger.not_revoked_iff hstored).mp hrevoked⟩

/-- Expired and revoked tokens stay so. -/
theorem Ledger.final {earlier : Run σ} {d : Transition (Audited σ) Call}
    (hearlier : Ledger auditAdder earlier d.before) (hledger : Ledger auditAdder steps t.before)
    (hsubset : ∀ u ∈ earlier, u ∈ steps) (hdistinct : DistinctIds auditAdder steps)
    (hclock : d.label.now ≤ t.label.now) {tokenId scope scope' : ByteString}
    {result : AccessResult}
    (hfinal : answer? auditAdder tokenId scope d = some ⟨false, "expired"⟩ ∨
      answer? auditAdder tokenId scope d = some ⟨false, "revoked"⟩)
    (hanswer : answer? auditAdder tokenId scope' t = some result) : result.granted = false := by
  obtain ⟨stored, hstored, hover⟩ := TokenStore.checkAccess_final
    (hfinal.imp (fun h => (answer?_eq_some h).2) fun h => (answer?_eq_some h).2)
  obtain ⟨-, g, hg, hissued⟩ := hearlier.issued _ stored hstored
  rw [Bool.eq_false_iff]
  intro hgranted
  obtain ⟨-, rfl⟩ := answer?_eq_some hanswer
  obtain ⟨stored', hstored', hlive, hrevoked, -⟩ :=
    TokenStore.checkAccess_granted_iff.mp hgranted
  obtain ⟨hid', g', hg', hissued'⟩ := hledger.issued _ stored' hstored'
  have hid := (hearlier.issued _ stored hstored).1
  have hsame : stored.token = stored'.token :=
    hdistinct.unique (hsubset g hg) hg' hissued hissued' (hid.trans hid'.symm)
  rcases hover with hexpired | hburned
  · rw [hsame] at hexpired
    rw [Int64.lt_iff_toInt_lt] at hlive
    rw [Int64.le_iff_toInt_le] at hexpired hclock
    omega
  · obtain ⟨r, hr, hburns⟩ := (hearlier.revoked _ stored hstored).mp hburned
    have hnone := (hledger.not_revoked_iff hstored').mp hrevoked r (hsubset r hr)
    exact absurd (hnone.symm.trans hburns) (by simp)

/-- `revoke` succeeds once for a token that has been issued. -/
theorem Ledger.revokes_iff (hledger : Ledger auditAdder steps t.before)
    {tokenId reason : ByteString} (hop : t.label.op = .revoke tokenId reason) :
    revokes auditAdder tokenId t = true ↔
      (∃ g ∈ steps, ∃ tok, issued? auditAdder g = some tok ∧ tok.tokenId = tokenId) ∧
        ∀ r ∈ steps, revokes auditAdder tokenId r = false := by
  have hrevoke : revokes auditAdder tokenId t = true ↔
      ∃ stored, t.before.store.tokens[tokenId]? = some stored ∧ stored.revoked = false := by
    simp only [revokes, hop, decide_true, Bool.true_and]
    exact TokenStore.revoke_eq.1
  rw [hrevoke]
  constructor
  · rintro ⟨stored, hstored, hrevoked⟩
    obtain ⟨hid, g, hg, hissued⟩ := hledger.issued _ stored hstored
    exact ⟨⟨g, hg, _, hissued, hid⟩, (hledger.not_revoked_iff hstored).mp hrevoked⟩
  · rintro ⟨⟨g, hg, tok, hissued, rfl⟩, hnone⟩
    obtain ⟨stored, hstored⟩ := hledger.kept g hg tok hissued
    exact ⟨stored, hstored, (hledger.not_revoked_iff hstored).mpr hnone⟩

end Steps

/-- What holds of the tokens in a run. -/
structure TokensGuarded (steps : Run σ) : Prop where
  granted : ∀ before t after, steps = before ++ t :: after →
    ∀ tokenId requiredScope result, answer? auditAdder tokenId requiredScope t = some result →
      result.granted = true →
      ∃ g ∈ before, ∃ draw identity ttlMs tok,
        g.label.op = .grant draw identity requiredScope ttlMs ∧
        issued? auditAdder g = some tok ∧ tok.tokenId = tokenId ∧
        t.label.now.toInt < g.label.now.toInt + ttlMs.toInt ∧
        ∀ r ∈ before, revokes auditAdder tokenId r = false
  final : ∀ before t after, steps = before ++ t :: after → ∀ d ∈ before,
    ∀ tokenId scope scope' result,
      (answer? auditAdder tokenId scope d = some ⟨false, "expired"⟩ ∨
        answer? auditAdder tokenId scope d = some ⟨false, "revoked"⟩) →
      answer? auditAdder tokenId scope' t = some result → result.granted = false
  denied : ∀ t ∈ steps, ∀ tokenId requiredScope result,
    answer? auditAdder tokenId requiredScope t = some result →
      t.after.store = t.before.store ∧
      (result.granted = true → t.after.world = t.before.world) ∧
      (result.granted = false → ∃ details, t.after.world =
        (auditAdder "token_denied" (("token_id=" : ByteString) ++ tokenId ++ details ++
          (" reason=" : ByteString) ++ result.reason) t.before.world).2)
  revoked : ∀ before t after, steps = before ++ t :: after →
    ∀ tokenId reason, t.label.op = .revoke tokenId reason →
      (revokes auditAdder tokenId t = true ↔
        (∃ g ∈ before, ∃ tok, issued? auditAdder g = some tok ∧ tok.tokenId = tokenId) ∧
          ∀ r ∈ before, revokes auditAdder tokenId r = false)

theorem trace_tokensGuarded {steps : Run σ} {s : Audited σ}
    (htrace : Trace (tokenSystem auditAdder) steps s)
    (hdistinct : DistinctIds auditAdder steps) (hclock : ClockNonDecreasing steps) :
    TokensGuarded auditAdder steps := by
  have hledger : ∀ before t after, steps = before ++ t :: after →
      Ledger auditAdder before t.before := by
    rintro before t after rfl
    exact ledger_of_trace htrace.split.1 hdistinct.before
  refine ⟨?_, ?_, ?_, ?_⟩
  · intro before t after hsplit tokenId requiredScope result hanswer hgranted
    exact (hledger before t after hsplit).granted hanswer hgranted
  · intro before t after hsplit d hd tokenId scope scope' result hfinal hanswer
    obtain ⟨earlier, later, rfl⟩ := List.append_of_mem hd
    have hearlier := hledger earlier d (later ++ t :: after) (by simp [hsplit])
    refine hearlier.final (hledger _ t after hsplit) (by simp +contextual) ?_ ?_ hfinal hanswer
    · subst hsplit
      exact hdistinct.before
    · subst hsplit
      rw [ClockNonDecreasing, List.pairwise_map, List.pairwise_append] at hclock
      exact hclock.2.2 d (by simp) t (by simp)
  · intro t ht tokenId requiredScope result hanswer
    have hstep : t.after = t.label.perform auditAdder t.before := htrace.step_of_mem ht
    obtain ⟨hop, rfl⟩ := answer?_eq_some hanswer
    rw [hstep]
    simp only [Call.perform, hop, true_and]
    exact TokenStore.checkAccess_audit
  · intro before t after hsplit tokenId reason hop
    exact (hledger before t after hsplit).revokes_iff hop

def sampleId : ByteString :=
  TokenStore.generateTokenId (Vector.replicate 16 0xab)

/-- A token is used, revoked, and presented again. -/
def sampleCalls : List Call :=
  [⟨1000, .grant (some (Vector.replicate 16 0xab)) "alice" "read:config" 30000⟩,
    ⟨2000, .checkAccess sampleId "read:config"⟩, ⟨3000, .revoke sampleId "left"⟩,
    ⟨4000, .checkAccess sampleId "read:config"⟩]

theorem sampleCalls_tokensGuarded :
    TokensGuarded noteEntry
      (execute (fun s call => call.perform noteEntry s) ⟨{}, []⟩ sampleCalls) :=
  trace_tokensGuarded noteEntry (trace_execute_of _ _ rfl fun _ _ _ => rfl)
    (by rw [DistinctIds]; decide +kernel) (by rw [ClockNonDecreasing]; decide +kernel)

end Astartis.Access
