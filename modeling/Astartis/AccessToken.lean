import Std.Data.TreeMap
import Astartis.AuditChain

namespace Astartis.Access

open Audit

structure AccessToken where
  tokenId : ByteString
  identityName : ByteString
  scope : ByteString
  grantedAtMs : Int64
  expiresAtMs : Int64

structure AccessResult where
  granted : Bool
  reason : ByteString

structure StoredToken where
  token : AccessToken
  revoked : Bool

structure TokenStore where
  tokens : Std.TreeMap ByteString StoredToken := {}
  totalGranted : UInt64 := 0

def defaultTtlMs : Int64 := 30000

namespace TokenStore

variable {σ : Type} (auditAdder : AuditAdder σ)

def generateTokenId (draw : Vector UInt8 16) : ByteString :=
  ByteString.hexEncode draw.toList

/-- `grant`, with the message of the exception it throws.  No draw means that the
random generator failed. -/
def grant (draw : Option (Vector UInt8 16)) (now : Int64) (identity scope : ByteString)
    (ttlMs : Int64) (self : TokenStore) (world : σ) :
    Except ByteString (AccessToken × TokenStore × σ) :=
  if identity = [] then .error "identity must not be empty"
  else if scope = [] then .error "scope must not be empty"
  else if ttlMs ≤ 0 then .error "ttl_ms must be positive"
  else
    match draw with
    | none => .error "RAND_bytes failed generating token ID"
    | some draw =>
        let tok : AccessToken :=
          { tokenId := generateTokenId draw
            identityName := identity
            scope := scope
            grantedAtMs := now
            expiresAtMs := now + ttlMs }
        let self : TokenStore :=
          { tokens := self.tokens.insert tok.tokenId ⟨tok, false⟩
            totalGranted := self.totalGranted + 1 }
        let payload := ("token_id=" : ByteString) ++ tok.tokenId ++
          (" identity=" : ByteString) ++ identity ++ (" scope=" : ByteString) ++ scope ++
          (" ttl_ms=" : ByteString) ++ ByteString.decimal ttlMs.toInt
        .ok (tok, self, (auditAdder "token_granted" payload world).2)

def revoke (tokenId reason : ByteString) (self : TokenStore) (world : σ) :
    Bool × TokenStore × σ :=
  match self.tokens[tokenId]? with
  | none => (false, self, world)
  | some stored =>
      if stored.revoked then (false, self, world)
      else
        let self := { self with
          tokens := self.tokens.insert tokenId { stored with revoked := true } }
        let payload := ("token_id=" : ByteString) ++ tokenId ++
          (" identity=" : ByteString) ++ stored.token.identityName ++
          (" scope=" : ByteString) ++ stored.token.scope ++
          (" reason=\"" : ByteString) ++ reason ++ ("\"" : ByteString)
        (true, self, (auditAdder "token_revoked" payload world).2)

def checkAccess (now : Int64) (tokenId requiredScope : ByteString) (self : TokenStore)
    (world : σ) : AccessResult × σ :=
  match self.tokens[tokenId]? with
  | none =>
      let payload := ("token_id=" : ByteString) ++ tokenId ++
        (" required_scope=" : ByteString) ++ requiredScope ++
        (" reason=not_found" : ByteString)
      (⟨false, "not_found"⟩, (auditAdder "token_denied" payload world).2)
  | some stored =>
      let holder := ("token_id=" : ByteString) ++ tokenId ++
        (" identity=" : ByteString) ++ stored.token.identityName
      if now ≥ stored.token.expiresAtMs then
        let payload := holder ++ (" scope=" : ByteString) ++ stored.token.scope ++
          (" required_scope=" : ByteString) ++ requiredScope ++
          (" reason=expired" : ByteString)
        (⟨false, "expired"⟩, (auditAdder "token_denied" payload world).2)
      else if stored.revoked then
        let payload := holder ++ (" scope=" : ByteString) ++ stored.token.scope ++
          (" required_scope=" : ByteString) ++ requiredScope ++
          (" reason=revoked" : ByteString)
        (⟨false, "revoked"⟩, (auditAdder "token_denied" payload world).2)
      else if stored.token.scope ≠ requiredScope then
        let payload := holder ++ (" token_scope=" : ByteString) ++ stored.token.scope ++
          (" required_scope=" : ByteString) ++ requiredScope ++
          (" reason=scope_mismatch" : ByteString)
        (⟨false, "scope_mismatch"⟩, (auditAdder "token_denied" payload world).2)
      else (⟨true, "ok"⟩, world)

def isLive (now : Int64) (stored : StoredToken) : Bool :=
  !stored.revoked && now < stored.token.expiresAtMs

def liveTokenCount (now : Int64) (self : TokenStore) : Nat :=
  self.tokens.toList.countP fun kv => isLive now kv.2

/-- A denial is audited, and nothing else touches the world. -/
theorem checkAccess_world (now : Int64) (tokenId requiredScope : ByteString)
    (self : TokenStore) (world : σ) :
    (self.checkAccess auditAdder now tokenId requiredScope world).2 = world ∨
      ∃ payload, (self.checkAccess auditAdder now tokenId requiredScope world).2 =
        (auditAdder "token_denied" payload world).2 := by
  unfold checkAccess
  split
  · exact Or.inr ⟨_, rfl⟩
  · dsimp only
    split
    · exact Or.inr ⟨_, rfl⟩
    · split
      · exact Or.inr ⟨_, rfl⟩
      · split
        · exact Or.inr ⟨_, rfl⟩
        · exact Or.inl rfl

theorem grant_observe {β : Type} {auditAdder : AuditAdder σ} {observe : σ → β}
    (hunseen : Unseen auditAdder observe) {draw : Option (Vector UInt8 16)} {now : Int64}
    {identity scope : ByteString} {ttlMs : Int64} {self after : TokenStore} {world world' : σ}
    {tok : AccessToken}
    (hgrant : self.grant auditAdder draw now identity scope ttlMs world =
      .ok (tok, after, world')) : observe world' = observe world := by
  unfold grant at hgrant
  split at hgrant
  · exact absurd hgrant (by simp)
  split at hgrant
  · exact absurd hgrant (by simp)
  split at hgrant
  · exact absurd hgrant (by simp)
  split at hgrant
  · exact absurd hgrant (by simp)
  · simp only [Except.ok.injEq, Prod.mk.injEq] at hgrant
    obtain ⟨-, -, rfl⟩ := hgrant
    exact hunseen _ _ _

end TokenStore

end Astartis.Access
