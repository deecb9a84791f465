import Astartis.TokenHistory

/-!
The end of life of a granted token.  `grant` checks that the lifetime is positive, but not that
the clock plus the lifetime is a time the clock can show.
-/

namespace Astartis.Access

open Audit

namespace TokenStore

variable {σ : Type} {auditAdder : AuditAdder σ}

/-- What a token promises that was granted for `ttlMs` milliseconds: it ends that much later, it
opens its scope at the instant of the grant, and it is one of the tokens that are counted. -/
structure LifetimeKept (auditAdder : AuditAdder σ) (scope : ByteString) (ttlMs : Int64)
    (before : TokenStore) (tok : AccessToken) (after : TokenStore) (world : σ) : Prop where
  expires : tok.expiresAtMs.toInt = tok.grantedAtMs.toInt + ttlMs.toInt
  granted :
    (after.checkAccess auditAdder tok.grantedAtMs tok.tokenId scope world).1.granted = true
  counted : after.liveTokenCount tok.grantedAtMs =
    { before with tokens := before.tokens.erase tok.tokenId }.liveTokenCount tok.grantedAtMs + 1

theorem toList_erase_perm (tokens : Std.TreeMap ByteString StoredToken) (tokenId : ByteString) :
    (tokens.erase tokenId).toList.Perm (tokens.toList.filter (¬ tokenId == ·.1)) := by
  have hnodup : ∀ tokens : Std.TreeMap ByteString StoredToken, tokens.toList.Nodup := by
    intro tokens
    apply tokens.distinct_keys_toList.imp
    rintro a b hne rfl
    exact hne (by simp)
  rw [List.perm_ext_iff_of_nodup (hnodup _) ((hnodup _).filter _)]
  rintro ⟨other, stored⟩
  rw [Std.TreeMap.mem_toList_iff_getElem?_eq_some, List.mem_filter,
    Std.TreeMap.mem_toList_iff_getElem?_eq_some, Std.TreeMap.getElem?_erase]
  by_cases hid : tokenId = other <;> simp [hid]

theorem liveTokenCount_insert (now : Int64) (self : TokenStore) {tokenId : ByteString}
    {stored : StoredToken} (hlive : isLive now stored = true) :
    { self with tokens := self.tokens.insert tokenId stored }.liveTokenCount now =
      { self with tokens := self.tokens.erase tokenId }.liveTokenCount now + 1 := by
  simp only [liveTokenCount]
  rw [Std.TreeMap.toList_insert_perm.countP_eq, (toList_erase_perm _ _).countP_eq]
  exact List.countP_cons_of_pos hlive

/-- An addition on the clock is exact unless it passes the last time the clock can show. -/
theorem toInt_add_of_fits {now ttlMs : Int64} (hpositive : 0 < ttlMs)
    (hfits : now.toInt + ttlMs.toInt < 2 ^ 63) :
    (now + ttlMs).toInt = now.toInt + ttlMs.toInt := by
  rw [Int64.lt_iff_toInt_lt, Int64.toInt_zero] at hpositive
  have hnow := now.le_toInt
  rw [Int64.toInt_add, Int.bmod_eq_of_le (by omega) (by omega)]

section Grant

variable {draw : Option (Vector UInt8 16)} {now : Int64} {identity scope : ByteString}
  {ttlMs : Int64} {self : TokenStore} {world : σ} {tok : AccessToken} {after : TokenStore}
  {world' : σ}

/-- A granted token lives as long as it was granted for exactly if its end is a time the clock
can show. -/
theorem grant_lifetimeKept_iff
    (hgrant : self.grant auditAdder draw now identity scope ttlMs world =
      .ok (tok, after, world')) :
    LifetimeKept auditAdder scope ttlMs self tok after world' ↔
      now.toInt + ttlMs.toInt < 2 ^ 63 := by
  obtain ⟨hscope, hgranted, hexpires, hpositive, htokens⟩ := grant_ok hgrant
  rw [Int64.not_le] at hpositive
  constructor
  · intro hkept
    have hend := hkept.expires
    rw [hgranted] at hend
    rw [← hend]
    exact tok.expiresAtMs.toInt_lt
  · intro hfits
    have hend := toInt_add_of_fits hpositive hfits
    have hlater : now < now + ttlMs := by
      rw [Int64.lt_iff_toInt_lt, Int64.toInt_zero] at hpositive
      rw [Int64.lt_iff_toInt_lt, hend]
      omega
    refine ⟨?_, ?_, ?_⟩
    · rw [hexpires, hgranted, hend]
    · rw [checkAccess_granted_iff]
      refine ⟨⟨tok, false⟩, by simp [htokens], ?_, rfl, hscope⟩
      rw [hexpires, hgranted]
      exact hlater
    · have hlive : isLive tok.grantedAtMs ⟨tok, false⟩ = true := by
        simp [isLive, hexpires, hgranted, hlater]
      have hafter : after.liveTokenCount tok.grantedAtMs =
          { self with tokens := self.tokens.insert tok.tokenId ⟨tok, false⟩ }.liveTokenCount
            tok.grantedAtMs := by
        simp only [liveTokenCount, htokens]
      rw [hafter, liveTokenCount_insert _ _ hlive]

end Grant

/-- A grant of the scope for unlock votes at a fixed time. -/
def voteGrant (ttlMs : Int64) :
    Except ByteString (AccessToken × TokenStore × List (ByteString × ByteString)) :=
  ({} : TokenStore).grant noteEntry (some (Vector.replicate 16 7)) 1750000000000
    "astartis-admin-1" "worm_unlock_vote" ttlMs []

theorem day_grant_lifetimeKept : ∃ tok after world, voteGrant 86400000 = .ok (tok, after, world) ∧
    LifetimeKept noteEntry "worm_unlock_vote" 86400000 {} tok after world := by
  have hgrant : voteGrant 86400000 = .ok (_, _, _) := rfl
  exact ⟨_, _, _, hgrant, (grant_lifetimeKept_iff hgrant).mpr (by decide)⟩

/-- A token for as long as possible is expired at once. -/
theorem longest_grant_expired :
    ∃ tok after world, voteGrant Int64.maxValue = .ok (tok, after, world) ∧
      (after.checkAccess noteEntry tok.grantedAtMs tok.tokenId "worm_unlock_vote" world).1.reason =
        ("expired" : ByteString) ∧
      ¬ LifetimeKept noteEntry "worm_unlock_vote" Int64.maxValue {} tok after world := by
  refine ⟨_, _, _, rfl, by decide +kernel, fun hkept => ?_⟩
  exact absurd hkept.expires (by decide +kernel)

end TokenStore

end Astartis.Access
