import Astartis.ByteString

namespace Astartis.Crypto

structure SignedRequest where
  identityName : ByteString
  challenge : ByteString
  timestampMs : Int64
  signature : ByteString
deriving DecidableEq

/-- The signature scheme of the cryptographic library.  A private key is opaque, and
what a signature looks like may depend on a drawn nonce. -/
structure SignatureScheme where
  publicKeyDer : ByteString → ByteString
  sign : ByteString → ByteString → ByteString → ByteString
  verify : ByteString → ByteString → ByteString → Bool

structure Identity where
  name : ByteString
  pkey : ByteString

def bigEndian (timestampMs : Int64) : ByteString :=
  (List.range 8).reverse.map fun i =>
    (timestampMs.toUInt64 >>> (UInt64.ofNat (8 * i))).toUInt8

def buildRequestMessage (identityName challenge : ByteString) (timestampMs : Int64) :
    ByteString :=
  identityName ++ challenge ++ bigEndian timestampMs

def makeSignedRequest (scheme : SignatureScheme) (nonce : ByteString) (now : Int64)
    (identity : Identity) (challenge : ByteString) : SignedRequest :=
  { identityName := identity.name
    challenge := challenge
    timestampMs := now
    signature := scheme.sign identity.pkey nonce
      (buildRequestMessage identity.name challenge now) }

def verifySignedRequest (scheme : SignatureScheme) (request : SignedRequest)
    (expectedChallenge publicKeyDer : ByteString) : Bool :=
  if request.challenge ≠ expectedChallenge then false
  else
    scheme.verify
      (buildRequestMessage request.identityName request.challenge request.timestampMs)
      request.signature publicKeyDer

theorem signed_shiftRight_toUInt8 (timestampMs : Int64) {i : Nat} (hi : i < 8) :
    (timestampMs >>> Int64.ofNat (8 * i)).toUInt64.toUInt8 =
      (timestampMs.toUInt64 >>> UInt64.ofNat (8 * i)).toUInt8 := by
  rw [← UInt8.toBitVec_inj]
  apply BitVec.eq_of_getLsbD_eq
  intro j hj
  have hword : ¬ 64 ≤ j := by omega
  interval_cases i <;> simp [hj, hword, BitVec.getLsbD_sshiftRight]
  all_goals
    intro hbeyond
    omega

/-- The source shifts the signed value, which makes a difference above the byte only. -/
theorem bigEndian_eq_signed (timestampMs : Int64) :
    bigEndian timestampMs = (List.range 8).reverse.map fun i =>
      (timestampMs >>> Int64.ofNat (8 * i)).toUInt64.toUInt8 := by
  apply List.map_congr_left
  intro i hi
  exact (signed_shiftRight_toUInt8 timestampMs (by simpa using hi)).symm

@[simp] theorem bigEndian_length (timestampMs : Int64) : (bigEndian timestampMs).length = 8 := by
  simp [bigEndian]

/-- Numbers with the same lowest bytes agree as far as these go. -/
theorem mod_eq_of_bytes {a b : Nat} (n : Nat)
    (hbytes : ∀ i < n, a / 2 ^ (8 * i) % 256 = b / 2 ^ (8 * i) % 256) :
    a % 256 ^ n = b % 256 ^ n := by
  induction n with
  | zero => simp [Nat.mod_one]
  | succ n ih =>
      have hlast := hbytes n (Nat.lt_succ_self n)
      have hbyte : (2 : Nat) ^ 8 = 256 := rfl
      rw [pow_mul, hbyte] at hlast
      rw [Nat.mod_pow_succ, Nat.mod_pow_succ, ih fun i hi => hbytes i (by omega), hlast]

theorem bigEndian_injective : Function.Injective bigEndian := by
  intro s t h
  have hbytes := List.map_inj_left.mp h
  have hdigits : ∀ i < 8, s.toUInt64.toNat / 2 ^ (8 * i) % 256 =
      t.toUInt64.toNat / 2 ^ (8 * i) % 256 := by
    intro i hi
    have hbyte := congrArg UInt8.toNat (hbytes i (by simpa using hi))
    have hword : 8 * i % 2 ^ 64 = 8 * i := by omega
    have hshift : 8 * i % 64 = 8 * i := by omega
    simpa [Nat.shiftRight_eq_div_pow, hword, hshift] using hbyte
  have hbound : ∀ word : UInt64, word.toNat < 256 ^ 8 := UInt64.toNat_lt
  have hnat := mod_eq_of_bytes 8 hdigits
  rw [Nat.mod_eq_of_lt (hbound _), Nat.mod_eq_of_lt (hbound _)] at hnat
  exact Int64.toBitVec_inj.mp (congrArg UInt64.toBitVec (UInt64.toNat_inj.mp hnat))

/-- The signed message determines its parts, although nothing separates them. -/
theorem buildRequestMessage_eq_iff {identityName identityName' challenge challenge' : ByteString}
    {timestampMs timestampMs' : Int64} (hlength : challenge.length = challenge'.length) :
    buildRequestMessage identityName challenge timestampMs =
        buildRequestMessage identityName' challenge' timestampMs' ↔
      identityName = identityName' ∧ challenge = challenge' ∧ timestampMs = timestampMs' := by
  constructor
  · intro h
    obtain ⟨hfront, htime⟩ := List.append_inj' h (by simp)
    obtain ⟨hname, hchallenge⟩ := List.append_inj' hfront hlength
    exact ⟨hname, hchallenge, bigEndian_injective htime⟩
  · rintro ⟨rfl, rfl, rfl⟩
    rfl

theorem renamed_message_differs :
    buildRequestMessage "client-rep-1" [7, 7] (-1) ≠
      buildRequestMessage "client-rep-2" [7, 7] (-1) := by
  rw [Ne, buildRequestMessage_eq_iff rfl]
  rintro ⟨hname, -⟩
  exact absurd hname (by decide)

theorem challenge_eq_of_verifySignedRequest {scheme : SignatureScheme}
    {request : SignedRequest} {expectedChallenge publicKeyDer : ByteString}
    (hverify : verifySignedRequest scheme request expectedChallenge publicKeyDer = true) :
    request.challenge = expectedChallenge := by
  unfold verifySignedRequest at hverify
  split at hverify
  · exact absurd hverify (by decide)
  · exact not_ne_iff.mp ‹_›

end Astartis.Crypto
