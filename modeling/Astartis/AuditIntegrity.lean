import Astartis.AuditChain

namespace Astartis.Audit

open TransitionSystem
open MutexSections

/-- The chain records the given calls, in their order, and is correctly linked. -/
structure Records (sha256 : Sha256) (self : AuditChain) (calls : List AddEntryCall) :
    Prop where
  valid : (self.verifyChain sha256).isValid = true
  length : self.getChainLength = calls.length
  contents : self.getAllEntries.map (fun entry => (entry.eventType, entry.payload)) =
    calls.map fun call => (call.eventType, call.payload)
  genesis : ∀ first, self.getAllEntries[0]? = some first →
    first.previousHash = genesisHash
  links : ∀ i entry next, self.getAllEntries[i]? = some entry →
    self.getAllEntries[i + 1]? = some next → next.previousHash = entry.currentHash
  head : ∀ last, self.getAllEntries.getLast? = some last →
    self.getChainHeadHash = last.currentHash

theorem addEntries_records (sha256 : Sha256) (calls : List (AddEntryCall × Draw)) :
    Records sha256 (addEntries sha256 calls) (calls.map Prod.fst) := by
  have hlinked := addEntries_linked sha256 calls
  have hcontents := addEntries_contents sha256 calls
  refine ⟨(verifyChain_isValid_iff sha256 _).mpr hlinked, ?_, ?_, ?_, ?_, ?_⟩
  · simpa using congrArg List.length hcontents
  · simpa [Function.comp_def] using hcontents
  · intro first hfirst
    exact hlinked.previous_first hfirst
  · intro i entry next hentry hnext
    exact hlinked.previous_succ hentry hnext
  · intro last hlast
    rw [AuditChain.getAllEntries_eq] at hlast
    rw [AuditChain.getChainHeadHash, hlast]

def sampleSha256 (text : ByteString) : Vector UInt8 32 :=
  if text = ("entry_1f1700000000000bootok" : ByteString) ++ genesisHash then
    #v[18, 201, 221, 64, 43, 215, 96, 70, 120, 99, 147, 198, 68, 70, 178, 174,
      21, 213, 162, 237, 190, 164, 23, 184, 18, 137, 128, 1, 176, 254, 24, 145]
  else if text = ("entry_2a1700000000500access_denied" : ByteString) ++
      ("12c9dd402bd76046786393c64446b2ae15d5a2edbea417b812898001b0fe1891" : ByteString) then
    #v[190, 70, 196, 10, 37, 252, 151, 66, 119, 159, 125, 91, 105, 197, 94, 223,
      233, 61, 134, 157, 249, 74, 221, 239, 8, 71, 126, 102, 36, 105, 254, 33]
  else Vector.replicate 32 0

def sampleCalls : List (AddEntryCall × Draw) :=
  [(⟨"boot", "ok"⟩, ⟨0x1f, 1700000000000⟩),
    (⟨"access_denied", ""⟩, ⟨0x2a, 1700000000500⟩)]

section Threads

variable {Thread : Type} [DecidableEq Thread]

/-- Threads calling `add_entry` on one chain: after every finished call the chain
records the finished calls in mutex order, and mutex order contains the calls of
each thread in the order the thread makes them. -/
theorem threads_record (sha256 : Sha256) (programs : Thread → List AddEntryCall)
    {steps : List (Transition (Config Thread AuditChain AddEntryCall)
      (Event Thread AddEntryCall Draw))}
    {config : Config Thread AuditChain AddEntryCall}
    (htrace : Trace (system (addEntrySection sha256) {} programs) steps config) :
    Records sha256 config.shared ((completed steps).map fun call => call.2.1) ∧
      ∀ thread, callsOf thread (completed steps) ++ openCall thread config.holder ++
        config.pending thread = programs thread := by
  refine ⟨?_, program_order htrace⟩
  have hshared : config.shared =
      addEntries sha256 ((completed steps).map fun call => call.2) := by
    rw [shared_eq_foldl htrace, addEntries, List.foldl_map]
  rw [hshared]
  simpa [Function.comp_def] using
    addEntries_records sha256 ((completed steps).map fun call => call.2)

end Threads

/-- Two threads with one call each, the second one entering first. -/
theorem two_threads_record :
    Records sampleSha256 (addEntries sampleSha256 sampleCalls) (sampleCalls.map Prod.fst) := by
  let programs : Bool → List AddEntryCall := fun thread =>
    if thread then [⟨"boot", "ok"⟩] else [⟨"access_denied", ""⟩]
  have hstart : Trace (system (addEntrySection sampleSha256) {} programs) []
      ⟨{}, none, programs⟩ := .start rfl
  obtain ⟨first, hfirst, hcalls⟩ :=
    exists_section ⟨0x1f, 1700000000000⟩ hstart (show programs true = _ from rfl)
  obtain ⟨steps, htrace, hcompleted⟩ :=
    exists_section ⟨0x2a, 1700000000500⟩ hfirst
      (show Function.update programs true [] false = _ from rfl)
  have hrecords := (threads_record sampleSha256 programs htrace).1
  rw [hcompleted, hcalls] at hrecords
  exact hrecords

/-- How long the fields in front of the payload are in the digested text. -/
def AuditEntry.boundaries (entry : AuditEntry) : Nat × Nat × Nat :=
  (entry.entryId.length, (ByteString.decimal entry.timestamp.toInt).length,
    entry.eventType.length)

def CollisionFree (sha256 : Sha256) (texts : List ByteString) : Prop :=
  ∀ a ∈ texts, ∀ b ∈ texts, sha256 a = sha256 b → a = b

instance (sha256 : Sha256) (texts : List ByteString) :
    Decidable (CollisionFree sha256 texts) :=
  inferInstanceAs (Decidable (∀ a ∈ texts, ∀ b ∈ texts, sha256 a = sha256 b → a = b))

theorem calculateEntryHash_length (sha256 : Sha256) (entry : AuditEntry) :
    (calculateEntryHash sha256 entry).length = 64 := by
  simp [calculateEntryHash]

theorem previousHash_length {sha256 : Sha256} {entries : List AuditEntry}
    (hlinked : (scheme sha256).Linked genesisHash entries) {entry : AuditEntry}
    (hentry : entry ∈ entries) : entry.previousHash.length = 64 := by
  rcases hlinked.previous_mem hentry with h | ⟨other, -, h⟩
  · change entry.previousHash = genesisHash at h
    rw [h]
    rfl
  · change entry.previousHash = calculateEntryHash sha256 other at h
    rw [h, calculateEntryHash_length]

/-- The digested text determines the link, and the other fields as soon as their
boundaries are known. -/
theorem data_inj {r s : AuditEntry}
    (hlength : r.previousHash.length = s.previousHash.length) (hdata : r.data = s.data) :
    r.previousHash = s.previousHash ∧ (r.boundaries = s.boundaries →
      r.entryId = s.entryId ∧ r.timestamp = s.timestamp ∧
        r.eventType = s.eventType ∧ r.payload = s.payload) := by
  obtain ⟨hfront, hprevious⟩ := List.append_inj' hdata hlength
  refine ⟨hprevious, ?_⟩
  intro hboundaries
  simp only [AuditEntry.boundaries, Prod.mk.injEq] at hboundaries
  obtain ⟨hid, htime, htype⟩ := hboundaries
  simp only [List.append_assoc] at hfront
  obtain ⟨hentryId, hfront⟩ := List.append_inj hfront hid
  obtain ⟨htimestamp, hfront⟩ := List.append_inj hfront htime
  obtain ⟨heventType, hpayload⟩ := List.append_inj hfront htype
  exact ⟨hentryId, Int64.toInt.inj (ByteString.decimal_injective htimestamp),
    heventType, hpayload⟩

theorem getLast?_eq_of_head {self other : AuditChain}
    (hlength : self.getChainLength = other.getChainLength)
    (hhead : self.getChainHeadHash = other.getChainHeadHash) :
    self.chain.getLast?.map AuditEntry.currentHash =
      other.chain.getLast?.map AuditEntry.currentHash := by
  obtain ⟨entries⟩ := self
  obtain ⟨others⟩ := other
  obtain rfl | ⟨entries, last, rfl⟩ := List.eq_nil_or_concat' entries
  · obtain rfl : others = [] := List.eq_nil_of_length_eq_zero hlength.symm
    rfl
  · obtain rfl | ⟨others, last', rfl⟩ := List.eq_nil_or_concat' others
    · simp at hlength
    · simpa [AuditChain.getChainHeadHash] using hhead

/-- An accepted list with the length and the head of a chain built by `add_entry`
is that chain exactly when its field boundaries are those of the chain: the
digested text has no separators, so the digests do not fix them. -/
theorem forged_eq_iff (sha256 : Sha256) (calls : List (AddEntryCall × Draw))
    (forged : AuditChain)
    (hcollision : CollisionFree sha256
      (((addEntries sha256 calls).chain ++ forged.chain).map AuditEntry.data))
    (hlength : forged.getChainLength = (addEntries sha256 calls).getChainLength)
    (hhead : forged.getChainHeadHash = (addEntries sha256 calls).getChainHeadHash)
    (hvalid : (forged.verifyChain sha256).isValid = true) :
    forged.getAllEntries = (addEntries sha256 calls).getAllEntries ↔
      forged.getAllEntries.map AuditEntry.boundaries =
        (addEntries sha256 calls).getAllEntries.map AuditEntry.boundaries := by
  constructor
  · intro h
    rw [h]
  · intro hboundaries
    have hforged := (verifyChain_isValid_iff sha256 forged).mp hvalid
    have horiginal := addEntries_linked sha256 calls
    have hagree : List.Forall₂ (fun r s => r.boundaries = s.boundaries → r = s)
        forged.chain (addEntries sha256 calls).chain := by
      apply hforged.agree horiginal hlength (getLast?_eq_of_head hlength hhead)
      intro r hr s hs hhash
      have hdata : r.data = s.data := hcollision _ (by simp; exact Or.inr ⟨r, hr, rfl⟩)
        _ (by simp; exact Or.inl ⟨s, hs, rfl⟩)
        (Vector.toList_inj.mp (ByteString.hexEncode_injective hhash))
      obtain ⟨hprevious, hfields⟩ := data_inj (by
        rw [previousHash_length hforged hr, previousHash_length horiginal hs]) hdata
      refine ⟨hprevious, ?_⟩
      intro hsame
      obtain ⟨hid, htime, htype, hpayload⟩ := hfields hsame
      have hcurrent : r.currentHash = s.currentHash :=
        (hforged.stored_eq hr).trans (hhash.trans (horiginal.stored_eq hs).symm)
      cases r
      cases s
      simp_all
    exact HashChain.eq_of_map_eq hagree hboundaries

/-- The sample chain with a denied access turned into an access. -/
def sampleForged : AuditChain where
  chain := (addEntries sampleSha256 sampleCalls).chain.modify 1 fun entry =>
    { entry with eventType := "access", payload := "_denied" }

theorem forged_sample_eq_iff :
    sampleForged.getAllEntries = (addEntries sampleSha256 sampleCalls).getAllEntries ↔
      sampleForged.getAllEntries.map AuditEntry.boundaries =
        (addEntries sampleSha256 sampleCalls).getAllEntries.map AuditEntry.boundaries :=
  forged_eq_iff sampleSha256 sampleCalls sampleForged (by decide +kernel)
    (by decide +kernel) (by decide +kernel) (by decide +kernel)

/-- The forged sample has the length and the head of the original, no two digested
texts collide, and `verify_chain` accepts it. -/
theorem forged_sample_accepted :
    CollisionFree sampleSha256
        (((addEntries sampleSha256 sampleCalls).chain ++ sampleForged.chain).map
          AuditEntry.data) ∧
      sampleForged.getChainLength = (addEntries sampleSha256 sampleCalls).getChainLength ∧
      sampleForged.getChainHeadHash =
        (addEntries sampleSha256 sampleCalls).getChainHeadHash ∧
      (sampleForged.verifyChain sampleSha256).isValid = true ∧
      sampleForged.getAllEntries ≠ (addEntries sampleSha256 sampleCalls).getAllEntries := by
  decide +kernel

end Astartis.Audit
