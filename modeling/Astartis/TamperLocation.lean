import Astartis.AuditIntegrity

/-!
Where `verify_chain` locates a change.  An entry is compared with its own digest before its
link is looked at, so the entry that was changed is reported and not its successor.
-/

namespace Astartis.Audit

/-- A new value for one of the six fields of an entry. -/
inductive FieldChange
  | entryId (value : ByteString)
  | timestamp (value : Int64)
  | eventType (value : ByteString)
  | payload (value : ByteString)
  | previousHash (value : ByteString)
  | currentHash (value : ByteString)
deriving DecidableEq

def FieldChange.apply (entry : AuditEntry) : FieldChange → AuditEntry
  | .entryId value => { entry with entryId := value }
  | .timestamp value => { entry with timestamp := value }
  | .eventType value => { entry with eventType := value }
  | .payload value => { entry with payload := value }
  | .previousHash value => { entry with previousHash := value }
  | .currentHash value => { entry with currentHash := value }

/-- The chain with one field of one entry replaced in storage. -/
def AuditChain.tamper (i : Nat) (change : FieldChange) (self : AuditChain) : AuditChain where
  chain := self.chain.modify i fun entry => change.apply entry

theorem tamperEntryForTesting_eq (self : AuditChain) {i : Nat} (hi : i < self.chain.length)
    (newPayload : ByteString) :
    self.tamperEntryForTesting i newPayload = (true, self.tamper i (.payload newPayload)) := by
  rw [AuditChain.tamperEntryForTesting, if_neg (by omega)]
  rfl

section Localisation

variable {sha256 : Sha256}

/-- Unless it is the stored digest itself that differs, the digested text does. -/
theorem data_apply_ne {change : FieldChange} {entry : AuditEntry}
    (hdiffers : change.apply entry ≠ entry)
    (hstored : (change.apply entry).currentHash = entry.currentHash) :
    (change.apply entry).data ≠ entry.data := by
  intro hdata
  apply hdiffers
  cases change with
  | entryId value =>
      have hvalue : value = entry.entryId := by
        simpa [FieldChange.apply, AuditEntry.data] using hdata
      rw [hvalue]
      rfl
  | timestamp value =>
      have htext : ByteString.decimal value.toInt = ByteString.decimal entry.timestamp.toInt := by
        simpa [FieldChange.apply, AuditEntry.data] using hdata
      rw [show value = entry.timestamp from
        Int64.toInt.inj (ByteString.decimal_injective htext)]
      rfl
  | eventType value =>
      have hvalue : value = entry.eventType := by
        simpa [FieldChange.apply, AuditEntry.data] using hdata
      rw [hvalue]
      rfl
  | payload value =>
      have hvalue : value = entry.payload := by
        simpa [FieldChange.apply, AuditEntry.data] using hdata
      rw [hvalue]
      rfl
  | previousHash value =>
      have hvalue : value = entry.previousHash := by
        simpa [FieldChange.apply, AuditEntry.data] using hdata
      rw [hvalue]
      rfl
  | currentHash value =>
      have hvalue : value = entry.currentHash := hstored
      rw [hvalue]
      rfl

/-- The changed entry is not sealed any more. -/
theorem currentHash_apply_ne {change : FieldChange} {entry : AuditEntry}
    (hdiffers : change.apply entry ≠ entry)
    (hsealed : entry.currentHash = calculateEntryHash sha256 entry)
    (hcollision : CollisionFree sha256 [entry.data, (change.apply entry).data]) :
    (change.apply entry).currentHash ≠ calculateEntryHash sha256 (change.apply entry) := by
  by_cases hstored : (change.apply entry).currentHash = entry.currentHash
  · have hdata := data_apply_ne hdiffers hstored
    intro hrecomputed
    rw [hstored, hsealed] at hrecomputed
    have hdigest : sha256 entry.data = sha256 (change.apply entry).data :=
      Vector.toList_inj.mp (ByteString.hexEncode_injective hrecomputed)
    exact hdata (hcollision _ (by simp) _ (by simp) hdigest).symm
  · -- only a change of the digest changes the digest, so the text is the same
    have hsame : (change.apply entry).data = entry.data := by
      cases change with
      | currentHash value => rfl
      | entryId value => exact absurd rfl hstored
      | timestamp value => exact absurd rfl hstored
      | eventType value => exact absurd rfl hstored
      | payload value => exact absurd rfl hstored
      | previousHash value => exact absurd rfl hstored
    intro hrecomputed
    apply hstored
    rw [hrecomputed, hsealed, calculateEntryHash, calculateEntryHash, hsame]

/-- The loop gets past entries that are linked. -/
theorem verifyLoop_append {before : List AuditEntry} {genesis : ByteString}
    (hlinked : (scheme sha256).Linked genesis before) (i : Nat) (previous : Option AuditEntry)
    (hprevious : ∀ p, previous = some p → p.currentHash = genesis) (rest : List AuditEntry) :
    ∃ last, verifyLoop sha256 i previous (before ++ rest) =
      verifyLoop sha256 (i + before.length) last rest := by
  induction before generalizing genesis i previous with
  | nil => exact ⟨previous, rfl⟩
  | cons entry before ih =>
      obtain ⟨hlink, hsealed, hrest⟩ := hlinked
      have hunbroken : brokenLink? previous entry = none := by
        cases previous with
        | none => rfl
        | some p =>
            have hsame : entry.previousHash = p.currentHash := hlink.trans (hprevious p rfl).symm
            simp [brokenLink?, hsame]
      obtain ⟨last, hloop⟩ := ih hrest (i + 1) (some entry) fun p hp => by
        obtain rfl := Option.some.inj hp
        rfl
      refine ⟨last, ?_⟩
      have hhash : ¬ entry.currentHash ≠ calculateEntryHash sha256 entry := not_not.mpr hsealed
      rw [List.cons_append, verifyLoop]
      simp only [if_neg hhash, hunbroken]
      rw [hloop, List.length_cons, Nat.add_right_comm, Nat.add_assoc]

theorem verifyLoop_unsealed {entry : AuditEntry}
    (hunsealed : entry.currentHash ≠ calculateEntryHash sha256 entry) (i : Nat)
    (previous : Option AuditEntry) (rest : List AuditEntry) :
    (verifyLoop sha256 i previous (entry :: rest)).isValid = false ∧
      (verifyLoop sha256 i previous (entry :: rest)).tamperedEntryIndex = Int32.ofNat i := by
  rw [verifyLoop]
  simp only [ne_eq, hunsealed, not_false_eq_true, if_true, and_self]

/-- The first entry that is not sealed is located behind linked ones. -/
theorem verifyChain_located {before : List AuditEntry} {entry : AuditEntry}
    (hlinked : (scheme sha256).Linked genesisHash before)
    (hunsealed : entry.currentHash ≠ calculateEntryHash sha256 entry)
    (after : List AuditEntry) :
    let result := AuditChain.verifyChain sha256 ⟨before ++ entry :: after⟩
    result.isValid = false ∧ result.tamperedEntryIndex = Int32.ofNat before.length := by
  obtain ⟨last, hloop⟩ := verifyLoop_append hlinked 0 none (by simp) (entry :: after)
  have hunsealed' := verifyLoop_unsealed hunsealed (0 + before.length) last after
  rw [← hloop, Nat.zero_add] at hunsealed'
  cases before with
  | nil =>
      simp only [List.nil_append, AuditChain.verifyChain]
      split
      · exact ⟨rfl, rfl⟩
      · exact hunsealed'
  | cons first before =>
      have hgenesis : ¬ first.previousHash ≠ genesisHash := not_not.mpr hlinked.1
      simp only [List.cons_append, AuditChain.verifyChain, if_neg hgenesis]
      exact hunsealed'

end Localisation

/-- A chain built by `add_entry` is refused at the entry that is not sealed any more. -/
theorem tamper_located_of_unsealed {sha256 : Sha256} {calls : List (AddEntryCall × Draw)}
    {i : Nat} {entry : AuditEntry}
    (hentry : (addEntries sha256 calls).getAllEntries[i]? = some entry) {change : FieldChange}
    (hunsealed : (change.apply entry).currentHash ≠
      calculateEntryHash sha256 (change.apply entry)) :
    let result := ((addEntries sha256 calls).tamper i change).verifyChain sha256
    result.isValid = false ∧ result.tamperedEntryIndex = Int32.ofNat i := by
  intro result
  have hlinked := addEntries_linked sha256 calls
  rw [AuditChain.getAllEntries_eq] at hentry
  obtain ⟨hi, -⟩ := List.getElem?_eq_some_iff.mp hentry
  obtain ⟨before, found, after, hchain, hlength, htampered⟩ :=
    List.exists_of_modify (fun entry => change.apply entry) hi
  obtain rfl : found = entry := by
    rw [hchain, ← hlength, List.getElem?_append_right le_rfl] at hentry
    simpa using hentry
  rw [hchain] at hlinked
  have hlocated := verifyChain_located hlinked.of_append hunsealed after
  rwa [← htampered, hlength] at hlocated

theorem index_eq_iff (i : Nat) : (Int32.ofNat i).toInt = i ↔ i < 2 ^ 31 := by
  constructor
  · intro heq
    have hlt := Int32.toInt_lt (Int32.ofNat i)
    omega
  · intro hi
    exact Int32.toInt_ofNat_of_lt hi

/-- Whichever field of whichever entry of a chain built by `add_entry` is replaced by a
different value, the chain is refused at this entry.  The index is an `int`. -/
theorem tampered_located (sha256 : Sha256) (calls : List (AddEntryCall × Draw)) (i : Nat)
    (entry : AuditEntry) (hentry : (addEntries sha256 calls).getAllEntries[i]? = some entry)
    (change : FieldChange) (hdiffers : change.apply entry ≠ entry)
    (hcollision : CollisionFree sha256 [entry.data, (change.apply entry).data]) :
    let result := ((addEntries sha256 calls).tamper i change).verifyChain sha256
    result.isValid = false ∧ result.tamperedEntryIndex = Int32.ofNat i ∧
      (result.tamperedEntryIndex.toInt = i ↔ i < 2 ^ 31) := by
  intro result
  have hsealed := (addEntries_linked sha256 calls).stored_eq (List.mem_of_getElem? hentry)
  obtain ⟨hvalid, hindex⟩ := tamper_located_of_unsealed hentry
    (currentHash_apply_ne hdiffers hsealed hcollision)
  refine ⟨hvalid, hindex, ?_⟩
  rw [show result.tamperedEntryIndex = Int32.ofNat i from hindex]
  exact index_eq_iff i

/-- The payload of the second sample entry is overwritten. -/
theorem tampered_sample_located :
    let result := ((addEntries sampleSha256 sampleCalls).tamper 1
      (.payload "granted")).verifyChain sampleSha256
    result.isValid = false ∧ result.tamperedEntryIndex = Int32.ofNat 1 ∧
      (result.tamperedEntryIndex.toInt = (1 : Nat) ↔ 1 < 2 ^ 31) :=
  tampered_located sampleSha256 sampleCalls 1 _ rfl (.payload "granted") (by decide +kernel)
    (by decide +kernel)

/-- A digest that is erased behind 2^31 entries. -/
theorem erased_digest_mislocated (sha256 : Sha256) {calls : List (AddEntryCall × Draw)} {i : Nat}
    (hi : i < calls.length) (hfar : 2 ^ 31 ≤ i) :
    ∃ entry, (addEntries sha256 calls).getAllEntries[i]? = some entry ∧
      FieldChange.apply entry (.currentHash []) ≠ entry ∧
      (((addEntries sha256 calls).tamper i (.currentHash [])).verifyChain
        sha256).tamperedEntryIndex.toInt ≠ i := by
  have hlength : (addEntries sha256 calls).getAllEntries.length = calls.length := by
    simpa using congrArg List.length (addEntries_contents sha256 calls)
  rw [← hlength] at hi
  have hentry := List.getElem?_eq_getElem hi
  have hsealed := (addEntries_linked sha256 calls).stored_eq (List.mem_of_getElem? hentry)
  have hdigest : ∀ entry, calculateEntryHash sha256 entry ≠ [] := by
    intro entry hempty
    have hzero := calculateEntryHash_length sha256 entry
    rw [hempty] at hzero
    simp at hzero
  have hlocated := @tamper_located_of_unsealed _ _ _ _ hentry (.currentHash []) (hdigest _).symm
  refine ⟨_, hentry, ?_, ?_⟩
  · intro hsame
    have hempty := congrArg AuditEntry.currentHash hsame
    exact hdigest _ (hsealed.symm.trans hempty.symm)
  · rw [hlocated.2]
    intro hindex
    have hnear := (index_eq_iff i).mp hindex
    omega

/-- The index of an entry behind 2^31 others does not fit into an `int`, whatever the digest. -/
theorem distant_tamper_mislocated :
    ∃ (calls : List (AddEntryCall × Draw)) (change : FieldChange),
      calls.length = 2 ^ 31 + 1 ∧ ∀ sha256 : Sha256, ∃ entry,
        (addEntries sha256 calls).getAllEntries[2 ^ 31]? = some entry ∧
          change.apply entry ≠ entry ∧
          (((addEntries sha256 calls).tamper (2 ^ 31) change).verifyChain
            sha256).tamperedEntryIndex.toInt ≠ (2 ^ 31 : Nat) := by
  obtain ⟨calls, hcalls⟩ : ∃ calls : List (AddEntryCall × Draw), calls.length = 2 ^ 31 + 1 :=
    ⟨_, List.length_replicate (a := (⟨"heartbeat", "ok"⟩, ⟨0, 0⟩))⟩
  refine ⟨calls, .currentHash [], hcalls, fun sha256 => ?_⟩
  exact erased_digest_mislocated sha256 (by omega) le_rfl

end Astartis.Audit
