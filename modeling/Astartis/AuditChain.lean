import Astartis.ByteString
import Astartis.HashChain
import Astartis.MutexSections

namespace Astartis.Audit

open TransitionSystem

structure AuditEntry where
  entryId : ByteString
  timestamp : Int64
  eventType : ByteString
  payload : ByteString
  previousHash : ByteString
  currentHash : ByteString
deriving DecidableEq

structure VerificationResult where
  isValid : Bool
  errorMessage : ByteString
  tamperedEntryIndex : Int32 := -1
  expectedHash : ByteString := []
  actualHash : ByteString := []
deriving DecidableEq

abbrev Sha256 := ByteString → Vector UInt8 32

/-- The value one `add_entry` call draws for its id, and the clock it reads. -/
structure Draw where
  id : UInt64
  now : Int64
deriving DecidableEq

structure AuditChain where
  chain : List AuditEntry := []
deriving DecidableEq

def genesisHash : ByteString :=
  "0000000000000000000000000000000000000000000000000000000000000000"

def generateEntryId (draw : UInt64) : ByteString :=
  ("entry_" : ByteString) ++ ByteString.natText 16 draw.toNat

/-- A callable (event_type, payload) -> entry_id over the state that holds the
audit chain it is wired to. -/
abbrev AuditAdder (σ : Type) := ByteString → ByteString → σ → ByteString × σ

/-- Auditing does not show in what is observed of the state. -/
def Unseen {σ β : Type} (auditAdder : AuditAdder σ) (observe : σ → β) : Prop :=
  ∀ eventType payload world, observe (auditAdder eventType payload world).2 = observe world

/-- An adder that only notes what it is given. -/
def noteEntry : AuditAdder (List (ByteString × ByteString)) :=
  fun eventType payload notes => ([], notes ++ [(eventType, payload)])

def AuditEntry.data (entry : AuditEntry) : ByteString :=
  entry.entryId ++ ByteString.decimal entry.timestamp.toInt ++ entry.eventType ++
    entry.payload ++ entry.previousHash

def calculateEntryHash (sha256 : Sha256) (entry : AuditEntry) : ByteString :=
  ByteString.hexEncode (sha256 entry.data).toList

/-- The predecessor an entry behind the first one fails to link to. -/
def brokenLink? (previous : Option AuditEntry) (entry : AuditEntry) :
    Option AuditEntry :=
  match previous with
  | none => none
  | some prevEntry =>
      if entry.previousHash ≠ prevEntry.currentHash then some prevEntry else none

def verifyLoop (sha256 : Sha256) :
    Nat → Option AuditEntry → List AuditEntry → VerificationResult
  | _, _, [] => { isValid := true, errorMessage := "Chain verification passed" }
  | i, previous, entry :: rest =>
      let calculatedHash := calculateEntryHash sha256 entry
      if entry.currentHash ≠ calculatedHash then
        { isValid := false
          errorMessage := "Entry hash mismatch - entry has been tampered with"
          tamperedEntryIndex := Int32.ofNat i
          expectedHash := calculatedHash
          actualHash := entry.currentHash }
      else
        match brokenLink? previous entry with
        | some prevEntry =>
            { isValid := false
              errorMessage := "Chain link broken - previous_hash does not match"
              tamperedEntryIndex := Int32.ofNat i
              expectedHash := prevEntry.currentHash
              actualHash := entry.previousHash }
        | none => verifyLoop sha256 (i + 1) (some entry) rest

namespace AuditChain

def getChainHeadHash (self : AuditChain) : ByteString :=
  match self.chain.getLast? with
  | none => genesisHash
  | some entry => entry.currentHash

def addEntry (sha256 : Sha256) (draw : Draw) (eventType payload : ByteString)
    (self : AuditChain) : ByteString × AuditChain :=
  let unsealed : AuditEntry :=
    { entryId := generateEntryId draw.id
      timestamp := draw.now
      eventType := eventType
      payload := payload
      previousHash := self.getChainHeadHash
      currentHash := [] }
  let entry := { unsealed with currentHash := calculateEntryHash sha256 unsealed }
  (entry.entryId, { chain := self.chain ++ [entry] })

def verifyChain (sha256 : Sha256) (self : AuditChain) : VerificationResult :=
  match self.chain with
  | [] => { isValid := true, errorMessage := "Chain is empty" }
  | first :: _ =>
      if first.previousHash ≠ genesisHash then
        { isValid := false
          errorMessage := "First entry does not link to genesis hash"
          tamperedEntryIndex := 0
          expectedHash := genesisHash
          actualHash := first.previousHash }
      else
        verifyLoop sha256 0 none self.chain

def getEntry (entryId : ByteString) (self : AuditChain) : Option AuditEntry :=
  self.chain.find? fun entry => entry.entryId = entryId

def getAllEntries (self : AuditChain) : List AuditEntry :=
  self.chain

def getChainLength (self : AuditChain) : Nat :=
  self.chain.length

@[simp] theorem getAllEntries_eq (self : AuditChain) : self.getAllEntries = self.chain := rfl

@[simp] theorem getChainLength_eq (self : AuditChain) :
    self.getChainLength = self.chain.length := rfl

def tamperEntryForTesting (index : Nat) (newPayload : ByteString) (self : AuditChain) :
    Bool × AuditChain :=
  if index ≥ self.chain.length then (false, self)
  else (true, { chain := self.chain.modify index fun entry =>
    { entry with payload := newPayload } })

end AuditChain

def scheme (sha256 : Sha256) : HashChain.Scheme AuditEntry ByteString where
  previous := AuditEntry.previousHash
  stored := AuditEntry.currentHash
  recompute := calculateEntryHash sha256

@[simp] theorem scheme_linked_cons (sha256 : Sha256) (genesis : ByteString)
    (entry : AuditEntry) (rest : List AuditEntry) :
    (scheme sha256).Linked genesis (entry :: rest) ↔
      entry.previousHash = genesis ∧ entry.currentHash = calculateEntryHash sha256 entry ∧
        (scheme sha256).Linked entry.currentHash rest := Iff.rfl

theorem getChainHeadHash_eq_head (sha256 : Sha256) (self : AuditChain) :
    self.getChainHeadHash = (scheme sha256).head genesisHash self.chain := by
  unfold AuditChain.getChainHeadHash HashChain.Scheme.head
  cases self.chain.getLast? <;> rfl

theorem verifyLoop_isValid_iff (sha256 : Sha256) (i : Nat) (prevEntry : AuditEntry)
    (entries : List AuditEntry) :
    (verifyLoop sha256 i (some prevEntry) entries).isValid = true ↔
      (scheme sha256).Linked prevEntry.currentHash entries := by
  induction entries generalizing i prevEntry with
  | nil => simp [verifyLoop, HashChain.Scheme.Linked]
  | cons entry rest ih =>
      rw [verifyLoop, scheme_linked_cons]
      by_cases hhash : entry.currentHash = calculateEntryHash sha256 entry
      · by_cases hlink : entry.previousHash = prevEntry.currentHash
        · simp [brokenLink?, hlink, ← hhash, ih]
        · simp [brokenLink?, hlink, ← hhash]
      · simp [hhash]

/-- `verify_chain` accepts exactly the lists that are linked from the genesis
hash on. -/
theorem verifyChain_isValid_iff (sha256 : Sha256) (self : AuditChain) :
    (self.verifyChain sha256).isValid = true ↔
      (scheme sha256).Linked genesisHash self.chain := by
  simp only [AuditChain.verifyChain]
  rcases self.chain with _ | ⟨first, rest⟩
  · simp [HashChain.Scheme.Linked]
  · rw [scheme_linked_cons]
    by_cases hgenesis : first.previousHash = genesisHash
    · by_cases hhash : first.currentHash = calculateEntryHash sha256 first
      · simp [hgenesis, verifyLoop, brokenLink?, ← hhash, verifyLoop_isValid_iff]
      · simp [hgenesis, verifyLoop, hhash]
    · simp [hgenesis]

theorem addEntry_chain (sha256 : Sha256) (draw : Draw) (eventType payload : ByteString)
    (self : AuditChain) :
    ∃ entry, (self.addEntry sha256 draw eventType payload).2.chain = self.chain ++ [entry] ∧
      entry.eventType = eventType ∧ entry.payload = payload ∧
      entry.previousHash = self.getChainHeadHash ∧
      entry.currentHash = calculateEntryHash sha256 entry :=
  ⟨_, rfl, rfl, rfl, rfl, rfl⟩

theorem addEntry_linked {sha256 : Sha256} {self : AuditChain}
    (hlinked : (scheme sha256).Linked genesisHash self.chain) (draw : Draw)
    (eventType payload : ByteString) :
    (scheme sha256).Linked genesisHash
      (self.addEntry sha256 draw eventType payload).2.chain := by
  obtain ⟨entry, hchain, -, -, hprevious, hcurrent⟩ :=
    addEntry_chain sha256 draw eventType payload self
  rw [hchain, HashChain.Scheme.linked_concat]
  refine ⟨hlinked, ?_, hcurrent⟩
  rw [← getChainHeadHash_eq_head]
  exact hprevious

structure AddEntryCall where
  eventType : ByteString
  payload : ByteString
deriving DecidableEq

def addEntrySection (sha256 : Sha256) (self : AuditChain) (call : AddEntryCall)
    (draw : Draw) : AuditChain :=
  (self.addEntry sha256 draw call.eventType call.payload).2

def addEntries (sha256 : Sha256) (calls : List (AddEntryCall × Draw)) : AuditChain :=
  calls.foldl (fun self call => addEntrySection sha256 self call.1 call.2) {}

theorem addEntries_concat (sha256 : Sha256) (calls : List (AddEntryCall × Draw))
    (call : AddEntryCall × Draw) :
    addEntries sha256 (calls ++ [call]) =
      addEntrySection sha256 (addEntries sha256 calls) call.1 call.2 := by
  simp [addEntries]

theorem addEntries_linked (sha256 : Sha256) (calls : List (AddEntryCall × Draw)) :
    (scheme sha256).Linked genesisHash (addEntries sha256 calls).chain := by
  induction calls using List.reverseRecOn with
  | nil => trivial
  | append_singleton calls call ih =>
      rw [addEntries_concat]
      exact addEntry_linked ih _ _ _

theorem addEntries_contents (sha256 : Sha256) (calls : List (AddEntryCall × Draw)) :
    (addEntries sha256 calls).chain.map (fun entry => (entry.eventType, entry.payload)) =
      calls.map fun call => (call.1.eventType, call.1.payload) := by
  induction calls using List.reverseRecOn with
  | nil => rfl
  | append_singleton calls call ih =>
      obtain ⟨entry, hchain, htype, hpayload, -, -⟩ :=
        addEntry_chain sha256 call.2 call.1.eventType call.1.payload
          (addEntries sha256 calls)
      rw [addEntries_concat, addEntrySection, hchain, List.map_append, List.map_append, ih]
      simp [htype, hpayload]

end Astartis.Audit
