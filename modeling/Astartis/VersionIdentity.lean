import Astartis.AuditIntegrity
import Astartis.VersionHistory

/-!
Which versions share a hash.  The digested text has the fields of a version one behind the
other, so it fixes them only together with their lengths.
-/

namespace Astartis.Versioning

open Audit
open TransitionSystem

namespace RecordVersion

/-- The fields that are digested. -/
def contents (v : RecordVersion) : ByteString × UInt64 × Int64 × ByteString × ByteString :=
  (v.recordId, v.versionNumber, v.timestamp, v.data, v.author)

/-- How long the fields in front of the author are in the digested text. -/
def boundaries (v : RecordVersion) : Nat × Nat × Nat × Nat :=
  (v.recordId.length, (ByteString.decimal v.versionNumber.toNat).length,
    (ByteString.decimal v.timestamp.toInt).length, v.data.length)

variable {v w : RecordVersion}

theorem boundaries_eq_of_contents (hcontents : v.contents = w.contents) :
    v.boundaries = w.boundaries := by
  simp only [contents, Prod.mk.injEq] at hcontents
  obtain ⟨hid, hnumber, htime, hdata, -⟩ := hcontents
  rw [boundaries, boundaries, hid, hnumber, htime, hdata]

/-- The digested text determines the fields as soon as their boundaries are known. -/
theorem contents_eq_of_text (htext : v.text = w.text)
    (hboundaries : v.boundaries = w.boundaries) : v.contents = w.contents := by
  simp only [boundaries, Prod.mk.injEq] at hboundaries
  obtain ⟨hid, hnumber, htime, hdata⟩ := hboundaries
  simp only [text, List.append_assoc] at htext
  obtain ⟨hrecordId, htext⟩ := List.append_inj htext hid
  obtain ⟨hversionNumber, htext⟩ := List.append_inj htext hnumber
  obtain ⟨htimestamp, htext⟩ := List.append_inj htext htime
  obtain ⟨hdata, hauthor⟩ := List.append_inj htext hdata
  have hversion : v.versionNumber = w.versionNumber :=
    UInt64.toNat_inj.mp (Int.ofNat_inj.mp (ByteString.decimal_injective hversionNumber))
  have htime : v.timestamp = w.timestamp :=
    Int64.toInt.inj (ByteString.decimal_injective htimestamp)
  rw [contents, contents, hrecordId, hversion, htime, hdata, hauthor]

end RecordVersion

section Created

variable {σ : Type} (sha256 : Sha256) (auditAdder : AuditAdder σ)

/-- Some write of some run of a new store has committed the version. -/
def Created (v : RecordVersion) : Prop :=
  ∃ (world : σ) (steps : List (Transition (Audited σ) Write)) (s : Audited σ),
    Trace (versionSystem sha256 auditAdder world) steps s ∧ v ∈ committed sha256 steps

variable {sha256 auditAdder}

theorem Created.sealed {v : RecordVersion} (hcreated : Created sha256 auditAdder v) :
    v.versionHash = calculateVersionHash sha256 v := by
  obtain ⟨world, steps, s, -, hv⟩ := hcreated
  obtain ⟨t, -, rfl⟩ := List.mem_map.mp hv
  rfl

theorem created_of_mem {writes : List Write} {world : σ} {v : RecordVersion}
    (hv : v ∈ committed sha256
      (execute (fun s op => (op.perform sha256 auditAdder s).2) ⟨{}, world⟩ writes)) :
    Created sha256 auditAdder v :=
  ⟨world, _, _, trace_execute_of _ _ rfl fun _ _ _ => rfl, hv⟩

theorem versionHash_eq_iff {v w : RecordVersion} (hv : Created sha256 auditAdder v)
    (hw : Created sha256 auditAdder w) (hcollision : CollisionFree sha256 [v.text, w.text]) :
    v.versionHash = w.versionHash ↔ v.text = w.text := by
  rw [hv.sealed, hw.sealed]
  constructor
  · intro hhash
    exact hcollision _ (by simp) _ (by simp)
      (Vector.toList_inj.mp (ByteString.hexEncode_injective hhash))
  · intro htext
    rw [calculateVersionHash, calculateVersionHash, htext]

end Created

/-- The hashes of two versions that `write` can create tell them apart exactly if no byte can
move between neighbouring fields: where the two digested texts coincide, so do the lengths of
their fields. -/
theorem versionHash_identifies_iff {σ : Type} (sha256 : Sha256) (auditAdder : AuditAdder σ)
    (v w : RecordVersion) (hv : Created sha256 auditAdder v) (hw : Created sha256 auditAdder w)
    (hcollision : CollisionFree sha256 [v.text, w.text]) :
    (v.versionHash = w.versionHash →
        v.recordId = w.recordId ∧ v.versionNumber = w.versionNumber ∧
          v.timestamp = w.timestamp ∧ v.data = w.data ∧ v.author = w.author) ↔
      (v.text = w.text → v.boundaries = w.boundaries) := by
  have hcontents : v.contents = w.contents ↔
      v.recordId = w.recordId ∧ v.versionNumber = w.versionNumber ∧
        v.timestamp = w.timestamp ∧ v.data = w.data ∧ v.author = w.author := by
    simp only [RecordVersion.contents, Prod.mk.injEq]
  rw [← hcontents, versionHash_eq_iff hv hw hcollision]
  constructor
  · intro hidentifies htext
    exact RecordVersion.boundaries_eq_of_contents (hidentifies htext)
  · intro hboundaries htext
    exact RecordVersion.contents_eq_of_text htext (hboundaries htext)

def versionSha256 (text : ByteString) : Vector UInt8 32 :=
  if text = ("invoice111700000000000100alice" : ByteString) then
    #v[19, 53, 136, 78, 34, 42, 16, 47, 246, 123, 179, 186, 246, 82, 70, 122,
      91, 187, 144, 22, 152, 46, 155, 212, 229, 126, 132, 255, 133, 210, 57, 238]
  else Vector.replicate 32 0

/-- Eleven writes to one record, and in the same millisecond one to a record whose name
continues like the eleventh version number. -/
def invoiceWrites : List Write :=
  List.replicate 11 ⟨false, 1700000000000, "invoice", "100", "alice"⟩ ++
    [⟨false, 1700000000000, "invoice1", "100", "alice"⟩]

def invoiceVersion (recordId : ByteString) (number : UInt64) : RecordVersion where
  recordId := recordId
  versionNumber := number
  timestamp := 1700000000000
  data := "100"
  author := "alice"
  versionHash := "1335884e222a102ff67bb3baf652467a5bbb9016982e9bd4e57e84ff85d239ee"

theorem invoiceVersions_mem :
    invoiceVersion "invoice" 11 ∈ committed versionSha256
        (execute (fun s op => (op.perform versionSha256 noteEntry s).2) ⟨{}, []⟩
          invoiceWrites) ∧
      invoiceVersion "invoice1" 1 ∈ committed versionSha256
        (execute (fun s op => (op.perform versionSha256 noteEntry s).2) ⟨{}, []⟩
          invoiceWrites) := by
  decide +kernel

theorem invoice_identified_iff :
    let v := invoiceVersion "invoice" 11
    let w := invoiceVersion "invoice1" 1
    (v.versionHash = w.versionHash →
        v.recordId = w.recordId ∧ v.versionNumber = w.versionNumber ∧
          v.timestamp = w.timestamp ∧ v.data = w.data ∧ v.author = w.author) ↔
      (v.text = w.text → v.boundaries = w.boundaries) :=
  versionHash_identifies_iff versionSha256 noteEntry _ _
    (created_of_mem invoiceVersions_mem.1) (created_of_mem invoiceVersions_mem.2)
    (by decide +kernel)

/-- Two records of one store with the same hash. -/
theorem invoices_share_hash :
    ∃ v w, Created versionSha256 noteEntry v ∧ Created versionSha256 noteEntry w ∧
      CollisionFree versionSha256 [v.text, w.text] ∧ v.versionHash = w.versionHash ∧
      v.recordId ≠ w.recordId ∧ v.versionNumber ≠ w.versionNumber :=
  ⟨_, _, created_of_mem invoiceVersions_mem.1, created_of_mem invoiceVersions_mem.2,
    by decide +kernel, by decide +kernel, by decide +kernel, by decide +kernel⟩

end Astartis.Versioning
