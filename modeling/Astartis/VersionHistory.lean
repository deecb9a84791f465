import Astartis.VersionStore
import Astartis.TransitionSystem

/-!
Histories of records.  The versions that the accepted writes of a run have committed, in this
order, determine the store and the audit log.
-/

namespace Astartis.Versioning

open Audit
open TransitionSystem

variable {σ : Type} (sha256 : Sha256) (auditAdder : AuditAdder σ)

/-- A call of `write`, with what `lock_check_` answers it and the clock shows it. -/
structure Write where
  blocked : Bool
  now : Int64
  recordId : ByteString
  data : ByteString
  author : ByteString

/-- A store and the state in which its audit log is. -/
structure Audited (σ : Type) where
  store : VersionStore := {}
  world : σ

def Write.perform (op : Write) (s : Audited σ) : VersionResult × Audited σ :=
  let (result, store, world) := s.store.write sha256 ⟨auditAdder, fun _ => op.blocked⟩ op.now
    op.recordId op.data op.author s.world
  (result, ⟨store, world⟩)

/-- The version a write would append. -/
def Write.version (op : Write) (s : Audited σ) : RecordVersion :=
  s.store.nextVersion sha256 op.now op.recordId op.data op.author

def Write.isAccepted (op : Write) : Bool :=
  op.recordId ≠ [] && !op.blocked

/-- Runs of a new store. -/
def versionSystem (world : σ) : System (Audited σ) Write where
  Init := fun s => s = ⟨{}, world⟩
  Step := fun s op s' => s' = (op.perform sha256 auditAdder s).2

/-- What the accepted writes have committed. -/
def committed (steps : List (Transition (Audited σ) Write)) : List RecordVersion :=
  (steps.filter fun t => t.label.isAccepted).map fun t => t.label.version sha256 t.before

/-- The payload of the `version_write` entry of a version. -/
def RecordVersion.auditPayload (v : RecordVersion) : ByteString :=
  ("record_id=" : ByteString) ++ v.recordId ++
    (" version=" : ByteString) ++ ByteString.decimal v.versionNumber.toNat ++
    (" author=" : ByteString) ++ v.author ++
    (" hash=" : ByteString) ++ v.versionHash

def auditVersion (world : σ) (v : RecordVersion) : σ :=
  (auditAdder "version_write" v.auditPayload world).2

/-- The numbers 1 to n. -/
def versionNumbers (n : Nat) : List UInt64 :=
  (List.range n).map fun i => UInt64.ofNat (i + 1)

section Store

variable {recordId : ByteString} {self : VersionStore}

theorem VersionStore.getHistory_insert {id : ByteString} {history : List RecordVersion} :
    VersionStore.getHistory id { store := self.store.insert recordId history } =
      if recordId = id then history else self.getHistory id := by
  simp only [getHistory, Std.TreeMap.getElem?_insert]
  by_cases heq : recordId = id
  · simp [heq]
  · have hcompare : compare recordId id ≠ .eq := fun h => heq (Std.LawfulEqCmp.eq_of_compare h)
    simp [heq, hcompare]

theorem VersionStore.readCurrent_eq :
    (self.readCurrent recordId).2 = (self.getHistory recordId).getLast? ∧
      ((self.readCurrent recordId).1.ok = true ↔ self.getHistory recordId ≠ []) := by
  simp only [readCurrent]
  cases hlast : (self.getHistory recordId).getLast? with
  | none => simp [List.getLast?_eq_none_iff.mp hlast]
  | some out =>
      refine ⟨rfl, iff_of_true rfl ?_⟩
      rintro hempty
      simp [hempty] at hlast

/-- A version is read where its number points to. -/
theorem VersionStore.readVersion_eq_some_iff {versionNumber : UInt64} {v : RecordVersion} :
    (self.readVersion recordId versionNumber).2 = some v ↔
      versionNumber ≠ 0 ∧ (self.getHistory recordId)[versionNumber.toNat - 1]? = some v := by
  simp only [readVersion]
  split
  · rename_i hempty
    simp [hempty]
  · rename_i history _
    split
    · rename_i hzero
      simp [hzero]
    · rename_i hpositive
      cases hfound : (self.getHistory recordId)[versionNumber.toNat - 1]? with
      | none => simp
      | some out => simp [hpositive]

/-- What has been read once is read again from a longer history. -/
theorem VersionStore.readVersion_extends {later : VersionStore} {versionNumber : UInt64}
    {v : RecordVersion} (hread : (self.readVersion recordId versionNumber).2 = some v)
    (hextends : self.getHistory recordId <+: later.getHistory recordId) :
    (later.readVersion recordId versionNumber).2 = some v := by
  obtain ⟨hpositive, hfound⟩ := readVersion_eq_some_iff.mp hread
  obtain ⟨rest, hrest⟩ := hextends
  obtain ⟨hlt, -⟩ := List.getElem?_eq_some_iff.mp hfound
  refine readVersion_eq_some_iff.mpr ⟨hpositive, ?_⟩
  rw [← hrest, List.getElem?_append_left hlt, hfound]

end Store

section Steps

variable {op : Write} {s : Audited σ}

theorem Write.perform_rejected (hrejected : op.isAccepted = false) :
    (op.perform sha256 auditAdder s).1.ok = false ∧ (op.perform sha256 auditAdder s).2 = s := by
  simp only [perform, VersionStore.write]
  split
  · exact ⟨rfl, rfl⟩
  · rename_i hid
    have hblocked : op.blocked = true := by simpa [isAccepted, hid] using hrejected
    simp only [hblocked, if_true, and_self]

theorem Write.perform_accepted (haccepted : op.isAccepted = true) :
    (op.perform sha256 auditAdder s).1.ok = true ∧
      (op.perform sha256 auditAdder s).2.world =
        auditVersion auditAdder s.world (op.version sha256 s) ∧
      ∀ id, (op.perform sha256 auditAdder s).2.store.getHistory id =
        if op.recordId = id then s.store.getHistory id ++ [op.version sha256 s]
        else s.store.getHistory id := by
  have hboth : op.recordId ≠ [] ∧ op.blocked = false := by simpa [isAccepted] using haccepted
  simp only [perform, VersionStore.write, hboth.1, hboth.2, if_false, Bool.false_eq_true,
    VersionStore.commit]
  refine ⟨trivial, rfl, fun id => ?_⟩
  rw [VersionStore.getHistory_insert]
  split
  · rename_i heq
    rw [← heq]
    rfl
  · rfl

theorem versionNumbers_succ (n : Nat) :
    versionNumbers (n + 1) = versionNumbers n ++ [UInt64.ofNat n + 1] := by
  simp only [versionNumbers, List.range_succ, List.map_append, List.map_cons, List.map_nil,
    UInt64.ofNat_add]
  rfl

/-- The store holds the committed versions by record and in order, the log has one entry for
each. -/
structure Represents (world : σ) (versions : List RecordVersion) (s : Audited σ) : Prop where
  history : ∀ id, s.store.getHistory id = versions.filter fun v => v.recordId = id
  numbered : ∀ id, (s.store.getHistory id).map (·.versionNumber) =
    versionNumbers (s.store.getHistory id).length
  audit : s.world = versions.foldl (auditVersion auditAdder) world

theorem committed_concat (steps : List (Transition (Audited σ) Write)) (s' : Audited σ) :
    committed sha256 (steps ++ [⟨s, op, s'⟩]) =
      committed sha256 steps ++ if op.isAccepted then [op.version sha256 s] else [] := by
  simp only [committed, List.filter_append, List.map_append]
  cases h : op.isAccepted with
  | true => simp [h]
  | false => simp [h]

theorem Represents.step {world : σ} {versions : List RecordVersion}
    (hrepresents : Represents auditAdder world versions s) :
    Represents auditAdder world
      (versions ++ if op.isAccepted then [op.version sha256 s] else [])
      (op.perform sha256 auditAdder s).2 := by
  cases haccepted : op.isAccepted with
  | false =>
      rw [(Write.perform_rejected sha256 auditAdder haccepted).2]
      simpa using hrepresents
  | true =>
      obtain ⟨-, hworld, hhistory⟩ := Write.perform_accepted sha256 auditAdder (s := s) haccepted
      refine ⟨fun id => ?_, fun id => ?_, ?_⟩
      · rw [hhistory, hrepresents.history, if_pos rfl, List.filter_append]
        by_cases hid : op.recordId = id
        · have hversion : (op.version sha256 s).recordId = id := hid
          simp [hid, hversion]
        · have hversion : (op.version sha256 s).recordId ≠ id := hid
          simp [hid, hversion]
      · rw [hhistory]
        by_cases hid : op.recordId = id
        · have hnumber : (op.version sha256 s).versionNumber =
              UInt64.ofNat (s.store.getHistory id).length + 1 := by rw [← hid]; rfl
          rw [if_pos hid, List.map_append, hrepresents.numbered, List.length_append,
            List.length_singleton, versionNumbers_succ, List.map_singleton, hnumber]
        · rw [if_neg hid, hrepresents.numbered]
      · rw [if_pos rfl, List.foldl_append, hworld, hrepresents.audit]
        rfl

theorem represents_of_trace {world : σ} {steps : List (Transition (Audited σ) Write)}
    (htrace : Trace (versionSystem sha256 auditAdder world) steps s) :
    Represents auditAdder world (committed sha256 steps) s := by
  refine htrace.history_invariant
    (I := fun steps s => Represents auditAdder world (committed sha256 steps) s) ?_ ?_
  · rintro s rfl
    exact ⟨fun id => rfl, fun id => rfl, rfl⟩
  · rintro steps s op s' ih rfl
    rw [committed_concat]
    exact ih.step sha256 auditAdder

/-- Record and number of a version that can be read. -/
theorem Represents.read {world : σ} {versions : List RecordVersion}
    (hrepresents : Represents auditAdder world versions s) {id : ByteString} {number : UInt64}
    {v : RecordVersion} (hread : (s.store.readVersion id number).2 = some v) :
    v.recordId = id ∧ v.versionNumber = number := by
  obtain ⟨hpositive, hfound⟩ := VersionStore.readVersion_eq_some_iff.mp hread
  constructor
  · have hmem := List.mem_of_getElem? hfound
    rw [hrepresents.history, List.mem_filter] at hmem
    exact of_decide_eq_true hmem.2
  · have hnumber := congrArg (·[number.toNat - 1]?) (hrepresents.numbered id)
    obtain ⟨hlt, -⟩ := List.getElem?_eq_some_iff.mp hfound
    have hpred : number.toNat - 1 + 1 = number.toNat := by
      have hzero : number.toNat ≠ 0 := fun h => hpositive (UInt64.toNat_inj.mp h)
      omega
    simp only [List.getElem?_map, hfound, Option.map_some, versionNumbers,
      List.getElem?_range hlt, hpred, UInt64.ofNat_toNat, Option.some.injEq] at hnumber
    exact hnumber

end Steps

/-- What holds of the histories after a run. -/
structure HistoryKept (world : σ) (steps : List (Transition (Audited σ) Write))
    (s : Audited σ) : Prop where
  represents : Represents auditAdder world (committed sha256 steps) s
  appendOnly : ∀ t ∈ steps, ∀ id, t.before.store.getHistory id <+: s.store.getHistory id
  readVersion : ∀ t ∈ steps, ∀ id number v,
    (t.before.store.readVersion id number).2 = some v →
      (s.store.readVersion id number).2 = some v ∧ v.recordId = id ∧ v.versionNumber = number
  readCurrent : ∀ id, (s.store.readCurrent id).2 = (s.store.getHistory id).getLast?
  accepted : ∀ t ∈ steps,
    (t.label.perform sha256 auditAdder t.before).1.ok = t.label.isAccepted
  rejected : ∀ t ∈ steps, t.label.isAccepted = false → t.after = t.before

/-- Histories only grow. -/
theorem history_prefix {world : σ} {steps : List (Transition (Audited σ) Write)}
    {s : Audited σ} (htrace : Trace (versionSystem sha256 auditAdder world) steps s) :
    ∀ t ∈ steps, ∀ id, t.before.store.getHistory id <+: s.store.getHistory id := by
  refine htrace.before_related
    (R := fun s s' => ∀ id, s.store.getHistory id <+: s'.store.getHistory id) ?_ ?_
  · intro a b c hab hbc id
    exact (hab id).trans (hbc id)
  · rintro s op s' rfl id
    cases haccepted : op.isAccepted with
    | false => rw [(Write.perform_rejected sha256 auditAdder haccepted).2]
    | true =>
        rw [(Write.perform_accepted sha256 auditAdder (s := s) haccepted).2.2]
        split
        · exact List.prefix_append _ _
        · exact List.prefix_refl _

/-- One write falls into a lockdown. -/
def threeWrites : List Write :=
  [⟨false, 1000, "invoice", "100", "alice"⟩, ⟨true, 2000, "invoice", "900", "mallory"⟩,
    ⟨false, 3000, "invoice", "110", "alice"⟩]

end Astartis.Versioning
