import Std.Data.TreeMap
import Astartis.AuditChain

namespace Astartis.Versioning

open Audit

structure RecordVersion where
  recordId : ByteString
  versionNumber : UInt64
  timestamp : Int64
  data : ByteString
  author : ByteString
  versionHash : ByteString
deriving DecidableEq

structure VersionResult where
  ok : Bool
  error : ByteString
  versionNumber : UInt64
deriving DecidableEq

/-- What a `VersionStore` is constructed with, over the state the two callables work on. -/
structure Callbacks (σ : Type) where
  auditAdder : AuditAdder σ
  lockCheck : σ → Bool

structure VersionStore where
  store : Std.TreeMap ByteString (List RecordVersion) := {}

def RecordVersion.text (v : RecordVersion) : ByteString :=
  v.recordId ++ ByteString.decimal v.versionNumber.toNat ++
    ByteString.decimal v.timestamp.toInt ++ v.data ++ v.author

def calculateVersionHash (sha256 : Sha256) (v : RecordVersion) : ByteString :=
  ByteString.hexEncode (sha256 v.text).toList

namespace VersionStore

variable {σ : Type} (sha256 : Sha256)

def getHistory (recordId : ByteString) (self : VersionStore) : List RecordVersion :=
  self.store[recordId]?.getD []

/-- The version that the section of a write appends. -/
def nextVersion (now : Int64) (recordId data author : ByteString) (self : VersionStore) :
    RecordVersion :=
  let v : RecordVersion :=
    { recordId := recordId
      versionNumber := UInt64.ofNat (self.getHistory recordId).length + 1
      timestamp := now
      data := data
      author := author
      versionHash := [] }
  { v with versionHash := calculateVersionHash sha256 v }

/-- The part of `write` behind the mutex. -/
def commit (auditAdder : AuditAdder σ) (now : Int64) (recordId data author : ByteString)
    (self : VersionStore) (world : σ) : VersionResult × VersionStore × σ :=
  let v := self.nextVersion sha256 now recordId data author
  let payload := ("record_id=" : ByteString) ++ recordId ++
    (" version=" : ByteString) ++ ByteString.decimal v.versionNumber.toNat ++
    (" author=" : ByteString) ++ author ++
    (" hash=" : ByteString) ++ v.versionHash
  (⟨true, [], v.versionNumber⟩,
    { store := self.store.insert recordId (self.getHistory recordId ++ [v]) },
    (auditAdder "version_write" payload world).2)

def write (callbacks : Callbacks σ) (now : Int64) (recordId data author : ByteString)
    (self : VersionStore) (world : σ) : VersionResult × VersionStore × σ :=
  if recordId = [] then (⟨false, "record_id must not be empty", 0⟩, self, world)
  else if callbacks.lockCheck world then
    (⟨false, "write blocked: WORM lockdown is active", 0⟩, self, world)
  else self.commit sha256 callbacks.auditAdder now recordId data author world

def readCurrent (recordId : ByteString) (self : VersionStore) :
    VersionResult × Option RecordVersion :=
  match (self.getHistory recordId).getLast? with
  | none => (⟨false, ("record not found: " : ByteString) ++ recordId, 0⟩, none)
  | some out => (⟨true, [], out.versionNumber⟩, some out)

def readVersion (recordId : ByteString) (versionNumber : UInt64) (self : VersionStore) :
    VersionResult × Option RecordVersion :=
  match self.getHistory recordId with
  | [] => (⟨false, ("record not found: " : ByteString) ++ recordId, 0⟩, none)
  | history =>
      if versionNumber = 0 then (⟨false, "version_number out of range", 0⟩, none)
      else
        match history[versionNumber.toNat - 1]? with
        | none => (⟨false, "version_number out of range", 0⟩, none)
        | some out => (⟨true, [], out.versionNumber⟩, some out)

def recordCount (self : VersionStore) : Nat :=
  self.store.size

def totalVersionCount (self : VersionStore) : Nat :=
  (self.store.toList.map fun kv => kv.2.length).sum

end VersionStore

end Astartis.Versioning
