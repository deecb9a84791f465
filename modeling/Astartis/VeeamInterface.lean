import Astartis.AuditChain

namespace Astartis.Backup

open Audit

inductive BackupLockState
  | unlocked
  | immutable
  | complianceLock
deriving DecidableEq

structure BackupLockResult where
  success : Bool
  lockState : BackupLockState
  repoId : ByteString
  backupCount : Int
  lockedAtMs : Int64
  lockedByReason : ByteString
  errorMessage : ByteString
  auditEntryId : ByteString

structure IntegrityCheckResult where
  passed : Bool
  checkedCount : Int
  violationsFound : Int
  checkedAtMs : Int64
  auditEntryId : ByteString

structure BackupRepoStatus where
  repoId : ByteString
  lockState : BackupLockState
  backupCount : Int
  lockedAtMs : Int64
  lockedByReason : ByteString
  integrityCheckCount : Int
  lastIntegrityCheckMs : Int64

def stubRepoId : ByteString := "astartis-demo-repo-01"

def stubBackupCount : Int := 47

structure StubBackupRepo where
  lockState : BackupLockState := .unlocked
  backupCount : Int := stubBackupCount
  lockedAtMs : Int64 := 0
  lockedByReason : ByteString := []
  integrityCheckCount : Int := 0
  lastIntegrityCheckMs : Int64 := 0
deriving DecidableEq

structure VeeamInterface where
  repo : StubBackupRepo := {}
deriving DecidableEq

def lockStateStr : BackupLockState → ByteString
  | .unlocked => "UNLOCKED"
  | .immutable => "IMMUTABLE"
  | .complianceLock => "COMPLIANCE_LOCK"

namespace VeeamInterface

variable {σ : Type} (auditAdder : AuditAdder σ)

def lockBackups (now : Int64) (reason : ByteString) (self : VeeamInterface) (world : σ) :
    BackupLockResult × VeeamInterface × σ :=
  if self.repo.lockState ≠ .unlocked then
    ({ success := false
       lockState := self.repo.lockState
       repoId := stubRepoId
       backupCount := self.repo.backupCount
       lockedAtMs := self.repo.lockedAtMs
       lockedByReason := self.repo.lockedByReason
       errorMessage := "already_locked"
       auditEntryId := [] }, self, world)
  else
    let repo := { self.repo with
      lockState := .immutable
      lockedAtMs := now
      lockedByReason := reason }
    let payload := ("repo_id=\"" : ByteString) ++ stubRepoId ++ ("\"" : ByteString) ++
      (" backup_count=" : ByteString) ++ ByteString.decimal repo.backupCount ++
      (" reason=\"" : ByteString) ++ reason ++ ("\"" : ByteString) ++
      (" locked_at_ms=" : ByteString) ++ ByteString.decimal repo.lockedAtMs.toInt
    let (auditEntryId, world) := auditAdder "veeam_backup_locked" payload world
    ({ success := true
       lockState := repo.lockState
       repoId := stubRepoId
       backupCount := repo.backupCount
       lockedAtMs := repo.lockedAtMs
       lockedByReason := repo.lockedByReason
       errorMessage := []
       auditEntryId := auditEntryId }, { repo := repo }, world)

/-- `unlock_backups`.  The source leaves `locked_at_ms` of the result unset. -/
def unlockBackups (authority : ByteString) (self : VeeamInterface) (world : σ) :
    BackupLockResult × VeeamInterface × σ :=
  let refused (errorMessage : ByteString) : BackupLockResult :=
    { success := false
      lockState := self.repo.lockState
      repoId := stubRepoId
      backupCount := self.repo.backupCount
      lockedAtMs := 0
      lockedByReason := []
      errorMessage := errorMessage
      auditEntryId := [] }
  match self.repo.lockState with
  | .unlocked => (refused "already_unlocked", self, world)
  | .complianceLock => (refused "compliance_lock_requires_retention_expiry", self, world)
  | .immutable =>
      let repo := { self.repo with
        lockState := .unlocked
        lockedAtMs := 0
        lockedByReason := [] }
      let payload := ("repo_id=\"" : ByteString) ++ stubRepoId ++ ("\"" : ByteString) ++
        (" authority=\"" : ByteString) ++ authority ++ ("\"" : ByteString)
      let (auditEntryId, world) := auditAdder "veeam_backup_unlocked" payload world
      ({ success := true
         lockState := .unlocked
         repoId := stubRepoId
         backupCount := repo.backupCount
         lockedAtMs := 0
         lockedByReason := []
         errorMessage := []
         auditEntryId := auditEntryId }, { repo := repo }, world)

def integrityCheck (now : Int64) (self : VeeamInterface) (world : σ) :
    IntegrityCheckResult × VeeamInterface × σ :=
  let repo := { self.repo with
    integrityCheckCount := self.repo.integrityCheckCount + 1
    lastIntegrityCheckMs := now }
  let payload := ("repo_id=\"" : ByteString) ++ stubRepoId ++ ("\"" : ByteString) ++
    (" checked=" : ByteString) ++ ByteString.decimal repo.backupCount ++
    (" violations=0" : ByteString) ++
    (" check_num=" : ByteString) ++ ByteString.decimal repo.integrityCheckCount
  let (auditEntryId, world) := auditAdder "veeam_integrity_check" payload world
  ({ passed := true
     checkedCount := repo.backupCount
     violationsFound := 0
     checkedAtMs := repo.lastIntegrityCheckMs
     auditEntryId := auditEntryId }, { repo := repo }, world)

def status (self : VeeamInterface) : BackupRepoStatus where
  repoId := stubRepoId
  lockState := self.repo.lockState
  backupCount := self.repo.backupCount
  lockedAtMs := self.repo.lockedAtMs
  lockedByReason := self.repo.lockedByReason
  integrityCheckCount := self.repo.integrityCheckCount
  lastIntegrityCheckMs := self.repo.lastIntegrityCheckMs

def isLocked (self : VeeamInterface) : Bool :=
  self.repo.lockState ≠ .unlocked

@[simp] theorem lockBackups_isLocked (now : Int64) (reason : ByteString)
    (self : VeeamInterface) (world : σ) :
    (self.lockBackups auditAdder now reason world).2.1.isLocked = true := by
  simp only [lockBackups]
  split
  · simpa [isLocked]
  · rfl

theorem lockBackups_observe {β : Type} {auditAdder : AuditAdder σ} {observe : σ → β}
    (hunseen : Unseen auditAdder observe) (now : Int64) (reason : ByteString)
    (self : VeeamInterface) (world : σ) :
    observe (self.lockBackups auditAdder now reason world).2.2 = observe world := by
  simp only [lockBackups]
  split
  · rfl
  · exact hunseen _ _ _

/-- Compliance mode is the only lock `unlock_backups` does not lift. -/
theorem unlockBackups_isLocked_iff (authority : ByteString) (self : VeeamInterface)
    (world : σ) :
    (self.unlockBackups auditAdder authority world).2.1.isLocked = true ↔
      self.repo.lockState = .complianceLock := by
  simp only [unlockBackups]
  split <;> simp_all [isLocked]

end VeeamInterface

end Astartis.Backup
