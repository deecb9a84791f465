import Astartis.AuditChain

namespace Astartis.Worm

open Audit

inductive State
  | normal
  | locked
deriving DecidableEq

structure WormLock where
  state : State := .normal
  lockReason : ByteString := []
  lockdownCount : UInt64 := 0
deriving DecidableEq

namespace WormLock

variable {σ : Type} (auditAdder : AuditAdder σ)

def isLocked (self : WormLock) : Bool :=
  self.state = .locked

def triggerLockdown (reason : ByteString) (self : WormLock) (world : σ) :
    Bool × WormLock × σ :=
  if self.state = .locked then (false, self, world)
  else
    let self := { self with
      state := .locked
      lockReason := reason
      lockdownCount := self.lockdownCount + 1 }
    let payload := ("reason=\"" : ByteString) ++ reason ++ ("\"" : ByteString) ++
      (" lockdown_count=" : ByteString) ++ ByteString.decimal self.lockdownCount.toNat
    (true, self, (auditAdder "worm_lock_engaged" payload world).2)

def unlock (authority : ByteString) (self : WormLock) (world : σ) :
    Bool × WormLock × σ :=
  if self.state = .normal then (false, self, world)
  else
    let self := { self with state := .normal }
    let payload := ("authority=\"" : ByteString) ++ authority ++ ("\"" : ByteString) ++
      (" previous_reason=\"" : ByteString) ++ self.lockReason ++ ("\"" : ByteString)
    (true, self, (auditAdder "worm_lock_lifted" payload world).2)

@[simp] theorem triggerLockdown_isLocked (reason : ByteString) (self : WormLock)
    (world : σ) : (self.triggerLockdown auditAdder reason world).2.1.isLocked = true := by
  simp only [triggerLockdown]
  split
  · simpa [isLocked]
  · rfl

@[simp] theorem unlock_isLocked (authority : ByteString) (self : WormLock) (world : σ) :
    (self.unlock auditAdder authority world).2.1.isLocked = false := by
  simp only [unlock]
  split
  · simp [isLocked, *]
  · rfl

theorem triggerLockdown_fst (reason : ByteString) (self : WormLock) (world : σ) :
    (self.triggerLockdown auditAdder reason world).1 = !self.isLocked := by
  unfold triggerLockdown isLocked
  split <;> simp_all

end WormLock

/-- The lock together with the state its audit adder works on, the world that
the threat components are wired to. -/
structure Lockdown (σ : Type) where
  worm : WormLock := {}
  audit : σ

namespace Lockdown

variable {σ : Type} (auditAdder : AuditAdder σ)

def isLocked (self : Lockdown σ) : Bool :=
  self.worm.isLocked

def addEntry : AuditAdder (Lockdown σ) := fun eventType payload self =>
  let (entryId, audit) := auditAdder eventType payload self.audit
  (entryId, { self with audit := audit })

def trigger (reason : ByteString) (self : Lockdown σ) : Lockdown σ :=
  let (_, worm, audit) := self.worm.triggerLockdown auditAdder reason self.audit
  { worm := worm, audit := audit }

def lift (authority : ByteString) (self : Lockdown σ) : Lockdown σ :=
  let (_, worm, audit) := self.worm.unlock auditAdder authority self.audit
  { worm := worm, audit := audit }

@[simp] theorem trigger_isLocked (reason : ByteString) (self : Lockdown σ) :
    (self.trigger auditAdder reason).isLocked = true :=
  WormLock.triggerLockdown_isLocked auditAdder reason self.worm self.audit

@[simp] theorem lift_isLocked (authority : ByteString) (self : Lockdown σ) :
    (self.lift auditAdder authority).isLocked = false :=
  WormLock.unlock_isLocked auditAdder authority self.worm self.audit

end Lockdown

end Astartis.Worm
