import Astartis.Sandbox
import Astartis.TransitionSystem
import Astartis.VersionStore
import Astartis.WormLock

/-!
Writers of the version store and of the sandbox against the lock.  A writer reads the
lock in one section and commits in another, so the lock can engage in between.
-/

namespace Astartis

open Audit
open TransitionSystem

namespace Sandbox

variable {σ : Type}

/-- The path guards in front of the test of the lock. -/
def admits (absPath : ByteString) (self : Sandbox) : Bool :=
  isInside absPath self.rootPath && self.toRel absPath ≠ []

/-- The part of `write` behind the mutex. -/
def commit (auditAdder : AuditAdder σ) (now : Int64) (absPath content author : ByteString)
    (self : Sandbox) (world : σ) : SandboxResult × Sandbox × σ :=
  let rel := self.toRel absPath
  let found := self.entries[rel]?
  if found.any SandboxEntry.locked then
    (⟨false, ("write blocked: entry is individually locked: " : ByteString) ++ rel⟩,
      self, world)
  else
    let entry := writtenEntry now rel content found
    let payload := ("rel=" : ByteString) ++ rel ++
      (" version=" : ByteString) ++ ByteString.decimal entry.version.toNat ++
      (" author=" : ByteString) ++ author ++
      (" size=" : ByteString) ++ ByteString.decimal entry.sizeBytes.toInt
    (⟨true, []⟩, { self with entries := self.entries.insert rel entry },
      (auditAdder "sandbox_write" payload world).2)

/-- An undisturbed write is the guards, the test of the lock and the section. -/
theorem write_eq_commit (callbacks : Callbacks σ) (now : Int64)
    (absPath content author : ByteString) (self : Sandbox) (world : σ)
    (hadmits : self.admits absPath = true) (hopen : callbacks.lockCheck world = false) :
    self.write callbacks now absPath content author world =
      self.commit callbacks.auditAdder now absPath content author world := by
  simp only [admits, Bool.and_eq_true, decide_eq_true_eq] at hadmits
  simp only [write, hadmits.1, hadmits.2, hopen, Bool.true_eq_false, Bool.false_eq_true,
    if_false]
  rfl

theorem commit_of_locked (auditAdder : AuditAdder σ) (now : Int64)
    (absPath content author : ByteString) (self : Sandbox) (world : σ)
    (hlocked : self.isEntryLocked (self.toRel absPath) = true) :
    (self.commit auditAdder now absPath content author world).2 = (self, world) := by
  rw [isEntryLocked] at hlocked
  simp only [commit, hlocked, if_true]

theorem commit_isEntryLocked (auditAdder : AuditAdder σ) (now : Int64)
    (absPath content author rel : ByteString) (self : Sandbox) (world : σ) :
    (self.commit auditAdder now absPath content author world).2.1.isEntryLocked rel =
      self.isEntryLocked rel := by
  simp only [commit]
  split
  · rfl
  · exact isEntryLocked_insert now content self (self.toRel absPath) rel

@[simp] theorem commit_rootPath (auditAdder : AuditAdder σ) (now : Int64)
    (absPath content author : ByteString) (self : Sandbox) (world : σ) :
    (self.commit auditAdder now absPath content author world).2.1.rootPath =
      self.rootPath := by
  simp only [commit]
  split
  · rfl
  · rfl

end Sandbox

open Versioning
open Worm

/-- The arguments of a call of one of the two `write` functions. -/
inductive WriteCall
  | version (recordId data author : ByteString)
  | sandbox (absPath content author : ByteString)
deriving DecidableEq

/-- Where a writer stands: in front of `lock_check_`, behind it with the lock found open, or
out of the call. -/
inductive WriterPhase
  | checking (call : WriteCall)
  | committing (call : WriteCall)
  | returned (ok : Bool)
deriving DecidableEq

/-- The two stores, the lock both of them test, and the calls that are under way. -/
structure Vault (σ : Type) where
  worm : WormLock := {}
  versions : VersionStore := {}
  sandbox : Sandbox
  writers : List WriterPhase := []
  audit : σ

namespace Vault

inductive Event
  | enter (call : WriteCall)
  | check (writer : Nat)
  | commit (writer : Nat) (now : Int64)
  | trigger (reason : ByteString)
  | unlock (authority : ByteString)

variable {σ : Type} (sha256 : Sha256) (auditAdder : AuditAdder σ)

/-- The guards in front of the test of the lock. -/
def admits (s : Vault σ) : WriteCall → Bool
  | .version recordId _ _ => recordId ≠ []
  | .sandbox absPath _ _ => s.sandbox.admits absPath

def commit (now : Int64) (s : Vault σ) : WriteCall → Bool × Vault σ
  | .version recordId data author =>
      let (result, versions, audit) :=
        s.versions.commit sha256 auditAdder now recordId data author s.audit
      (result.ok, { s with versions := versions, audit := audit })
  | .sandbox absPath content author =>
      let (result, sandbox, audit) :=
        s.sandbox.commit auditAdder now absPath content author s.audit
      (result.ok, { s with sandbox := sandbox, audit := audit })

def moveTo (s : Vault σ) (writer : Nat) (phase : WriterPhase) : Vault σ :=
  { s with writers := s.writers.set writer phase }

inductive Step : Vault σ → Event → Vault σ → Prop
  | enter (s : Vault σ) (call : WriteCall) :
      Step s (.enter call)
        { s with
          writers := s.writers ++
            [if s.admits call then .checking call else .returned false] }
  | refuse {s : Vault σ} {writer : Nat} {call : WriteCall}
      (hphase : s.writers[writer]? = some (.checking call))
      (hlocked : s.worm.isLocked = true) :
      Step s (.check writer) (s.moveTo writer (.returned false))
  | pass {s : Vault σ} {writer : Nat} {call : WriteCall}
      (hphase : s.writers[writer]? = some (.checking call))
      (hopen : s.worm.isLocked = false) :
      Step s (.check writer) (s.moveTo writer (.committing call))
  | commit {s : Vault σ} {writer : Nat} {call : WriteCall} {now : Int64}
      (hphase : s.writers[writer]? = some (.committing call)) :
      Step s (.commit writer now)
        ((s.commit sha256 auditAdder now call).2.moveTo writer
          (.returned (s.commit sha256 auditAdder now call).1))
  | trigger (s : Vault σ) (reason : ByteString) :
      Step s (.trigger reason)
        { s with
          worm := (s.worm.triggerLockdown auditAdder reason s.audit).2.1
          audit := (s.worm.triggerLockdown auditAdder reason s.audit).2.2 }
  | unlock (s : Vault σ) (authority : ByteString) :
      Step s (.unlock authority)
        { s with
          worm := (s.worm.unlock auditAdder authority s.audit).2.1
          audit := (s.worm.unlock auditAdder authority s.audit).2.2 }

/-- Any lock and any contents, before the first call. -/
def system : System (Vault σ) Event where
  Init := fun s => s.writers = []
  Step := Step sha256 auditAdder

/-- Records, entries and contents are the same. -/
structure SameContents (s s' : Vault σ) : Prop where
  versions : s'.versions = s.versions
  sandbox : s'.sandbox = s.sandbox

/-- The section of this call will refuse: the entry is individually locked. -/
def refuses (s : Vault σ) : WriteCall → Bool
  | .version .. => false
  | .sandbox absPath _ _ => s.sandbox.isEntryLocked (s.sandbox.toRel absPath)

/-- Where the lock engages, no writer has found it open and not yet committed, apart from
those whose entry is individually locked. -/
def EngagesBetweenWrites (s : Vault σ) : Event → Prop
  | .trigger _ => s.worm.isLocked = true ∨
      ∀ call, .committing call ∈ s.writers → s.refuses call = true
  | _ => True

/-- Under lockdown nothing is about to be committed. -/
def Settled (s : Vault σ) : Prop :=
  s.worm.isLocked = true → ∀ call, .committing call ∈ s.writers → s.refuses call = true

variable {sha256 : Sha256} {auditAdder : AuditAdder σ} {s s' : Vault σ}

theorem commit_worm (now : Int64) (call : WriteCall) :
    (s.commit sha256 auditAdder now call).2.worm = s.worm := by
  cases call <;> rfl

theorem commit_writers (now : Int64) (call : WriteCall) :
    (s.commit sha256 auditAdder now call).2.writers = s.writers := by
  cases call <;> rfl

theorem commit_refuses (now : Int64) (call other : WriteCall) :
    (s.commit sha256 auditAdder now call).2.refuses other = s.refuses other := by
  cases call with
  | version recordId data author => cases other <;> rfl
  | sandbox absPath content author =>
      cases other with
      | version _ _ _ => rfl
      | sandbox other _ _ =>
          simp only [commit, refuses, Sandbox.commit_isEntryLocked, Sandbox.toRel,
            Sandbox.commit_rootPath]

theorem commit_sameContents {call : WriteCall} (hrefuses : s.refuses call = true)
    (now : Int64) : s.SameContents (s.commit sha256 auditAdder now call).2 := by
  cases call with
  | version recordId data author => simp [refuses] at hrefuses
  | sandbox absPath content author =>
      have hsame := Sandbox.commit_of_locked auditAdder now absPath content author s.sandbox
        s.audit hrefuses
      simp only [commit, hsame]
      exact ⟨rfl, rfl⟩

theorem settled_moveTo {writer : Nat} {phase : WriterPhase} (hsettled : s.Settled)
    (hphase : ∀ call, phase ≠ .committing call) : (s.moveTo writer phase).Settled := by
  intro hlocked call hmem
  rcases List.mem_or_eq_of_mem_set hmem with hmem | heq
  · exact hsettled hlocked call hmem
  · exact absurd heq.symm (hphase call)

theorem Step.settled {event : Event} (hengages : s.EngagesBetweenWrites event)
    (hstep : Step sha256 auditAdder s event s') (hsettled : s.Settled) : s'.Settled := by
  cases hstep with
  | enter call =>
      intro hlocked other hmem
      rcases List.mem_append.mp hmem with hmem | hmem
      · exact hsettled hlocked other hmem
      · split at hmem
        · simp at hmem
        · simp at hmem
  | refuse _ _ => exact settled_moveTo hsettled (by simp)
  | pass _ hopen =>
      intro hlocked
      rw [moveTo, hopen] at hlocked
      exact absurd hlocked (by decide)
  | @commit writer call now hphase =>
      refine settled_moveTo ?_ (by simp)
      intro hlocked other hmem
      rw [commit_worm] at hlocked
      rw [commit_writers] at hmem
      rw [commit_refuses]
      exact hsettled hlocked other hmem
  | trigger reason =>
      intro _ call hmem
      rcases hengages with hlocked | hbetween
      · exact hsettled hlocked call hmem
      · exact hbetween call hmem
  | unlock authority =>
      intro hlocked
      simp at hlocked

/-- A step under lockdown shows nothing new. -/
theorem Step.sameContents {event : Event} (hstep : Step sha256 auditAdder s event s')
    (hsettled : s.Settled) (hlocked : s.worm.isLocked = true) : s.SameContents s' := by
  cases hstep with
  | @commit writer call now hphase =>
      have hrefuses := hsettled hlocked call (List.mem_of_getElem? hphase)
      obtain ⟨hversions, hsandbox⟩ := commit_sameContents hrefuses now
      exact ⟨hversions, hsandbox⟩
  | _ => exact ⟨rfl, rfl⟩

theorem Step.isLocked {event : Event} (hstep : Step sha256 auditAdder s event s')
    (hlocked : s.worm.isLocked = true) (hunlock : ∀ authority, event ≠ .unlock authority) :
    s'.worm.isLocked = true := by
  cases hstep with
  | enter call => exact hlocked
  | refuse _ _ => exact hlocked
  | pass _ _ => exact hlocked
  | commit _ =>
      rw [moveTo, commit_worm]
      exact hlocked
  | trigger reason => exact WormLock.triggerLockdown_isLocked auditAdder reason s.worm s.audit
  | unlock authority => exact absurd rfl (hunlock authority)

theorem Step.isLocked_of_trigger {reason : ByteString}
    (hstep : Step sha256 auditAdder s (.trigger reason) s') : s'.worm.isLocked = true := by
  cases hstep
  exact WormLock.triggerLockdown_isLocked auditAdder reason s.worm s.audit

/-- From the return of a trigger up to the next unlock nothing new shows, in every run in
which the lock engages between writes. -/
theorem trace_locked_sameContents (sha256 : Sha256) (auditAdder : AuditAdder σ)
    (before during : List (Transition (Vault σ) Event)) (t : Transition (Vault σ) Event)
    (s : Vault σ)
    (htrace : Trace (system sha256 auditAdder) (before ++ t :: during) s)
    (hengages : ∀ u ∈ before ++ t :: during, u.before.EngagesBetweenWrites u.label)
    (htrigger : ∃ reason, t.label = .trigger reason)
    (hunlock : ∀ u ∈ during, ∀ authority, u.label ≠ .unlock authority) :
    ∀ u ∈ during, t.after.SameContents u.after := by
  have hsettled : ∀ u ∈ before ++ t :: during, u.before.Settled := by
    refine htrace.guarded_before (fun s hinit _ call hmem => ?_)
      (fun _ _ _ hsettled hengages hstep => Step.settled hengages hstep hsettled) hengages
    have hwriters : s.writers = [] := hinit
    simp [hwriters] at hmem
  have hstart : t.after.worm.isLocked = true := by
    obtain ⟨reason, htrigger⟩ := htrigger
    exact Step.isLocked_of_trigger (htrigger ▸ htrace.split.2)
  have hsince := htrace.since
    (J := fun s => s.worm.isLocked = true ∧ t.after.SameContents s) ⟨hstart, rfl, rfl⟩
    fun u hu hbefore hstep => ?_
  · exact fun u hu => (hsince.2 u hu).2.2
  · have hsame := Step.sameContents hstep (hsettled u (by simp [hu])) hbefore.1
    exact ⟨Step.isLocked hstep hbefore.1 (hunlock u hu),
      hsame.versions.trans hbefore.2.versions, hsame.sandbox.trans hbefore.2.sandbox⟩

def blankSha256 : Sha256 := fun _ => Vector.replicate 32 0

def emptyVault : Vault (List (ByteString × ByteString)) where
  sandbox := Sandbox.construct "/srv/mirror"
  audit := []

def policyWrite : WriteCall := .version "policy" "deny all" "admin"

/-- The write is committed, the lock engages, and a second write is refused. -/
theorem refused_write_sameContents :
    ∃ (before during : List (Transition (Vault (List (ByteString × ByteString))) Event))
        (t : Transition (Vault (List (ByteString × ByteString))) Event)
        (s : Vault (List (ByteString × ByteString))),
      Trace (system blankSha256 noteEntry) (before ++ t :: during) s ∧
        s.writers = [.returned true, .returned false] ∧
        ∀ u ∈ during, t.after.SameContents u.after := by
  have h0 : Trace (system blankSha256 noteEntry) [] emptyVault := .start rfl
  have h1 := h0.extend (Step.enter emptyVault policyWrite)
  have h2 := h1.extend (@Step.pass _ _ _ _ 0 policyWrite rfl rfl)
  have h3 := h2.extend (@Step.commit _ _ _ _ 0 policyWrite 0 rfl)
  have h4 := h3.extend (Step.trigger _ "breach")
  have h5 := h4.extend (Step.enter _ policyWrite)
  have h6 := h5.extend (@Step.refuse _ _ _ _ 1 policyWrite rfl rfl)
  refine ⟨[_, _, _], [_, _], _, _, h6, rfl,
    trace_locked_sameContents blankSha256 noteEntry [_, _, _] [_, _] _ _ h6 ?_ ⟨_, rfl⟩ ?_⟩
  · simp [EngagesBetweenWrites, moveTo, commit_writers, emptyVault]
  · simp

theorem checked_write_commits_under_lockdown :
    ∃ (before during : List (Transition (Vault (List (ByteString × ByteString))) Event))
        (t : Transition (Vault (List (ByteString × ByteString))) Event)
        (s : Vault (List (ByteString × ByteString))),
      Trace (system blankSha256 noteEntry) (before ++ t :: during) s ∧
        (∃ reason, t.label = .trigger reason) ∧
        (∀ u ∈ during, ∀ authority, u.label ≠ .unlock authority) ∧
        ¬ ∀ u ∈ during, t.after.SameContents u.after := by
  have h0 : Trace (system blankSha256 noteEntry) [] emptyVault := .start rfl
  have h1 := h0.extend (Step.enter emptyVault policyWrite)
  have h2 := h1.extend (@Step.pass _ _ _ _ 0 policyWrite rfl rfl)
  have h3 := h2.extend (Step.trigger _ "breach")
  have h4 := h3.extend (@Step.commit _ _ _ _ 0 policyWrite 0 rfl)
  refine ⟨[_, _], [_], _, _, h4, ⟨_, rfl⟩, by simp, fun hall => ?_⟩
  have hsame := (hall _ (List.mem_singleton.mpr rfl)).versions
  exact absurd (congrArg VersionStore.totalVersionCount hsame) (by decide +kernel)

end Vault

end Astartis
