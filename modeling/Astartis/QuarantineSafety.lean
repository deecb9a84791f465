import Astartis.Quarantine

namespace Astartis.Containment

open Audit
open FileMoves
open TransitionSystem

section

variable {ι Place σ : Type} [DecidableEq ι] [DecidableEq Place]
variable {sha256 : Sha256} {auditAdder : AuditAdder σ} {paths : Paths Place}

/-- A step that moves the content of a file into the quarantine. -/
def Quarantines (paths : Paths Place) (t : Transition (World ι Place σ) (Action ι Place))
    (content : ByteString) : Prop :=
  ∃ thread inputs srcPath entry, t.label = .proceed thread inputs ∧
    ((t.before.calls thread = .renaming srcPath entry ∧
        t.after.calls thread = .describing entry) ∨
      (t.before.calls thread = .copying srcPath entry ∧
        t.after.calls thread = .removing srcPath entry)) ∧
    t.before.files (paths.locate srcPath) = some content

/-- A step of `restore` in front of whose rename or copy the destination holds a content. -/
def MeetsAtDestination (paths : Paths Place)
    (t : Transition (World ι Place σ) (Action ι Place)) (content : ByteString) : Prop :=
  ∃ thread inputs entry, t.label = .proceed thread inputs ∧
    (t.before.calls thread = .movingBack entry ∨ t.before.calls thread = .copyingBack entry) ∧
    t.before.files (paths.locate entry.originalPath) = some content

/-- The contents that have been quarantined or stood where something was restored. -/
def Secured (paths : Paths Place) (steps : List (Transition (World ι Place σ) (Action ι Place)))
    (content : ByteString) : Prop :=
  ∃ t ∈ steps, Quarantines paths t content ∨ MeetsAtDestination paths t content

/-- The next call of the file system of a thread replaces or deletes no only copy. -/
def Spares (paths : Paths Place) (w : World ι Place σ) : Action ι Place → Prop
  | .proceed thread inputs =>
      ∀ call, (w.calls thread).call? paths w.quarantine.quarantineDir = some call →
        call.Spares inputs.ending w.files
  | _ => True

namespace World

omit [DecidableEq Place] in
@[simp] theorem moveTo_files (thread : ι) (phase : Phase) (w : World ι Place σ) :
    (w.moveTo thread phase).files = w.files := rfl

omit [DecidableEq Place] in
@[simp] theorem search_files (thread : ι) (entryId : ByteString) (w : World ι Place σ) :
    (w.search thread entryId).files = w.files := by
  simp only [search]
  split
  · rfl
  · split <;> rfl

/-- A step changes the files by the call that its phase is in front of, if any. -/
theorem proceed_files (thread : ι) (inputs : Inputs) (w : World ι Place σ) :
    (w.proceed sha256 auditAdder paths thread inputs).files =
      match (w.calls thread).call? paths w.quarantine.quarantineDir with
      | none => w.files
      | some call => (call.run inputs.ending w.files).2 := by
  cases hphase : w.calls thread with
  | sizing srcPath virusName =>
      simp only [proceed, hphase, Phase.call?]
      split
      · split <;> rfl
      · rfl
  | reading srcPath virusName =>
      simp only [proceed, hphase, Phase.call?]
      split <;> rfl
  | recording entry =>
      simp only [proceed, hphase, Phase.call?]
      split <;> rfl
  | searching entryId =>
      simp only [proceed, hphase, Phase.call?, search_files]
  | _ => simp only [proceed, hphase, Phase.call?, runCall, moveTo_files]

theorem perform_stands {w : World ι Place σ} {action : Action ι Place} {content : ByteString}
    (hstands : Stands content w.files) (hspares : Spares paths w action) :
    Stands content (w.perform sha256 auditAdder paths action).files := by
  cases action with
  | call thread request =>
      simp only [perform]
      split
      · exact hstands
      · exact hstands
  | proceed thread inputs =>
      simp only [perform, proceed_files]
      split
      · exact hstands
      · rename_i call hcall
        exact hstands.run (hspares call hcall)
  | create place other =>
      simp only [perform]
      split
      · exact hstands
      · rename_i hfree
        have hnone : w.files place = none := by simpa using hfree
        obtain ⟨p, -, hp⟩ := hstands.update (spare_of_none hnone) (some other)
        exact ⟨p, hp⟩

end World

end

section

open World

def windowsPaths : Paths ByteString where
  absolute := id
  join := fun directory name => directory ++ ("\\" : ByteString) ++ name
  locate := id

def invoicePath : ByteString := "C:\\in\\invoice.exe"

def oldInvoice : ByteString := "MZ first"

def newInvoice : ByteString := "MZ second"

/-- One file, and the chain as the list of what it is given. -/
def inbox : World Unit ByteString (List (ByteString × ByteString)) where
  quarantine := { quarantineDir := "C:\\qtn" }
  files := Function.update (fun _ => none) invoicePath (some oldInvoice)
  audit := []

def zeroDigest : Sha256 := fun _ => Vector.replicate 32 0

def quarantineInvoice : List (Action Unit ByteString) :=
  [.call () (.quarantineFile invoicePath "Eicar"), .proceed () {}, .proceed () {},
    .proceed () {}, .proceed () {}]

def quarantineThenCreate : List (Action Unit ByteString) :=
  [.call () (.quarantineFile invoicePath "Eicar"), .proceed () {}, .proceed () {},
    .proceed () {}, .proceed () {}, .proceed () {}, .proceed () {}, .proceed () {},
    .create invoicePath newInvoice, .call () (.restore (generateEntryId 0 0)),
    .proceed () {}]

def beforeMovingBack : World Unit ByteString (List (ByteString × ByteString)) :=
  quarantineThenCreate.foldl (perform zeroDigest noteEntry windowsPaths) inbox

def invoiceEntry : QuarantineEntry :=
  newEntry windowsPaths zeroDigest "C:\\qtn" {} invoicePath "Eicar" (some oldInvoice)

/-- Nothing but the file at the original path has the new content. -/
theorem beforeMovingBack_only {p : ByteString} (hp : p ≠ invoicePath) :
    beforeMovingBack.files p ≠ some newInvoice := by
  have hfiles : beforeMovingBack.files =
      Function.update
        (Function.update
          (Function.update
            (Function.update inbox.files invoiceEntry.quarantinePath (some oldInvoice))
            invoicePath none)
          (metaPath windowsPaths "C:\\qtn" invoiceEntry) (some (makeMetaJson invoiceEntry)))
        invoicePath (some newInvoice) := rfl
  have hsidecar : makeMetaJson invoiceEntry ≠ newInvoice := by decide +kernel
  have hfirst : oldInvoice ≠ newInvoice := by decide +kernel
  rw [hfiles, Function.update_of_ne hp]
  by_cases hmeta : p = metaPath windowsPaths "C:\\qtn" invoiceEntry
  · subst hmeta
    rw [Function.update_self]
    exact fun h => hsidecar (Option.some.inj h)
  · rw [Function.update_of_ne hmeta, Function.update_of_ne hp]
    by_cases hbin : p = invoiceEntry.quarantinePath
    · subst hbin
      rw [Function.update_self]
      exact fun h => hfirst (Option.some.inj h)
    · rw [Function.update_of_ne hbin]
      change Function.update (fun _ => none) invoicePath _ p ≠ _
      rw [Function.update_of_ne hp]
      simp

end

end Astartis.Containment
