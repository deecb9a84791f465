import Astartis.AuditChain
import Astartis.FileMoves
import Astartis.TransitionSystem

/-!
The quarantine of infected files.  `quarantine_file` and `restore` are split at their calls
of the file system, since other threads and processes work on the same files between these.
-/

namespace Astartis.Containment

open Audit
open FileMoves
open TransitionSystem

structure QuarantineEntry where
  entryId : ByteString
  originalPath : ByteString
  quarantinePath : ByteString
  virusName : ByteString
  sha256Hash : ByteString
  quarantinedAtMs : Int64
deriving DecidableEq

/-- What `quarantine_file` returns when it fails. -/
def noEntry : QuarantineEntry := ⟨[], [], [], [], [], 0⟩

structure Quarantine where
  quarantineDir : ByteString
  entries : List QuarantineEntry := []

/-- How the platform spells paths, and which file a path denotes. -/
structure Paths (Place : Type) where
  absolute : ByteString → ByteString
  join : ByteString → ByteString → ByteString
  locate : ByteString → Place

/-- `std::hex << std::setfill('0') << std::setw(16)`. -/
def hexWord (word : UInt64) : ByteString :=
  let text := ByteString.natText 16 word.toNat
  List.replicate (16 - text.length) 48 ++ text

def generateEntryId (a b : UInt64) : ByteString :=
  ("qtn_" : ByteString) ++ hexWord a ++ hexWord b

def sha256Hex (sha256 : Sha256) (data : ByteString) : ByteString :=
  ByteString.hexEncode (sha256 data).toList

def escape (s : ByteString) : ByteString :=
  s.flatMap fun c => if c = 92 then "\\\\" else if c = 34 then "\\\"" else [c]

def makeMetaJson (e : QuarantineEntry) : ByteString :=
  ("\x7b\n" : ByteString) ++
    ("  \"entry_id\": \"" : ByteString) ++ escape e.entryId ++ ("\",\n" : ByteString) ++
    ("  \"original_path\": \"" : ByteString) ++ escape e.originalPath ++
    ("\",\n" : ByteString) ++
    ("  \"quarantine_path\": \"" : ByteString) ++ escape e.quarantinePath ++
    ("\",\n" : ByteString) ++
    ("  \"virus_name\": \"" : ByteString) ++ escape e.virusName ++ ("\",\n" : ByteString) ++
    ("  \"sha256_hash\": \"" : ByteString) ++ e.sha256Hash ++ ("\",\n" : ByteString) ++
    ("  \"quarantined_at_ms\": " : ByteString) ++ ByteString.decimal e.quarantinedAtMs.toInt ++
    ("\n\x7d\n" : ByteString)

def maxHashBytes : Nat := 500 * 1024 * 1024

/-- Where a call of `quarantine_file` or `restore` stands. -/
inductive Phase
  | idle
  /-- In front of `file_size`. -/
  | sizing (srcPath virusName : ByteString)
  | reading (srcPath virusName : ByteString)
  | naming (srcPath virusName : ByteString) (content : Option ByteString)
  | renaming (srcPath : ByteString) (entry : QuarantineEntry)
  | copying (srcPath : ByteString) (entry : QuarantineEntry)
  | removing (srcPath : ByteString) (entry : QuarantineEntry)
  /-- In front of the sidecar. -/
  | describing (entry : QuarantineEntry)
  | auditing (entry : QuarantineEntry)
  | recording (entry : QuarantineEntry)
  | quarantined (entry : QuarantineEntry)
  /-- In front of the mutex, which `restore` keeps until it returns. -/
  | searching (entryId : ByteString)
  | movingBack (entry : QuarantineEntry)
  | copyingBack (entry : QuarantineEntry)
  | removingBin (entry : QuarantineEntry)
  | removingSidecar (entry : QuarantineEntry)
  | erasing (entry : QuarantineEntry)
  | restored (ok : Bool)

def Phase.isOver : Phase → Bool
  | .idle | .quarantined _ | .restored _ => true
  | _ => false

inductive Request
  | quarantineFile (srcPath virusName : ByteString)
  | restore (entryId : ByteString)

def Request.start : Request → Phase
  | .quarantineFile srcPath virusName => .sizing srcPath virusName
  | .restore entryId => .searching entryId

/-- What a step gets from outside: whether a file can be read, how a call of the file system
ends, two random words and the clock. -/
structure Inputs where
  readable : Bool := true
  ending : Ending ByteString := .done
  draw : UInt64 × UInt64 := (0, 0)
  now : Int64 := 0

section

variable {Place : Type} (paths : Paths Place)

def metaPath (quarantineDir : ByteString) (e : QuarantineEntry) : ByteString :=
  paths.join quarantineDir (e.entryId ++ (".meta" : ByteString))

/-- Step 2 of `quarantine_file`. -/
def newEntry (sha256 : Sha256) (quarantineDir : ByteString) (inputs : Inputs)
    (srcPath virusName : ByteString) (content : Option ByteString) : QuarantineEntry :=
  let entryId := generateEntryId inputs.draw.1 inputs.draw.2
  { entryId := entryId
    originalPath := paths.absolute srcPath
    quarantinePath := paths.join quarantineDir (entryId ++ (".bin" : ByteString))
    virusName := virusName
    sha256Hash :=
      match content with
      | some content => sha256Hex sha256 content
      | none => "(file too large to hash)"
    quarantinedAtMs := inputs.now }

namespace Phase

/-- The call of the file system that comes next. -/
def call? (quarantineDir : ByteString) : Phase → Option (Call Place ByteString)
  | .renaming srcPath e => some (.rename (paths.locate srcPath) (paths.locate e.quarantinePath))
  | .copying srcPath e => some (.copy (paths.locate srcPath) (paths.locate e.quarantinePath))
  | .removing srcPath _ => some (.remove (paths.locate srcPath))
  | .describing e =>
      some (.write (paths.locate (metaPath paths quarantineDir e)) (makeMetaJson e))
  | .movingBack e =>
      some (.rename (paths.locate e.quarantinePath) (paths.locate e.originalPath))
  | .copyingBack e => some (.copy (paths.locate e.quarantinePath) (paths.locate e.originalPath))
  | .removingBin e => some (.remove (paths.locate e.quarantinePath))
  | .removingSidecar e => some (.remove (paths.locate (metaPath paths quarantineDir e)))
  | _ => none

def afterCall (ok : Bool) : Phase → Phase
  | .renaming srcPath e => if ok then .describing e else .copying srcPath e
  | .copying srcPath e => if ok then .removing srcPath e else .quarantined noEntry
  | .removing _ e => .describing e
  | .describing e => .auditing e
  | .movingBack e => if ok then .removingSidecar e else .copyingBack e
  | .copyingBack e => if ok then .removingBin e else .restored false
  | .removingBin e => .removingSidecar e
  | .removingSidecar e => .erasing e
  | phase => phase

end Phase

end

/-- The threads that call the quarantine, the files and the audit chain. -/
structure World (ι Place σ : Type) where
  quarantine : Quarantine
  files : Files Place ByteString
  mutex : Option ι := none
  calls : ι → Phase := fun _ => .idle
  audit : σ

inductive Action (ι Place : Type)
  | call (thread : ι) (request : Request)
  | proceed (thread : ι) (inputs : Inputs)
  /-- Another process creates a file. -/
  | create (place : Place) (content : ByteString)

namespace World

variable {ι Place σ : Type} [DecidableEq ι] [DecidableEq Place]
variable (sha256 : Sha256) (auditAdder : AuditAdder σ) (paths : Paths Place)

def moveTo (thread : ι) (phase : Phase) (w : World ι Place σ) : World ι Place σ :=
  { w with calls := Function.update w.calls thread phase }

/-- `restore` up to its first call of the file system. -/
def search (thread : ι) (entryId : ByteString) (w : World ι Place σ) : World ι Place σ :=
  if w.mutex.isSome then w
  else
    match w.quarantine.entries.find? fun e => e.entryId = entryId with
    | none => w.moveTo thread (.restored false)
    | some e => { w with mutex := some thread }.moveTo thread (.movingBack e)

def runCall (thread : ι) (ending : Ending ByteString) (call : Call Place ByteString)
    (w : World ι Place σ) : World ι Place σ :=
  let (ok, files) := call.run ending w.files
  let phase := (w.calls thread).afterCall ok
  { w with
    files := files
    mutex := if phase matches .restored _ then none else w.mutex }.moveTo thread phase

/-- The next step of a call. -/
def proceed (thread : ι) (inputs : Inputs) (w : World ι Place σ) : World ι Place σ :=
  match w.calls thread with
  | .sizing srcPath virusName =>
      match inputs.readable, w.files (paths.locate srcPath) with
      | true, some content =>
          if content.length ≤ maxHashBytes then w.moveTo thread (.reading srcPath virusName)
          else w.moveTo thread (.naming srcPath virusName none)
      | _, _ => w.moveTo thread (.quarantined noEntry)
  | .reading srcPath virusName =>
      match inputs.readable, w.files (paths.locate srcPath) with
      | true, some content => w.moveTo thread (.naming srcPath virusName (some content))
      | _, _ => w.moveTo thread (.quarantined noEntry)
  | .naming srcPath virusName content =>
      w.moveTo thread (.renaming srcPath
        (newEntry paths sha256 w.quarantine.quarantineDir inputs srcPath virusName content))
  | .auditing e =>
      let payload := ("original_path=" : ByteString) ++ e.originalPath ++
        (" sha256=" : ByteString) ++ e.sha256Hash ++ (" virus=" : ByteString) ++ e.virusName
      { w with audit := (auditAdder "quarantine" payload w.audit).2 }.moveTo thread
        (.recording e)
  | .recording e =>
      if w.mutex.isSome then w
      else
        { w with quarantine :=
            { w.quarantine with entries := w.quarantine.entries ++ [e] } }.moveTo thread
          (.quarantined e)
  | .searching entryId => w.search thread entryId
  | .erasing e =>
      let payload := ("entry_id=" : ByteString) ++ e.entryId ++
        (" original_path=" : ByteString) ++ e.originalPath
      { w with
        audit := (auditAdder "quarantine_restore" payload w.audit).2
        quarantine :=
          { w.quarantine with
            entries := w.quarantine.entries.eraseP fun e' => e'.entryId = e.entryId }
        mutex := none }.moveTo thread (.restored true)
  | phase =>
      match phase.call? paths w.quarantine.quarantineDir with
      | none => w
      | some call => w.runCall thread inputs.ending call

def perform (w : World ι Place σ) : Action ι Place → World ι Place σ
  | .call thread request =>
      if (w.calls thread).isOver then w.moveTo thread request.start else w
  | .proceed thread inputs => w.proceed sha256 auditAdder paths thread inputs
  | .create place content =>
      if (w.files place).isSome then w
      else { w with files := Function.update w.files place (some content) }

/-- The runs of the quarantine, from files of any kind on. -/
def quarantineSystem : System (World ι Place σ) (Action ι Place) where
  Init := fun w => w.quarantine.entries = [] ∧ w.mutex = none ∧ ∀ thread, w.calls thread = .idle
  Step := fun w action after => after = w.perform sha256 auditAdder paths action

end World

end Astartis.Containment
