import Astartis.Quarantine

/-!
Whole calls of `quarantine_file` and `restore`, with every way in which their steps can end.
They are what the steps of one thread come to when no other thread runs in between.
-/

namespace Astartis.Containment

open Audit
open FileMoves
open TransitionSystem

/-- What a stream delivers of a file. -/
inductive Reading
  | refused
  /-- The stream ends early. -/
  | broken (length : Nat)
  | whole
deriving DecidableEq

def Reading.deliver (content : ByteString) : Reading → Option ByteString
  | .refused => none
  | .broken length => some (content.take length)
  | .whole => some content

/-- How the steps of one call end, its random words and its clock reading. -/
structure Outcomes where
  sized : Bool := true
  reading : Reading := .whole
  move : MoveEndings ByteString := {}
  sidecar : Ending ByteString := .done
  draw : UInt64 × UInt64 := (0, 0)
  now : Int64 := 0

/-- What is there to hash, which is nothing of a large file; `none` where reading fails. -/
def Outcomes.readContent (outcomes : Outcomes) (content : ByteString) :
    Option (Option ByteString) :=
  if content.length ≤ maxHashBytes then (outcomes.reading.deliver content).map some
  else some none

/-- A quarantine with the files it works on and the audit chain. -/
structure Store (Place σ : Type) where
  quarantine : Quarantine
  files : Files Place ByteString
  audit : σ

/-- What the audit entry of a quarantine says. -/
def quarantinePayload (entry : QuarantineEntry) : ByteString :=
  ("original_path=" : ByteString) ++ entry.originalPath ++ (" sha256=" : ByteString) ++
    entry.sha256Hash ++ (" virus=" : ByteString) ++ entry.virusName

/-- What the audit entry of a restore says. -/
def restorePayload (e : QuarantineEntry) : ByteString :=
  ("entry_id=" : ByteString) ++ e.entryId ++ (" original_path=" : ByteString) ++ e.originalPath

namespace Store

variable {Place σ : Type} [DecidableEq Place]
variable (sha256 : Sha256) (auditAdder : AuditAdder σ) (paths : Paths Place)

/-- Steps 3 to 6 of `quarantine_file`. -/
def takeIn (outcomes : Outcomes) (srcPath : ByteString) (entry : QuarantineEntry)
    (s : Store Place σ) : QuarantineEntry × Store Place σ :=
  let (moved, files) := relocate outcomes.move (paths.locate srcPath)
    (paths.locate entry.quarantinePath) s.files
  if moved then
    let sidecar : Call Place ByteString :=
      .write (paths.locate (metaPath paths s.quarantine.quarantineDir entry))
        (makeMetaJson entry)
    (entry,
      { quarantine := { s.quarantine with entries := s.quarantine.entries ++ [entry] }
        files := (sidecar.run outcomes.sidecar files).2
        audit := (auditAdder "quarantine" (quarantinePayload entry) s.audit).2 })
  else (noEntry, { s with files := files })

def quarantineFile (outcomes : Outcomes) (srcPath virusName : ByteString)
    (s : Store Place σ) : QuarantineEntry × Store Place σ :=
  match outcomes.sized, s.files (paths.locate srcPath) with
  | true, some content =>
      match outcomes.readContent content with
      | none => (noEntry, s)
      | some content =>
          s.takeIn auditAdder paths outcomes srcPath
            (newEntry paths sha256 s.quarantine.quarantineDir
              { draw := outcomes.draw, now := outcomes.now } srcPath virusName content)
  | _, _ => (noEntry, s)

def restore (outcomes : Outcomes) (entryId : ByteString) (s : Store Place σ) :
    Bool × Store Place σ :=
  match s.quarantine.entries.find? fun e => e.entryId = entryId with
  | none => (false, s)
  | some e =>
      let (moved, files) := relocate outcomes.move (paths.locate e.quarantinePath)
        (paths.locate e.originalPath) s.files
      if moved then
        let sidecar : Call Place ByteString :=
          .remove (paths.locate (metaPath paths s.quarantine.quarantineDir e))
        (true,
          { quarantine :=
              { s.quarantine with
                entries := s.quarantine.entries.eraseP fun e' => e'.entryId = e.entryId }
            files := (sidecar.run outcomes.sidecar files).2
            audit := (auditAdder "quarantine_restore" (restorePayload e) s.audit).2 })
      else (false, { s with files := files })

section Moved

variable {outcomes : Outcomes} {srcPath : ByteString} {entry : QuarantineEntry}
  {s : Store Place σ} {files : Files Place ByteString}

theorem takeIn_of_moved (hmove : relocate outcomes.move (paths.locate srcPath)
    (paths.locate entry.quarantinePath) s.files = (true, files)) :
    s.takeIn auditAdder paths outcomes srcPath entry =
      (entry,
        { quarantine := { s.quarantine with entries := s.quarantine.entries ++ [entry] }
          files := ((Call.write (paths.locate (metaPath paths s.quarantine.quarantineDir entry))
            (makeMetaJson entry)).run outcomes.sidecar files).2
          audit := (auditAdder "quarantine" (quarantinePayload entry) s.audit).2 }) := by
  simp only [takeIn, hmove, if_true]

theorem takeIn_of_unmoved (hmove : relocate outcomes.move (paths.locate srcPath)
    (paths.locate entry.quarantinePath) s.files = (false, files)) :
    s.takeIn auditAdder paths outcomes srcPath entry = (noEntry, { s with files := files }) := by
  simp only [takeIn, hmove, Bool.false_eq_true, if_false]

variable {entryId : ByteString}

theorem restore_of_none (hfind : (s.quarantine.entries.find? fun e => e.entryId = entryId) = none) :
    s.restore auditAdder paths outcomes entryId = (false, s) := by
  simp only [restore, hfind]

theorem restore_of_moved
    (hfind : (s.quarantine.entries.find? fun e => e.entryId = entryId) = some entry)
    (hmove : relocate outcomes.move (paths.locate entry.quarantinePath)
      (paths.locate entry.originalPath) s.files = (true, files)) :
    s.restore auditAdder paths outcomes entryId =
      (true,
        { quarantine :=
            { s.quarantine with
              entries := s.quarantine.entries.eraseP fun e' => e'.entryId = entry.entryId }
          files := ((Call.remove (paths.locate (metaPath paths s.quarantine.quarantineDir
            entry))).run outcomes.sidecar files).2
          audit := (auditAdder "quarantine_restore" (restorePayload entry) s.audit).2 }) := by
  simp only [restore, hfind, hmove, if_true]

theorem restore_of_unmoved
    (hfind : (s.quarantine.entries.find? fun e => e.entryId = entryId) = some entry)
    (hmove : relocate outcomes.move (paths.locate entry.quarantinePath)
      (paths.locate entry.originalPath) s.files = (false, files)) :
    s.restore auditAdder paths outcomes entryId = (false, { s with files := files }) := by
  simp only [restore, hfind, hmove, Bool.false_eq_true, if_false]

end Moved

end Store

namespace World

variable {ι Place σ : Type} [DecidableEq ι] [DecidableEq Place]

def store (w : World ι Place σ) : Store Place σ :=
  ⟨w.quarantine, w.files, w.audit⟩

def withStore (s : Store Place σ) (w : World ι Place σ) : World ι Place σ :=
  { w with quarantine := s.quarantine, files := s.files, audit := s.audit }

variable (sha256 : Sha256) (auditAdder : AuditAdder σ) (paths : Paths Place) (thread : ι)

/-- Steps of the thread alone lead from one state to the other. -/
def Proceeds (w w' : World ι Place σ) : Prop :=
  ∃ inputs : List Inputs,
    inputs.foldl (fun w inputs => w.proceed sha256 auditAdder paths thread inputs) w = w'

variable {sha256 auditAdder paths thread}

theorem Proceeds.refl (w : World ι Place σ) : Proceeds sha256 auditAdder paths thread w w :=
  ⟨[], rfl⟩

theorem Proceeds.step {w w₁ w' : World ι Place σ} (inputs : Inputs)
    (hstep : w.proceed sha256 auditAdder paths thread inputs = w₁)
    (hrest : Proceeds sha256 auditAdder paths thread w₁ w') :
    Proceeds sha256 auditAdder paths thread w w' := by
  obtain ⟨rest, rfl⟩ := hrest
  exact ⟨inputs :: rest, by rw [List.foldl_cons, hstep]⟩

variable {w : World ι Place σ} {phase : Phase} {fsCall : Call Place ByteString}
  {e : QuarantineEntry} {srcPath virusName : ByteString}

theorem proceed_eq_runCall (inputs : Inputs)
    (hcall : phase.call? paths w.quarantine.quarantineDir = some fsCall) :
    (w.moveTo thread phase).proceed sha256 auditAdder paths thread inputs =
      (w.moveTo thread phase).runCall thread inputs.ending fsCall := by
  have hself : (w.moveTo thread phase).calls thread = phase := by simp [moveTo]
  have hcall' : phase.call? paths (w.moveTo thread phase).quarantine.quarantineDir =
      some fsCall := hcall
  simp only [proceed, hself]
  split
  all_goals first
    | rw [hcall']
    | simp [Phase.call?] at hcall

/-- A step that calls the file system, unless it ends a `restore`. -/
theorem Proceeds.call {ok : Bool} {files : Files Place ByteString} {w' : World ι Place σ}
    (ending : Ending ByteString)
    (hcall : phase.call? paths w.quarantine.quarantineDir = some fsCall)
    (hrun : fsCall.run ending w.files = (ok, files))
    (hphase : ∀ ok', phase.afterCall ok ≠ .restored ok')
    (hrest : Proceeds sha256 auditAdder paths thread
      ({ w with files := files }.moveTo thread (phase.afterCall ok)) w') :
    Proceeds sha256 auditAdder paths thread (w.moveTo thread phase) w' := by
  refine .step { ending := ending } ?_ hrest
  rw [proceed_eq_runCall _ hcall]
  simp only [runCall, moveTo, Function.update_self, hrun, Function.update_idem]
  cases hafter : phase.afterCall ok with
  | restored ok' => exact absurd hafter (hphase ok')
  | _ => rfl

section Steps

variable (inputs : Inputs)

theorem proceed_sizing_of_unreadable (h : inputs.readable = false ∨
    w.files (paths.locate srcPath) = none) :
    (w.moveTo thread (.sizing srcPath virusName)).proceed sha256 auditAdder paths thread inputs =
      w.moveTo thread (.quarantined noEntry) := by
  simp only [proceed, moveTo, Function.update_self, Function.update_idem]
  split
  · rename_i hreadable hfile
    rcases h with h | h
    · rw [h] at hreadable
      exact absurd hreadable (by simp)
    · rw [h] at hfile
      exact absurd hfile (by simp)
  · rfl

theorem proceed_sizing {content : ByteString} (hreadable : inputs.readable = true)
    (hfile : w.files (paths.locate srcPath) = some content) :
    (w.moveTo thread (.sizing srcPath virusName)).proceed sha256 auditAdder paths thread inputs =
      w.moveTo thread (if content.length ≤ maxHashBytes then .reading srcPath virusName
        else .naming srcPath virusName none) := by
  simp only [proceed, moveTo, Function.update_self, Function.update_idem, hreadable, hfile]
  split <;> rfl

theorem proceed_reading {content : ByteString}
    (hfile : w.files (paths.locate srcPath) = some content) :
    (w.moveTo thread (.reading srcPath virusName)).proceed sha256 auditAdder paths thread inputs =
      w.moveTo thread (if inputs.readable then .naming srcPath virusName (some content)
        else .quarantined noEntry) := by
  cases hreadable : inputs.readable <;>
    simp [proceed, moveTo, hreadable, hfile]

theorem proceed_naming (content : Option ByteString) :
    (w.moveTo thread (.naming srcPath virusName content)).proceed sha256 auditAdder paths thread
        inputs =
      w.moveTo thread (.renaming srcPath
        (newEntry paths sha256 w.quarantine.quarantineDir inputs srcPath virusName content)) := by
  simp [proceed, moveTo]

theorem proceed_auditing :
    (w.moveTo thread (.auditing e)).proceed sha256 auditAdder paths thread inputs =
      { w with audit := (auditAdder "quarantine" (quarantinePayload e) w.audit).2 }.moveTo thread
        (.recording e) := by
  simp [proceed, moveTo, quarantinePayload]

theorem proceed_recording (hmutex : w.mutex = none) :
    (w.moveTo thread (.recording e)).proceed sha256 auditAdder paths thread inputs =
      { w with quarantine :=
        { w.quarantine with entries := w.quarantine.entries ++ [e] } }.moveTo thread
        (.quarantined e) := by
  simp [proceed, moveTo, hmutex]

end Steps

/-- The steps from the move on. -/
theorem proceeds_takeIn (outcomes : Outcomes) (hmutex : w.mutex = none) :
    Proceeds sha256 auditAdder paths thread (w.moveTo thread (.renaming srcPath e))
      ((w.withStore (w.store.takeIn auditAdder paths outcomes srcPath e).2).moveTo thread
        (.quarantined (w.store.takeIn auditAdder paths outcomes srcPath e).1)) := by
  -- behind a move that succeeds
  have hbehind : ∀ files, Proceeds sha256 auditAdder paths thread
      ({ w with files := files }.moveTo thread (.describing e)) _ := fun files =>
    .call outcomes.sidecar rfl rfl (by simp [Phase.afterCall])
      (.step _ (proceed_auditing {}) (.step _ (proceed_recording {} hmutex) (.refl _)))
  obtain ⟨moved, hrename, hmove⟩ | ⟨tried, hrename, ⟨left, hcopy, hmove⟩ |
    ⟨copied, hcopy, hmove⟩⟩ := relocate_cases outcomes.move (paths.locate srcPath)
      (paths.locate e.quarantinePath) w.store.files
  · rw [Store.takeIn_of_moved auditAdder paths hmove]
    exact .call _ rfl hrename (by simp [Phase.afterCall]) (hbehind moved)
  · rw [Store.takeIn_of_unmoved auditAdder paths hmove]
    exact .call _ rfl hrename (by simp [Phase.afterCall])
      (.call _ rfl hcopy (by simp [Phase.afterCall]) (.refl _))
  · rw [Store.takeIn_of_moved auditAdder paths hmove]
    exact .call _ rfl hrename (by simp [Phase.afterCall])
      (.call _ rfl hcopy (by simp [Phase.afterCall])
        (.call _ rfl rfl (by simp [Phase.afterCall]) (hbehind _)))

/-- A step that ends a `restore` releases the mutex. -/
theorem Proceeds.callLast {ok result : Bool} {files : Files Place ByteString}
    (ending : Ending ByteString)
    (hcall : phase.call? paths w.quarantine.quarantineDir = some fsCall)
    (hrun : fsCall.run ending w.files = (ok, files))
    (hphase : phase.afterCall ok = .restored result) :
    Proceeds sha256 auditAdder paths thread (w.moveTo thread phase)
      ({ w with files := files, mutex := none }.moveTo thread (.restored result)) := by
  refine .step { ending := ending } ?_ (.refl _)
  rw [proceed_eq_runCall _ hcall]
  simp only [runCall, moveTo, Function.update_self, hrun, Function.update_idem, hphase]
  rfl

/-- A whole call of `restore` is a run of one thread of the quarantine. -/
theorem proceeds_restore (outcomes : Outcomes) (hmutex : w.mutex = none) (entryId : ByteString) :
    Proceeds sha256 auditAdder paths thread (w.moveTo thread (.searching entryId))
      ((w.withStore (w.store.restore auditAdder paths outcomes entryId).2).moveTo thread
        (.restored (w.store.restore auditAdder paths outcomes entryId).1)) := by
  obtain ⟨quarantine, files, mutex, calls, audit⟩ := w
  obtain rfl : mutex = none := hmutex
  let w : World ι Place σ := ⟨quarantine, files, none, calls, audit⟩
  cases hfind : quarantine.entries.find? fun e => e.entryId = entryId with
  | none =>
      rw [Store.restore_of_none auditAdder paths (s := w.store) hfind]
      refine .step {} ?_ (.refl _)
      simp [proceed, search, moveTo, hfind, withStore, store, w]
  | some e =>
      have hsearch : (w.moveTo thread (.searching entryId)).proceed sha256 auditAdder paths
          thread {} = { w with mutex := some thread }.moveTo thread (.movingBack e) := by
        simp [proceed, search, moveTo, hfind, w]
      refine .step {} hsearch ?_
      have herase : ∀ files, Proceeds sha256 auditAdder paths thread
          ({ w with files := files, mutex := some thread }.moveTo thread (.erasing e))
          ({ w with
            files := files
            audit := (auditAdder "quarantine_restore" (restorePayload e) audit).2
            quarantine :=
              { quarantine with
                entries := quarantine.entries.eraseP fun e' => e'.entryId = e.entryId } }.moveTo
            thread (.restored true)) := fun files =>
        .step {} (by simp [proceed, moveTo, restorePayload, w]) (.refl _)
      have hbehind : ∀ files, Proceeds sha256 auditAdder paths thread
          ({ w with files := files, mutex := some thread }.moveTo thread (.removingSidecar e)) _ :=
        fun files =>
          .call outcomes.sidecar rfl rfl (by simp [Phase.afterCall]) (herase _)
      obtain ⟨moved, hrename, hmove⟩ | ⟨tried, hrename, ⟨left, hcopy, hmove⟩ |
        ⟨copied, hcopy, hmove⟩⟩ := relocate_cases outcomes.move
          (paths.locate e.quarantinePath) (paths.locate e.originalPath) w.store.files
      · rw [Store.restore_of_moved auditAdder paths hfind hmove]
        exact .call _ rfl hrename (by simp [Phase.afterCall]) (hbehind moved)
      · rw [Store.restore_of_unmoved auditAdder paths hfind hmove]
        exact .call _ rfl hrename (by simp [Phase.afterCall]) (.callLast _ rfl hcopy rfl)
      · rw [Store.restore_of_moved auditAdder paths hfind hmove]
        exact .call _ rfl hrename (by simp [Phase.afterCall])
          (.call _ rfl hcopy (by simp [Phase.afterCall])
            (.call _ rfl rfl (by simp [Phase.afterCall]) (hbehind _)))

/-- A whole call of `quarantine_file` is a run of one thread of the quarantine. -/
theorem proceeds_quarantineFile (outcomes : Outcomes)
    (hunbroken : ∀ length, outcomes.reading ≠ .broken length) (hmutex : w.mutex = none) :
    Proceeds sha256 auditAdder paths thread (w.moveTo thread (.sizing srcPath virusName))
      ((w.withStore (w.store.quarantineFile sha256 auditAdder paths outcomes srcPath
        virusName).2).moveTo thread
        (.quarantined (w.store.quarantineFile sha256 auditAdder paths outcomes srcPath
          virusName).1)) := by
  cases hsized : outcomes.sized with
  | false =>
      simp only [Store.quarantineFile, hsized]
      exact .step _ (proceed_sizing_of_unreadable { readable := false } (.inl rfl)) (.refl _)
  | true =>
      cases hfile : w.files (paths.locate srcPath) with
      | none =>
          simp only [Store.quarantineFile, hsized, store, hfile]
          exact .step _ (proceed_sizing_of_unreadable {} (.inr hfile)) (.refl _)
      | some content =>
          have hread := @proceed_sizing _ _ _ _ _ sha256 auditAdder paths thread w srcPath
            virusName {} content rfl hfile
          have hnamed : ∀ hashed, Proceeds sha256 auditAdder paths thread
              (w.moveTo thread (.naming srcPath virusName hashed)) _ := fun hashed =>
            .step _ (proceed_naming { draw := outcomes.draw, now := outcomes.now } hashed)
              (proceeds_takeIn outcomes hmutex)
          have hstore : w.store.files (paths.locate srcPath) = some content := hfile
          simp only [Store.quarantineFile, hsized, hstore, Outcomes.readContent]
          by_cases hsmall : content.length ≤ maxHashBytes
          · rw [if_pos hsmall] at hread ⊢
            cases hreading : outcomes.reading with
            | refused =>
                exact .step _ hread (.step _ (proceed_reading { readable := false } hfile)
                  (.refl _))
            | broken length => exact absurd hreading (hunbroken length)
            | whole =>
                exact .step _ hread (.step _ (proceed_reading {} hfile) (hnamed (some content)))
          · rw [if_neg hsmall] at hread ⊢
            exact .step _ hread (hnamed none)

theorem Proceeds.reachable {w' : World ι Place σ}
    (hproceeds : Proceeds sha256 auditAdder paths thread w w')
    (hreachable : Reachable (quarantineSystem sha256 auditAdder paths) w) :
    Reachable (quarantineSystem sha256 auditAdder paths) w' := by
  obtain ⟨inputs, rfl⟩ := hproceeds
  induction inputs generalizing w with
  | nil => exact hreachable
  | cons inputs rest ih =>
      obtain ⟨steps, htrace⟩ := hreachable
      have hstep : (quarantineSystem sha256 auditAdder paths).Step w (.proceed thread inputs)
          (w.proceed sha256 auditAdder paths thread inputs) := rfl
      exact ih ⟨_, htrace.extend hstep⟩

/-- Between two steps of the quarantine a thread can make a whole call. -/
theorem reachable_request {w' : World ι Place σ} {request : Request}
    (hreachable : Reachable (quarantineSystem sha256 auditAdder paths) w)
    (hover : (w.calls thread).isOver = true)
    (hproceeds : Proceeds sha256 auditAdder paths thread (w.moveTo thread request.start) w') :
    Reachable (quarantineSystem sha256 auditAdder paths) w' := by
  obtain ⟨steps, htrace⟩ := hreachable
  have hstep : (quarantineSystem sha256 auditAdder paths).Step w (.call thread request)
      (w.moveTo thread request.start) := by
    change _ = w.perform sha256 auditAdder paths (.call thread request)
    simp only [perform, hover, if_true]
  exact hproceeds.reachable ⟨_, htrace.extend hstep⟩

end World

end Astartis.Containment
