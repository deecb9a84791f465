import Astartis.QuarantineCalls
import Astartis.QuarantineSafety

/-!
What a call of `quarantine_file` leaves behind.  A failing rename is answered by a copy, whose
leftovers and whose removal of the source are not looked at again.
-/

namespace Astartis.Containment

open Audit
open FileMoves

/-- The names of the files that entries have in the directory. -/
def entryFiles : Set ByteString :=
  {name | ∃ a b, name = generateEntryId a b ++ (".bin" : ByteString) ∨
    name = generateEntryId a b ++ (".meta" : ByteString)}

/-- Different names of entry files are different files. -/
def Paths.NamesApart {Place : Type} (paths : Paths Place) (quarantineDir : ByteString) : Prop :=
  Set.InjOn (fun name => paths.locate (paths.join quarantineDir name)) entryFiles

theorem bin_ne_meta (id id' : ByteString) :
    id ++ (".bin" : ByteString) ≠ id' ++ (".meta" : ByteString) := by
  intro h
  have hlast := congrArg List.getLast? h
  rw [List.getLast?_append_of_ne_nil _ (by decide), List.getLast?_append_of_ne_nil _ (by decide)]
    at hlast
  exact absurd hlast (by decide)

theorem generateEntryId_ne_nil (a b : UInt64) : generateEntryId a b ≠ [] := by
  have hqtn : ("qtn_" : ByteString) ≠ [] := by decide
  simp [generateEntryId, hqtn]

namespace Store

variable {Place σ : Type} [DecidableEq Place]
variable (sha256 : Sha256) (auditAdder : AuditAdder σ) (paths : Paths Place)

/-- The file is in the quarantine and nowhere else, with an entry in the list and one in the
chain. -/
structure Quarantined (srcPath : ByteString) (s : Store Place σ) (e : QuarantineEntry)
    (s' : Store Place σ) : Prop where
  gone : s'.files (paths.locate srcPath) = none
  kept : ∃ content, s.files (paths.locate srcPath) = some content ∧
    s'.files (paths.locate e.quarantinePath) = some content ∧
    (content.length ≤ maxHashBytes → e.sha256Hash = sha256Hex sha256 content)
  listed : s'.quarantine.entries = s.quarantine.entries ++ [e]
  audited : ∃ payload, s'.audit = (auditAdder "quarantine" payload s.audit).2

/-- What a call returns is an entry of a quarantined file, or nothing has changed. -/
def AllOrNothing (outcomes : Outcomes) (srcPath virusName : ByteString) (s : Store Place σ) :
    Prop :=
  let (e, s') := s.quarantineFile sha256 auditAdder paths outcomes srcPath virusName
  (e.entryId ≠ [] → Quarantined sha256 auditAdder paths srcPath s e s') ∧
    (e.entryId = [] → s' = s)

/-- The place of a file of the entry that a call makes. -/
def entryPlace (outcomes : Outcomes) (suffix : ByteString) (s : Store Place σ) : Place :=
  paths.locate (paths.join s.quarantine.quarantineDir
    (generateEntryId outcomes.draw.1 outcomes.draw.2 ++ suffix))

/-- What is behind the move keeps it: the bytes that were hashed have the file's digest, and
the sidecar is not written in the place of the file. -/
def Described (outcomes : Outcomes) (srcPath content : ByteString) (s : Store Place σ) : Prop :=
  (∀ hashed, outcomes.readContent content = some (some hashed) →
      sha256Hex sha256 hashed = sha256Hex sha256 content) ∧
    (outcomes.sidecar = .failed ∨ s.entryPlace paths outcomes ".meta" ≠ paths.locate srcPath)

/-- The move takes the file along or leaves everything as it was. -/
def Completes (outcomes : Outcomes) (srcPath : ByteString) (s : Store Place σ) : Prop :=
  ∀ content, outcomes.sized = true → s.files (paths.locate srcPath) = some content →
    outcomes.readContent content ≠ none →
    (outcomes.move.rename = .done →
      paths.locate srcPath ≠ s.entryPlace paths outcomes ".bin" ∧
        s.Described sha256 paths outcomes srcPath content) ∧
    (outcomes.move.rename ≠ .done →
      paths.locate srcPath ≠ s.entryPlace paths outcomes ".bin" →
      (outcomes.move.copy = .done →
        outcomes.move.remove = .done ∧ s.Described sha256 paths outcomes srcPath content) ∧
      ∀ left, outcomes.move.copy = .torn left →
        s.files (s.entryPlace paths outcomes ".bin") = some left)

variable {sha256 auditAdder paths}
variable {s : Store Place σ} {outcomes : Outcomes} {srcPath virusName content : ByteString}

theorem allOrNothing_of_unchanged
    (hcall : s.quarantineFile sha256 auditAdder paths outcomes srcPath virusName = (noEntry, s)) :
    s.AllOrNothing sha256 auditAdder paths outcomes srcPath virusName := by
  simp only [AllOrNothing, hcall]
  exact ⟨fun h => absurd rfl h, fun _ => trivial⟩

/-- A call that gets as far as the move. -/
theorem quarantineFile_eq_takeIn {hashed : Option ByteString} (hsized : outcomes.sized = true)
    (hfile : s.files (paths.locate srcPath) = some content)
    (hread : outcomes.readContent content = some hashed) :
    s.quarantineFile sha256 auditAdder paths outcomes srcPath virusName =
      s.takeIn auditAdder paths outcomes srcPath
        (newEntry paths sha256 s.quarantine.quarantineDir
          { draw := outcomes.draw, now := outcomes.now } srcPath virusName hashed) := by
  simp only [quarantineFile, hsized, hfile, hread]

omit [DecidableEq Place] in
/-- The digest is the file's, unless the file is too large for one. -/
theorem sha256Hash_newEntry_iff {hashed : Option ByteString}
    (hread : outcomes.readContent content = some hashed) (quarantineDir : ByteString)
    (inputs : Inputs) (srcPath virusName : ByteString) :
    (content.length ≤ maxHashBytes →
        (newEntry paths sha256 quarantineDir inputs srcPath virusName hashed).sha256Hash =
          sha256Hex sha256 content) ↔
      ∀ read, outcomes.readContent content = some (some read) →
        sha256Hex sha256 read = sha256Hex sha256 content := by
  rw [hread]
  cases hashed with
  | none =>
      have hlarge : ¬ content.length ≤ maxHashBytes := by
        intro hsmall
        simp [Outcomes.readContent, hsmall] at hread
      simp [hlarge]
  | some read =>
      have hsmall : content.length ≤ maxHashBytes := by
        by_contra hlarge
        simp [Outcomes.readContent, hlarge] at hread
      simp [newEntry, hsmall]

/-- When the move reports success, the call is right about it exactly if the file is gone from
its place and nothing behind the move spoils it. -/
theorem allOrNothing_of_moved {hashed : Option ByteString} {files : Files Place ByteString}
    (hnames : paths.NamesApart s.quarantine.quarantineDir) (hsized : outcomes.sized = true)
    (hfile : s.files (paths.locate srcPath) = some content)
    (hread : outcomes.readContent content = some hashed)
    (hmove : relocate outcomes.move (paths.locate srcPath)
      (s.entryPlace paths outcomes ".bin") s.files = (true, files)) :
    s.AllOrNothing sha256 auditAdder paths outcomes srcPath virusName ↔
      files (paths.locate srcPath) = none ∧
        files (s.entryPlace paths outcomes ".bin") = some content ∧
        s.Described sha256 paths outcomes srcPath content := by
  have hapart : s.entryPlace paths outcomes ".meta" ≠ s.entryPlace paths outcomes ".bin" :=
    fun h => bin_ne_meta _ _ (hnames ⟨_, _, .inr rfl⟩ ⟨_, _, .inl rfl⟩ h).symm
  have hcall := @quarantineFile_eq_takeIn Place σ _ sha256 auditAdder paths s outcomes srcPath
    virusName content hashed hsized hfile hread
  have hdigest := @sha256Hash_newEntry_iff Place sha256 paths outcomes content hashed hread
    s.quarantine.quarantineDir { draw := outcomes.draw, now := outcomes.now } srcPath virusName
  generalize hentry : newEntry paths sha256 s.quarantine.quarantineDir
    { draw := outcomes.draw, now := outcomes.now } srcPath virusName hashed = e at hcall hdigest
  have hne : e.entryId ≠ [] := hentry ▸ generateEntryId_ne_nil _ _
  have hbin : paths.locate e.quarantinePath = s.entryPlace paths outcomes ".bin" :=
    hentry ▸ rfl
  have hmeta : paths.locate (metaPath paths s.quarantine.quarantineDir e) =
      s.entryPlace paths outcomes ".meta" := hentry ▸ rfl
  rw [takeIn_of_moved auditAdder paths (hbin ▸ hmove), hmeta] at hcall
  rw [AllOrNothing, hcall, Described, ← hdigest]
  constructor
  · rintro ⟨hquarantined, -⟩
    obtain ⟨hgone, ⟨found, hfound, hkept, hhash⟩, -, -⟩ := hquarantined hne
    obtain rfl : found = content := Option.some.inj (hfound.symm.trans hfile)
    obtain ⟨hgone, hsidecar⟩ := Call.run_write_eq_none_iff.mp hgone
    rw [hbin] at hkept
    exact ⟨hgone, (Call.run_write_of_ne hapart).symm.trans hkept, hhash, hsidecar⟩
  · rintro ⟨hgone, hkept, hhash, hsidecar⟩
    refine ⟨fun _ => ⟨Call.run_write_eq_none_iff.mpr ⟨hgone, hsidecar⟩, ⟨content, hfile, ?_, hhash⟩,
      rfl, ⟨_, rfl⟩⟩, fun hempty => absurd hempty hne⟩
    rw [hbin]
    exact (Call.run_write_of_ne hapart).trans hkept

/-- When the move fails, the call is right about it exactly if the files are as they were. -/
theorem allOrNothing_of_unmoved {hashed : Option ByteString} {files : Files Place ByteString}
    (hsized : outcomes.sized = true) (hfile : s.files (paths.locate srcPath) = some content)
    (hread : outcomes.readContent content = some hashed)
    (hmove : relocate outcomes.move (paths.locate srcPath)
      (s.entryPlace paths outcomes ".bin") s.files = (false, files)) :
    s.AllOrNothing sha256 auditAdder paths outcomes srcPath virusName ↔ files = s.files := by
  have hcall := @quarantineFile_eq_takeIn Place σ _ sha256 auditAdder paths s outcomes srcPath
    virusName content hashed hsized hfile hread
  rw [takeIn_of_unmoved auditAdder paths hmove] at hcall
  rw [AllOrNothing, hcall]
  constructor
  · rintro ⟨-, hunchanged⟩
    exact congrArg Store.files (hunchanged rfl)
  · rintro rfl
    exact ⟨fun h => absurd rfl h, fun _ => rfl⟩

theorem moved_iff {source bin : Place} {files : Files Place ByteString} (hne : source ≠ bin)
    {P : Prop} :
    Function.update (Function.update files bin (some content)) source none source = none ∧
        Function.update (Function.update files bin (some content)) source none bin =
          some content ∧ P ↔ P := by
  simp [Function.update_of_ne hne.symm]

section Move

variable {hashed : Option ByteString} (hnames : paths.NamesApart s.quarantine.quarantineDir)
  (hsized : outcomes.sized = true) (hfile : s.files (paths.locate srcPath) = some content)
  (hread : outcomes.readContent content = some hashed)

include hnames hsized hfile hread

theorem allOrNothing_renamed_iff (hrename : outcomes.move.rename = .done) :
    s.AllOrNothing sha256 auditAdder paths outcomes srcPath virusName ↔
      paths.locate srcPath ≠ s.entryPlace paths outcomes ".bin" ∧
        s.Described sha256 paths outcomes srcPath content := by
  rw [allOrNothing_of_moved hnames hsized hfile hread (relocate_of_rename hfile hrename)]
  split
  · rename_i hplace
    exact iff_of_false (fun h => by simp [hfile] at h) fun h => h.1 hplace
  · rename_i hplace
    rw [moved_iff hplace, and_iff_right hplace]

theorem allOrNothing_copied_iff (hrename : outcomes.move.rename ≠ .done) :
    s.AllOrNothing sha256 auditAdder paths outcomes srcPath virusName ↔
      (paths.locate srcPath ≠ s.entryPlace paths outcomes ".bin" →
        (outcomes.move.copy = .done →
          outcomes.move.remove = .done ∧ s.Described sha256 paths outcomes srcPath content) ∧
        ∀ left, outcomes.move.copy = .torn left →
          s.files (s.entryPlace paths outcomes ".bin") = some left) := by
  have hmove := @relocate_of_copy _ _ _ outcomes.move s.files _
    (s.entryPlace paths outcomes ".bin") content hfile hrename
  by_cases hplace : paths.locate srcPath = s.entryPlace paths outcomes ".bin"
  · rw [if_pos hplace] at hmove
    exact iff_of_true ((allOrNothing_of_unmoved hsized hfile hread hmove).mpr rfl)
      fun h => absurd hplace h
  rw [if_neg hplace] at hmove
  simp only [ne_eq, hplace, not_false_eq_true, true_implies]
  cases hcopy : outcomes.move.copy with
  | failed =>
      simp only [hcopy] at hmove
      rw [allOrNothing_of_unmoved hsized hfile hread hmove]
      simp
  | torn left =>
      simp only [hcopy] at hmove
      rw [allOrNothing_of_unmoved hsized hfile hread hmove]
      simp [eq_comm]
  | done =>
      simp only [hcopy] at hmove
      rw [allOrNothing_of_moved hnames hsized hfile hread hmove]
      cases hremove : outcomes.move.remove with
      | done =>
          rw [moved_iff hplace]
          simp
      | failed => simp [Function.update_of_ne hplace, hfile]
      | torn left => simp [Function.update_of_ne hplace, hfile]

end Move

omit [DecidableEq Place] in
/-- A call that does not get as far as the move asks nothing of it. -/
theorem completes_of_unread (hunread : ∀ content, outcomes.sized = true →
    s.files (paths.locate srcPath) = some content → outcomes.readContent content = none) :
    s.Completes sha256 paths outcomes srcPath :=
  fun content hsized hfile hread => absurd (hunread content hsized hfile) hread

omit [DecidableEq Place] in
theorem completes_iff {hashed : Option ByteString} (hsized : outcomes.sized = true)
    (hfile : s.files (paths.locate srcPath) = some content)
    (hread : outcomes.readContent content = some hashed) :
    s.Completes sha256 paths outcomes srcPath ↔
      (outcomes.move.rename = .done →
        paths.locate srcPath ≠ s.entryPlace paths outcomes ".bin" ∧
          s.Described sha256 paths outcomes srcPath content) ∧
      (outcomes.move.rename ≠ .done →
        paths.locate srcPath ≠ s.entryPlace paths outcomes ".bin" →
        (outcomes.move.copy = .done →
          outcomes.move.remove = .done ∧ s.Described sha256 paths outcomes srcPath content) ∧
        ∀ left, outcomes.move.copy = .torn left →
          s.files (s.entryPlace paths outcomes ".bin") = some left) := by
  constructor
  · intro h
    exact h content hsized hfile (by simp [hread])
  · rintro h found - hfound -
    obtain rfl : found = content := Option.some.inj (hfound.symm.trans hfile)
    exact h

/-- A call of `quarantine_file` is all or nothing exactly if its move takes the file along or
leaves everything as it was. -/
theorem quarantineFile_allOrNothing_iff (sha256 : Sha256) (auditAdder : AuditAdder σ)
    (paths : Paths Place) (outcomes : Outcomes) (srcPath virusName : ByteString)
    (s : Store Place σ) (hnames : paths.NamesApart s.quarantine.quarantineDir) :
    s.AllOrNothing sha256 auditAdder paths outcomes srcPath virusName ↔
      s.Completes sha256 paths outcomes srcPath := by
  cases hsized : outcomes.sized with
  | false =>
      refine iff_of_true (allOrNothing_of_unchanged (by simp only [quarantineFile, hsized]))
        (completes_of_unread fun content htrue _ => ?_)
      exact absurd (hsized.symm.trans htrue) (by simp)
  | true =>
  cases hfile : s.files (paths.locate srcPath) with
  | none =>
      refine iff_of_true (allOrNothing_of_unchanged (by
        simp only [quarantineFile, hsized, hfile]))
        (completes_of_unread fun content _ hcontent => ?_)
      exact absurd (hfile.symm.trans hcontent) (by simp)
  | some content =>
  cases hread : outcomes.readContent content with
  | none =>
      refine iff_of_true (allOrNothing_of_unchanged (by
        simp only [quarantineFile, hsized, hfile, hread]))
        (completes_of_unread fun found _ hfound => ?_)
      obtain rfl : found = content := Option.some.inj (hfound.symm.trans hfile)
      exact hread
  | some hashed =>
  rw [completes_iff hsized hfile hread]
  by_cases hrename : outcomes.move.rename = .done
  · rw [allOrNothing_renamed_iff hnames hsized hfile hread hrename]
    exact ⟨fun h => ⟨fun _ => h, fun hne => absurd hrename hne⟩, fun h => h.1 hrename⟩
  · rw [allOrNothing_copied_iff hnames hsized hfile hread hrename]
    exact ⟨fun h => ⟨fun heq => absurd heq hrename, fun _ => h⟩, fun h => h.2 hrename⟩

end Store

section Samples

/-- The files and the chain of the inbox. -/
def inboxStore : Store ByteString (List (ByteString × ByteString)) :=
  inbox.store

theorem windowsPaths_namesApart (quarantineDir : ByteString) :
    windowsPaths.NamesApart quarantineDir :=
  fun _ _ _ _ h => List.append_cancel_left h

theorem invoice_allOrNothing :
    inboxStore.AllOrNothing zeroDigest noteEntry windowsPaths {} invoicePath "Eicar" := by
  refine (Store.quarantineFile_allOrNothing_iff zeroDigest noteEntry windowsPaths {} invoicePath
    "Eicar" inboxStore (windowsPaths_namesApart _)).mpr ?_
  intro content _ hcontent _
  refine ⟨fun _ => ⟨by decide +kernel, ?_, .inr (by decide +kernel)⟩, fun h => absurd rfl h⟩
  intro hashed hread
  have hsmall : content.length ≤ maxHashBytes := by
    by_contra hlarge
    simp [Outcomes.readContent, hlarge] at hread
  simp only [Outcomes.readContent, hsmall, if_true, Reading.deliver, Option.map_some,
    Option.some.injEq] at hread
  rw [hread]

/-- The invoice can be copied to the other volume, but not removed. -/
def heldOpen : Outcomes where
  move := { rename := .failed, remove := .failed }

theorem held_invoice_stays :
    (inboxStore.quarantineFile zeroDigest noteEntry windowsPaths heldOpen invoicePath
        "Eicar").2.files invoicePath = some oldInvoice ∧
      ¬ inboxStore.AllOrNothing zeroDigest noteEntry windowsPaths heldOpen invoicePath
        "Eicar" := by
  have hstays : (inboxStore.quarantineFile zeroDigest noteEntry windowsPaths heldOpen invoicePath
      "Eicar").2.files invoicePath = some oldInvoice := by
    decide +kernel
  refine ⟨hstays, fun h => ?_⟩
  have hgone := (h.1 (generateEntryId_ne_nil _ _)).gone
  exact absurd (hstays.symm.trans hgone) (by simp)

end Samples

end Astartis.Containment
