import Astartis.SandboxFreeze

/-!
A write goes to the entries, to the disk and to the audit log, one after the other.  What goes
wrong on the disk is not reported and takes nothing back.
-/

namespace Astartis.Sandbox

open Audit

section Outcome

variable {σ : Type} {callbacks : Callbacks σ} {now : Int64} {absPath content author : ByteString}
  {self : Sandbox} {world : σ}

/-- A refused write has no effect. -/
theorem write_refused
    (hok : (self.write callbacks now absPath content author world).1.ok = false) :
    (self.write callbacks now absPath content author world).2 = (self, world) := by
  revert hok
  simp only [write]
  split
  · exact fun _ => rfl
  · split
    · exact fun _ => rfl
    · split
      · exact fun _ => rfl
      · split
        · exact fun _ => rfl
        · exact fun hok => absurd hok (by simp)

theorem write_accepted
    (hok : (self.write callbacks now absPath content author world).1.ok = true) :
    ∃ payload, (self.write callbacks now absPath content author world).2 =
      ({ self with
          entries := self.entries.insert (self.toRel absPath)
            (writtenEntry now (self.toRel absPath) content self.entries[self.toRel absPath]?) },
        (callbacks.auditAdder "sandbox_write" payload world).2) := by
  revert hok
  simp only [write]
  split
  · exact fun hok => absurd hok (by simp [outsideRoot])
  · split
    · exact fun hok => absurd hok (by simp)
    · split
      · exact fun hok => absurd hok (by simp)
      · split
        · exact fun hok => absurd hok (by simp)
        · exact fun _ => ⟨_, rfl⟩

theorem writtenEntry_content (rel : ByteString) (found : Option SandboxEntry) :
    (writtenEntry now rel content found).content = content := by
  cases found with
  | none => rfl
  | some entry => rfl

end Outcome

/-- Text mode changes what is written at every line feed. -/
theorem textMode_take_eq_iff (content : ByteString) (count : Nat) :
    (textMode content).take count = content ↔ 10 ∉ content ∧ content.length ≤ count := by
  induction content generalizing count with
  | nil => simp [textMode]
  | cons b content ih =>
      have hcons : textMode (b :: content) =
          (if b = 10 then [13, 10] else [b]) ++ textMode content := rfl
      rw [hcons]
      split
      · rename_i hb
        cases count with
        | zero => simp [hb]
        | succ count =>
            simp only [hb, List.cons_append, List.take_succ_cons, List.cons.injEq]
            constructor
            · rintro ⟨hcarriage, -⟩
              exact absurd hcarriage (by decide)
            · rintro ⟨hfeed, -⟩
              exact absurd (List.mem_cons_self ..) hfeed
      · rename_i hb
        cases count with
        | zero => simp
        | succ count =>
            rw [List.singleton_append, List.take_succ_cons, List.cons.injEq, ih]
            simp [Ne.symm hb]

namespace Mirror

variable {σ : Type} (callbacks : Callbacks σ)

/-- The version of a new entry is 1, and otherwise the successor of the one before. -/
def NextVersion (found : Option SandboxEntry) (version : UInt64) : Prop :=
  match found with
  | none => version = 1
  | some entry => version.toNat = entry.version.toNat + 1

/-- What a write reports as done is done everywhere, what it reports as failed is done nowhere. -/
structure WritesAtomically (now : Int64) (outcome : DiskOutcome)
    (absPath content author : ByteString) (s : Mirror σ) : Prop where
  failed : (s.write callbacks now outcome absPath content author).1.ok = false →
    (s.write callbacks now outcome absPath content author).2 = s
  done : (s.write callbacks now outcome absPath content author).1.ok = true →
    let after := (s.write callbacks now outcome absPath content author).2
    let rel := s.sandbox.toRel absPath
    (∃ entry, after.sandbox.entries[rel]? = some entry ∧ entry.content = content ∧
        NextVersion s.sandbox.entries[rel]? entry.version) ∧
      (∀ other, other ≠ rel → after.sandbox.entries[other]? = s.sandbox.entries[other]?) ∧
      after.disk.files (spelling.resolve absPath) = some content ∧
      ∃ payload, after.world = (callbacks.auditAdder "sandbox_write" payload s.world).2

/-- The guards and locks let a write pass. -/
def Accepts (absPath : ByteString) (self : Mirror σ) : Prop :=
  isInside absPath self.sandbox.rootPath = true ∧ self.sandbox.toRel absPath ≠ [] ∧
    callbacks.lockCheck self.world = false ∧
    self.sandbox.isEntryLocked (self.sandbox.toRel absPath) = false

/-- The file ends with the content: all of it arrives, and text mode changes no byte of it, or
nothing arrives and the content is there already. -/
def FileTakes (outcome : DiskOutcome) (absPath content : ByteString) (disk : Disk) : Prop :=
  match outcome with
  | .failed => disk.files (spelling.resolve absPath) = some content
  | .written count =>
      if absPath = [] then disk.files (spelling.resolve absPath) = some content
      else 10 ∉ content ∧ content.length ≤ count

theorem writeToDisk_files_iff (outcome : DiskOutcome) (absPath content : ByteString)
    (disk : Disk) :
    (writeToDisk outcome absPath content disk).files (spelling.resolve absPath) = some content ↔
      FileTakes outcome absPath content disk := by
  cases outcome with
  | failed => rfl
  | written count =>
      simp only [writeToDisk, FileTakes]
      split
      · rfl
      · rw [Function.update_self, Option.some.injEq, textMode_take_eq_iff]

/-- No version is the last one of 64 bits. -/
def VersionLeft (rel : ByteString) (self : Sandbox) : Prop :=
  ∀ entry, self.entries[rel]? = some entry → entry.version.toNat + 1 < 2 ^ 64

theorem nextVersion_iff (now : Int64) (rel content : ByteString) (found : Option SandboxEntry) :
    NextVersion found (writtenEntry now rel content found).version ↔
      ∀ entry, found = some entry → entry.version.toNat + 1 < 2 ^ 64 := by
  cases found with
  | none => simp [NextVersion, writtenEntry]
  | some entry =>
      have hbound := entry.version.toNat_lt
      simp only [NextVersion, writtenEntry, Option.some.injEq, forall_eq', UInt64.toNat_add,
        UInt64.reduceToNat]
      omega

variable {callbacks}

theorem writesAtomically_of_refused {now : Int64} {outcome : DiskOutcome}
    {absPath content author : ByteString} {self : Mirror σ}
    (hok : (self.write callbacks now outcome absPath content author).1.ok = false) :
    self.WritesAtomically callbacks now outcome absPath content author := by
  constructor
  · intro _
    have hsame := write_refused hok
    simp only [write] at hok ⊢
    simp only [hok, hsame, Bool.false_eq_true, if_false]
  · intro hdone
    rw [hok] at hdone
    exact absurd hdone (by decide)

theorem writesAtomically_accepted_iff {now : Int64} {outcome : DiskOutcome}
    {absPath content author : ByteString} {self : Mirror σ}
    (hok : (self.write callbacks now outcome absPath content author).1.ok = true) :
    self.WritesAtomically callbacks now outcome absPath content author ↔
      VersionLeft (self.sandbox.toRel absPath) self.sandbox ∧
        FileTakes outcome absPath content self.disk := by
  obtain ⟨payload, haccepted⟩ := write_accepted hok
  have hafter : (self.write callbacks now outcome absPath content author).2 =
      { sandbox :=
          { self.sandbox with
            entries := self.sandbox.entries.insert (self.sandbox.toRel absPath)
              (writtenEntry now (self.sandbox.toRel absPath) content
                self.sandbox.entries[self.sandbox.toRel absPath]?) }
        disk := writeToDisk outcome absPath content self.disk
        world := (callbacks.auditAdder "sandbox_write" payload self.world).2 } := by
    simp only [write] at hok ⊢
    simp only [hok, haccepted, if_true]
  have hversion := nextVersion_iff now (self.sandbox.toRel absPath) content
    self.sandbox.entries[self.sandbox.toRel absPath]?
  have hfile := writeToDisk_files_iff outcome absPath content self.disk
  constructor
  · rintro ⟨-, hdone⟩
    obtain ⟨⟨entry, hentry, -, hnext⟩, -, hfiles, -⟩ := hdone hok
    simp only [hafter, Std.TreeMap.getElem?_insert_self, Option.some.injEq] at hentry hfiles
    subst hentry
    exact ⟨hversion.mp hnext, hfile.mp hfiles⟩
  · rintro ⟨hleft, htakes⟩
    constructor
    · intro hfailed
      rw [hok] at hfailed
      exact absurd hfailed (by decide)
    · intro _
      simp only [hafter]
      refine ⟨⟨_, Std.TreeMap.getElem?_insert_self, writtenEntry_content _ _,
        hversion.mpr hleft⟩, ?_, hfile.mpr htakes, payload, rfl⟩
      intro other hother
      rw [Std.TreeMap.getElem?_insert, if_neg]
      simpa using hother.symm

/-- When a write is atomic: it is refused, or its entry has a version left and the file ends with
its content. -/
theorem writesAtomically_iff (callbacks : Callbacks σ) (now : Int64) (outcome : DiskOutcome)
    (absPath content author : ByteString) (self : Mirror σ) :
    self.WritesAtomically callbacks now outcome absPath content author ↔
      (self.Accepts callbacks absPath →
        VersionLeft (self.sandbox.toRel absPath) self.sandbox ∧
          FileTakes outcome absPath content self.disk) := by
  have haccepts : (self.write callbacks now outcome absPath content author).1.ok = true ↔
      self.Accepts callbacks absPath :=
    write_ok_iff callbacks now absPath content author self.sandbox self.world
  cases hok : (self.write callbacks now outcome absPath content author).1.ok with
  | false =>
      rw [hok] at haccepts
      apply iff_of_true (writesAtomically_of_refused hok)
      exact fun h => absurd (haccepts.mpr h) (by decide)
  | true =>
      rw [writesAtomically_accepted_iff hok]
      exact ⟨fun h _ => h, fun h => h (haccepts.mp hok)⟩

def openMirror : Mirror Bool where
  sandbox := construct "/srv/mirror"
  world := false

/-- The file cannot be opened, and the write is reported as done. -/
theorem unopened_file_not_atomic :
    (openMirror.write Surface.lockCallbacks 0 .failed "/srv/mirror/etc/motd" "hello"
        "admin").1.ok = true ∧
      ¬ openMirror.WritesAtomically Surface.lockCallbacks 0 .failed "/srv/mirror/etc/motd" "hello"
        "admin" := by
  have hok : (openMirror.write Surface.lockCallbacks 0 .failed "/srv/mirror/etc/motd" "hello"
      "admin").1.ok = true := by
    decide +kernel
  refine ⟨hok, fun hatomic => ?_⟩
  have hfile := (hatomic.done hok).2.2.1
  exact absurd hfile (by decide +kernel)

end Mirror

end Astartis.Sandbox
