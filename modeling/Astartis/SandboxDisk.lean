import Mathlib.Logic.Function.Basic
import Astartis.LexicalPath
import Astartis.Sandbox
import Astartis.TransitionSystem

/-!
The files behind a sandbox.  `write_to_disk` gets the path as the caller spelt it, while
the lock of an entry is looked up under the key that `to_rel` makes of that path.
-/

namespace Astartis.Sandbox

open Audit
open LexicalPath
open TransitionSystem

/-- Both kinds of slash, and `.` for the directory itself. -/
def spelling : Spelling UInt8 where
  isSeparator := fun b => b = 47 || b = 92
  here := "."
  here_plain := by
    intro c hc
    obtain rfl : c = 46 := List.mem_singleton.mp hc
    rfl

/-- The files on disk, and the paths that `write_to_disk` was called with. -/
structure Disk where
  files : Location UInt8 → Option ByteString := fun _ => none
  written : List ByteString := []

/-- How `write_to_disk` ends: the file could not be opened, or this many bytes arrive.  The
empty path can never be opened. -/
inductive DiskOutcome
  | failed
  | written (count : Nat)

/-- What a stream that is not opened as binary writes. -/
def textMode (content : ByteString) : ByteString :=
  content.flatMap fun b => if b = 10 then [13, 10] else [b]

def writeToDisk (outcome : DiskOutcome) (absPath content : ByteString) (disk : Disk) : Disk :=
  { files :=
      match outcome with
      | .failed => disk.files
      | .written count =>
          if absPath = [] then disk.files
          else
            Function.update disk.files (spelling.resolve absPath)
              (some ((textMode content).take count))
    written := disk.written ++ [absPath] }

/-- The file of an entry. -/
def fileOf (rel : ByteString) (self : Sandbox) : Location UInt8 :=
  spelling.resolve (self.rootPath ++ ("/" : ByteString) ++ rel)

/-- The root as the constructor leaves it. -/
def Constructed (self : Sandbox) : Prop :=
  ∃ rootPath, self.rootPath = normalise rootPath

section Normalise

theorem dropSlashes_subset (p : ByteString) : ∀ b ∈ dropSlashes p, b ∈ p := by
  induction p using dropSlashes.induct with
  | case1 c rest ih =>
      intro b hb
      rw [dropSlashes, if_pos rfl] at hb
      exact List.mem_cons_of_mem _ (ih b hb)
  | case2 b c rest hb =>
      intro b' hb'
      rwa [dropSlashes, if_neg hb] at hb'
  | case3 p hp =>
      intro b hb
      rwa [dropSlashes.eq_2 p hp] at hb

theorem dropSlashes_dropSlashes (p : ByteString) :
    dropSlashes (dropSlashes p) = dropSlashes p := by
  induction p using dropSlashes.induct with
  | case1 c rest ih => rwa [dropSlashes, if_pos rfl]
  | case2 b c rest hb => rw [dropSlashes, if_neg hb, dropSlashes, if_neg hb]
  | case3 p hp => rw [dropSlashes.eq_2 p hp, dropSlashes.eq_2 p hp]

theorem resolve_dropSlashes (p : ByteString) :
    spelling.resolve (dropSlashes p).reverse = spelling.resolve p.reverse := by
  induction p using dropSlashes.induct with
  | case1 c rest ih =>
      have hslash : spelling.resolve ((c :: rest).reverse ++ [47]) =
          spelling.resolve (c :: rest).reverse :=
        Spelling.resolve_append rfl (by simp) spelling.names_nil
      rw [dropSlashes, if_pos rfl, ih, ← hslash, ← List.reverse_cons]
  | case2 b c rest hb => rw [dropSlashes, if_neg hb]
  | case3 p hp => rw [dropSlashes.eq_2 p hp]

/-- A normalised path denotes what the path denotes. -/
theorem resolve_normalise (p : ByteString) :
    spelling.resolve (normalise p) = spelling.resolve p := by
  rw [normalise, resolve_dropSlashes, List.reverse_reverse]
  apply Spelling.resolve_map
  · intro b
    simp only [spelling]
    split <;> simp_all
  · intro b hb
    simp only [spelling, Bool.or_eq_false_iff, decide_eq_false_iff_not] at hb
    exact if_neg hb.2

/-- No backslash is left. -/
theorem normalise_slashes (p : ByteString) : ∀ b ∈ normalise p, b ≠ 92 := by
  intro b hb
  have hmem := dropSlashes_subset _ b (List.mem_reverse.mp hb)
  obtain ⟨c, -, rfl⟩ := List.mem_map.mp (List.mem_reverse.mp hmem)
  split
  · decide
  · assumption

theorem normalise_normalise (p : ByteString) : normalise (normalise p) = normalise p := by
  have hmap : (normalise p).map (fun b => if b = 92 then 47 else b) = normalise p :=
    (List.map_congr_left fun b hb => if_neg (normalise_slashes p b hb)).trans (List.map_id' _)
  rw [normalise, hmap, normalise, List.reverse_reverse, dropSlashes_dropSlashes]

theorem Constructed.normalise_rootPath {self : Sandbox} (hroot : self.Constructed) :
    normalise self.rootPath = self.rootPath := by
  obtain ⟨rootPath, hroot⟩ := hroot
  rw [hroot, normalise_normalise]

theorem normalise_eq_nil_iff {p : ByteString} : normalise p = [] ↔ p = [] := by
  have hdrop : ∀ q, dropSlashes q = [] ↔ q = [] := by
    intro q
    induction q using dropSlashes.induct with
    | case1 c rest ih => simp [dropSlashes, ih]
    | case2 b c rest hb => simp [dropSlashes, hb]
    | case3 q hq => rw [dropSlashes.eq_2 q hq]
  simp [normalise, hdrop]

/-- The key of a path inside the root spells the rest of the path. -/
theorem normalise_eq_of_isInside {absPath : ByteString} {self : Sandbox}
    (hroot : self.Constructed) (hinside : isInside absPath self.rootPath = true) :
    (normalise absPath = self.rootPath ∧ self.toRel absPath = ".") ∨
      normalise absPath = self.rootPath ++ ("/" : ByteString) ++ self.toRel absPath := by
  have hinside' : isInside (normalise absPath) self.rootPath = true := by
    simpa only [isInside, normalise_normalise] using hinside
  simp only [isInside, hroot.normalise_rootPath] at hinside
  split at hinside
  · simp at hinside
  · rename_i hdotdot
    have hrel : self.toRel absPath =
        if normalise absPath = self.rootPath then ("." : ByteString)
        else (normalise absPath).drop (self.rootPath.length + 1) := by
      simp [toRel, hdotdot, hinside']
    by_cases heq : normalise absPath = self.rootPath
    · exact .inl ⟨heq, by rw [hrel, if_pos heq]⟩
    · simp only [heq, decide_false, Bool.false_or, List.isPrefixOf_iff_prefix] at hinside
      obtain ⟨rest, hrest⟩ := hinside
      rw [if_neg heq, ← hrest] at hrel
      have hlength : (self.rootPath ++ ("/" : ByteString)).length =
          self.rootPath.length + 1 := by
        rw [List.length_append]
        rfl
      rw [← hlength, List.drop_left] at hrel
      exact .inr (by rw [hrel, hrest])

/-- A write goes to the file of the entry whose lock it is checked against. -/
theorem resolve_eq_fileOf {absPath : ByteString} {self : Sandbox} (hroot : self.Constructed)
    (hinside : isInside absPath self.rootPath = true) (hpath : absPath ≠ []) :
    spelling.resolve absPath = self.fileOf (self.toRel absPath) := by
  rw [← resolve_normalise absPath]
  rcases normalise_eq_of_isInside hroot hinside with ⟨heq, hrel⟩ | heq
  · have hne : self.rootPath ≠ [] := by
      rw [← heq]
      exact fun hnil => hpath (normalise_eq_nil_iff.mp hnil)
    rw [heq, hrel, fileOf, List.append_assoc]
    exact (Spelling.resolve_append rfl hne spelling.names_here).symm
  · rw [heq, fileOf]

end Normalise

/-- Two keys have one file exactly if they name the same components. -/
theorem fileOf_eq_iff (self : Sandbox) (rel rel' : ByteString) :
    self.fileOf rel = self.fileOf rel' ↔ spelling.names rel = spelling.names rel' := by
  simp only [fileOf, List.append_assoc]
  exact Spelling.resolve_inside_iff rfl self.rootPath rel rel'

theorem writeToDisk_of_ne {outcome : DiskOutcome} {absPath content : ByteString} {disk : Disk}
    {location : Location UInt8}
    (hne : absPath ≠ [] → location ≠ spelling.resolve absPath) :
    (writeToDisk outcome absPath content disk).files location = disk.files location := by
  cases outcome with
  | failed => rfl
  | written count =>
      simp only [writeToDisk]
      split
      · rfl
      · rename_i hpath
        exact Function.update_of_ne (hne hpath) _ _

section Locks

variable {σ : Type} (callbacks : Callbacks σ) (self : Sandbox) (world : σ)

@[simp] theorem write_rootPath (now : Int64) (absPath content author : ByteString) :
    (self.write callbacks now absPath content author world).2.1.rootPath = self.rootPath := by
  simp only [write]
  repeat' split
  all_goals rfl

@[simp] theorem setLocked_rootPath (locked : Bool) (eventType absPath reason : ByteString) :
    (self.setLocked callbacks locked eventType absPath reason world).2.1.rootPath =
      self.rootPath := by
  simp only [setLocked]
  repeat' split
  all_goals rfl

/-- Locking and unlocking concern the entry that has the key of the path. -/
theorem setLocked_isEntryLocked (locked : Bool) (eventType absPath reason rel : ByteString)
    (hother : isInside absPath self.rootPath = true → self.toRel absPath = rel →
      self.isEntryLocked rel = locked) :
    (self.setLocked callbacks locked eventType absPath reason world).2.1.isEntryLocked rel =
      self.isEntryLocked rel := by
  simp only [setLocked]
  split
  · rfl
  · rename_i hinside
    split
    · rfl
    · by_cases hrel : self.toRel absPath = rel
      · rw [hother (by simpa using hinside) hrel]
        simp [isEntryLocked, hrel]
      · simp [isEntryLocked, Std.TreeMap.getElem?_insert, hrel]

end Locks

/-- A sandbox with its files and the world its callables work on. -/
structure Mirror (σ : Type) where
  sandbox : Sandbox
  disk : Disk := {}
  world : σ

/-- The calls on single entries, and what other threads do to the world meanwhile. -/
inductive Access (σ : Type)
  | write (now : Int64) (outcome : DiskOutcome) (absPath content author : ByteString)
  | read (absPath : ByteString)
  | lockEntry (absPath reason : ByteString)
  | unlockEntry (absPath reason : ByteString)
  | lockAll (reason : ByteString)
  | others (world : σ)

namespace Mirror

variable {σ : Type} (callbacks : Callbacks σ)

def write (now : Int64) (outcome : DiskOutcome) (absPath content author : ByteString)
    (self : Mirror σ) : SandboxResult × Mirror σ :=
  let (result, sandbox, world) :=
    self.sandbox.write callbacks now absPath content author self.world
  (result,
    { sandbox := sandbox
      disk := if result.ok then writeToDisk outcome absPath content self.disk else self.disk
      world := world })

def access (self : Mirror σ) : Access σ → Mirror σ
  | .write now outcome absPath content author =>
      (self.write callbacks now outcome absPath content author).2
  | .read _ => self
  | .lockEntry absPath reason =>
      let (_, sandbox, world) := self.sandbox.lockEntry callbacks absPath reason self.world
      { self with sandbox := sandbox, world := world }
  | .unlockEntry absPath reason =>
      let (_, sandbox, world) := self.sandbox.unlockEntry callbacks absPath reason self.world
      { self with sandbox := sandbox, world := world }
  | .lockAll reason =>
      let (_, sandbox, world) := self.sandbox.lockAll callbacks reason self.world
      { self with sandbox := sandbox, world := world }
  | .others world => { self with world := world }

/-- The bytes in the file of an entry. -/
def bytesOf (rel : ByteString) (self : Mirror σ) : Option ByteString :=
  self.disk.files (self.sandbox.fileOf rel)

def Unlocks (rel : ByteString) (self : Mirror σ) : Access σ → Prop
  | .unlockEntry absPath _ =>
      isInside absPath self.sandbox.rootPath = true ∧ self.sandbox.toRel absPath = rel
  | _ => False

/-- No write reaches the components of a key under another key, unless it is refused: the
lockdown is active, or that other key is locked as well. -/
def KeysApart (rel : ByteString) (self : Mirror σ) : Access σ → Prop
  | .write _ _ absPath _ _ =>
      isInside absPath self.sandbox.rootPath = true →
        spelling.names (self.sandbox.toRel absPath) = spelling.names rel →
          self.sandbox.toRel absPath = rel ∨ callbacks.lockCheck self.world = true ∨
            self.sandbox.isEntryLocked (self.sandbox.toRel absPath) = true
  | _ => True

variable {callbacks}

/-- A write leaves the file of a locked entry alone. -/
theorem write_bytesOf {self : Mirror σ} {rel : ByteString} {now : Int64}
    {outcome : DiskOutcome} {absPath content author : ByteString}
    (hroot : self.sandbox.Constructed) (hlocked : self.sandbox.isEntryLocked rel = true)
    (hapart : self.KeysApart callbacks rel (.write now outcome absPath content author)) :
    (self.write callbacks now outcome absPath content author).2.bytesOf rel =
      self.bytesOf rel := by
  simp only [write, bytesOf, fileOf, write_rootPath]
  split
  · rename_i hok
    obtain ⟨hinside, -, hopen, hunlocked⟩ :=
      (write_ok_iff callbacks now absPath content author self.sandbox self.world).mp hok
    refine writeToDisk_of_ne fun hpath hsame => ?_
    have hfile : self.sandbox.fileOf rel = self.sandbox.fileOf (self.sandbox.toRel absPath) :=
      hsame.trans (resolve_eq_fileOf hroot hinside hpath)
    have hnames := (fileOf_eq_iff _ _ _).mp hfile
    rcases hapart hinside hnames.symm with hkey | hcheck | hown
    · rw [hkey, hlocked] at hunlocked
      exact absurd hunlocked (by decide)
    · rw [hopen] at hcheck
      exact absurd hcheck (by decide)
    · rw [hown] at hunlocked
      exact absurd hunlocked (by decide)
  · rfl

/-- `KeysApart` excludes nothing else: any other spelling of the components overwrites the
file, whatever the lock of the entry. -/
theorem write_bytesOf_of_names {self : Mirror σ} {rel : ByteString} {now : Int64}
    {count : Nat} {absPath content author : ByteString} (hroot : self.sandbox.Constructed)
    (hpath : absPath ≠ []) (hrel : self.sandbox.toRel absPath ≠ [])
    (hinside : isInside absPath self.sandbox.rootPath = true)
    (hnames : spelling.names (self.sandbox.toRel absPath) = spelling.names rel)
    (hopen : callbacks.lockCheck self.world = false)
    (hunlocked : self.sandbox.isEntryLocked (self.sandbox.toRel absPath) = false) :
    (self.write callbacks now (.written count) absPath content author).2.bytesOf rel =
      some ((textMode content).take count) := by
  have hok := (write_ok_iff callbacks now absPath content author self.sandbox self.world).mpr
    ⟨hinside, hrel, hopen, hunlocked⟩
  have hfile : self.sandbox.fileOf rel = spelling.resolve absPath := by
    rw [resolve_eq_fileOf hroot hinside hpath, fileOf_eq_iff, hnames]
  have hroot' : ((self.write callbacks now (.written count) absPath content
      author).2.sandbox).fileOf rel = spelling.resolve absPath := by
    rw [← hfile]
    simp only [write, fileOf, write_rootPath]
  rw [bytesOf, hroot']
  simp only [write, hok, if_true, writeToDisk, hpath, if_false, Function.update_self]

/-- The entry is locked, and its file is as it was. -/
structure Frozen (start : Mirror σ) (rel : ByteString) (s : Mirror σ) : Prop where
  rootPath : s.sandbox.rootPath = start.sandbox.rootPath
  locked : s.sandbox.isEntryLocked rel = true
  bytes : s.bytesOf rel = start.bytesOf rel

theorem Frozen.access {start s : Mirror σ} {rel : ByteString}
    (hroot : start.sandbox.Constructed) (hfrozen : Frozen start rel s) (a : Access σ)
    (hlocked : ¬ s.Unlocks rel a) (hapart : s.KeysApart callbacks rel a) :
    Frozen start rel (s.access callbacks a) := by
  have hroot' : s.sandbox.Constructed := by
    rw [Constructed, hfrozen.rootPath]
    exact hroot
  cases a with
  | write now outcome absPath content author =>
      exact {
        rootPath := (write_rootPath _ _ _ _ _ _ _).trans hfrozen.rootPath
        locked := (write_isEntryLocked _ _ _ _ _ _ _ _).trans hfrozen.locked
        bytes := (write_bytesOf hroot' hfrozen.locked hapart).trans hfrozen.bytes }
  | read absPath => exact hfrozen
  | lockEntry absPath reason =>
      have hkeep := setLocked_isEntryLocked callbacks s.sandbox s.world true
        "sandbox_entry_locked" absPath reason rel fun _ _ => hfrozen.locked
      exact {
        rootPath := (setLocked_rootPath _ _ _ _ _ _ _).trans hfrozen.rootPath
        locked := hkeep.trans hfrozen.locked
        bytes := by
          rw [← hfrozen.bytes]
          simp only [Mirror.access, bytesOf, fileOf, lockEntry, setLocked_rootPath] }
  | unlockEntry absPath reason =>
      have hkeep := setLocked_isEntryLocked callbacks s.sandbox s.world false
        "sandbox_entry_unlocked" absPath reason rel fun hinside hrel =>
          absurd ⟨hinside, hrel⟩ hlocked
      exact {
        rootPath := (setLocked_rootPath _ _ _ _ _ _ _).trans hfrozen.rootPath
        locked := hkeep.trans hfrozen.locked
        bytes := by
          rw [← hfrozen.bytes]
          simp only [Mirror.access, bytesOf, fileOf, unlockEntry, setLocked_rootPath] }
  | lockAll reason =>
      exact {
        rootPath := hfrozen.rootPath
        locked := isEntryLocked_lockAll callbacks reason s.sandbox s.world hfrozen.locked
        bytes := hfrozen.bytes }
  | others world => exact ⟨hfrozen.rootPath, hfrozen.locked, hfrozen.bytes⟩

/-- From any state on in which an entry is locked its file stays as it is, until the entry
is unlocked, in every run without a write to its components under another key. -/
theorem trace_locked_frozen (callbacks : Callbacks σ) (start : Mirror σ)
    (hroot : start.sandbox.Constructed) (rel : ByteString)
    (hlocked : start.sandbox.isEntryLocked rel = true)
    (steps : List (Transition (Mirror σ) (Access σ))) (s : Mirror σ)
    (htrace : Trace (ofFunction start (access callbacks)) steps s)
    (hkept : ∀ t ∈ steps, ¬ t.before.Unlocks rel t.label)
    (hapart : ∀ t ∈ steps, t.before.KeysApart callbacks rel t.label) :
    s.bytesOf rel = start.bytesOf rel := by
  have hfrozen : Frozen start rel s := by
    refine htrace.guarded_invariant (G := fun s a => ¬ s.Unlocks rel a ∧
      s.KeysApart callbacks rel a) ?_ ?_ fun t ht => ⟨hkept t ht, hapart t ht⟩
    · rintro s rfl
      exact ⟨rfl, hlocked, rfl⟩
    · rintro s a s' hfrozen ⟨hkept, hapart⟩ rfl
      exact hfrozen.access hroot a hkept hapart
  exact hfrozen.bytes

def hostsPath : ByteString := "/srv/mirror/etc/hosts"

def openCallbacks : Callbacks (List (ByteString × ByteString)) where
  auditAdder := noteEntry
  lockCheck := fun _ => false

/-- One file was written and its entry locked. -/
def lockedHosts : Mirror (List (ByteString × ByteString)) :=
  [Access.write 0 (.written 64) hostsPath "127.0.0.1 localhost" "admin",
    .lockEntry hostsPath "legal hold"].foldl (access openCallbacks)
    { sandbox := construct "/srv/mirror", world := [] }

theorem refused_write_frozen :
    (lockedHosts.access openCallbacks
        (.write 1 (.written 64) hostsPath "10.9.9.9 localhost" "admin")).bytesOf "etc/hosts" =
      lockedHosts.bytesOf "etc/hosts" := by
  refine trace_locked_frozen openCallbacks lockedHosts ⟨"/srv/mirror", by decide +kernel⟩
    "etc/hosts" (by decide +kernel) _ _
    (trace_execute _ _ [Access.write 1 (.written 64) hostsPath "10.9.9.9 localhost" "admin"]) ?_ ?_
  · intro t ht
    obtain rfl := List.mem_singleton.mp ht
    exact id
  · intro t ht
    obtain rfl := List.mem_singleton.mp ht
    exact fun _ _ => .inl (by decide +kernel)

theorem doubled_slash_overwrites :
    ∃ (start s : Mirror (List (ByteString × ByteString)))
        (steps : List (Transition (Mirror (List (ByteString × ByteString)))
          (Access (List (ByteString × ByteString))))),
      start.sandbox.Constructed ∧ start.sandbox.isEntryLocked "etc/hosts" = true ∧
        Trace (ofFunction start (access openCallbacks)) steps s ∧
        (∀ t ∈ steps, ¬ t.before.Unlocks "etc/hosts" t.label) ∧
        s.bytesOf "etc/hosts" ≠ start.bytesOf "etc/hosts" := by
  refine ⟨lockedHosts, _, _, ⟨"/srv/mirror", by decide +kernel⟩, by decide +kernel,
    trace_execute _ _ [Access.write 1 (.written 64) "/srv/mirror/etc//hosts" "10.9.9.9 localhost"
      "admin"], ?_, by decide +kernel⟩
  intro t ht
  obtain rfl := List.mem_singleton.mp ht
  exact id

end Mirror

end Astartis.Sandbox
