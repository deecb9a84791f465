import Astartis.Decoy
import Astartis.SandboxDisk

/-!
What a lockdown leaves open: the operations of the sandbox and of the decoys that go
through it, on the entries and on the files behind them.
-/

namespace Astartis.Sandbox

open Audit
open Decoy
open TransitionSystem

/-- The files that the loop of `populate` writes, those whose entry is not there yet. -/
def populateDisk (rootPath : ByteString) (outcomes : ByteString → DiskOutcome) :
    List SynthFile → (ByteString → Bool) → Disk → Disk
  | [], _, disk => disk
  | sf :: rest, present, disk =>
      if present sf.relPath then populateDisk rootPath outcomes rest present disk
      else
        let abs := rootPath ++ ("/" : ByteString) ++ sf.relPath
        populateDisk rootPath outcomes rest (fun rel => rel = sf.relPath || present rel)
          (writeToDisk (outcomes sf.relPath) abs sf.content disk)

namespace Mirror

variable {σ : Type} (callbacks : Callbacks σ)

def populate (now : Int64) (outcomes : ByteString → DiskOutcome) (self : Mirror σ) :
    Nat × Mirror σ :=
  let (created, sandbox, world) := self.sandbox.populate callbacks now self.world
  (created,
    { sandbox := sandbox
      disk := populateDisk self.sandbox.rootPath outcomes syntheticFiles
        self.sandbox.entries.contains self.disk
      world := world })

/-- The loop of `plant`, with the files. -/
def plantFiles (now : Int64) (outcomes : ByteString → DiskOutcome) :
    List PoisonSpec → Nat × DecoyEnvironment × Mirror σ → Nat × DecoyEnvironment × Mirror σ
  | [], planted => planted
  | spec :: rest, (planted, decoy, self) =>
      let abs := self.sandbox.rootPath ++ ("/" : ByteString) ++ spec.relPath
      let (r, self) :=
        self.write callbacks now (outcomes spec.relPath) abs spec.content "decoy_system"
      if r.ok then
        plantFiles now outcomes rest (planted + 1,
          { decoy with poisoned := decoy.poisoned.insert spec.relPath spec.type }, self)
      else plantFiles now outcomes rest (planted, decoy, self)

/-- Entries, decoys and world do not depend on the files. -/
theorem plantFiles_refines (now : Int64) (outcomes : ByteString → DiskOutcome)
    (specs : List PoisonSpec) (planted : Nat) (decoy : DecoyEnvironment) (self : Mirror σ) :
    let outcome := plantFiles callbacks now outcomes specs (planted, decoy, self)
    DecoyEnvironment.plantFiles callbacks now specs
        (planted, decoy, self.sandbox, self.world) =
      (outcome.1, outcome.2.1, outcome.2.2.sandbox, outcome.2.2.world) := by
  induction specs generalizing planted decoy self with
  | nil => rfl
  | cons spec rest ih =>
      simp only [plantFiles, DecoyEnvironment.plantFiles, write]
      split
      · exact ih _ _ ⟨_, _, _⟩
      · exact ih _ _ ⟨_, _, _⟩

end Mirror

/-- The sandbox and the decoys planted in it. -/
structure Surface (σ : Type) where
  mirror : Mirror σ
  decoy : DecoyEnvironment := {}

inductive Operation (σ : Type)
  | access (a : Access σ)
  | populate (now : Int64) (outcomes : ByteString → DiskOutcome)
  | plant (now : Int64) (outcomes : ByteString → DiskOutcome)

namespace Surface

variable {σ : Type} (callbacks : Callbacks σ) (auditAdder : AuditAdder σ)

def plant (now : Int64) (outcomes : ByteString → DiskOutcome) (self : Surface σ) :
    Surface σ :=
  let (planted, decoy, mirror) :=
    Mirror.plantFiles callbacks now outcomes poisonedFiles (0, self.decoy, self.mirror)
  let payload := ("planted=" : ByteString) ++ ByteString.decimal planted ++
    (" data_valuation=4 lateral_movement=5 credential=4" : ByteString)
  { mirror := { mirror with world := (auditAdder "decoy_planted" payload mirror.world).2 }
    decoy := decoy }

theorem plant_refines (now : Int64) (outcomes : ByteString → DiskOutcome)
    (self : Surface σ) :
    let s := self.plant callbacks auditAdder now outcomes
    (self.decoy.plant auditAdder callbacks now self.mirror.sandbox self.mirror.world).2 =
      (s.decoy, s.mirror.sandbox, s.mirror.world) := by
  simp only [DecoyEnvironment.plant, plant, Mirror.plantFiles_refines callbacks now outcomes]

def perform (self : Surface σ) : Operation σ → Surface σ
  | .access a => { self with mirror := self.mirror.access callbacks a }
  | .populate now outcomes =>
      { self with mirror := (self.mirror.populate callbacks now outcomes).2 }
  | .plant now outcomes => self.plant callbacks auditAdder now outcomes

/-- A sandbox as the constructor leaves it, over any files. -/
def Fresh (self : Surface σ) : Prop :=
  self.mirror.sandbox.Constructed ∧ self.mirror.sandbox.entries.isEmpty = true

def system : System (Surface σ) (Operation σ) where
  Init := Fresh
  Step := fun s operation s' => s' = s.perform callbacks auditAdder operation

/-- What a reader sees under a key: the content and its version. -/
def shown (rel : ByteString) (self : Surface σ) : Option (ByteString × UInt64) :=
  self.mirror.sandbox.entries[rel]?.map fun entry => (entry.content, entry.version)

def locked (self : Surface σ) : Bool :=
  callbacks.lockCheck self.mirror.world

/-- No entry, content, version or file differs, and `write_to_disk` was not called. -/
structure LeftAlone (s s' : Surface σ) : Prop where
  shown : ∀ rel, s'.shown rel = s.shown rel
  disk : s'.mirror.disk = s.mirror.disk

/-- `populate` finds nothing to create. -/
def NothingMissing (s : Surface σ) : Operation σ → Prop
  | .populate _ _ => ∀ sf ∈ syntheticFiles,
      s.mirror.sandbox.entries.contains sf.relPath = true
  | _ => True

end Surface

section Populate

theorem populateEntries_contains (now : Int64) (files : List SynthFile) (created : Nat)
    (entries : Std.TreeMap ByteString SandboxEntry) (rel : ByteString) :
    (populateEntries now files (created, entries)).2.contains rel =
      (entries.contains rel || files.any fun sf => sf.relPath = rel) := by
  induction files generalizing created entries with
  | nil => simp [populateEntries]
  | cons sf rest ih =>
      simp only [populateEntries]
      split
      · rename_i hpresent
        rw [ih]
        by_cases hrel : sf.relPath = rel
        · simp [← hrel, hpresent]
        · simp [hrel]
      · rw [ih, Std.TreeMap.contains_insert]
        by_cases hrel : sf.relPath = rel
        · simp [hrel]
        · have hne : (compare sf.relPath rel == .eq) = false := by simpa using hrel
          simp [hrel, hne]

theorem populateEntries_of_present (now : Int64) {files : List SynthFile} (created : Nat)
    {entries : Std.TreeMap ByteString SandboxEntry}
    (hpresent : ∀ sf ∈ files, entries.contains sf.relPath = true) :
    populateEntries now files (created, entries) = (created, entries) := by
  induction files with
  | nil => rfl
  | cons sf rest ih =>
      rw [populateEntries, if_pos (hpresent sf (by simp))]
      exact ih fun sf' hsf' => hpresent sf' (by simp [hsf'])

theorem populateDisk_of_present (rootPath : ByteString) (outcomes : ByteString → DiskOutcome)
    {files : List SynthFile} {present : ByteString → Bool} (disk : Disk)
    (hpresent : ∀ sf ∈ files, present sf.relPath = true) :
    populateDisk rootPath outcomes files present disk = disk := by
  induction files with
  | nil => rfl
  | cons sf rest ih =>
      rw [populateDisk, if_pos (hpresent sf (by simp))]
      exact ih fun sf' hsf' => hpresent sf' (by simp [hsf'])

end Populate

section Locked

variable {σ : Type} {callbacks : Callbacks σ}

/-- A write under lockdown is refused and changes nothing. -/
theorem write_of_locked {world : σ} (hlocked : callbacks.lockCheck world = true) (now : Int64)
    (absPath content author : ByteString) (self : Sandbox) :
    (self.write callbacks now absPath content author world).1.ok = false ∧
      (self.write callbacks now absPath content author world).2 = (self, world) := by
  simp only [write]
  split
  · exact ⟨rfl, rfl⟩
  · split
    · exact ⟨rfl, rfl⟩
    · exact ⟨rfl, rfl⟩

theorem Mirror.write_of_locked {self : Mirror σ}
    (hlocked : callbacks.lockCheck self.world = true) (now : Int64) (outcome : DiskOutcome)
    (absPath content author : ByteString) :
    (self.write callbacks now outcome absPath content author).1.ok = false ∧
      (self.write callbacks now outcome absPath content author).2 = self := by
  obtain ⟨hok, hsame⟩ :=
    Sandbox.write_of_locked hlocked now absPath content author self.sandbox
  refine ⟨hok, ?_⟩
  simp only [write, hok, hsame, Bool.false_eq_true, if_false]

theorem Mirror.plantFiles_of_locked {self : Mirror σ}
    (hlocked : callbacks.lockCheck self.world = true) (now : Int64)
    (outcomes : ByteString → DiskOutcome) (specs : List PoisonSpec) (planted : Nat)
    (decoy : DecoyEnvironment) :
    plantFiles callbacks now outcomes specs (planted, decoy, self) =
      (planted, decoy, self) := by
  induction specs with
  | nil => rfl
  | cons spec rest ih =>
      obtain ⟨hok, hsame⟩ := write_of_locked hlocked now (outcomes spec.relPath)
        (self.sandbox.rootPath ++ ("/" : ByteString) ++ spec.relPath) spec.content
        "decoy_system"
      simp only [plantFiles, hok, hsame, Bool.false_eq_true, if_false]
      exact ih

end Locked

namespace Surface

variable {σ : Type} {callbacks : Callbacks σ} {auditAdder : AuditAdder σ}

theorem setLocked_shown (locked : Bool) (eventType absPath reason rel : ByteString)
    (self : Sandbox) (world : σ) :
    ((self.setLocked callbacks locked eventType absPath reason world).2.1.entries[rel]?).map
        (fun entry => (entry.content, entry.version)) =
      self.entries[rel]?.map fun entry => (entry.content, entry.version) := by
  simp only [setLocked]
  split
  · rfl
  · split
    · rfl
    · rename_i entry hfound
      rw [Std.TreeMap.getElem?_insert]
      split
      · rename_i hrel
        rw [← Std.LawfulEqCmp.eq_of_compare hrel, hfound]
        rfl
      · rfl

/-- Under lockdown the operations on single entries change no content. -/
theorem access_leftAlone {s : Surface σ} (hlocked : s.locked callbacks = true)
    (a : Access σ) : s.LeftAlone (s.perform callbacks auditAdder (.access a)) := by
  cases a with
  | write now outcome absPath content author =>
      have hsame := (Mirror.write_of_locked hlocked now outcome absPath content author).2
      simp only [perform, Mirror.access, hsame]
      exact ⟨fun _ => rfl, rfl⟩
  | read absPath => exact ⟨fun _ => rfl, rfl⟩
  | lockEntry absPath reason => exact ⟨fun rel => setLocked_shown _ _ _ _ _ _ _, rfl⟩
  | unlockEntry absPath reason => exact ⟨fun rel => setLocked_shown _ _ _ _ _ _ _, rfl⟩
  | lockAll reason =>
      refine ⟨fun rel => ?_, rfl⟩
      simp only [shown, perform, Mirror.access, lockAll, Std.TreeMap.getElem?_map,
        Option.map_map]
      rfl
  | others world => exact ⟨fun _ => rfl, rfl⟩

theorem plant_leftAlone {s : Surface σ} (hlocked : s.locked callbacks = true) (now : Int64)
    (outcomes : ByteString → DiskOutcome) :
    s.LeftAlone (s.perform callbacks auditAdder (.plant now outcomes)) := by
  have hsame := Mirror.plantFiles_of_locked hlocked now outcomes poisonedFiles 0 s.decoy
  simp only [perform, plant, hsame]
  exact ⟨fun _ => rfl, rfl⟩

theorem populate_leftAlone_iff (s : Surface σ) (now : Int64)
    (outcomes : ByteString → DiskOutcome) :
    s.LeftAlone (s.perform callbacks auditAdder (.populate now outcomes)) ↔
      s.NothingMissing (.populate now outcomes) := by
  have hcontains : ∀ (s : Surface σ) rel,
      (s.shown rel).isSome = s.mirror.sandbox.entries.contains rel := by
    intro s rel
    simp only [shown, Option.isSome_map, Std.TreeMap.contains_eq_isSome_getElem?]
  constructor
  · intro hsame sf hsf
    have hshown := congrArg Option.isSome (hsame.shown sf.relPath)
    rw [hcontains, hcontains] at hshown
    rw [← hshown]
    simp only [perform, Mirror.populate, populate]
    split
    all_goals
      simp only [populateEntries_contains, Bool.or_eq_true]
      exact .inr (List.any_eq_true.mpr ⟨sf, hsf, by simp⟩)
  · intro hpresent
    have hentries := populateEntries_of_present now 0 hpresent
    have hdisk := populateDisk_of_present s.mirror.sandbox.rootPath outcomes s.mirror.disk
      hpresent
    simp only [perform, Mirror.populate, populate, hentries, hdisk]
    exact ⟨fun _ => rfl, rfl⟩

theorem perform_leftAlone_iff {s : Surface σ} (hlocked : s.locked callbacks = true)
    (operation : Operation σ) :
    s.LeftAlone (s.perform callbacks auditAdder operation) ↔ s.NothingMissing operation := by
  cases operation with
  | access a => exact iff_of_true (access_leftAlone hlocked a) trivial
  | populate now outcomes => exact populate_leftAlone_iff s now outcomes
  | plant now outcomes => exact iff_of_true (plant_leftAlone hlocked now outcomes) trivial

/-- In a run, all operations under lockdown leave entries and files alone exactly if no
`populate` among them finds a synthetic file without an entry. -/
theorem trace_leftAlone_iff (callbacks : Callbacks σ) (auditAdder : AuditAdder σ)
    (steps : List (Transition (Surface σ) (Operation σ))) (s : Surface σ)
    (htrace : Trace (system callbacks auditAdder) steps s) :
    (∀ t ∈ steps, t.before.locked callbacks = true → t.before.LeftAlone t.after) ↔
      ∀ t ∈ steps, t.before.locked callbacks = true → t.before.NothingMissing t.label := by
  have hsteps : ∀ t ∈ steps, t.after = t.before.perform callbacks auditAdder t.label := by
    induction htrace with
    | start _ => simp
    | extend _ hstep ih =>
        intro t ht
        rcases List.mem_append.mp ht with ht | ht
        · exact ih t ht
        · obtain rfl := List.mem_singleton.mp ht
          exact hstep
  refine forall₂_congr fun t ht => ?_
  rw [hsteps t ht]
  exact forall_congr' fun hlocked => perform_leftAlone_iff hlocked t.label

def emptySurface : Surface Bool where
  mirror := { sandbox := construct "/srv/mirror", world := true }

/-- The world is the lock itself. -/
def lockCallbacks : Callbacks Bool where
  auditAdder := fun _ _ world => ([], world)
  lockCheck := id

theorem emptySurface_fresh : emptySurface.Fresh :=
  ⟨⟨_, rfl⟩, rfl⟩

theorem locked_write_and_plant_leftAlone :
    ∃ (steps : List (Transition (Surface Bool) (Operation Bool))) (s : Surface Bool),
      Trace (system lockCallbacks lockCallbacks.auditAdder) steps s ∧
        (steps.map fun t => t.before.locked lockCallbacks) = [true, true] ∧
        ∀ t ∈ steps, t.before.locked lockCallbacks = true → t.before.LeftAlone t.after := by
  have htrace : Trace (system lockCallbacks lockCallbacks.auditAdder)
      (execute (perform lockCallbacks lockCallbacks.auditAdder) emptySurface
        [.access (.write 0 (.written 64) "/srv/mirror/etc/hosts" "10.9.9.9" "admin"),
          .plant 0 fun _ => .written 4096]) _ :=
    trace_execute_of _ _ emptySurface_fresh fun _ _ _ => rfl
  refine ⟨_, _, htrace, by decide +kernel,
    (trace_leftAlone_iff lockCallbacks lockCallbacks.auditAdder _ _ htrace).mpr
      fun t ht _ => ?_⟩
  rcases List.mem_cons.mp ht with rfl | ht
  · exact trivial
  · obtain rfl := List.mem_singleton.mp ht
    exact trivial

theorem locked_populate_creates :
    ∃ (steps : List (Transition (Surface Bool) (Operation Bool))) (s : Surface Bool),
      Trace (system lockCallbacks lockCallbacks.auditAdder) steps s ∧
        (∀ t ∈ steps, t.before.locked lockCallbacks = true) ∧
        ¬ ∀ t ∈ steps, t.before.LeftAlone t.after := by
  have htrace : Trace (system lockCallbacks lockCallbacks.auditAdder)
      (execute (perform lockCallbacks lockCallbacks.auditAdder) emptySurface
        [.populate 0 fun _ => .written 4096]) _ :=
    trace_execute_of _ _ emptySurface_fresh fun _ _ _ => rfl
  refine ⟨_, _, htrace, ?_, ?_⟩
  · intro t ht
    obtain rfl := List.mem_singleton.mp ht
    rfl
  · intro hall
    have hsame := hall _ (List.mem_singleton.mpr rfl)
    have hpresent := (@populate_leftAlone_iff _ lockCallbacks lockCallbacks.auditAdder _ _
      _).mp hsame ⟨"etc/nginx.conf", _⟩ (List.mem_cons_self ..)
    exact absurd hpresent (by decide +kernel)

end Surface

end Astartis.Sandbox
