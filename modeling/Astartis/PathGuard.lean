import Astartis.ByteSearch
import Astartis.SandboxFreeze

/-!
Soundness of the path guard.  A prefix of the root and the absence of `..` are tested on the
bytes of the paths, and what they are to guarantee is about the walks along their components.
-/

namespace Astartis.Sandbox

open ByteString
open LexicalPath
open TransitionSystem

section Dotdot

/-- The four places of a `..` component in a path with slashes only. -/
theorem hasDotdot_iff_bytes (s : ByteString) :
    hasDotdot s = true ↔ s = [46, 46] ∨ [46, 46, 47] <+: s ∨ [47, 46, 46] <:+ s ∨
      [47, 46, 46, 47] <:+: s := by
  have hbytes : ((".." : ByteString), ("../" : ByteString), ("/.." : ByteString),
      ("/../" : ByteString)) = ([46, 46], [46, 46, 47], [47, 46, 46], [47, 46, 46, 47]) := by
    decide +kernel
  simp only [Prod.mk.injEq] at hbytes
  simp only [hasDotdot, hbytes, Bool.or_eq_true, decide_eq_true_eq, List.isPrefixOf_iff_prefix,
    List.isSuffixOf_iff_suffix, findText_isSome_iff, or_assoc]

/-- A slash of a path is its first one, or it stands behind the first one. -/
theorem slash_cases {first before after rest : ByteString} (hfirst : ∀ b ∈ first, b ≠ 47)
    (hpath : first ++ 47 :: rest = before ++ 47 :: after) :
    (before = first ∧ after = rest) ∨
      ∃ mid, before = first ++ 47 :: mid ∧ rest = mid ++ 47 :: after := by
  rcases List.append_eq_append_iff.mp hpath with ⟨mid, hbefore, hrest⟩ | ⟨mid, hbefore, hafter⟩
  · cases mid with
    | nil =>
        obtain rfl : rest = after := (List.cons.inj hrest).2
        exact .inl ⟨hbefore.trans (List.append_nil first), rfl⟩
    | cons b mid =>
        obtain ⟨rfl, htail⟩ := List.cons.inj hrest
        exact .inr ⟨mid, hbefore, htail⟩
  · cases mid with
    | nil =>
        obtain rfl : after = rest := (List.cons.inj hafter).2
        exact .inl ⟨(hbefore.trans (List.append_nil before)).symm, rfl⟩
    | cons b mid =>
        obtain rfl : 47 = b := (List.cons.inj hafter).1
        exact absurd rfl (hfirst 47 (by simp [hbefore]))

/-- Cut at its first slash, a path has a `..` component in front of the slash or behind it. -/
theorem hasDotdot_cut {first : ByteString} (hfirst : ∀ b ∈ first, b ≠ 47) (rest : ByteString) :
    hasDotdot (first ++ 47 :: rest) = true ↔ first = [46, 46] ∨ hasDotdot rest = true := by
  simp only [hasDotdot_iff_bytes]
  constructor
  · rintro (h | ⟨after, h⟩ | ⟨before, h⟩ | ⟨before, after, h⟩)
    · exact absurd (show (47 : UInt8) ∈ [46, 46] by rw [← h]; simp) (by decide)
    · have hpath : first ++ 47 :: rest = [46, 46] ++ 47 :: after := h.symm
      rcases slash_cases hfirst hpath with ⟨hbefore, -⟩ | ⟨mid, hbefore, -⟩
      · exact .inl hbefore.symm
      · exact absurd (show (47 : UInt8) ∈ [46, 46] by rw [hbefore]; simp) (by decide)
    · rcases slash_cases hfirst h.symm with ⟨-, rfl⟩ | ⟨mid, -, rfl⟩
      · exact .inr (.inl rfl)
      · exact .inr (.inr (.inr (.inl ⟨mid, rfl⟩)))
    · have hpath : first ++ 47 :: rest = before ++ 47 :: (46 :: 46 :: 47 :: after) := by
        rw [← h, List.append_assoc]
        rfl
      rcases slash_cases hfirst hpath with ⟨-, rfl⟩ | ⟨mid, -, rfl⟩
      · exact .inr (.inr (.inl ⟨after, rfl⟩))
      · exact .inr (.inr (.inr (.inr ⟨mid, after, by simp⟩)))
  · rintro (rfl | rfl | ⟨after, rfl⟩ | ⟨before, rfl⟩ | ⟨before, after, rfl⟩)
    · exact .inr (.inl ⟨rest, rfl⟩)
    · exact .inr (.inr (.inl ⟨first, rfl⟩))
    · exact .inr (.inr (.inr ⟨first, after, by simp⟩))
    · exact .inr (.inr (.inl ⟨first ++ 47 :: before, by simp⟩))
    · exact .inr (.inr (.inr ⟨first ++ 47 :: before, after, by simp⟩))

theorem separator_eq_slash {b : UInt8} (hb : spelling.isSeparator b = true) (hplain : b ≠ 92) :
    b = 47 := by
  simpa [spelling, hplain] using hb

theorem ne_slash_of_plain {path : ByteString}
    (hpath : ∀ b ∈ path, spelling.isSeparator b = false) : ∀ b ∈ path, b ≠ 47 := by
  rintro b hb rfl
  exact absurd (hpath 47 hb) (by decide)

/-- In a path without backslashes the byte tests find exactly the `..` components. -/
theorem hasDotdot_iff_mem_names {path : ByteString} (hslashes : ∀ b ∈ path, b ≠ 92) :
    hasDotdot path = true ↔ (".." : ByteString) ∈ spelling.names path := by
  have hdots : (".." : ByteString) = [46, 46] := by decide
  induction path using path_induction spelling.isSeparator with
  | component path hpath =>
      have hslash := ne_slash_of_plain hpath
      rw [Spelling.names_component hpath, hasDotdot_iff_bytes, hdots]
      constructor
      · rintro (rfl | ⟨after, rfl⟩ | ⟨before, rfl⟩ | ⟨before, after, rfl⟩)
        · decide
        · exact absurd rfl (hslash 47 (by simp))
        · exact absurd rfl (hslash 47 (by simp))
        · exact absurd rfl (hslash 47 (by simp))
      · intro hmem
        exact .inl (List.mem_singleton.mp (List.mem_filter.mp hmem).1).symm
  | cut first separator rest hfirst hseparator ih =>
      obtain rfl := separator_eq_slash hseparator (hslashes separator (by simp))
      have hrest : hasDotdot rest = true ↔ (".." : ByteString) ∈ spelling.names rest :=
        ih fun b hb => hslashes b (by simp [hb])
      rw [hasDotdot_cut (ne_slash_of_plain hfirst), Spelling.names_append_cons hseparator,
        List.mem_append, hrest, Spelling.names_component hfirst, hdots]
      simp only [List.mem_filter, List.mem_singleton]
      constructor
      · rintro (rfl | hrest)
        · exact .inl ⟨rfl, by decide⟩
        · exact .inr hrest
      · rintro (⟨hfirst, -⟩ | hrest)
        · exact .inl hfirst.symm
        · exact .inr hrest

end Dotdot

/-- Where a path leads: `..` takes the component in front of it back. -/
def placeOf (path : ByteString) : Place UInt8 :=
  spelling.walk ".." path

theorem placeOf_normalise (path : ByteString) : placeOf (normalise path) = placeOf path := by
  rw [placeOf, Spelling.walk, resolve_normalise]
  rfl

theorem isInside_iff {absPath rootPath : ByteString} :
    isInside absPath rootPath = true ↔ hasDotdot (normalise absPath) = false ∧
      (normalise absPath = normalise rootPath ∨
        normalise rootPath ++ ("/" : ByteString) <+: normalise absPath) := by
  simp only [isInside]
  split
  · rename_i hdotdot
    simp [hdotdot]
  · rename_i hdotdot
    simp only [Bool.not_eq_true] at hdotdot
    simp only [hdotdot, Bool.or_eq_true, decide_eq_true_eq, List.isPrefixOf_iff_prefix, true_and]

theorem within_of_isInside {absPath rootPath : ByteString} (hroot : rootPath ≠ [])
    (hinside : isInside absPath rootPath = true) :
    (placeOf rootPath).Within (placeOf absPath) := by
  rw [← placeOf_normalise rootPath, ← placeOf_normalise absPath]
  obtain ⟨hdotdot, heq | ⟨rest, hrest⟩⟩ := isInside_iff.mp hinside
  · rw [heq]
    exact Place.within_refl _
  · have hpath : normalise absPath = normalise rootPath ++ 47 :: rest := by
      rw [← hrest, List.append_assoc]
      rfl
    have hnames : (".." : ByteString) ∉ spelling.names (normalise absPath) := by
      rw [← hasDotdot_iff_mem_names (normalise_slashes absPath), hdotdot]
      decide
    rw [hpath] at hnames ⊢
    rw [Spelling.names_append_cons rfl, List.mem_append, not_or] at hnames
    exact Spelling.within_walk_append rfl (mt normalise_eq_nil_iff.mp hroot) hnames.2

/-- What `write_to_disk` was called with meanwhile lies in the root. -/
def WritesInside (rootPath : ByteString) (before after : Disk) : Prop :=
  ∃ paths, after.written = before.written ++ paths ∧
    ∀ path ∈ paths, (placeOf rootPath).Within (placeOf path)

section Writes

variable {rootPath : ByteString}

theorem writesInside_refl (disk : Disk) : WritesInside rootPath disk disk :=
  ⟨[], by simp, by simp⟩

theorem WritesInside.trans {a b c : Disk} (hab : WritesInside rootPath a b)
    (hbc : WritesInside rootPath b c) : WritesInside rootPath a c := by
  obtain ⟨first, hfirst, hinside⟩ := hab
  obtain ⟨second, hsecond, hinside'⟩ := hbc
  refine ⟨first ++ second, by rw [hsecond, hfirst, List.append_assoc], ?_⟩
  intro path hpath
  rcases List.mem_append.mp hpath with hpath | hpath
  · exact hinside path hpath
  · exact hinside' path hpath

theorem writesInside_writeToDisk {absPath : ByteString}
    (hpath : (placeOf rootPath).Within (placeOf absPath)) (outcome : DiskOutcome)
    (content : ByteString) (disk : Disk) :
    WritesInside rootPath disk (writeToDisk outcome absPath content disk) := by
  refine ⟨[absPath], rfl, ?_⟩
  intro path hmem
  obtain rfl := List.mem_singleton.mp hmem
  exact hpath

theorem within_of_rel (hroot : rootPath ≠ []) {rel : ByteString}
    (hrel : (".." : ByteString) ∉ spelling.names rel) :
    (placeOf rootPath).Within (placeOf (rootPath ++ ("/" : ByteString) ++ rel)) := by
  rw [List.append_assoc]
  exact Spelling.within_walk_append rfl hroot hrel

theorem syntheticFiles_plain :
    ∀ sf ∈ syntheticFiles, (".." : ByteString) ∉ spelling.names sf.relPath := by
  decide +kernel

theorem writesInside_populateDisk (hroot : rootPath ≠ []) (outcomes : ByteString → DiskOutcome)
    {files : List SynthFile}
    (hfiles : ∀ sf ∈ files, (".." : ByteString) ∉ spelling.names sf.relPath)
    (present : ByteString → Bool) (disk : Disk) :
    WritesInside rootPath disk (populateDisk rootPath outcomes files present disk) := by
  induction files generalizing present disk with
  | nil => exact writesInside_refl disk
  | cons sf rest ih =>
      have hrest := ih fun sf' hsf' => hfiles sf' (by simp [hsf'])
      rw [populateDisk]
      split
      · exact hrest present disk
      · have hinside := within_of_rel hroot (hfiles sf (by simp))
        exact (writesInside_writeToDisk hinside _ sf.content disk).trans (hrest _ _)

variable {σ : Type} (callbacks : Callbacks σ)

theorem Mirror.writesInside_write {self : Mirror σ} (hroot : self.sandbox.rootPath ≠ [])
    (now : Int64) (outcome : DiskOutcome) (absPath content author : ByteString) :
    WritesInside self.sandbox.rootPath self.disk
      (self.write callbacks now outcome absPath content author).2.disk := by
  simp only [write]
  split
  · rename_i hok
    have hinside := (write_ok_iff callbacks now absPath content author self.sandbox
      self.world).mp hok
    exact writesInside_writeToDisk (within_of_isInside hroot hinside.1) outcome content self.disk
  · exact writesInside_refl self.disk

theorem Mirror.writesInside_plantFiles (now : Int64) (outcomes : ByteString → DiskOutcome)
    (specs : List Decoy.PoisonSpec) (planted : Nat) (decoy : Decoy.DecoyEnvironment)
    {self : Mirror σ} (hroot : self.sandbox.rootPath ≠ []) :
    WritesInside self.sandbox.rootPath self.disk
      (plantFiles callbacks now outcomes specs (planted, decoy, self)).2.2.disk := by
  induction specs generalizing planted decoy self with
  | nil => exact writesInside_refl self.disk
  | cons spec rest ih =>
      have hwrite := writesInside_write callbacks hroot now (outcomes spec.relPath)
        (self.sandbox.rootPath ++ ("/" : ByteString) ++ spec.relPath) spec.content "decoy_system"
      have hsame : (self.write callbacks now (outcomes spec.relPath)
          (self.sandbox.rootPath ++ ("/" : ByteString) ++ spec.relPath) spec.content
          "decoy_system").2.sandbox.rootPath = self.sandbox.rootPath :=
        write_rootPath _ _ _ _ _ _ _
      simp only [plantFiles]
      split
      · have hrest := ih (planted + 1)
          { decoy with poisoned := decoy.poisoned.insert spec.relPath spec.type }
          (hsame ▸ hroot)
        rw [hsame] at hrest
        exact hwrite.trans hrest
      · have hrest := ih planted decoy (hsame ▸ hroot)
        rw [hsame] at hrest
        exact hwrite.trans hrest

theorem Surface.writesInside_perform (auditAdder : Audit.AuditAdder σ) {s : Surface σ}
    (hroot : s.mirror.sandbox.rootPath ≠ []) (operation : Operation σ) :
    WritesInside s.mirror.sandbox.rootPath s.mirror.disk
      (s.perform callbacks auditAdder operation).mirror.disk := by
  cases operation with
  | access a =>
      cases a with
      | write now outcome absPath content author =>
          exact Mirror.writesInside_write callbacks hroot now outcome absPath content author
      | _ => exact writesInside_refl s.mirror.disk
  | populate now outcomes =>
      exact writesInside_populateDisk hroot outcomes syntheticFiles_plain _ s.mirror.disk
  | plant now outcomes =>
      exact Mirror.writesInside_plantFiles callbacks now outcomes Decoy.poisonedFiles 0 s.decoy
        hroot

end Writes

/-- The path guard is sound, and no operation writes outside the root. -/
theorem pathGuard_sound {σ : Type} (callbacks : Callbacks σ) (auditAdder : Audit.AuditAdder σ) :
    (∀ absPath rootPath : ByteString, rootPath ≠ [] → isInside absPath rootPath = true →
      (placeOf rootPath).Within (placeOf absPath)) ∧
    ∀ (steps : List (Transition (Surface σ) (Operation σ))) (s : Surface σ),
      Trace (Surface.system callbacks auditAdder) steps s →
        ∀ t ∈ steps, t.before.mirror.sandbox.rootPath ≠ [] →
          WritesInside t.before.mirror.sandbox.rootPath t.before.mirror.disk
            t.after.mirror.disk := by
  constructor
  · intro absPath rootPath hroot hinside
    exact within_of_isInside hroot hinside
  · intro steps s htrace t ht hroot
    have hstep : t.after = t.before.perform callbacks auditAdder t.label :=
      htrace.step_of_mem ht
    rw [hstep]
    exact Surface.writesInside_perform callbacks auditAdder hroot t.label

theorem mirror_paths_sound :
    (placeOf "/srv/mirror").Within (placeOf "\\srv\\mirror//etc/./hosts") ∧
      ∃ (steps : List (Transition (Surface Bool) (Operation Bool))) (s : Surface Bool),
        Trace (Surface.system Surface.lockCallbacks Surface.lockCallbacks.auditAdder) steps s ∧
          ∀ t ∈ steps, WritesInside t.before.mirror.sandbox.rootPath t.before.mirror.disk
            t.after.mirror.disk := by
  have hsound := pathGuard_sound Surface.lockCallbacks Surface.lockCallbacks.auditAdder
  have htrace : Trace (Surface.system Surface.lockCallbacks Surface.lockCallbacks.auditAdder)
      (execute (Surface.perform Surface.lockCallbacks Surface.lockCallbacks.auditAdder)
        Surface.emptySurface [.populate 0 fun _ => .written 4096]) _ :=
    trace_execute_of _ _ Surface.emptySurface_fresh fun _ _ _ => rfl
  refine ⟨hsound.1 _ _ (by decide) (by decide +kernel), _, _, htrace, ?_⟩
  intro t ht
  apply hsound.2 _ _ htrace t ht
  obtain rfl := List.mem_singleton.mp ht
  decide +kernel

end Astartis.Sandbox
