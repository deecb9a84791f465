import Astartis.PathGuard
import Astartis.WriteAtomicity

/-!
Planting the decoys a second time.  The loop skips a file whose write is refused, and a write to
an entry that is there is not refused.
-/

namespace Astartis.Decoy

open Audit
open ByteString
open LexicalPath
open Sandbox (hasDotdot isInside normalise spelling)

/-- A relative path that the path guard takes as it is spelt. -/
structure PlainRel (rel : ByteString) : Prop where
  slashes : ∀ b ∈ rel, b ≠ 92
  last : ∀ b ∈ rel.getLast?, b ≠ 47
  ne_nil : rel ≠ []
  names : (".." : ByteString) ∉ spelling.names rel

theorem poisonedFiles_plain : ∀ spec ∈ poisonedFiles, PlainRel spec.relPath := by
  have hslashes : ∀ spec ∈ poisonedFiles,
      (spec.relPath.all fun b => decide (b ≠ 92)) = true := by
    decide +kernel
  have hplain : ∀ spec ∈ poisonedFiles, spec.relPath.getLast? ≠ some 47 ∧
      spec.relPath ≠ [] ∧ (".." : ByteString) ∉ spelling.names spec.relPath := by
    decide +kernel
  intro spec hspec
  obtain ⟨hlast, hne, hnames⟩ := hplain spec hspec
  refine ⟨ByteString.forall_mem_of_all (hslashes spec hspec), ?_, hne, hnames⟩
  rintro b hb rfl
  exact hlast hb

section Paths

variable {sb : Sandbox} {rel : ByteString}

theorem dropSlashes_of_head {p : ByteString} (hp : ∀ b ∈ p.head?, b ≠ 47) :
    Sandbox.dropSlashes p = p := by
  rcases p with _ | ⟨b, _ | ⟨c, rest⟩⟩
  · rfl
  · rfl
  · rw [Sandbox.dropSlashes, if_neg (hp b (by simp))]

theorem rootPath_slashes (hroot : sb.Constructed) : ∀ b ∈ sb.rootPath, b ≠ 92 := by
  obtain ⟨rootPath, hroot⟩ := hroot
  rw [hroot]
  exact Sandbox.normalise_slashes rootPath

theorem normalise_decoyPath (hroot : sb.Constructed) (hrel : PlainRel rel) :
    normalise (sb.rootPath ++ ("/" : ByteString) ++ rel) =
      sb.rootPath ++ ("/" : ByteString) ++ rel := by
  have hslashes : ∀ b ∈ sb.rootPath ++ ("/" : ByteString) ++ rel, b ≠ 92 := by
    intro b hb
    simp only [List.mem_append] at hb
    rcases hb with (hb | hb) | hb
    · exact rootPath_slashes hroot b hb
    · obtain rfl : b = 47 := List.mem_singleton.mp hb
      decide
    · exact hrel.slashes b hb
  have hmap : (sb.rootPath ++ ("/" : ByteString) ++ rel).map
      (fun b => if b = 92 then 47 else b) = sb.rootPath ++ ("/" : ByteString) ++ rel :=
    (List.map_congr_left fun b hb => if_neg (hslashes b hb)).trans (List.map_id' _)
  rw [normalise, hmap, dropSlashes_of_head, List.reverse_reverse]
  intro b hb
  rw [List.head?_reverse, List.getLast?_append_of_ne_nil _ hrel.ne_nil] at hb
  exact hrel.last b hb

/-- The guard lets the path of a decoy pass if the root does not climb. -/
theorem isInside_decoyPath (hroot : sb.Constructed) (hrel : PlainRel rel) :
    isInside (sb.rootPath ++ ("/" : ByteString) ++ rel) sb.rootPath = !hasDotdot sb.rootPath := by
  have hdotdot : hasDotdot (sb.rootPath ++ ("/" : ByteString) ++ rel) = hasDotdot sb.rootPath := by
    rw [← normalise_decoyPath hroot hrel, Bool.eq_iff_iff,
      Sandbox.hasDotdot_iff_mem_names (Sandbox.normalise_slashes _),
      normalise_decoyPath hroot hrel,
      Sandbox.hasDotdot_iff_mem_names (rootPath_slashes hroot), List.append_assoc]
    have hsplit : spelling.names (sb.rootPath ++ (("/" : ByteString) ++ rel)) =
        spelling.names sb.rootPath ++ spelling.names rel := Spelling.names_append_cons rfl _ _
    rw [hsplit, List.mem_append, or_iff_left hrel.names]
  rw [Bool.eq_iff_iff, Sandbox.isInside_iff, normalise_decoyPath hroot hrel,
    hroot.normalise_rootPath, hdotdot]
  simp only [Bool.not_eq_true', and_iff_left_iff_imp]
  exact fun _ => .inr (List.prefix_append _ rel)

theorem toRel_decoyPath (hroot : sb.Constructed) (hrel : PlainRel rel)
    (hdotdot : hasDotdot sb.rootPath = false) :
    sb.toRel (sb.rootPath ++ ("/" : ByteString) ++ rel) = rel := by
  have hinside := isInside_decoyPath hroot hrel
  rw [hdotdot] at hinside
  rcases Sandbox.normalise_eq_of_isInside hroot hinside with ⟨hpath, -⟩ | hpath
  · rw [normalise_decoyPath hroot hrel] at hpath
    have hlength := congrArg List.length hpath
    simp only [List.length_append] at hlength
    exact absurd (List.length_eq_zero_iff.mp (by omega)) hrel.ne_nil
  · rw [normalise_decoyPath hroot hrel] at hpath
    exact (List.append_cancel_left hpath).symm

end Paths

section Planting

variable {σ : Type} (auditAdder : AuditAdder σ) (callbacks : Sandbox.Callbacks σ) (now : Int64)

/-- The write of a decoy, as the loop of `plant` makes it. -/
def writeDecoy (spec : PoisonSpec) (sb : Sandbox) (world : σ) : SandboxResult × Sandbox × σ :=
  sb.write callbacks now (sb.rootPath ++ ("/" : ByteString) ++ spec.relPath) spec.content
    "decoy_system" world

theorem writeDecoy_ok_iff {sb : Sandbox} (hroot : sb.Constructed) {spec : PoisonSpec}
    (hrel : PlainRel spec.relPath) (world : σ) :
    (writeDecoy callbacks now spec sb world).1.ok = true ↔
      hasDotdot sb.rootPath = false ∧ callbacks.lockCheck world = false ∧
        sb.isEntryLocked spec.relPath = false := by
  rw [writeDecoy, Sandbox.write_ok_iff, isInside_decoyPath hroot hrel]
  cases hdotdot : hasDotdot sb.rootPath with
  | true => simp
  | false =>
      rw [toRel_decoyPath hroot hrel hdotdot]
      simp [hrel.ne_nil]

namespace DecoyEnvironment

theorem plantFiles_cons (spec : PoisonSpec) (rest : List PoisonSpec) (planted : Nat)
    (self : DecoyEnvironment) (sb : Sandbox) (world : σ) :
    plantFiles callbacks now (spec :: rest) (planted, self, sb, world) =
      if (writeDecoy callbacks now spec sb world).1.ok then
        plantFiles callbacks now rest (planted + 1,
          { self with poisoned := self.poisoned.insert spec.relPath spec.type },
          (writeDecoy callbacks now spec sb world).2)
      else
        plantFiles callbacks now rest
          (planted, self, (writeDecoy callbacks now spec sb world).2) :=
  rfl

theorem plantFiles_of_refused {specs : List PoisonSpec} {sb : Sandbox} {world : σ}
    (hrefused : ∀ spec ∈ specs, (writeDecoy callbacks now spec sb world).1.ok = false)
    (planted : Nat) (self : DecoyEnvironment) :
    plantFiles callbacks now specs (planted, self, sb, world) = (planted, self, sb, world) := by
  induction specs with
  | nil => rfl
  | cons spec rest ih =>
      have hok := hrefused spec (by simp)
      have hsame : (writeDecoy callbacks now spec sb world).2 = (sb, world) :=
        Sandbox.write_refused hok
      rw [plantFiles_cons, if_neg (by simp [hok]), hsame]
      exact ih fun spec' hspec' => hrefused spec' (by simp [hspec'])

theorem le_plantFiles (specs : List PoisonSpec) (planted : Nat) (self : DecoyEnvironment)
    (sb : Sandbox) (world : σ) :
    planted ≤ (plantFiles callbacks now specs (planted, self, sb, world)).1 := by
  induction specs generalizing planted self sb world with
  | nil => exact le_rfl
  | cons spec rest ih =>
      rw [plantFiles_cons]
      split
      · exact (Nat.le_succ planted).trans (ih _ _ _ _)
      · exact ih _ _ _ _

/-- The number stays as it is exactly if every write is refused from the start. -/
theorem plantFiles_eq_iff (specs : List PoisonSpec) (planted : Nat) (self : DecoyEnvironment)
    (sb : Sandbox) (world : σ) :
    (plantFiles callbacks now specs (planted, self, sb, world)).1 = planted ↔
      ∀ spec ∈ specs, (writeDecoy callbacks now spec sb world).1.ok = false := by
  constructor
  · intro hplanted
    induction specs with
    | nil => simp
    | cons spec rest ih =>
        rw [plantFiles_cons] at hplanted
        cases hok : (writeDecoy callbacks now spec sb world).1.ok with
        | true =>
            rw [if_pos hok] at hplanted
            have hle := le_plantFiles callbacks now rest (planted + 1)
              { self with poisoned := self.poisoned.insert spec.relPath spec.type }
              (writeDecoy callbacks now spec sb world).2.1
              (writeDecoy callbacks now spec sb world).2.2
            rw [Prod.mk.eta, hplanted] at hle
            omega
        | false =>
            have hsame : (writeDecoy callbacks now spec sb world).2 = (sb, world) :=
              Sandbox.write_refused hok
            rw [if_neg (by simp [hok]), hsame] at hplanted
            intro spec' hspec'
            rcases List.mem_cons.mp hspec' with rfl | hspec'
            · exact hok
            · exact ih hplanted spec' hspec'
  · intro hrefused
    rw [plantFiles_of_refused callbacks now hrefused]

theorem plantFiles_rootPath (specs : List PoisonSpec) (planted : Nat) (self : DecoyEnvironment)
    (sb : Sandbox) (world : σ) :
    (plantFiles callbacks now specs (planted, self, sb, world)).2.2.1.rootPath = sb.rootPath := by
  induction specs generalizing planted self sb world with
  | nil => rfl
  | cons spec rest ih =>
      rw [plantFiles_cons]
      split
      · exact (ih _ _ _ _).trans (Sandbox.write_rootPath _ _ _ _ _ _ _)
      · exact (ih _ _ _ _).trans (Sandbox.write_rootPath _ _ _ _ _ _ _)

/-- Without locks all files are written, whether they exist or not. -/
theorem plantFiles_of_open
    (haudit : ∀ eventType payload world,
      callbacks.lockCheck (callbacks.auditAdder eventType payload world).2 =
        callbacks.lockCheck world)
    {specs : List PoisonSpec} (hplain : ∀ spec ∈ specs, PlainRel spec.relPath) {sb : Sandbox}
    (hroot : sb.Constructed) (hdotdot : hasDotdot sb.rootPath = false)
    (hunlocked : ∀ rel, sb.isEntryLocked rel = false) {world : σ}
    (hopen : callbacks.lockCheck world = false) (planted : Nat) (self : DecoyEnvironment) :
    (plantFiles callbacks now specs (planted, self, sb, world)).1 = planted + specs.length := by
  induction specs generalizing planted self sb world with
  | nil => rfl
  | cons spec rest ih =>
      have hok := (writeDecoy_ok_iff callbacks now hroot (hplain spec (by simp)) world).mpr
        ⟨hdotdot, hopen, hunlocked _⟩
      obtain ⟨payload, hwritten⟩ := Sandbox.write_accepted hok
      rw [plantFiles_cons, if_pos hok, List.length_cons, Nat.add_comm rest.length,
        ← Nat.add_assoc]
      apply ih fun spec' hspec' => hplain spec' (by simp [hspec'])
      · rw [Sandbox.Constructed, writeDecoy, Sandbox.write_rootPath]
        exact hroot
      · rw [writeDecoy, Sandbox.write_rootPath]
        exact hdotdot
      · intro rel
        rw [writeDecoy, Sandbox.write_isEntryLocked]
        exact hunlocked rel
      · have hworld := congrArg Prod.snd hwritten
        rw [writeDecoy, hworld, haudit]
        exact hopen

/-- The loop and the audit entry behind it. -/
theorem plant_eq (self : DecoyEnvironment) (sb : Sandbox) (world : σ) :
    ∃ payload, self.plant auditAdder callbacks now sb world =
      let outcome := plantFiles callbacks now poisonedFiles (0, self, sb, world)
      (outcome.1, outcome.2.1, outcome.2.2.1,
        (auditAdder "decoy_planted" payload outcome.2.2.2).2) := by
  unfold plant
  generalize poisonedFiles = specs
  exact ⟨_, rfl⟩

theorem plant_fst (self : DecoyEnvironment) (sb : Sandbox) (world : σ) :
    (self.plant auditAdder callbacks now sb world).1 =
      (plantFiles callbacks now poisonedFiles (0, self, sb, world)).1 := by
  unfold plant
  generalize poisonedFiles = specs
  rfl

theorem plant_rootPath (self : DecoyEnvironment) (sb : Sandbox) (world : σ) :
    (self.plant auditAdder callbacks now sb world).2.2.1.rootPath = sb.rootPath := by
  obtain ⟨payload, hplant⟩ := plant_eq auditAdder callbacks now self sb world
  rw [hplant]
  exact plantFiles_rootPath callbacks now poisonedFiles 0 self sb world

theorem plant_none_iff (self : DecoyEnvironment) (sb : Sandbox) (world : σ) :
    (self.plant auditAdder callbacks now sb world).1 = 0 ↔
      ∀ spec ∈ poisonedFiles, (writeDecoy callbacks now spec sb world).1.ok = false := by
  rw [plant_fst]
  exact plantFiles_eq_iff callbacks now poisonedFiles 0 self sb world

/-- Where nothing is planted, the decoys and the sandbox are as they were. -/
theorem plant_of_none {self : DecoyEnvironment} {sb : Sandbox} {world : σ}
    (hnone : (self.plant auditAdder callbacks now sb world).1 = 0) :
    (self.plant auditAdder callbacks now sb world).2.1 = self ∧
      (self.plant auditAdder callbacks now sb world).2.2.1 = sb := by
  have hrefused := (plant_none_iff auditAdder callbacks now self sb world).mp hnone
  obtain ⟨payload, hplant⟩ := plant_eq auditAdder callbacks now self sb world
  rw [hplant, plantFiles_of_refused callbacks now hrefused]
  exact ⟨rfl, rfl⟩

/-- A second `plant`, after the first one and after what others have made of the world in
between. -/
def plantAgain (later : Int64) (self : DecoyEnvironment) (sb : Sandbox) (world between : σ) :
    Nat × DecoyEnvironment × Sandbox × σ :=
  let first := self.plant auditAdder callbacks now sb world
  first.2.1.plant auditAdder callbacks later first.2.2.1 between

/-- Without locks the second `plant` writes all decoys again. -/
theorem plantAgain_of_open
    (haudit : ∀ eventType payload world,
      callbacks.lockCheck (callbacks.auditAdder eventType payload world).2 =
        callbacks.lockCheck world)
    {sb : Sandbox} (hroot : sb.Constructed) (hdotdot : hasDotdot sb.rootPath = false)
    (hunlocked : ∀ rel, sb.isEntryLocked rel = false) (later : Int64)
    (self : DecoyEnvironment) (world between : σ) (hopen : callbacks.lockCheck between = false) :
    (self.plantAgain auditAdder callbacks now later sb world between).1 =
      poisonedFiles.length := by
  have hkept := plant_rootPath auditAdder callbacks now self sb world
  rw [plantAgain, plant_fst, plantFiles_of_open callbacks later haudit poisonedFiles_plain _ _ _
    hopen, Nat.zero_add]
  · rw [Sandbox.Constructed, hkept]
    exact hroot
  · rw [hkept]
    exact hdotdot
  · intro rel
    rw [plant_isEntryLocked]
    exact hunlocked rel

end DecoyEnvironment

/-- The second `plant` creates nothing, and content, version and registration of the decoys are
as the first one left them. -/
structure PlantsOnce (later : Int64) (decoy : DecoyEnvironment) (sb : Sandbox)
    (world between : σ) : Prop where
  none : (decoy.plantAgain auditAdder callbacks now later sb world between).1 = 0
  same : let first := decoy.plant auditAdder callbacks now sb world
    let second := decoy.plantAgain auditAdder callbacks now later sb world between
    ∀ spec ∈ poisonedFiles,
      second.2.2.1.entries[spec.relPath]?.map (fun entry => (entry.content, entry.version)) =
          first.2.2.1.entries[spec.relPath]?.map (fun entry => (entry.content, entry.version)) ∧
        second.2.1.poisoned[spec.relPath]? = first.2.1.poisoned[spec.relPath]?

theorem plantsOnce_iff_none (later : Int64) (decoy : DecoyEnvironment) (sb : Sandbox)
    (world between : σ) :
    PlantsOnce auditAdder callbacks now later decoy sb world between ↔
      (decoy.plantAgain auditAdder callbacks now later sb world between).1 = 0 := by
  constructor
  · exact PlantsOnce.none
  · intro hnone
    refine ⟨hnone, fun spec _ => ?_⟩
    rw [DecoyEnvironment.plantAgain] at hnone
    obtain ⟨hdecoy, hsandbox⟩ := DecoyEnvironment.plant_of_none auditAdder callbacks later hnone
    rw [DecoyEnvironment.plantAgain, hdecoy, hsandbox]
    exact ⟨rfl, rfl⟩

/-- Planting is idempotent exactly if nothing can be planted the second time: under lockdown,
below a root that climbs, or when all decoys are locked one by one. -/
theorem plantsOnce_iff {sb : Sandbox} (hroot : sb.Constructed) (later : Int64)
    (decoy : DecoyEnvironment) (world between : σ) :
    PlantsOnce auditAdder callbacks now later decoy sb world between ↔
      callbacks.lockCheck between = true ∨ hasDotdot sb.rootPath = true ∨
        ∀ spec ∈ poisonedFiles, sb.isEntryLocked spec.relPath = true := by
  have hplanted := DecoyEnvironment.plant_rootPath auditAdder callbacks now decoy sb world
  have hroot' : (decoy.plant auditAdder callbacks now sb world).2.2.1.Constructed := by
    rw [Sandbox.Constructed, hplanted]
    exact hroot
  have hbool : ∀ lock climbs locked : Bool,
      ¬ (climbs = false ∧ lock = false ∧ locked = false) ↔
        lock = true ∨ climbs = true ∨ locked = true := by decide
  have hrefused : ∀ spec ∈ poisonedFiles,
      (writeDecoy callbacks later spec (decoy.plant auditAdder callbacks now sb world).2.2.1
          between).1.ok = false ↔
        callbacks.lockCheck between = true ∨ hasDotdot sb.rootPath = true ∨
          sb.isEntryLocked spec.relPath = true := by
    intro spec hspec
    have hok := writeDecoy_ok_iff callbacks later hroot' (poisonedFiles_plain spec hspec) between
    rw [hplanted, DecoyEnvironment.plant_isEntryLocked] at hok
    rw [← Bool.not_eq_true, hok]
    exact hbool _ _ _
  rw [plantsOnce_iff_none, DecoyEnvironment.plantAgain, DecoyEnvironment.plant_none_iff,
    forall₂_congr hrefused]
  cases callbacks.lockCheck between with
  | true => simp
  | false =>
      cases hasDotdot sb.rootPath with
      | true => simp
      | false => simp

end Planting

section Samples

open Sandbox.Surface (lockCallbacks)

theorem lockdown_plantsOnce :
    PlantsOnce lockCallbacks.auditAdder lockCallbacks 0 1 {} (.construct "/srv/mirror") false
      true :=
  (plantsOnce_iff lockCallbacks.auditAdder lockCallbacks 0 ⟨_, rfl⟩ 1 {} false true).mpr (.inl rfl)

/-- In a new sandbox, without lockdown. -/
theorem second_plant_overwrites :
    (({} : DecoyEnvironment).plantAgain lockCallbacks.auditAdder lockCallbacks 0 1
        (.construct "/srv/mirror") false false).1 = 13 ∧
      ¬ PlantsOnce lockCallbacks.auditAdder lockCallbacks 0 1 {} (.construct "/srv/mirror") false
        false := by
  have hunlocked : ∀ rel, (Sandbox.construct "/srv/mirror").isEntryLocked rel = false := by
    intro rel
    simp [Sandbox.isEntryLocked, Sandbox.construct]
  have hsecond := DecoyEnvironment.plantAgain_of_open lockCallbacks.auditAdder lockCallbacks 0
    (fun _ _ _ => rfl) ⟨_, rfl⟩ (by decide +kernel) hunlocked 1 {} false false rfl
  have hlength : poisonedFiles.length = 13 := by decide +kernel
  rw [hlength] at hsecond
  refine ⟨hsecond, fun hplants => ?_⟩
  have hnone := hplants.none
  rw [hsecond] at hnone
  exact absurd hnone (by decide)

end Samples

end Astartis.Decoy
