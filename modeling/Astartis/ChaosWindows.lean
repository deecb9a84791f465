import Astartis.Batching
import Astartis.ChaosDetector

/-!
The windows of the chaos detector over any sequence of samples.  `push` asks for a full window
and `flush_window` for ten samples, so that the larger of the two sizes cuts the sequence.
-/

namespace Astartis.Chaos

open Batching

structure Sample where
  value : Double
  synthetic : Bool
deriving DecidableEq

/-- What the detector reports for these samples, as the window with this number. -/
def windowOf (analysis : Analysis) (index : Nat) (batch : List Sample) : ChaosWindow where
  windowIndex := UInt64.ofNat index
  sampleCount := batch.length
  K := analysis.computeK (batch.map Sample.value)
  lambda1 := analysis.computeLyapunov (batch.map Sample.value)
  anomalous := Double.lt chaosThreshold (analysis.computeK (batch.map Sample.value))
  synthetic := decide (∃ sample ∈ batch, sample.synthetic = true)

section

variable {σ : Type} (analysis : Analysis) (callbacks : Callbacks σ)

/-- Windows as they are emitted, the audit entry of each before its callback. -/
def emitAll (windows : List ChaosWindow) (world : σ) : σ :=
  windows.foldl (fun world w =>
    callbacks.windowCb w (callbacks.auditAdder "chaos_window" w.text world).2) world

def pushAll (samples : List Sample) (self : ChaosDetector) (world : σ) : ChaosDetector × σ :=
  samples.foldl (fun state sample =>
    state.1.push analysis callbacks sample.value sample.synthetic state.2) (self, world)

/-- The detector with these samples in its buffer, after this many windows. -/
def holding (windowSize index : Nat) (buffer : List Sample) : ChaosDetector where
  windowSize := windowSize
  windowIndex := UInt64.ofNat index
  samples := buffer.map Sample.value
  anySynthetic := decide (∃ sample ∈ buffer, sample.synthetic = true)

variable {windowSize index : Nat} {buffer : List Sample}

theorem window_holding :
    (holding windowSize index buffer).window analysis = windowOf analysis index buffer := by
  simp [ChaosDetector.window, holding, windowOf]

theorem holding_concat (sample : Sample) :
    { holding windowSize index buffer with
      samples := (holding windowSize index buffer).samples ++ [sample.value]
      anySynthetic := (holding windowSize index buffer).anySynthetic || sample.synthetic } =
      holding windowSize index (buffer ++ [sample]) := by
  have hany : (decide (∃ s ∈ buffer, s.synthetic = true) || sample.synthetic) =
      decide (∃ s ∈ buffer ++ [sample], s.synthetic = true) := by
    rw [Bool.eq_iff_iff]
    simp [or_and_right, exists_or]
  simp only [holding, hany, List.map_append, List.map_cons, List.map_nil]

/-- A window that is emitted empties the buffer. -/
theorem flushWindow_holding {force : Bool} (hmany : 10 ≤ buffer.length ∨ force = true)
    (hbuffer : buffer ≠ []) (world : σ) :
    (holding windowSize index buffer).flushWindow analysis callbacks force world =
      (holding windowSize (index + 1) [],
        emitAll callbacks [windowOf analysis index buffer] world) := by
  have hfew : ¬ ((holding windowSize index buffer).samples.length < 10 ∧ force = false) := by
    rintro ⟨hfew, hforce⟩
    rcases hmany with hmany | hforced
    · simp only [holding, List.length_map] at hfew
      omega
    · simp [hforced] at hforce
  have hsamples : (holding windowSize index buffer).samples ≠ [] := by
    simpa [holding] using hbuffer
  have hempty : { holding windowSize index buffer with
      windowIndex := (holding windowSize index buffer).windowIndex + 1
      samples := []
      anySynthetic := false } = holding windowSize (index + 1) [] := by
    simp only [holding, UInt64.ofNat_add]
    rfl
  rw [ChaosDetector.flushWindow, if_neg hfew, if_neg hsamples, window_holding, ← hempty]
  rfl

theorem push_holding_of_room (sample : Sample)
    (hroom : buffer.length + 1 < max windowSize 10) (world : σ) :
    (holding windowSize index buffer).push analysis callbacks sample.value sample.synthetic
        world = (holding windowSize index (buffer ++ [sample]), world) := by
  have hlength : (holding windowSize index (buffer ++ [sample])).samples.length =
      buffer.length + 1 := by
    simp [holding]
  rw [ChaosDetector.push, holding_concat]
  simp only [hlength, ge_iff_le]
  split
  · rename_i hfull
    change windowSize ≤ buffer.length + 1 at hfull
    rw [ChaosDetector.flushWindow, hlength, if_pos ⟨by omega, rfl⟩]
  · rfl

theorem push_holding_of_full (sample : Sample)
    (hfull : buffer.length + 1 = max windowSize 10) (world : σ) :
    (holding windowSize index buffer).push analysis callbacks sample.value sample.synthetic
        world =
      (holding windowSize (index + 1) [],
        emitAll callbacks [windowOf analysis index (buffer ++ [sample])] world) := by
  have hlength : (holding windowSize index (buffer ++ [sample])).samples.length =
      buffer.length + 1 := by
    simp [holding]
  have hsize : (holding windowSize index (buffer ++ [sample])).windowSize ≤
      buffer.length + 1 := by
    change windowSize ≤ buffer.length + 1
    omega
  have hmany : 10 ≤ (buffer ++ [sample]).length := by
    rw [List.length_append, List.length_singleton]
    omega
  rw [ChaosDetector.push, holding_concat]
  simp only [hlength, ge_iff_le, if_pos hsize]
  exact flushWindow_holding analysis callbacks (.inl hmany) (by simp) world

theorem emitAll_concat (windows : List ChaosWindow) (w : ChaosWindow) (world : σ) :
    emitAll callbacks (windows ++ [w]) world =
      emitAll callbacks [w] (emitAll callbacks windows world) := by
  simp only [emitAll, List.foldl_append]

/-- What the detector has emitted and what it holds, after any samples. -/
theorem exists_cut (windowSize : Nat) (samples : List Sample) (world : σ) :
    ∃ batches buffer, Cut (max windowSize 10) samples batches buffer ∧
      pushAll analysis callbacks samples { windowSize := windowSize } world =
        (holding windowSize batches.length buffer,
          emitAll callbacks (batches.mapIdx (windowOf analysis)) world) := by
  refine exists_cut_foldl (fun batches buffer => (holding windowSize batches.length buffer,
    emitAll callbacks (batches.mapIdx (windowOf analysis)) world)) (by omega) ?_ ?_ samples
  · intro batches buffer sample hroom
    exact push_holding_of_room analysis callbacks sample hroom _
  · intro batches buffer sample hfull
    simp only [push_holding_of_full analysis callbacks sample hfull, List.mapIdx_concat,
      List.length_append, List.length_singleton]
    rw [← emitAll_concat]

/-- The samples come in windows one behind the other: those of `push` have the larger of the
two sizes, the last `flush_window` emits what is left. -/
theorem windows_partition (windowSize : Nat) (samples : List Sample) (world : σ) :
    let pushed := pushAll analysis callbacks samples { windowSize := windowSize } world
    let flushed := pushed.1.flushWindow analysis callbacks true pushed.2
    ∃ batches rest, Cut (max windowSize 10) samples batches rest ∧
      Partition (max windowSize 10) samples (closed batches rest) ∧
      pushed.2 = emitAll callbacks (batches.mapIdx (windowOf analysis)) world ∧
      flushed.2 = emitAll callbacks ((closed batches rest).mapIdx (windowOf analysis)) world := by
  obtain ⟨batches, rest, hcut, hstate⟩ := exists_cut analysis callbacks windowSize samples world
  refine ⟨batches, rest, hcut, hcut.partition, congrArg Prod.snd hstate, ?_⟩
  simp only [hstate]
  by_cases hrest : rest = []
  · subst hrest
    rfl
  · rw [flushWindow_holding analysis callbacks (.inr rfl) hrest, closed, if_neg hrest,
      List.mapIdx_concat, emitAll_concat]

end

end Astartis.Chaos
