import Mathlib.Algebra.Order.BigOperators.Group.List
import Astartis.Batching
import Astartis.ChaosDetector
import Astartis.PacketSensor

/-!
The packet sensor as it accumulates entropies and flushes them in windows.  An entropy is taken
as the number it is, and sums and quotients as exact.
-/

namespace Astartis.Sensor

open Audit
open Batching

/-! The loop of `flush_window_locked`. -/

structure Statistics where
  sum : ℚ := 0
  mx : ℚ := 0
  mn : ℚ := 8

def Statistics.add (self : Statistics) (v : ℚ) : Statistics where
  sum := self.sum + v
  mx := if v > self.mx then v else self.mx
  mn := if v < self.mn then v else self.mn

def Statistics.of (entropies : List ℚ) : Statistics :=
  entropies.foldl Statistics.add {}

structure WindowCallbacks (σ : Type) where
  windowCb : Option (EntropyWindow → σ → σ)
  auditAdder : Option (AuditAdder σ)

def defaultWindowSize : Nat := 50

/-- The constructor replaces an empty window size. -/
structure PacketSensor where
  windowSize : Nat
  entropyAccum : List ℚ := []
  windowIndex : UInt64 := 0
  running : Bool := false
  syntheticMode : Bool := false
  adapterName : ByteString := []
  windowSize_pos : 0 < windowSize

def EntropyWindow.text (w : EntropyWindow) : ByteString :=
  ("window=" : ByteString) ++ ByteString.decimal w.windowIndex.toNat ++
    (" packets=" : ByteString) ++ ByteString.decimal w.packetCount ++
    (" mean_entropy=" : ByteString) ++ w.meanEntropyBits.toFixed 3 ++
    (" score=" : ByteString) ++ ByteString.decimal w.threatScore ++
    (" anomalous=" : ByteString) ++ Chaos.boolText w.anomalous ++
    (" adapter=" : ByteString) ++ w.adapterName

namespace PacketSensor

def construct (windowSize : Nat) : PacketSensor where
  windowSize := if windowSize > 0 then windowSize else defaultWindowSize
  windowSize_pos := by
    unfold defaultWindowSize
    split <;> omega

/-- `start`, with the name of the adapter that `open_best_adapter` opened. -/
def start (adapter : Option ByteString) (self : PacketSensor) : PacketSensor :=
  if self.running then self
  else
    match adapter with
    | some name =>
        { self with syntheticMode := false, adapterName := name, running := true }
    | none =>
        { self with syntheticMode := true, adapterName := "synthetic", running := true }

/-- The window of `flush_window_locked`. -/
def window (self : PacketSensor) : EntropyWindow :=
  let statistics := Statistics.of self.entropyAccum
  .ofStatistics self.windowIndex self.entropyAccum.length
    (.finite (statistics.sum / self.entropyAccum.length)) (.finite statistics.mx)
    (.finite statistics.mn) self.syntheticMode self.adapterName

variable {σ : Type} (callbacks : WindowCallbacks σ)

/-- The audit entry of a window and then its callback. -/
def report (w : EntropyWindow) (world : σ) : σ :=
  let world :=
    match callbacks.auditAdder with
    | some auditAdder => (auditAdder "packet_entropy" w.text world).2
    | none => world
  match callbacks.windowCb with
  | some windowCb => windowCb w world
  | none => world

def flushWindowLocked (self : PacketSensor) (world : σ) : PacketSensor × σ :=
  if self.entropyAccum = [] then (self, world)
  else
    ({ self with windowIndex := self.windowIndex + 1, entropyAccum := [] },
      report callbacks self.window world)

def flushWindow (force : Bool) (self : PacketSensor) (world : σ) : PacketSensor × σ :=
  if force = true ∨ self.entropyAccum.length ≥ self.windowSize then
    self.flushWindowLocked callbacks world
  else (self, world)

variable (computeEntropy : List UInt8 → ℚ)

def onPacket (data : List UInt8) (self : PacketSensor) (world : σ) : PacketSensor × σ :=
  let e := computeEntropy data
  let self := { self with entropyAccum := self.entropyAccum ++ [e] }
  if self.entropyAccum.length ≥ self.windowSize then self.flushWindowLocked callbacks world
  else (self, world)

def stop (self : PacketSensor) (world : σ) : PacketSensor × σ :=
  if self.running = false then (self, world)
  else ({ self with running := false } : PacketSensor).flushWindow callbacks true world

def onPackets (packets : List (List UInt8)) (self : PacketSensor) (world : σ) :
    PacketSensor × σ :=
  packets.foldl (fun state data => state.1.onPacket callbacks computeEntropy data state.2)
    (self, world)

end PacketSensor

/-! What the loop computes. -/

/-- The least value in the sense of `r` that a scan comes across. -/
theorem extreme_spec {r : ℚ → ℚ → Prop} [DecidableRel r] (hirrefl : ∀ a, ¬ r a a)
    (htrans : ∀ a b c, ¬ r a b → ¬ r b c → ¬ r a c) (hasymm : ∀ a b, r a b → ¬ r b a)
    (vs : List ℚ) (start : ℚ) :
    let extreme := vs.foldl (fun m v => if r v m then v else m) start
    (extreme = start ∨ extreme ∈ vs) ∧ ¬ r start extreme ∧ ∀ v ∈ vs, ¬ r v extreme := by
  induction vs generalizing start with
  | nil => exact ⟨.inl rfl, hirrefl start, by simp⟩
  | cons v vs ih =>
      obtain ⟨hmem, hstart, hall⟩ := ih (if r v start then v else start)
      rw [List.foldl_cons]
      by_cases hv : r v start
      · rw [if_pos hv] at hmem hstart hall ⊢
        refine ⟨.inr ?_, htrans _ _ _ (hasymm v start hv) hstart, ?_⟩
        · rcases hmem with hmem | hmem
          · rw [hmem]
            exact List.mem_cons_self
          · exact List.mem_cons_of_mem v hmem
        · exact List.forall_mem_cons.mpr ⟨hstart, hall⟩
      · rw [if_neg hv] at hmem hstart hall ⊢
        refine ⟨hmem.imp_right (List.mem_cons_of_mem v), hstart, ?_⟩
        exact List.forall_mem_cons.mpr ⟨htrans _ _ _ hv hstart, hall⟩

namespace Statistics

theorem foldl_add (vs : List ℚ) (s : Statistics) :
    vs.foldl add s =
      ⟨s.sum + vs.sum, vs.foldl (fun m v => if v > m then v else m) s.mx,
        vs.foldl (fun m v => if v < m then v else m) s.mn⟩ := by
  induction vs generalizing s with
  | nil => simp
  | cons v vs ih => simp [ih, add, add_assoc]

variable {vs : List ℚ}

theorem of_sum (vs : List ℚ) : (of vs).sum = vs.sum := by
  rw [of, foldl_add, zero_add]

/-- The start `0` of the maximum is below all entropies, and so is one of them or not kept. -/
theorem of_mx (hne : vs ≠ []) (hrange : ∀ v ∈ vs, 0 ≤ v) :
    (of vs).mx ∈ vs ∧ ∀ v ∈ vs, v ≤ (of vs).mx := by
  obtain ⟨hmem, -, hall⟩ := extreme_spec (r := (· > ·)) (fun a => lt_irrefl a)
    (fun a b c hab hbc => not_lt.mpr ((not_lt.mp hab).trans (not_lt.mp hbc)))
    (fun a b h => not_lt.mpr h.le) vs 0
  have hmx : (of vs).mx = vs.foldl (fun m v => if v > m then v else m) 0 := by
    rw [of, foldl_add]
  rw [hmx]
  have hle : ∀ v ∈ vs, v ≤ vs.foldl (fun m v => if v > m then v else m) 0 :=
    fun v hv => not_lt.mp (hall v hv)
  refine ⟨?_, hle⟩
  rcases hmem with hstart | hmem
  · obtain ⟨v, hv⟩ := List.exists_mem_of_ne_nil vs hne
    have hzero : v = 0 := le_antisymm (hstart ▸ hle v hv) (hrange v hv)
    rw [hstart, ← hzero]
    exact hv
  · exact hmem

theorem of_mn (hne : vs ≠ []) (hrange : ∀ v ∈ vs, v ≤ 8) :
    (of vs).mn ∈ vs ∧ ∀ v ∈ vs, (of vs).mn ≤ v := by
  obtain ⟨hmem, -, hall⟩ := extreme_spec (r := (· < ·)) (fun a => lt_irrefl a)
    (fun a b c hab hbc => not_lt.mpr ((not_lt.mp hbc).trans (not_lt.mp hab)))
    (fun a b h => not_lt.mpr h.le) vs 8
  have hmn : (of vs).mn = vs.foldl (fun m v => if v < m then v else m) 8 := by
    rw [of, foldl_add]
  rw [hmn]
  have hle : ∀ v ∈ vs, vs.foldl (fun m v => if v < m then v else m) 8 ≤ v :=
    fun v hv => not_lt.mp (hall v hv)
  refine ⟨?_, hle⟩
  rcases hmem with hstart | hmem
  · obtain ⟨v, hv⟩ := List.exists_mem_of_ne_nil vs hne
    have height : v = 8 := le_antisymm (hrange v hv) (hstart ▸ hle v hv)
    rw [hstart, ← height]
    exact hv
  · exact hmem

theorem mean_between (hne : vs ≠ []) {low high : ℚ} (hlow : ∀ v ∈ vs, low ≤ v)
    (hhigh : ∀ v ∈ vs, v ≤ high) :
    low ≤ vs.sum / vs.length ∧ vs.sum / vs.length ≤ high := by
  have hpos : (0 : ℚ) < vs.length := by
    exact_mod_cast List.length_pos_of_ne_nil hne
  rw [le_div_iff₀ hpos, div_le_iff₀ hpos]
  have hbelow := List.card_nsmul_le_sum vs low hlow
  have habove := List.sum_le_card_nsmul vs high hhigh
  rw [nsmul_eq_mul] at hbelow habove
  exact ⟨by linarith, by linarith⟩

end Statistics

/-- The window speaks for these packets and no others. -/
structure Summarises (computeEntropy : List UInt8 → ℚ) (packets : List (List UInt8))
    (w : EntropyWindow) : Prop where
  packetCount : w.packetCount = packets.length
  bounds : ∃ mn mean mx : ℚ,
    w.minEntropyBits = .finite mn ∧ w.meanEntropyBits = .finite mean ∧
      w.maxEntropyBits = .finite mx ∧ mn ≤ mean ∧ mean ≤ mx ∧
      (∃ data ∈ packets, computeEntropy data = mn) ∧
      (∃ data ∈ packets, computeEntropy data = mx) ∧
      (∀ data ∈ packets, mn ≤ computeEntropy data ∧ computeEntropy data ≤ mx) ∧
      mean * packets.length = (packets.map computeEntropy).sum

namespace PacketSensor

section

variable {σ : Type} (callbacks : WindowCallbacks σ) (computeEntropy : List UInt8 → ℚ)

/-- The sensor with these packets in its buffer, after this many windows. -/
def holding (self : PacketSensor) (index : Nat) (buffer : List (List UInt8)) : PacketSensor :=
  { self with
    entropyAccum := buffer.map computeEntropy
    windowIndex := UInt64.ofNat index }

/-- What the sensor reports for these packets, as the window with this number. -/
def windowOf (self : PacketSensor) (index : Nat) (packets : List (List UInt8)) :
    EntropyWindow :=
  (self.holding computeEntropy index packets).window

def reportAll (windows : List EntropyWindow) (world : σ) : σ :=
  windows.foldl (fun world w => report callbacks w world) world

theorem windowOf_summarises (hentropy : ∀ data, 0 ≤ computeEntropy data ∧ computeEntropy data ≤ 8)
    (self : PacketSensor) (index : Nat) {packets : List (List UInt8)} (hne : packets ≠ []) :
    Summarises computeEntropy packets (self.windowOf computeEntropy index packets) := by
  have hvs : packets.map computeEntropy ≠ [] := by simpa using hne
  obtain ⟨hmxmem, hmxle⟩ := Statistics.of_mx hvs fun v hv => by
    obtain ⟨data, -, rfl⟩ := List.mem_map.mp hv
    exact (hentropy data).1
  obtain ⟨hmnmem, hmnle⟩ := Statistics.of_mn hvs fun v hv => by
    obtain ⟨data, -, rfl⟩ := List.mem_map.mp hv
    exact (hentropy data).2
  obtain ⟨hlow, hhigh⟩ := Statistics.mean_between hvs hmnle hmxle
  rw [List.length_map] at hlow hhigh
  have hpos : (packets.length : ℚ) ≠ 0 := by
    exact_mod_cast (List.length_pos_of_ne_nil hne).ne'
  refine ⟨by simp [windowOf, holding, window, EntropyWindow.ofStatistics],
    (Statistics.of (packets.map computeEntropy)).mn,
    (packets.map computeEntropy).sum / packets.length,
    (Statistics.of (packets.map computeEntropy)).mx, rfl, ?_, rfl, hlow, hhigh,
    List.mem_map.mp hmnmem, List.mem_map.mp hmxmem, ?_, div_mul_cancel₀ _ hpos⟩
  · simp [windowOf, holding, window, EntropyWindow.ofStatistics, Statistics.of_sum]
  · intro data hdata
    have hmem := List.mem_map_of_mem (f := computeEntropy) hdata
    exact ⟨hmnle _ hmem, hmxle _ hmem⟩

variable {self : PacketSensor} {index : Nat} {buffer : List (List UInt8)}

theorem flushWindowLocked_holding (hne : buffer ≠ []) (world : σ) :
    (self.holding computeEntropy index buffer).flushWindowLocked callbacks world =
      (self.holding computeEntropy (index + 1) [],
        report callbacks (self.windowOf computeEntropy index buffer) world) := by
  have haccum : (self.holding computeEntropy index buffer).entropyAccum ≠ [] := by
    simpa [holding] using hne
  have hempty : { self.holding computeEntropy index buffer with
      windowIndex := (self.holding computeEntropy index buffer).windowIndex + 1
      entropyAccum := [] } = self.holding computeEntropy (index + 1) [] := by
    simp only [holding, UInt64.ofNat_add]
    rfl
  rw [flushWindowLocked, if_neg haccum, ← hempty]
  rfl

theorem holding_concat (data : List UInt8) :
    { self.holding computeEntropy index buffer with
      entropyAccum := (self.holding computeEntropy index buffer).entropyAccum ++
        [computeEntropy data] } = self.holding computeEntropy index (buffer ++ [data]) := by
  simp only [holding, List.map_append, List.map_cons, List.map_nil]

theorem onPacket_holding (data : List UInt8) (world : σ) :
    (self.holding computeEntropy index buffer).onPacket callbacks computeEntropy data world =
      if self.windowSize ≤ buffer.length + 1 then
        (self.holding computeEntropy (index + 1) [],
          report callbacks (self.windowOf computeEntropy index (buffer ++ [data])) world)
      else (self.holding computeEntropy index (buffer ++ [data]), world) := by
  have hlength : (self.holding computeEntropy index (buffer ++ [data])).entropyAccum.length =
      buffer.length + 1 := by
    simp [holding]
  have hne : buffer ++ [data] ≠ [] := by simp
  rw [onPacket, holding_concat]
  simp only [hlength, ge_iff_le, flushWindowLocked_holding callbacks computeEntropy hne]
  rfl

theorem reportAll_concat (windows : List EntropyWindow) (w : EntropyWindow) (world : σ) :
    reportAll callbacks (windows ++ [w]) world =
      report callbacks w (reportAll callbacks windows world) := by
  simp only [reportAll, List.foldl_append, List.foldl_cons, List.foldl_nil]

theorem exists_cut (self : PacketSensor) (packets : List (List UInt8)) (world : σ) :
    ∃ batches buffer, Cut self.windowSize packets batches buffer ∧
      onPackets callbacks computeEntropy packets (self.holding computeEntropy 0 []) world =
        (self.holding computeEntropy batches.length buffer,
          reportAll callbacks (batches.mapIdx (self.windowOf computeEntropy)) world) := by
  refine exists_cut_foldl (fun batches buffer =>
    (self.holding computeEntropy batches.length buffer,
      reportAll callbacks (batches.mapIdx (self.windowOf computeEntropy)) world))
    self.windowSize_pos ?_ ?_ packets
  · intro batches buffer data hroom
    simp only [onPacket_holding]
    rw [if_neg (by omega)]
  · intro batches buffer data hfull
    simp only [onPacket_holding]
    rw [if_pos (by omega), List.mapIdx_concat, reportAll_concat, List.length_append,
      List.length_singleton]

theorem start_holding (adapter : Option ByteString) (windowSize : Nat) :
    ((construct windowSize).start adapter).holding computeEntropy 0 [] =
      (construct windowSize).start adapter := by
  cases adapter <;> rfl

/-- `stop` flushes what is left of a running sensor. -/
theorem stop_holding (hrunning : self.running = true) (world : σ) :
    ((self.holding computeEntropy index buffer).stop callbacks world).2 =
      if buffer = [] then world
      else report callbacks (self.windowOf computeEntropy index buffer) world := by
  have hstarted : (self.holding computeEntropy index buffer).running = true := hrunning
  rw [stop, if_neg (by simp [hstarted]), flushWindow, if_pos (.inl rfl), flushWindowLocked]
  by_cases hbuffer : buffer = []
  · subst hbuffer
    rfl
  · have haccum : (self.holding computeEntropy index buffer).entropyAccum ≠ [] := by
      simpa [holding] using hbuffer
    rw [if_neg haccum, if_neg hbuffer]
    rfl

end

/-- The packets come in windows one behind the other, each with its audit entry in front of
its callback. -/
theorem captured_windows_partition {σ : Type} {computeEntropy : List UInt8 → ℚ}
    (hentropy : ∀ data, 0 ≤ computeEntropy data ∧ computeEntropy data ≤ 8)
    (windowCb : EntropyWindow → σ → σ) (auditAdder : AuditAdder σ) (windowSize : Nat)
    (adapter : Option ByteString) (packets : List (List UInt8)) (world : σ) :
    let callbacks := ⟨some windowCb, some auditAdder⟩
    let sensor := (construct windowSize).start adapter
    let captured := onPackets callbacks computeEntropy packets sensor world
    ∃ batches, Partition sensor.windowSize packets batches ∧
      (captured.1.stop callbacks captured.2).2 =
        (batches.mapIdx (sensor.windowOf computeEntropy)).foldl (fun world w =>
          windowCb w (auditAdder "packet_entropy" w.text world).2) world ∧
      ∀ batch ∈ batches, ∀ index,
        (sensor.windowOf computeEntropy index batch).windowIndex = UInt64.ofNat index ∧
          Summarises computeEntropy batch (sensor.windowOf computeEntropy index batch) := by
  intro callbacks sensor captured
  have hrunning : sensor.running = true := by
    cases adapter <;> rfl
  obtain ⟨batches, buffer, hcut, hstate⟩ := exists_cut callbacks computeEntropy sensor packets
    world
  have hcaptured : captured = (sensor.holding computeEntropy batches.length buffer,
      reportAll callbacks (batches.mapIdx (sensor.windowOf computeEntropy)) world) := by
    rw [← hstate, start_holding computeEntropy adapter windowSize]
  refine ⟨closed batches buffer, hcut.partition, ?_, fun batch hbatch index =>
    ⟨rfl, windowOf_summarises computeEntropy hentropy sensor index (hcut.partition.ne_nil batch
      hbatch)⟩⟩
  rw [hcaptured, stop_holding callbacks computeEntropy hrunning, closed]
  split
  · rfl
  · rw [List.mapIdx_concat]
    exact (reportAll_concat callbacks _ _ world).symm

/-- The entropy of packets in which at most two bytes occur, and those equally often. -/
def sampleEntropy (data : List UInt8) : ℚ :=
  if data.dedup.length = 2 then 1 else 0

def sampleSensor : PacketSensor := (construct 2).start none

theorem sample_windows :
    ∃ batches, Partition 2 [[0, 0], [0, 1], [1]] batches ∧
      ∀ batch ∈ batches, ∀ index,
        (sampleSensor.windowOf sampleEntropy index batch).windowIndex = UInt64.ofNat index ∧
          Summarises sampleEntropy batch (sampleSensor.windowOf sampleEntropy index batch) := by
  have hentropy : ∀ data, 0 ≤ sampleEntropy data ∧ sampleEntropy data ≤ 8 := by
    intro data
    rw [sampleEntropy]
    split <;> norm_num
  obtain ⟨batches, hpartition, -, hwindows⟩ := captured_windows_partition hentropy
    (fun w windows => windows ++ [w]) (fun _ _ windows => ([], windows)) 2 none
    [[0, 0], [0, 1], [1]] []
  exact ⟨batches, hpartition, hwindows⟩

end PacketSensor

end Astartis.Sensor
