import Astartis.ChaosStatistics

/-!
The statistics stay inside their vectors, divide by no zero and keep to the range of `int`.
-/

namespace Astartis.Chaos

open CheckedLoops
open Double (ofInt)

theorem divide_safe (x : Double) {y : Double} (hy : y.isZero = false) :
    Safe (divide x y) fun _ => True := by
  refine ⟨x.div y, ?_, trivial⟩
  rw [divide, hy]
  rfl

theorem intSize_eq {series : List Double} (hfit : series.length < 2 ^ 31) :
    intSize series = series.length := by
  rw [intSize, Int32.toInt_ofNat_of_lt hfit]

section

variable (numerics : Numerics)

/-! The 0-1 test. -/

def Orbit.Sized (orbit : Orbit) (N : Int) : Prop :=
  orbit.p.length = N + 1 ∧ orbit.q.length = N + 1

theorem orbit_safe (c : Double) {series : List Double} {N : Int} (hN : N = series.length)
    (hfit : N < 2 ^ 31 - 1) : Safe (orbit numerics series c N) (·.Sized N) := by
  unfold orbit
  refine (int_safe (by omega) (by omega)).bind_eq ?_
  refine (vector_safe (by omega) _).bind_eq ?_
  refine (vector_safe (by omega) _).bind_eq ?_
  refine Safe.forBelow (fun _ (orbit : Orbit) => orbit.Sized N) (by omega) ?_
    fun j orbit hlow hhigh hsized => ?_
  · constructor <;> simp <;> omega
  · obtain ⟨hp, hq⟩ := hsized
    refine (int_safe (by omega) (by omega)).bind_eq ?_
    refine (read_safe hlow (by omega)).bind fun x _ => ?_
    refine (read_safe hlow (by omega)).bind fun pj _ => ?_
    refine (write_safe (by omega) (by omega) _).bind_eq ?_
    refine (read_safe hlow (by omega)).bind fun qj _ => ?_
    refine (write_safe (by omega) (by omega) _).bind_eq ?_
    exact .pure ⟨by simpa using hp, by simpa using hq⟩

theorem displacement_safe {orbit : Orbit} {N n : Int} (hsized : orbit.Sized N)
    (hfit : N < 2 ^ 31 - 1) (hn : 1 ≤ n) (hcount : 0 < N - n) :
    Safe (displacement orbit n (N - n)) fun _ => True := by
  obtain ⟨hp, hq⟩ := hsized
  unfold displacement
  refine (int_safe (by omega) (by omega)).bind_eq ?_
  refine Safe.forBelow (fun _ _ => True) (by omega) trivial fun j sum hlow hhigh _ => ?_
  refine (int_safe (by omega) (by omega)).bind_eq ?_
  refine (read_safe (by omega) (by omega)).bind fun _ _ => ?_
  refine (read_safe (by omega) (by omega)).bind fun _ _ => ?_
  refine (read_safe (by omega) (by omega)).bind fun _ _ => ?_
  refine (read_safe (by omega) (by omega)).bind fun _ _ => ?_
  exact .pure trivial

theorem computeMsd_safe (c : Double) {series : List Double} {nMax : Int}
    (hseries : series.length < 2 ^ 31 - 1) (hlow : 0 ≤ nMax) (hhigh : nMax < 2 ^ 31 - 1) :
    Safe (computeMsd numerics series c nMax) fun M => M.length = nMax := by
  have hN : intSize series = series.length := intSize_eq (by omega)
  have hfit : intSize series < 2 ^ 31 - 1 := by omega
  unfold computeMsd
  refine (orbit_safe numerics c hN hfit).bind fun orbit hsized => ?_
  refine (vector_safe hlow _).bind_eq ?_
  refine (int_safe (by omega) (by omega)).bind_eq ?_
  refine Safe.forBelow (fun _ (M : List Double) => M.length = nMax) (by omega) (by simpa using hlow)
    fun n M hn hle hM => ?_
  refine (int_safe (by omega) (by omega)).bind_eq ?_
  refine (int_safe (by omega) (by omega)).bind_eq ?_
  have hwrite (x : Double) : Safe (write M (n - 1) x) fun M => M.length = nMax :=
    (write_safe (by omega) (by omega) x).imp fun _ h => by rw [h, List.length_set, hM]
  split
  · exact hwrite _
  · refine (displacement_safe hsized hfit hn (by omega)).bind fun sum _ => ?_
    refine (divide_safe sum (Double.isZero_ofInt (by omega))).bind fun x _ => ?_
    exact hwrite x

theorem pearson_safe (x y : List Double) : Safe (pearson numerics x y) fun _ => True := by
  unfold pearson
  split
  · exact .pure trivial
  · rename_i hsizes
    have hlength : 1 ≤ (x.length : Int) := by omega
    have hy : y.length = x.length := by omega
    refine (divide_safe _ (Double.isZero_ofInt hlength)).bind fun mx _ => ?_
    refine (divide_safe _ (Double.isZero_ofInt hlength)).bind fun my _ => ?_
    refine (Safe.forBelow (fun _ _ => True) (by omega) trivial fun i sums hlow hhigh _ => ?_).bind
      fun sums _ => ?_
    · refine (read_safe hlow hhigh).bind fun _ _ => ?_
      refine (read_safe hlow (by omega)).bind fun _ _ => ?_
      exact .pure trivial
    · dsimp only
      split
      · exact .pure trivial
      · rename_i hdenom
        rw [Bool.not_eq_true] at hdenom
        exact divide_safe _ (Double.isZero_of_not_lt (by norm_num) hdenom)

theorem median_safe (v : List Double) : Safe (median numerics v) fun _ => True := by
  unfold median
  split
  · exact .pure trivial
  · rename_i hv
    have hpos : 0 < v.length := List.length_pos_iff.mpr hv
    have hlength (v : List Double) (nth : Nat) : (numerics.nthElement v nth).length = v.length :=
      (numerics.nthElement_perm v nth).length_eq
    dsimp only
    split
    · exact (read_safe (by omega) (by rw [hlength]; omega)).imp fun _ _ => trivial
    · refine (read_safe (by omega) (by rw [hlength]; omega)).bind fun hi _ => ?_
      refine (read_safe (by omega) (by rw [hlength, hlength]; omega)).bind fun lo _ => ?_
      exact divide_safe _ (by decide +kernel)

theorem defaultPhases_safe : Safe defaultPhases fun _ => True := by
  have hdivisor : ((ofInt nPhases).add (ofInt 1)).isZero = false := by decide +kernel
  unfold defaultPhases
  refine Safe.forBelow (fun _ _ => True) (by decide) trivial fun i phases _ _ _ => ?_
  exact (divide_safe _ hdivisor).bind fun _ _ => .pure trivial

theorem testPhases_safe (phasesIn : List Double) : Safe (testPhases phasesIn) fun _ => True := by
  unfold testPhases
  split
  · exact defaultPhases_safe
  · exact .pure trivial

/-- Neither below 0 nor above 1; a NaN is neither. -/
def Clamped (K : Double) : Prop :=
  Double.lt K (.finite 0) = false ∧ Double.lt (.finite 1) K = false

theorem clamped_clamp (K : Double) :
    let K := if Double.lt K (.finite 0) then .finite 0 else K
    Clamped (if Double.lt (.finite 1) K then .finite 1 else K) := by
  intro K'
  have hlow : Double.lt K' (.finite 0) = false := by
    cases hbelow : Double.lt K (.finite 0) with
    | true => simp [K', hbelow, Double.lt_finite]
    | false => simp [K', hbelow]
  cases habove : Double.lt (.finite 1) K' with
  | true => simp [Clamped, Double.lt_finite]
  | false => exact ⟨hlow, habove⟩

theorem computeK_safe {series : List Double} (hseries : series.length < 2 ^ 31 - 1)
    (phasesIn : List Double) : Safe (computeK numerics series phasesIn) Clamped := by
  have hN : intSize series = series.length := intSize_eq (by omega)
  unfold computeK
  dsimp only
  split
  · exact .pure (by simp [Clamped, Double.lt_finite])
  · rename_i hmany
    refine (testPhases_safe phasesIn).bind fun phases _ => ?_
    refine (vector_safe (by omega) _).bind_eq ?_
    refine (Safe.forBelow (fun _ (nVec : List Double) => nVec.length = max 5 (intSize series / 10))
      (by omega) (by simp) fun i nVec hlow hhigh hlength => ?_).bind fun nVec _ => ?_
    · refine (int_safe (by omega) (by omega)).bind_eq ?_
      exact (write_safe hlow (by omega) _).imp fun _ h => by rw [h, List.length_set, hlength]
    · refine (Safe.foldlM (fun _ => True) trivial fun kVals c _ _ => ?_).bind fun kVals _ => ?_
      · refine (computeMsd_safe numerics c hseries (by omega) (by omega)).bind fun M _ => ?_
        exact (pearson_safe numerics nVec M).bind fun _ _ => .pure trivial
      · exact (median_safe numerics kVals).bind fun K _ => .pure (clamped_clamp K)

/-! The Lyapunov exponent. -/

/-- `M` vectors of `embedDim` components. -/
def Embedded (V : List (List Double)) (M embedDim : Int) : Prop :=
  Filled V M fun row => (row.length : Int) = embedDim

theorem embed_safe {series : List Double} {M embedDim tau : Int}
    (hM : M + (embedDim - 1) * tau = series.length) (hlow : 0 ≤ M) (hdim : 1 ≤ embedDim)
    (htau : 1 ≤ tau) (hfit : series.length < 2 ^ 31 - 1) :
    Safe (embed series M embedDim tau) fun V => Embedded V M embedDim := by
  unfold embed
  refine (vector_safe (by omega) _).bind_eq ?_
  refine (Filled.vector_safe (fun row : List Double => (row.length : Int) = embedDim) hlow
    (by simp; omega)).bind fun V hV => ?_
  refine Safe.forBelow (fun _ V => Embedded V M embedDim) hlow hV fun i V hi hiM hV => ?_
  refine Safe.forBelow (fun _ V => Embedded V M embedDim) (by omega) hV fun d V hd hlast hV => ?_
  have hoffset : 0 ≤ d * tau := Int.mul_nonneg hd (by omega)
  have hspan : d * tau ≤ (embedDim - 1) * tau :=
    Int.mul_le_mul_of_nonneg_right (by omega) (by omega)
  refine (int_safe (by omega) (by omega)).bind_eq ?_
  refine (int_safe (by omega) (by omega)).bind_eq ?_
  refine (read_safe (by omega) (by omega)).bind fun x _ => ?_
  refine (hV.read_safe hi hiM).bind fun row hrow => ?_
  refine (write_safe hd (by omega) x).bind_eq ?_
  exact hV.write_safe hi hiM (by rw [List.length_set]; exact hrow.2)

theorem dist_safe {V : List (List Double)} {M embedDim a b : Int} (hV : Embedded V M embedDim)
    (hdim : 0 ≤ embedDim) (ha : 0 ≤ a) (haM : a < M) (hb : 0 ≤ b) (hbM : b < M) :
    Safe (dist numerics V embedDim a b) fun _ => True := by
  unfold dist
  refine (Safe.forBelow (fun _ _ => True) hdim trivial fun d s hd hlast _ => ?_).bind
    fun s _ => .pure trivial
  refine (hV.read_safe ha haM).bind fun rowA hrowA => ?_
  refine (read_safe hd (by omega)).bind fun _ _ => ?_
  refine (hV.read_safe hb hbM).bind fun rowB hrowB => ?_
  refine (read_safe hd (by omega)).bind fun _ _ => ?_
  exact .pure trivial

/-- For each of `M` vectors the index of one of them, or -1. -/
def Indices (nn : List Int) (M : Int) : Prop :=
  Filled nn M fun j => -1 ≤ j ∧ j < M

theorem neighbours_safe {V : List (List Double)} {M embedDim : Int}
    (hV : Embedded V M embedDim) (hdim : 0 ≤ embedDim) (hlow : 0 ≤ M) (hfit : M < 2 ^ 31) :
    Safe (neighbours numerics V M embedDim) fun nn => Indices nn M := by
  unfold neighbours
  refine (Filled.vector_safe (fun j : Int => -1 ≤ j ∧ j < M) hlow (by omega)).bind
    fun nn hnn => ?_
  refine Safe.forBelow (fun _ nn => Indices nn M) hlow hnn fun i nn hi hiM hnn => ?_
  refine (Safe.forBelow (fun _ (nearest : Nearest) => Indices nearest.nn M) hlow hnn
    fun j nearest hj hjM hnn => ?_).bind fun _ hnn => .pure hnn
  refine (int_safe (by omega) (by omega)).bind_eq ?_
  split
  · exact .pure hnn
  · refine (dist_safe numerics hV hdim hi hiM hj hjM).bind fun d _ => ?_
    split
    · refine (hnn.write_safe hi hiM (by omega)).bind fun nn hnn => ?_
      exact .pure hnn
    · exact .pure hnn

/-- The vectors in front of `i` have been followed, and the vector `i` for less than `s` steps. -/
structure Divergence.Bounded (div : Divergence) (maxSteps i s : Int) : Prop where
  avgLog_length : div.avgLog.length = maxSteps
  count_length : div.count.length = maxSteps
  count_entries (k : Nat) (n : Int) : div.count[k]? = some n →
    0 ≤ n ∧ n ≤ i + 1 ∧ (s ≤ k + 1 → n ≤ i)

theorem Divergence.Bounded.skip {div : Divergence} {maxSteps i s : Int}
    (hdiv : div.Bounded maxSteps i s) : div.Bounded maxSteps i (s + 1) where
  avgLog_length := hdiv.avgLog_length
  count_length := hdiv.count_length
  count_entries k n hn := by
    obtain ⟨hlow, hhigh, hlater⟩ := hdiv.count_entries k n hn
    exact ⟨hlow, hhigh, fun hs => hlater (by omega)⟩

theorem Divergence.Bounded.turn {div : Divergence} {maxSteps i s : Int}
    (hdiv : div.Bounded maxSteps i s) : div.Bounded maxSteps (i + 1) 1 where
  avgLog_length := hdiv.avgLog_length
  count_length := hdiv.count_length
  count_entries k n hn := by
    obtain ⟨hlow, hhigh, _⟩ := hdiv.count_entries k n hn
    exact ⟨hlow, by omega, fun _ => hhigh⟩

theorem Divergence.Bounded.counted {div : Divergence} {maxSteps i s n : Int}
    (hdiv : div.Bounded maxSteps i s) (hs : 1 ≤ s) (hn : div.count[(s - 1).toNat]? = some n)
    (x : Double) :
    Bounded ⟨div.avgLog.set (s - 1).toNat x, div.count.set (s - 1).toNat (n + 1)⟩
      maxSteps i (s + 1) where
  avgLog_length := by rw [List.length_set, hdiv.avgLog_length]
  count_length := by rw [List.length_set, hdiv.count_length]
  count_entries k m hm := by
    rw [List.getElem?_set] at hm
    split at hm
    · rename_i hk
      obtain ⟨hlow, _, hlater⟩ := hdiv.count_entries _ n hn
      have hcount : n ≤ i := hlater (by omega)
      split at hm
      · obtain rfl := Option.some_inj.mp hm
        exact ⟨by omega, by omega, fun hs' => by omega⟩
      · exact absurd hm (by simp)
    · exact hdiv.skip.count_entries k m hm

theorem divergence_safe {V : List (List Double)} {nn : List Int} {M embedDim maxSteps : Int}
    (hV : Embedded V M embedDim) (hnn : Indices nn M) (hdim : 0 ≤ embedDim) (hlow : 0 ≤ M)
    (hfit : M < 2 ^ 31 - 1) (hsteps : 0 ≤ maxSteps) (hmany : maxSteps ≤ 20) :
    Safe (divergence numerics V nn M embedDim maxSteps)
      fun div => div.Bounded maxSteps M 1 := by
  unfold divergence
  refine (vector_safe hsteps _).bind_eq ?_
  refine (vector_safe hsteps _).bind_eq ?_
  refine (int_safe (by omega) (by omega)).bind_eq ?_
  refine Safe.forBelow (fun i (div : Divergence) => div.Bounded maxSteps i 1) hlow ?_
    fun i div hi hiM hdiv => ?_
  · refine ⟨by simp [hsteps], by simp [hsteps], fun k n hn => ?_⟩
    rw [List.eq_of_mem_replicate (List.mem_of_getElem? hn)]
    omega
  · refine (hnn.read_safe hi hiM).bind fun j ⟨hj, _, hjM⟩ => ?_
    split
    · exact .pure hdiv.turn
    · rename_i hneighbour
      -- Every step but the first follows one that both vectors could take.
      refine Safe.forBreak
        (fun s (div : Divergence) => div.Bounded maxSteps i s ∧ i + s ≤ M ∧ j + s ≤ M)
        (by omega) ⟨hdiv, by omega, by omega⟩ (fun s div hs hlast hinv => ?_)
        fun div hinv => hinv.1.turn
      obtain ⟨hdiv, hiM', hjM'⟩ := hinv
      refine (int_safe (by omega) (by omega)).bind_eq ?_
      refine (hnn.read_safe hi hiM).bind fun j' ⟨hj', _⟩ => ?_
      obtain rfl : j = j' := Option.some_inj.mp (hj.symm.trans hj')
      refine (int_safe (by omega) (by omega)).bind_eq ?_
      split
      · exact .pure hdiv.turn
      · rename_i hinside
        have hlogs := hdiv.avgLog_length
        have hcounts := hdiv.count_length
        refine (dist_safe numerics hV hdim (by omega) (by omega) (by omega)
          (by omega)).bind fun d _ => ?_
        split
        · refine (int_safe (by omega) (by omega)).bind_eq ?_
          refine (read_safe (by omega) (by omega)).bind fun _ _ => ?_
          refine (write_safe (by omega) (by omega) _).bind_eq ?_
          refine (read_safe (by omega) (by omega)).bind fun n hn => ?_
          obtain ⟨hnlow, hnhigh, _⟩ := hdiv.count_entries _ n hn
          refine (int_safe (by omega) (by omega)).bind_eq ?_
          refine (write_safe (by omega) (by omega) _).bind_eq ?_
          exact .pure ⟨hdiv.counted hs hn _, by omega, by omega⟩
        · exact .pure ⟨hdiv.skip, by omega, by omega⟩

theorem points_safe {div : Divergence} {maxSteps i s : Int} (hdiv : div.Bounded maxSteps i s)
    (hsteps : 0 ≤ maxSteps) (hmany : maxSteps ≤ 20) :
    Safe (points div maxSteps) fun points => points.x.length = points.y.length := by
  have hlogs := hdiv.avgLog_length
  have hcounts := hdiv.count_length
  unfold points
  refine Safe.forBelow (fun _ (points : Points) => points.x.length = points.y.length) hsteps rfl
    fun s points hs hlast hlength => ?_
  refine (read_safe hs (by omega)).bind fun count _ => ?_
  split
  · rename_i hpos
    refine (int_safe (by omega) (by omega)).bind_eq ?_
    refine (read_safe hs (by omega)).bind fun sum _ => ?_
    refine (divide_safe sum (Double.isZero_ofInt (by omega))).bind fun y _ => ?_
    exact .pure (by simpa using hlength)
  · exact .pure hlength

theorem slope_safe {points : Points} (hlength : points.x.length = points.y.length) :
    Safe (slope points) fun _ => True := by
  unfold slope
  split
  · exact .pure trivial
  · rename_i hfew
    have hmany : 1 ≤ (points.x.length : Int) := by omega
    refine (divide_safe _ (Double.isZero_ofInt hmany)).bind fun mx _ => ?_
    refine (divide_safe _ (Double.isZero_ofInt hmany)).bind fun my _ => ?_
    refine (Safe.forBelow (fun _ _ => True) (by omega) trivial
      fun i moments hi hlast _ => ?_).bind fun moments _ => ?_
    · refine (read_safe hi hlast).bind fun _ _ => ?_
      refine (read_safe hi (by omega)).bind fun _ _ => ?_
      exact .pure trivial
    · split
      · exact .pure trivial
      · rename_i hvar
        rw [Bool.not_eq_true] at hvar
        exact divide_safe _ (Double.isZero_of_not_lt (by norm_num) hvar)

theorem computeLyapunov_safe {series : List Double} {embedDim tau : Int}
    (hseries : series.length < 2 ^ 31 - 1) (hdim : 1 ≤ embedDim) (htau : 1 ≤ tau)
    (htwice : 2 * embedDim < 2 ^ 31) (hspan : embedDim * tau < 2 ^ 31) :
    Safe (computeLyapunov numerics series embedDim tau) fun _ => True := by
  have hN : intSize series = series.length := intSize_eq (by omega)
  have hlast : 0 ≤ (embedDim - 1) * tau := Int.mul_nonneg (by omega) (by omega)
  have hbefore : (embedDim - 1) * tau ≤ embedDim * tau :=
    Int.mul_le_mul_of_nonneg_right (by omega) (by omega)
  unfold computeLyapunov
  dsimp only
  rw [hN]
  refine (int_safe (by omega) (by omega)).bind_eq ?_
  refine (int_safe (by omega) (by omega)).bind_eq ?_
  refine (int_safe (by omega) (by omega)).bind ?_
  rintro M hM
  refine (int_safe (by omega) (by omega)).bind_eq ?_
  split
  · exact .pure trivial
  · rename_i henough
    refine (embed_safe (by omega) (by omega) hdim htau hseries).bind fun V hV => ?_
    refine (neighbours_safe numerics hV (by omega) (by omega) (by omega)).bind fun nn hnn => ?_
    split
    · exact .pure trivial
    · refine (divergence_safe numerics hV hnn (by omega) (by omega) (by omega) (by omega)
        (by omega)).bind fun div hdiv => ?_
      refine (points_safe hdiv (by omega) (by omega)).bind fun points hlength => ?_
      exact slope_safe hlength

/-- No vector is left, nothing divides by zero and no `int` overflows. -/
theorem statistics_without_fault {series : List Double} (hseries : series.length < 2 ^ 31 - 1) :
    (∀ phases, ∃ K, computeK numerics series phases = .ok K) ∧
      (∀ c nMax, 0 ≤ nMax → nMax < 2 ^ 31 - 1 →
        ∃ M, computeMsd numerics series c nMax = .ok M) ∧
      ∀ embedDim tau, 1 ≤ embedDim → 1 ≤ tau → 2 * embedDim < 2 ^ 31 →
        embedDim * tau < 2 ^ 31 →
          ∃ lambda1, computeLyapunov numerics series embedDim tau = .ok lambda1 := by
  refine ⟨fun phases => ?_, fun c nMax hlow hhigh => ?_,
    fun embedDim tau hdim htau htwice hspan => ?_⟩
  · obtain ⟨K, hK, _⟩ := computeK_safe numerics hseries phases
    exact ⟨K, hK⟩
  · obtain ⟨M, hM, _⟩ := computeMsd_safe numerics c hseries hlow hhigh
    exact ⟨M, hM⟩
  · obtain ⟨lambda1, hlambda1, _⟩ :=
      computeLyapunov_safe numerics hseries hdim htau htwice hspan
    exact ⟨lambda1, hlambda1⟩

/-- The statistics of a window, as the detector takes them, are those that were checked. -/
theorem analysis_checked {samples : List Double} (hsamples : samples.length < 2 ^ 31 - 1) :
    computeK numerics samples [] = .ok ((analysis numerics).computeK samples) ∧
      Clamped ((analysis numerics).computeK samples) ∧
      computeLyapunov numerics samples 3 1 =
        .ok ((analysis numerics).computeLyapunov samples) := by
  obtain ⟨K, hK, hclamped⟩ := computeK_safe numerics hsamples []
  obtain ⟨lambda1, hlambda1, _⟩ := @computeLyapunov_safe numerics samples 3 1 hsamples
    (by decide) (by decide) (by decide) (by decide)
  simp only [analysis, hK, hlambda1]
  exact ⟨rfl, hclamped, rfl⟩

end

/-- The functions at 0, and sorting as the rearrangement. -/
def numericsAtZero : Numerics where
  cos _ := .finite 1
  sin _ := .finite 0
  log _ := .negInf
  sqrt _ := .finite 0
  nthElement v _ := v.mergeSort fun a b => !Double.lt b a
  nthElement_perm v _ := List.mergeSort_perm v _

theorem statistics_without_fault_constant :
    (∃ K, computeK numericsAtZero (List.replicate 12 (.finite 0)) [.finite 0] = .ok K) ∧
      (∃ M, computeMsd numericsAtZero (List.replicate 12 (.finite 0)) (.finite 0) 5 = .ok M) ∧
      ∃ lambda1,
        computeLyapunov numericsAtZero (List.replicate 12 (.finite 0)) 2 3 = .ok lambda1 := by
  obtain ⟨hK, hM, hlambda1⟩ := @statistics_without_fault numericsAtZero
    (List.replicate 12 (.finite 0)) (by decide)
  exact ⟨hK [.finite 0], hM (.finite 0) 5 (by decide) (by decide),
    hlambda1 2 3 (by decide) (by decide) (by decide) (by decide)⟩

end Astartis.Chaos
