import Astartis.Double

namespace Astartis.Sensor

structure EntropyWindow where
  windowIndex : UInt64
  packetCount : Nat
  meanEntropyBits : Double
  maxEntropyBits : Double
  minEntropyBits : Double
  threatScore : Int
  anomalous : Bool
  synthetic : Bool
  adapterName : ByteString
deriving DecidableEq

/-- `7.2` as a double. -/
def anomalyEntropyThreshold : Double :=
  .finite (8106479329266893 / 1125899906842624)

def entropyToThreatScore (entropyBits : Double) : Int :=
  let clamped := Double.max (.finite 0) (Double.min (.finite 8) entropyBits)
  Double.roundHalfAway ((clamped.map (· / 8)).map (· * 100)).toRat

/-- The window `flush_window` reports for the accumulated statistics. -/
def EntropyWindow.ofStatistics (windowIndex : UInt64) (packetCount : Nat)
    (mean mx mn : Double) (synthetic : Bool) (adapterName : ByteString) :
    EntropyWindow where
  windowIndex := windowIndex
  packetCount := packetCount
  meanEntropyBits := mean
  maxEntropyBits := mx
  minEntropyBits := mn
  threatScore := entropyToThreatScore mean
  anomalous := Double.le anomalyEntropyThreshold mean
  synthetic := synthetic
  adapterName := adapterName

theorem le_entropyToThreatScore_of_finite {q : ℚ} (hlow : 7 ≤ q) (hhigh : q ≤ 8) :
    75 ≤ Double.roundHalfAway (((Double.finite q).map (· / 8)).map (· * 100)).toRat := by
  obtain ⟨r, hr, hnearR⟩ := Double.ofRat_near (q := q / 8) (by linarith) (by linarith)
  obtain ⟨hbelowR, haboveR⟩ := abs_le.mp hnearR
  obtain ⟨s, hs, hnearS⟩ := Double.ofRat_near (q := r * 100) (by linarith) (by linarith)
  obtain ⟨hbelowS, haboveS⟩ := abs_le.mp hnearS
  have hscore : (((Double.finite q).map (· / 8)).map (· * 100)) = .finite s := by
    simp only [Double.map, hr, hs]
  rw [hscore, Double.toRat, Double.roundHalfAway, if_neg (by linarith), Int.le_floor]
  push_cast
  linarith

/-- A window flagged anomalous carries a score in the CRITICAL band. -/
theorem anomalous_threatScore (windowIndex : UInt64) (packetCount : Nat)
    (mean mx mn : Double) (synthetic : Bool) (adapterName : ByteString)
    (hanomalous : (EntropyWindow.ofStatistics windowIndex packetCount mean mx mn synthetic
      adapterName).anomalous = true) :
    75 ≤ (EntropyWindow.ofStatistics windowIndex packetCount mean mx mn synthetic
      adapterName).threatScore := by
  change Double.le anomalyEntropyThreshold mean = true at hanomalous
  change 75 ≤ entropyToThreatScore mean
  cases mean with
  | nan => simp [Double.le] at hanomalous
  | negInf => simp [Double.le, Double.lt, anomalyEntropyThreshold] at hanomalous
  | posInf => exact le_entropyToThreatScore_of_finite (q := 8) (by norm_num) (by norm_num)
  | negZero =>
      simp [Double.le, Double.lt, Double.toRat, anomalyEntropyThreshold] at hanomalous
  | finite q =>
      have hq : 7 ≤ q := by
        rw [anomalyEntropyThreshold, Double.le_finite, decide_eq_true_eq] at hanomalous
        exact le_trans (by norm_num) hanomalous
      have hclamp : Double.max (.finite 0) (Double.min (.finite 8) (.finite q)) =
          .finite (min q 8) := by
        rcases lt_or_ge q 8 with hlt | hge
        · have hpos : (0 : ℚ) < q := by linarith
          simp [Double.max, Double.min, hlt, hpos, hlt.le]
        · simp [Double.max, Double.min, hge, not_lt.mpr hge]
      simp only [entropyToThreatScore]
      rw [hclamp]
      exact le_entropyToThreatScore_of_finite (le_min hq (by norm_num)) (min_le_right q 8)

end Astartis.Sensor
