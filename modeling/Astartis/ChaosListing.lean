import Mathlib.Data.List.DropRight
import Astartis.Bridge
import Astartis.DataProvider

/-!
The chaos windows that the dashboard shows, against the history that the callback of the chaos
detector keeps.
-/

namespace Astartis

open Dashboard

namespace Bridge

variable {α : Type} (platform : Platform α)

/-- The callback on one window after the other. -/
def onChaosWindows (windows : List Chaos.ChaosWindow) (core : Core α) : Core α :=
  windows.foldl (fun core w => onChaosWindow platform w core) core

theorem onChaosWindow_chaosHistory (w : Chaos.ChaosWindow) (core : Core α) :
    (onChaosWindow platform w core).chaosHistory =
      if (core.chaosHistory ++ [w.K]).length > 100 then (core.chaosHistory ++ [w.K]).drop 1
      else core.chaosHistory ++ [w.K] := rfl

/-- A history within its bound stays there and keeps the latest readings. -/
theorem onChaosWindow_keeps_latest {pushed : List Double} {w : Chaos.ChaosWindow} {core : Core α}
    (hhistory : core.chaosHistory = pushed.rtake 100) :
    (onChaosWindow platform w core).chaosHistory = (pushed ++ [w.K]).rtake 100 := by
  rw [onChaosWindow_chaosHistory, hhistory]
  simp only [List.rtake, List.length_append, List.length_drop, List.length_singleton]
  split
  · rename_i hfull
    have hlong : 100 ≤ pushed.length := by omega
    rw [← List.drop_append_of_le_length (by omega), List.drop_drop]
    congr 1
    omega
  · rename_i hroom
    have hshort : pushed.length < 100 := by omega
    rw [Nat.sub_eq_zero_of_le hshort.le, Nat.sub_eq_zero_of_le (show pushed.length + 1 ≤ 100 by
      omega), List.drop_zero, List.drop_zero]

/-- After any windows the history holds the readings of the last hundred. -/
theorem onChaosWindows_chaosHistory {pushed : List Double} {core : Core α}
    (hhistory : core.chaosHistory = pushed.rtake 100) (windows : List Chaos.ChaosWindow) :
    (onChaosWindows platform windows core).chaosHistory =
      (pushed ++ windows.map (·.K)).rtake 100 := by
  induction windows generalizing core pushed with
  | nil => rw [List.map_nil, List.append_nil]; exact hhistory
  | cons w windows ih =>
      have hstep := ih (onChaosWindow_keeps_latest platform (w := w) hhistory)
      rw [List.append_assoc] at hstep
      exact hstep

end Bridge

namespace Dashboard

/-- Every reading of the history is listed once and in its place, the windows are numbered one
after the other, and a window is anomalous if its reading is above `0.7`.  Where the history has
no reading, the seed of the demo mode may stand in its place. -/
structure ListsHistory (history : List Double) (windows : List ChaosWindowData) : Prop where
  readings : history ≠ [] → windows.map (·.K) = history
  consecutive : ∀ i a b, windows[i]? = some a → windows[i + 1]? = some b →
    b.windowIndex = a.windowIndex + 1
  anomalous : ∀ w ∈ windows, w.anomalous = Double.lt Chaos.chaosThreshold w.K

theorem length_le_one {β : Type} {history : List β}
    (hshort : ∀ K next rest, history = K :: next :: rest → False) : history.length ≤ 1 := by
  match history with
  | [] => simp
  | [K] => simp
  | K :: next :: rest => exact (hshort K next rest rfl).elim

/-- The loop stops in front of the last reading of an odd history and passes every second. -/
theorem chaosLoop_length (i : Nat) (history : List Double) :
    (chaosLoop i history).length = history.length / 2 := by
  fun_induction chaosLoop i history with
  | case1 i K next rest ih =>
      simp only [List.length_cons, ih]
      omega
  | case2 history i hshort =>
      have hlength := length_le_one hshort
      rw [List.length_nil]
      omega

theorem chaosLoop_getElem? (i j : Nat) (history : List Double) :
    (chaosLoop i history)[j]? =
      if 2 * j + 1 < history.length then (history[2 * j]?).map (chaosWindow (i + 2 * j))
      else none := by
  fun_induction chaosLoop i history generalizing j with
  | case1 i K next rest ih =>
      cases j with
      | zero => simp
      | succ j =>
          have hindex : i + 2 + 2 * j = i + 2 * (j + 1) := by omega
          have hplace : 2 * (j + 1) = 2 * j + 1 + 1 := by omega
          rw [List.getElem?_cons_succ, ih j, hindex]
          simp only [hplace, List.getElem?_cons_succ, List.length_cons, Nat.add_lt_add_iff_right]
  | case2 history i hshort =>
      have hlength := length_le_one hshort
      rw [if_neg (by omega)]
      rfl

theorem demoChaosWindows_getElem? (i : Nat) :
    demoChaosWindows[i]? =
      (chaosSeed[i]?).map fun reading => chaosWindow i (hundredths reading) := by
  simp only [demoChaosWindows, List.getElem?_map, List.getElem?_zipIdx, Option.map_map,
    Function.comp_def, Nat.zero_add]

/-- Without a reading there is only the seed, which is numbered and marked as it should be. -/
theorem listsHistory_demo : ListsHistory [] demoChaosWindows where
  readings h := absurd rfl h
  consecutive i a b ha hb := by
    rw [demoChaosWindows_getElem?, Option.map_eq_some_iff] at ha hb
    obtain ⟨here, -, rfl⟩ := ha
    obtain ⟨next, -, rfl⟩ := hb
    simp only [chaosWindow, UInt64.ofNat_add]
    rfl
  anomalous w hw := by
    obtain ⟨seed, -, rfl⟩ := List.mem_map.mp hw
    rfl

/-- Half of the readings, or the seed, is not all of them. -/
theorem length_chaosWindows_ne (sources : Sources) (hhistory : sources.chaosHistory ≠ []) :
    (dataProvider sources).chaosWindows.length ≠ sources.chaosHistory.length := by
  have hpositive := List.length_pos_of_ne_nil hhistory
  have hloop := chaosLoop_length 0 sources.chaosHistory
  simp only [dataProvider, seedIfEmpty]
  split
  · rename_i hempty
    rw [List.isEmpty_iff.mp hempty, List.length_nil] at hloop
    have hseed : demoChaosWindows.length = 20 := rfl
    omega
  · omega

theorem listsHistory_iff_of_sources (sources : Sources) :
    ListsHistory sources.chaosHistory (dataProvider sources).chaosWindows ↔
      sources.chaosHistory = [] := by
  constructor
  · intro hlists
    by_contra hhistory
    apply length_chaosWindows_ne sources hhistory
    rw [← List.length_map (f := fun w => w.K), hlists.readings hhistory]
  · intro hhistory
    have hwindows : (dataProvider sources).chaosWindows = demoChaosWindows := by
      simp [dataProvider, seedIfEmpty, hhistory, chaosLoop]
    rw [hwindows, hhistory]
    exact listsHistory_demo

/-- From two readings on, every second one is listed under the place it has. -/
theorem chaosWindows_getElem? {sources : Sources} (htwo : 2 ≤ sources.chaosHistory.length)
    (j : Nat) :
    (dataProvider sources).chaosWindows[j]? =
      if 2 * j + 1 < sources.chaosHistory.length then
        (sources.chaosHistory[2 * j]?).map (chaosWindow (2 * j))
      else none := by
  have hloop := chaosLoop_length 0 sources.chaosHistory
  have hnonempty : (chaosLoop 0 sources.chaosHistory).isEmpty = false := by
    rw [List.isEmpty_eq_false_iff_exists_mem]
    exact List.exists_mem_of_length_pos (by omega)
  have hwindows : (dataProvider sources).chaosWindows = chaosLoop 0 sources.chaosHistory := by
    simp [dataProvider, seedIfEmpty, hnonempty]
  rw [hwindows, chaosLoop_getElem?, Nat.zero_add]

section

variable {α : Type} (platform : Bridge.Platform α)

theorem chaosHistory_eq_nil_iff (core : Bridge.Core α) (windows : List Chaos.ChaosWindow) :
    (Bridge.onChaosWindows platform windows { core with chaosHistory := [] }).chaosHistory = [] ↔
      windows = [] := by
  rw [Bridge.onChaosWindows_chaosHistory platform (List.rtake_nil 100).symm windows,
    List.nil_append, ← List.length_eq_zero_iff, ← List.length_eq_zero_iff, List.rtake,
    List.length_drop, List.length_map]
  omega

/-- The dashboard lists a history as it is only as long as there is none. -/
theorem listsHistory_iff :
    (∀ sources : Sources,
      ListsHistory sources.chaosHistory (dataProvider sources).chaosWindows ↔
        sources.chaosHistory = []) ∧
    ∀ (core : Bridge.Core α) (windows : List Chaos.ChaosWindow) (sources : Sources),
      let pushed := Bridge.onChaosWindows platform windows { core with chaosHistory := [] }
      ListsHistory pushed.chaosHistory
          (dataProvider { sources with chaosHistory := pushed.chaosHistory }).chaosWindows ↔
        windows = [] := by
  refine ⟨listsHistory_iff_of_sources, fun core windows sources => ?_⟩
  exact (listsHistory_iff_of_sources { sources with chaosHistory := _ }).trans
    (chaosHistory_eq_nil_iff platform core windows)

end

/-- Of four readings the dashboard lists two. -/
theorem four_readings_halved :
    ¬ ListsHistory [.finite 0, .finite 1, .finite 0, .finite 1]
      (dataProvider
        { chaosHistory := [.finite 0, .finite 1, .finite 0, .finite 1] }).chaosWindows := by
  intro hlists
  have hreadings := congrArg List.length (hlists.readings (by simp))
  rw [List.length_map] at hreadings
  exact absurd hreadings (by decide)

end Dashboard

end Astartis
