import Astartis.ChaosListing
import Astartis.DashboardTables
import Astartis.TransitionSystem
import Astartis.Watermark

/-!
The chart of the chaos readings: the windows that come to the bridge, the snapshots that number
what is left of them, and the page that draws what it has not seen.
-/

namespace Astartis.Script

open Dashboard
open Json
open TransitionSystem
open Watermark

/-- The points of `chaosChart` and `_lastChaosIdx`. -/
structure ChaosChart where
  data : List Json := []
  lastChaosIdx : Int := -1

/-- `push` of `SparkChart`. -/
def ChaosChart.push (self : ChaosChart) (value : Json) : ChaosChart :=
  { self with data := roll 40 self.data value }

/-- `w.window_index ?? 0` -/
def windowIndex? (w : Json) : Option Nat :=
  match w.member? "window_index" with
  | some (.numberUnsigned n) => some n
  | some .null => some 0
  | none => some 0
  | _ => none

/-- The body of the `forEach` of `updateCharts`. -/
def ChaosChart.see (self : ChaosChart) (w : Json) : Option ChaosChart := do
  let idx ← windowIndex? w
  if self.lastChaosIdx < idx then
    let K ← w.member? "K"
    return { self.push K with lastChaosIdx := idx }
  else return self

def updateCharts (chart : ChaosChart) (d : Json) : Option ChaosChart := do
  let cws ← list? "chaos_windows" d
  cws.foldlM ChaosChart.see chart

/-- The history of the bridge, the snapshots that have been written, and the chart of a page. -/
structure ChartWorld where
  history : List Double := []
  snapshots : List (DashboardData × ByteString) := []
  chart : ChaosChart := {}

inductive ChartStep
  | window (K : Double)
  | snapshot (sources : Sources) (metrics : SystemMetrics) (health : SystemHealth)
    (timestamp : ByteString)
  | poll (data : DashboardData) (timestamp : ByteString)

/-- A poll may get any snapshot that has been written: answers can overtake each other. -/
inductive ChartWorld.Moves (back : Double → Json) : ChartWorld → ChartStep → ChartWorld → Prop
  | window (world : ChartWorld) (K : Double) :
      Moves back world (.window K) { world with history := roll 100 world.history K }
  | snapshot (world : ChartWorld) {sources : Sources}
      (hhistory : sources.chaosHistory = world.history) (metrics : SystemMetrics)
      (health : SystemHealth) (timestamp : ByteString) :
      Moves back world (.snapshot sources metrics health timestamp)
        { world with
          snapshots :=
            world.snapshots ++ [((dataProvider sources).refresh metrics health, timestamp)] }
  | poll (world : ChartWorld) {data : DashboardData} {timestamp : ByteString}
      (hwritten : (data, timestamp) ∈ world.snapshots) {chart : ChaosChart}
      (hupdate : updateCharts world.chart (returned back (data.toJson timestamp)) = some chart) :
      Moves back world (.poll data timestamp) { world with chart := chart }

def chartSystem (back : Double → Json) : System ChartWorld ChartStep where
  Init := fun world => world = {}
  Step := ChartWorld.Moves back

/-- The history is kept as the callback of the chaos detector keeps it. -/
theorem onChaosWindow_roll {α : Type} (platform : Bridge.Platform α) (w : Chaos.ChaosWindow)
    (core : Bridge.Core α) :
    (Bridge.onChaosWindow platform w core).chaosHistory = roll 100 core.chaosHistory w.K := rfl

section Drawing

variable {back : Double → Json}

/-- The windows of a snapshot as the page sees them. -/
def numbered (back : Double → Json) (windows : List ChaosWindowData) : List (Nat × Json) :=
  windows.map fun w => (w.windowIndex.toNat, back w.K)

/-- What a chart is after a poll. -/
def ChaosChart.draw (self : ChaosChart) (items : List (Nat × Json)) : ChaosChart where
  data := ((news self.lastChaosIdx items).map Prod.snd).foldl (roll 40) self.data
  lastChaosIdx := watermark self.lastChaosIdx items

theorem see_returned (chart : ChaosChart) (w : ChaosWindowData) :
    chart.see (returned back w.toJson) =
      some (if chart.lastChaosIdx < w.windowIndex.toNat then
        { chart.push (back w.K) with lastChaosIdx := w.windowIndex.toNat } else chart) := by
  have hidx : windowIndex? (returned back w.toJson) = some w.windowIndex.toNat := rfl
  have hK : (returned back w.toJson).member? "K" = some (back w.K) := rfl
  rw [ChaosChart.see, hidx, hK]
  simp only [Option.bind_eq_bind, Option.bind_some]
  split <;> rfl

theorem foldlM_see (chart : ChaosChart) (windows : List ChaosWindowData) :
    (windows.map fun w => returned back w.toJson).foldlM ChaosChart.see chart =
      some (chart.draw (numbered back windows)) := by
  induction windows generalizing chart with
  | nil => rfl
  | cons w windows ih =>
      rw [List.map_cons, List.foldlM_cons, see_returned, Option.bind_eq_bind, Option.bind_some, ih]
      by_cases hnew : chart.lastChaosIdx < w.windowIndex.toNat
      · simp [ChaosChart.draw, ChaosChart.push, numbered, news, watermark, hnew,
          max_eq_right hnew.le]
      · simp [ChaosChart.draw, numbered, news, watermark, hnew, max_eq_left (not_lt.mp hnew)]

theorem updateCharts_returned (chart : ChaosChart) (data : DashboardData)
    (timestamp : ByteString) :
    updateCharts chart (returned back (data.toJson timestamp)) =
      some (chart.draw (numbered back data.chaosWindows)) := by
  have hlist : list? "chaos_windows" (returned back (data.toJson timestamp)) =
      some (data.chaosWindows.map fun w => returned back w.toJson) := list?_returned rfl
  rw [updateCharts, hlist, Option.bind_eq_bind, Option.bind_some, foldlM_see]

end Drawing

section Runs

variable {back : Double → Json}

/-- The numbers that windows can have: those of the seed, and every second one of a history. -/
def windowNumbers : Finset Nat :=
  Finset.range 20 ∪ (Finset.range 40).image (20 + 2 * ·)

theorem card_windowNumbers_le : windowNumbers.card ≤ 60 := by
  refine (Finset.card_union_le _ _).trans ?_
  rw [Finset.card_range]
  exact Nat.add_le_add_left (Finset.card_image_le.trans_eq (Finset.card_range 40)) 20

theorem mem_windowNumbers {n : Nat} (hn : n < 20 ∨ n % 2 = 0 ∧ n < 100) : n ∈ windowNumbers := by
  simp only [windowNumbers, Finset.mem_union, Finset.mem_range, Finset.mem_image]
  by_cases hseed : n < 20
  · exact .inl hseed
  · exact .inr ⟨(n - 20) / 2, by omega, by omega⟩

theorem le_of_mem_windowNumbers {n : Nat} (hn : n ∈ windowNumbers) : n ≤ 98 := by
  simp only [windowNumbers, Finset.mem_union, Finset.mem_range, Finset.mem_image] at hn
  rcases hn with hn | ⟨m, hm, rfl⟩
  · omega
  · omega

theorem chaosWindow_windowIndex {i : Nat} (hi : i < 100) (K : Double) :
    (chaosWindow i K).windowIndex.toNat = i := by
  have hsize : i < 2 ^ 64 := by omega
  exact UInt64.toNat_ofNat_of_lt' hsize

theorem chaosLoop_numbers {history : List Double} (hhistory : history.length ≤ 100) :
    ∀ w ∈ chaosLoop 0 history, w.windowIndex.toNat ∈ windowNumbers := by
  intro w hw
  obtain ⟨j, hj⟩ := List.mem_iff_getElem?.mp hw
  rw [chaosLoop_getElem?] at hj
  split at hj
  · rename_i hbound
    obtain ⟨K, -, rfl⟩ := Option.map_eq_some_iff.mp hj
    rw [chaosWindow_windowIndex (by omega), Nat.zero_add]
    exact mem_windowNumbers (.inr ⟨by omega, by omega⟩)
  · exact absurd hj (by simp)

theorem demoChaosWindows_numbers : ∀ w ∈ demoChaosWindows, w.windowIndex.toNat ∈ windowNumbers := by
  intro w hw
  obtain ⟨i, hi⟩ := List.mem_iff_getElem?.mp hw
  rw [demoChaosWindows_getElem?] at hi
  obtain ⟨reading, hreading, rfl⟩ := Option.map_eq_some_iff.mp hi
  obtain ⟨hbound, -⟩ := List.getElem?_eq_some_iff.mp hreading
  have hseed : i < 20 := hbound
  rw [chaosWindow_windowIndex (by omega)]
  exact mem_windowNumbers (.inl hseed)

/-- A snapshot numbers its windows from a history that is not longer than the bridge keeps it. -/
def Listed (data : DashboardData) : Prop :=
  ∃ history : List Double, history.length ≤ 100 ∧
    data.chaosWindows = seedIfEmpty demoChaosWindows (chaosLoop 0 history)

theorem Listed.numbers {data : DashboardData} (hlisted : Listed data) :
    ∀ item ∈ numbered back data.chaosWindows, item.1 ∈ windowNumbers := by
  obtain ⟨history, hhistory, hwindows⟩ := hlisted
  intro item hitem
  rw [hwindows, numbered, seedIfEmpty] at hitem
  obtain ⟨w, hw, rfl⟩ := List.mem_map.mp hitem
  split at hw
  · exact demoChaosWindows_numbers w hw
  · exact chaosLoop_numbers hhistory w hw

/-- A snapshot of a full history has the highest number. -/
theorem Listed.full {data : DashboardData} (hlisted : Listed data)
    (hfull : data.chaosWindows.length = 50) (last : Int) :
    98 ≤ watermark last (numbered back data.chaosWindows) := by
  obtain ⟨history, hhistory, hwindows⟩ := hlisted
  have hloop : data.chaosWindows = chaosLoop 0 history := by
    rw [hwindows, seedIfEmpty]
    split
    · rename_i hempty
      rw [hwindows, seedIfEmpty, if_pos hempty] at hfull
      exact absurd hfull (by decide)
    · rfl
  have hhundred : history.length = 100 := by
    rw [hloop, chaosLoop_length] at hfull
    omega
  obtain ⟨K, hK⟩ : ∃ K, history[98]? = some K := ⟨_, List.getElem?_eq_getElem (by omega)⟩
  have hlast : (chaosLoop 0 history)[49]? = some (chaosWindow 98 K) := by
    rw [chaosLoop_getElem?, if_pos (by omega), hK]
    rfl
  have hmem : (98, back K) ∈ numbered back data.chaosWindows := by
    refine List.mem_map.mpr ⟨chaosWindow 98 K, hloop ▸ List.mem_of_getElem? hlast, ?_⟩
    rw [chaosWindow_windowIndex (by omega)]
    rfl
  exact le_watermark_of_mem hmem

/-- The points that a run has put on the chart. -/
def pointsOf (back : Double → Json) (steps : List (Transition ChartWorld ChartStep)) :
    List (Nat × Json) :=
  steps.flatMap fun t =>
    match t.label with
    | .poll data _ => news t.before.chart.lastChaosIdx (numbered back data.chaosWindows)
    | _ => []

structure ChartWorld.Sound (world : ChartWorld) (points : List (Nat × Json)) : Prop where
  history : world.history.length ≤ 100
  snapshots : ∀ snapshot ∈ world.snapshots, Listed snapshot.1
  taken : Taken world.chart.lastChaosIdx points
  numbers : ∀ item ∈ points, item.1 ∈ windowNumbers
  data : world.chart.data = (points.map Prod.snd).rtake 40

theorem ChartWorld.Sound.move {world after : ChartWorld} {label : ChartStep}
    {points : List (Nat × Json)} (hsound : world.Sound points)
    (hmove : world.Moves back label after) :
    after.Sound (points ++ pointsOf back [⟨world, label, after⟩]) := by
  cases hmove with
  | window K =>
      rw [pointsOf, List.flatMap_singleton, List.append_nil]
      refine ⟨?_, hsound.snapshots, hsound.taken, hsound.numbers, hsound.data⟩
      have hhistory := hsound.history
      show (roll 100 world.history K).length ≤ 100
      simp only [roll, List.length_append, List.length_singleton]
      split
      · simp only [List.length_drop, List.length_append, List.length_singleton]
        omega
      · simp only [List.length_append, List.length_singleton]
        omega
  | @snapshot sources hhistory metrics health timestamp =>
      rw [pointsOf, List.flatMap_singleton, List.append_nil]
      refine ⟨hsound.history, ?_, hsound.taken, hsound.numbers, hsound.data⟩
      intro written hwritten
      rcases List.mem_append.mp hwritten with hwritten | hwritten
      · exact hsound.snapshots written hwritten
      · rw [List.mem_singleton.mp hwritten]
        exact ⟨world.history, hsound.history, by rw [← hhistory]; rfl⟩
  | @poll data timestamp hwritten chart hupdate =>
      rw [updateCharts_returned] at hupdate
      obtain rfl := Option.some.inj hupdate
      rw [pointsOf, List.flatMap_singleton]
      have hlisted := hsound.snapshots _ hwritten
      refine ⟨hsound.history, hsound.snapshots, hsound.taken.append _, ?_, ?_⟩
      · intro item hitem
        rcases List.mem_append.mp hitem with hitem | hitem
        · exact hsound.numbers item hitem
        · exact hlisted.numbers item ((news_sublist _ _).subset hitem)
      · show List.foldl _ world.chart.data _ = _
        rw [hsound.data, foldl_roll (by simp), List.map_append]

theorem sound_of_trace {steps : List (Transition ChartWorld ChartStep)} {world : ChartWorld}
    (htrace : Trace (chartSystem back) steps world) : world.Sound (pointsOf back steps) := by
  refine htrace.history_invariant (I := fun steps world => world.Sound (pointsOf back steps)) ?_ ?_
  · rintro world rfl
    exact ⟨by simp, by simp, ⟨.nil, by simp [pointsOf]⟩, by simp [pointsOf], rfl⟩
  · intro steps world label after hsound hmove
    rw [pointsOf, List.flatMap_append]
    exact hsound.move hmove

/-- A chart that has drawn the highest number draws nothing more. -/
theorem ChartWorld.Sound.frozen {world after : ChartWorld} {label : ChartStep}
    {points : List (Nat × Json)} (hsound : world.Sound points)
    (hlast : 98 ≤ world.chart.lastChaosIdx) (hmove : world.Moves back label after) :
    after.chart = world.chart := by
  cases hmove with
  | window => rfl
  | snapshot => rfl
  | @poll data timestamp hwritten chart hupdate =>
      rw [updateCharts_returned] at hupdate
      obtain rfl := Option.some.inj hupdate
      have hbelow : ∀ item ∈ numbered back data.chaosWindows,
          (item.1 : Int) ≤ world.chart.lastChaosIdx := by
        intro item hitem
        have hnumber := le_of_mem_windowNumbers ((hsound.snapshots _ hwritten).numbers item hitem)
        omega
      have hmark := (watermark_le le_rfl hbelow).antisymm (le_watermark _ _)
      show world.chart.draw _ = world.chart
      rw [ChaosChart.draw, news_eq_nil hbelow, hmark]
      rfl

end Runs

/-- The chart shows the last forty points of those that were put on it, which are at most sixty
in all and come in the order of their numbers; and once a poll has got a snapshot of a full
history the chart stays as it is, whatever windows come and whatever snapshots are read. -/
theorem chaos_chart_freezes {back : Double → Json}
    {steps : List (Transition ChartWorld ChartStep)} {world : ChartWorld}
    (htrace : Trace (chartSystem back) steps world) :
    world.chart.data = ((pointsOf back steps).map Prod.snd).rtake 40 ∧
      (pointsOf back steps).Pairwise (fun a b => a.1 < b.1) ∧ (pointsOf back steps).length ≤ 60 ∧
      ∀ before t during data timestamp, steps = before ++ t :: during →
        t.label = .poll data timestamp → data.chaosWindows.length = 50 →
        world.chart = t.after.chart := by
  have hsound := sound_of_trace htrace
  refine ⟨hsound.data, hsound.taken.increasing, ?_, ?_⟩
  · exact (hsound.taken.length_le hsound.numbers).trans card_windowNumbers_le
  · rintro before t during data timestamp rfl hpoll hfull
    obtain ⟨hbefore, hstep⟩ := htrace.split
    have hearlier := sound_of_trace hbefore
    have hlast : 98 ≤ t.after.chart.lastChaosIdx := by
      rw [hpoll] at hstep
      generalize t.after = after at hstep
      cases hstep with
      | poll hwritten hupdate =>
          rw [updateCharts_returned] at hupdate
          obtain rfl := Option.some.inj hupdate
          exact (hearlier.snapshots _ hwritten).full hfull _
    have hsince := htrace.since (J := fun world => (∃ points, world.Sound points) ∧
        98 ≤ world.chart.lastChaosIdx ∧ world.chart = t.after.chart)
      ⟨⟨_, hearlier.move hstep⟩, hlast, rfl⟩ (by
        rintro u - ⟨⟨points, hpoints⟩, hhigh, hsame⟩ hmove
        have hfrozen := hpoints.frozen hhigh hmove
        exact ⟨⟨_, hpoints.move hmove⟩, by rw [hfrozen]; exact hhigh, hfrozen.trans hsame⟩)
    exact hsince.1.2.2

/-- The history after windows that all have the reading zero. -/
theorem exists_windows (back : Double → Json) (count : Nat) :
    ∃ steps, Trace (chartSystem back) steps
      { history := (List.replicate count (.finite 0)).rtake 100 } := by
  induction count with
  | zero => exact ⟨_, .start rfl⟩
  | succ count ih =>
      obtain ⟨steps, htrace⟩ := ih
      have hmove := @ChartWorld.Moves.window back
        { history := (List.replicate count (.finite 0)).rtake 100 } (.finite 0)
      rw [roll_rtake (by simp), ← List.replicate_succ'] at hmove
      exact ⟨_, htrace.extend hmove⟩

def fullSources : Sources :=
  { chaosHistory := List.replicate 100 (.finite 0) }

/-- The reading of the next window is in a later snapshot that the page reads, and the chart does
not get it. -/
theorem next_reading_not_drawn :
    ∃ before t during last world,
      Trace (chartSystem zeroBack) (before ++ t :: (during ++ [last])) world ∧
      world.history.getLast? = some (.finite 1) ∧ last.before.history = world.history ∧
      (∃ data timestamp, last.label = .poll data timestamp) ∧ world.chart = t.after.chart := by
  obtain ⟨steps, hwindows⟩ := exists_windows zeroBack 100
  have hfull : ((dataProvider fullSources).refresh {} {}).chaosWindows.length = 50 := rfl
  have hwritten := hwindows.extend (@ChartWorld.Moves.snapshot zeroBack _ fullSources rfl {} {} [])
  have hpolled := hwritten.extend (ChartWorld.Moves.poll _ (List.mem_singleton_self _)
    (updateCharts_returned _ _ _))
  have hnext := hpolled.extend (ChartWorld.Moves.window _ (.finite 1))
  have hrewritten := hnext.extend (@ChartWorld.Moves.snapshot zeroBack _
    { chaosHistory := roll 100 fullSources.chaosHistory (.finite 1) } rfl {} {} [])
  have hrepolled := hrewritten.extend (ChartWorld.Moves.poll _
    (List.mem_append_right _ (List.mem_singleton_self _)) (updateCharts_returned _ _ _))
  rw [List.append_assoc, List.append_assoc, List.append_assoc] at hrepolled
  obtain ⟨-, -, -, hfrozen⟩ := chaos_chart_freezes hrepolled
  exact ⟨_, _, [_, _], _, _, hrepolled, rfl, rfl, ⟨_, _, rfl⟩,
    hfrozen _ _ _ _ _ rfl rfl hfull⟩

end Astartis.Script
