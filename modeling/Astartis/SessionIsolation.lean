import Mathlib.Data.List.Induction
import Astartis.AttributionReport

/-!
The report of a session does not depend on the events of other sessions, as long as the session
has an event that is not stamped with the last millisecond there is.
-/

namespace Astartis.Attribution

open Audit
open Decoy
open Response

section Techniques

def sameTechnique (t u : AttackTechnique) : Bool :=
  t.techniqueId == u.techniqueId

theorem foldl_appendUnseen_eq_loop (techniques results : List AttackTechnique) :
    techniques.foldl appendUnseen results.reverse =
      List.eraseDupsBy.loop sameTechnique techniques results := by
  induction techniques generalizing results with
  | nil => rfl
  | cons technique techniques ih =>
      have hseen : (techniqueIds results.reverse).contains technique.techniqueId =
          results.any (sameTechnique technique) := by
        rw [Bool.eq_iff_iff]
        simp [techniqueIds, sameTechnique, @eq_comm _ technique.techniqueId]
      rw [List.foldl_cons, List.eraseDupsBy.loop, appendUnseen, hseen]
      cases results.any (sameTechnique technique) with
      | true => exact ih results
      | false => simpa using ih (technique :: results)

/-- A report keeps the first technique of each id. -/
theorem reportTechniques_eq (events : List DecoyEvent) :
    reportTechniques events = (mappedTechniques events).eraseDupsBy sameTechnique := by
  rw [reportTechniques_eq_foldl]
  exact foldl_appendUnseen_eq_loop _ []

theorem nodup_appendUnseen {results : List AttackTechnique} (technique : AttackTechnique)
    (hresults : (techniqueIds results).Nodup) :
    (techniqueIds (appendUnseen results technique)).Nodup := by
  rw [appendUnseen]
  split
  · exact hresults
  · rename_i hunseen
    rw [techniqueIds, List.map_append, List.map_singleton]
    refine List.Nodup.append hresults (List.nodup_singleton _) ?_
    simpa [techniqueIds] using hunseen

theorem nodup_reportTechniques (events : List DecoyEvent) :
    (techniqueIds (reportTechniques events)).Nodup := by
  rw [reportTechniques_eq_foldl]
  suffices h : ∀ results, (techniqueIds results).Nodup →
      (techniqueIds ((mappedTechniques events).foldl appendUnseen results)).Nodup from
    h [] List.nodup_nil
  induction mappedTechniques events with
  | nil => exact fun _ hresults => hresults
  | cons technique techniques ih =>
      intro results hresults
      rw [List.foldl_cons]
      exact ih _ (nodup_appendUnseen technique hresults)

end Techniques

section Times

/-- The first and the last of the timestamps. -/
structure Spans (timestamps : List Int64) (times : Int64 × Int64) : Prop where
  first_mem : times.1 ∈ timestamps
  first_le : ∀ t ∈ timestamps, times.1 ≤ t
  last_mem : times.2 ∈ timestamps
  le_last : ∀ t ∈ timestamps, t ≤ times.2

theorem noteTime_first (times : Int64 × Int64) (t : Int64) :
    ((noteTime times t).1 = times.1 ∨ (noteTime times t).1 = t) ∧
      (noteTime times t).1 ≤ times.1 ∧ (noteTime times t).1 ≤ t := by
  simp only [noteTime]
  split
  · rename_i hless
    exact ⟨.inr rfl, Int64.le_of_lt hless, Int64.le_refl t⟩
  · rename_i hless
    exact ⟨.inl rfl, Int64.le_refl _, Int64.not_lt.mp hless⟩

theorem noteTime_last (times : Int64 × Int64) (t : Int64) :
    ((noteTime times t).2 = times.2 ∨ (noteTime times t).2 = t) ∧
      times.2 ≤ (noteTime times t).2 ∧ t ≤ (noteTime times t).2 := by
  simp only [noteTime]
  split
  · rename_i hless
    exact ⟨.inr rfl, Int64.le_of_lt hless, Int64.le_refl t⟩
  · rename_i hless
    exact ⟨.inl rfl, Int64.le_refl _, Int64.not_lt.mp hless⟩

/-- The values that the loops start with give way to the first timestamp. -/
theorem spans_first (t : Int64) :
    Spans [t] (noteTime (Int64.maxValue, Int64.minValue) t) := by
  obtain ⟨hmax, -, hfirst⟩ := noteTime_first (Int64.maxValue, Int64.minValue) t
  obtain ⟨hmin, -, hlast⟩ := noteTime_last (Int64.maxValue, Int64.minValue) t
  have hfirst' : (noteTime (Int64.maxValue, Int64.minValue) t).1 = t := by
    rcases hmax with hmax | heq
    · rw [hmax] at hfirst ⊢
      exact Int64.le_antisymm hfirst (Int64.le_maxValue t)
    · exact heq
  have hlast' : (noteTime (Int64.maxValue, Int64.minValue) t).2 = t := by
    rcases hmin with hmin | heq
    · rw [hmin] at hlast ⊢
      exact Int64.le_antisymm (Int64.minValue_le t) hlast
    · exact heq
  refine ⟨?_, ?_, ?_, ?_⟩ <;> simp [hfirst', hlast']

theorem Spans.note {timestamps : List Int64} {times : Int64 × Int64}
    (hspans : Spans timestamps times) (t : Int64) :
    Spans (timestamps ++ [t]) (noteTime times t) := by
  obtain ⟨hfirst, hearlier, hfirst'⟩ := noteTime_first times t
  obtain ⟨hlast, hlater, hlast'⟩ := noteTime_last times t
  refine ⟨?_, ?_, ?_, ?_⟩
  · rcases hfirst with hfirst | hfirst
    · rw [hfirst]
      exact List.mem_append_left _ hspans.first_mem
    · simp [hfirst]
  · intro u hu
    rcases List.mem_append.mp hu with hu | hu
    · exact Int64.le_trans hearlier (hspans.first_le u hu)
    · rw [List.mem_singleton.mp hu]
      exact hfirst'
  · rcases hlast with hlast | hlast
    · rw [hlast]
      exact List.mem_append_left _ hspans.last_mem
    · simp [hlast]
  · intro u hu
    rcases List.mem_append.mp hu with hu | hu
    · exact Int64.le_trans (hspans.le_last u hu) hlater
    · rw [List.mem_singleton.mp hu]
      exact hlast'

/-- The loops over the events of a session find its first and its last timestamp. -/
theorem spans_foldl_noteTime {timestamps : List Int64} (hsome : timestamps ≠ []) :
    Spans timestamps (timestamps.foldl noteTime (Int64.maxValue, Int64.minValue)) := by
  induction timestamps using List.reverseRecOn with
  | nil => exact absurd rfl hsome
  | append_singleton timestamps t ih =>
      rw [List.foldl_append, List.foldl_cons, List.foldl_nil]
      by_cases hfirst : timestamps = []
      · subst hfirst
        exact spans_first t
      · exact (ih hfirst).note t

def eventTimes (decoyEvents : List DecoyEvent) (responseEvents : List ResponseEvent) :
    List Int64 :=
  decoyEvents.map DecoyEvent.timestampMs ++ responseEvents.map ResponseEvent.timestampMs

theorem sessionTimes_eq (now : Int64) (decoyEvents : List DecoyEvent)
    (responseEvents : List ResponseEvent) :
    sessionTimes now decoyEvents responseEvents =
      let times := (eventTimes decoyEvents responseEvents).foldl noteTime
        (Int64.maxValue, Int64.minValue)
      if times.1 = Int64.maxValue then (now, now) else times := by
  rw [eventTimes, List.foldl_append, List.foldl_map, List.foldl_map]
  rfl

variable {decoyEvents : List DecoyEvent} {responseEvents : List ResponseEvent}

theorem spans_sessionTimes (now : Int64)
    (hordinary : ∃ t ∈ eventTimes decoyEvents responseEvents, t ≠ Int64.maxValue) :
    sessionTimes now decoyEvents responseEvents =
        (eventTimes decoyEvents responseEvents).foldl noteTime
          (Int64.maxValue, Int64.minValue) ∧
      Spans (eventTimes decoyEvents responseEvents)
        (sessionTimes now decoyEvents responseEvents) := by
  obtain ⟨t, ht, hlast⟩ := hordinary
  have hspans := spans_foldl_noteTime (List.ne_nil_of_mem ht)
  have hfirst : ((eventTimes decoyEvents responseEvents).foldl noteTime
      (Int64.maxValue, Int64.minValue)).1 ≠ Int64.maxValue := by
    intro hmax
    have hle := hspans.first_le t ht
    rw [hmax] at hle
    exact hlast (Int64.le_antisymm (Int64.le_maxValue t) hle)
  have htimes : sessionTimes now decoyEvents responseEvents = _ :=
    (sessionTimes_eq now decoyEvents responseEvents).trans (if_neg hfirst)
  exact ⟨htimes, htimes ▸ hspans⟩

/-- The last timestamp there is stands for no event at all. -/
theorem sessionTimes_of_last (now : Int64)
    (hlast : ∀ t ∈ eventTimes decoyEvents responseEvents, t = Int64.maxValue) :
    sessionTimes now decoyEvents responseEvents = (now, now) := by
  rw [sessionTimes_eq]
  refine if_pos ?_
  by_cases hnone : eventTimes decoyEvents responseEvents = []
  · rw [hnone]
    rfl
  · exact hlast _ (spans_foldl_noteTime hnone).first_mem

end Times

section Isolation

/-- What the artifact says about the techniques and the times of a session. -/
structure Reports (sessionId : ByteString) (decoyLog : List DecoyEvent)
    (responseLog : List ResponseEvent) (a : ReportArtifact) : Prop where
  distinct : (techniqueIds a.techniques).Nodup
  firstMatches : a.techniques =
    (mappedTechniques (decoyEventsOf sessionId decoyLog)).eraseDupsBy sameTechnique
  mapped : ∀ id, id ∈ techniqueIds a.techniques ↔
    ∃ ev ∈ decoyLog, ev.attackerTag = sessionId ∧
      id ∈ techniqueIds (mapTechniques ev.action ev.relPath ev.poisonType)
  times : Spans (eventTimes (decoyEventsOf sessionId decoyLog)
    (responseEventsOf sessionId responseLog)) (a.sessionStartMs, a.sessionEndMs)

variable {σ : Type} (auditAdder : AuditAdder σ)

/-- One artifact is the report of the session for all logs with the same events of it,
whenever the report is made. -/
def Isolated (fs : FileSystem) (sandboxRoot sessionId : ByteString)
    (decoyLog : List DecoyEvent) (responseLog : List ResponseEvent) : Prop :=
  ∃ a, Reports sessionId decoyLog responseLog a ∧
    ∀ decoyLog' responseLog',
      decoyEventsOf sessionId decoyLog' = decoyEventsOf sessionId decoyLog →
      responseEventsOf sessionId responseLog' = responseEventsOf sessionId responseLog →
      ∀ env world, env.directoriesCreated = true →
        (generate auditAdder fs sandboxRoot env sessionId decoyLog' responseLog'
          world).1.map Generated.artifact = some a

variable {fs : FileSystem} {sandboxRoot sessionId : ByteString} {decoyLog : List DecoyEvent}
  {responseLog : List ResponseEvent}

theorem generate_artifact {env : Environment} (henv : env.directoriesCreated = true)
    (world : σ) :
    (generate auditAdder fs sandboxRoot env sessionId decoyLog responseLog world).1.map
        Generated.artifact =
      some (artifactOf fs sandboxRoot env.now sessionId decoyLog responseLog) := by
  rw [generate, if_pos henv]
  rfl

theorem artifactOf_congr {now now' : Int64} {decoyLog' : List DecoyEvent}
    {responseLog' : List ResponseEvent}
    (hdecoy : decoyEventsOf sessionId decoyLog' = decoyEventsOf sessionId decoyLog)
    (hresponse : responseEventsOf sessionId responseLog' =
      responseEventsOf sessionId responseLog)
    (htimes : sessionTimes now' (decoyEventsOf sessionId decoyLog)
        (responseEventsOf sessionId responseLog) =
      sessionTimes now (decoyEventsOf sessionId decoyLog)
        (responseEventsOf sessionId responseLog)) :
    artifactOf fs sandboxRoot now' sessionId decoyLog' responseLog' =
      artifactOf fs sandboxRoot now sessionId decoyLog responseLog := by
  simp only [artifactOf, hdecoy, hresponse, htimes]

theorem isolated_of_ordinary
    (hordinary : ∃ t ∈ eventTimes (decoyEventsOf sessionId decoyLog)
      (responseEventsOf sessionId responseLog), t ≠ Int64.maxValue) :
    Isolated auditAdder fs sandboxRoot sessionId decoyLog responseLog := by
  refine ⟨artifactOf fs sandboxRoot 0 sessionId decoyLog responseLog, ?_, ?_⟩
  · refine ⟨nodup_reportTechniques _, reportTechniques_eq _, ?_,
      (spans_sessionTimes 0 hordinary).2⟩
    intro id
    refine mem_reportTechniques.trans ?_
    simp [decoyEventsOf, and_assoc]
  · intro decoyLog' responseLog' hdecoy hresponse env world henv
    rw [generate_artifact auditAdder henv world]
    congr 1
    refine artifactOf_congr hdecoy hresponse ?_
    rw [(spans_sessionTimes env.now hordinary).1, (spans_sessionTimes 0 hordinary).1]

theorem not_isolated_of_last (world : σ)
    (hlast : ∀ t ∈ eventTimes (decoyEventsOf sessionId decoyLog)
      (responseEventsOf sessionId responseLog), t = Int64.maxValue) :
    ¬ Isolated auditAdder fs sandboxRoot sessionId decoyLog responseLog := by
  rintro ⟨a, -, hruns⟩
  have hstart : ∀ now, a.sessionStartMs = now := by
    intro now
    have hrun := hruns decoyLog responseLog rfl rfl ⟨now, true, true⟩ world rfl
    rw [generate_artifact auditAdder rfl world] at hrun
    have htimes := sessionTimes_of_last now hlast
    rw [← Option.some.inj hrun]
    exact congrArg Prod.fst htimes
  exact absurd ((hstart 0).symm.trans (hstart 1)) (by decide)

def lastEvent : DecoyEvent where
  timestampMs := Int64.maxValue
  relPath := "decoy/credentials/etc/shadow"
  poisonType := .credential
  action := "read"
  attackerTag := "demo-atk"
  detail := ""

end Isolation

end Astartis.Attribution
