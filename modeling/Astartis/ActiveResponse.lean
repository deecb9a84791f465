import Std.Data.TreeMap
import Astartis.AuditChain

/-!
The active response: degraded answers to the sessions of attackers, with a forensic log and the
correlation of indicators.
-/

namespace Astartis.Response

open Audit
open MutexSections
open TransitionSystem

inductive IocType
  | iocIp
  | iocDomain
  | iocHash
deriving DecidableEq

def iocTypeName : IocType → ByteString
  | .iocIp => "IOC_IP"
  | .iocDomain => "IOC_DOMAIN"
  | .iocHash => "IOC_HASH"

structure IocEntry where
  type : IocType
  indicator : ByteString
  description : ByteString
  source : ByteString
deriving DecidableEq

/-- `kSampleIocs`, which the constructor copies to `ioc_list_`. -/
def sampleIocs : List IocEntry :=
  [⟨.iocIp, "185.220.101.45", "Tor exit node used in credential stuffing (example)",
      "CISA AA22-040A"⟩,
    ⟨.iocIp, "45.142.212.100", "C2 Cobalt Strike beacon (example)", "AlienVault OTX example"⟩,
    ⟨.iocIp, "194.165.16.11", "Ransomware staging LockBit 3.0 (example)", "FBI Flash example"⟩,
    ⟨.iocIp, "10.0.0.55", "Internal pivot source observed in auth.log",
      "Internal detection"⟩,
    ⟨.iocDomain, "update-service.corp-helpdesk.com",
      "Phishing domain impersonating IT helpdesk (example)", "PhishTank example"⟩,
    ⟨.iocDomain, "cdn-delivery.staticfiles.net", "Malware payload staging domain (example)",
      "URLHaus example"⟩,
    ⟨.iocDomain, "exfil.darkcomet-c2.xyz", "C2 domain for DarkComet RAT (example)",
      "OpenPhish example"⟩,
    ⟨.iocHash, "aabbccddeeff00112233445566778899aabbccddeeff00112233445566778899",
      "Mimikatz variant credential dumping tool (example)", "Sigma rule example"⟩]

structure ResponseEvent where
  timestampMs : Int64
  sessionId : ByteString
  resource : ByteString
  responseTier : Int32
  responseBody : ByteString
  iocMatch : Bool
  iocIndicator : ByteString
deriving DecidableEq

def responseTier (count : Int32) : Int32 :=
  if count < 3 then 0
  else if count < 6 then 1
  else if count < 10 then 2
  else 3

def buildResponse (tier : Int32) (resource : ByteString) (n : Int32) : ByteString :=
  ("SYNTHETIC [tier=" : ByteString) ++ ByteString.decimal tier.toInt ++ (" n=" : ByteString) ++
    ByteString.decimal n.toInt ++ ("]\n" : ByteString) ++
    if tier = 0 then
      ("HTTP/1.1 200 OK\n\n\x7b\"status\":\"ok\",\"resource\":\"" : ByteString) ++ resource ++
        ("\",\"data\":\"[synthetic payload]\"\x7d" : ByteString)
    else if tier = 1 then
      ("HTTP/1.1 200 OK\n\n\x7b\"status\":\"ok\",\"resource\":\"" : ByteString) ++ resource ++
        ("\",\"data\":null\x7d" : ByteString)
    else if tier = 2 then
      ("HTTP/1.1 206 Partial\n\n" : ByteString) ++ resource ++
        (": [PARTIAL] data truncated" : ByteString)
    else
      ("HTTP/1.1 200 OK\n\n\x7b\"redirect\":\"" : ByteString) ++ resource ++
        ("\",\"retry_after\":0\x7d" : ByteString)

structure ActiveResponse where
  sessionCounts : Std.TreeMap ByteString Int32 := {}
  forensicLog : List ResponseEvent := []

/-- The first listed indicator that equals the text. -/
def findIoc (indicator : ByteString) : Option IocEntry :=
  sampleIocs.find? fun e => e.indicator = indicator

def correlationPayload (indicator : ByteString) (e : IocEntry) : ByteString :=
  ("indicator=\"" : ByteString) ++ indicator ++ ("\" type=" : ByteString) ++
    iocTypeName e.type ++ (" description=\"" : ByteString) ++ e.description ++
    ("\" source=\"" : ByteString) ++ e.source ++ ("\"" : ByteString)

def servedPayload (sid res : ByteString) (tier count : Int32) (iocHit : Bool) : ByteString :=
  ("session=" : ByteString) ++ sid ++ (" resource=" : ByteString) ++ res ++
    (" tier=" : ByteString) ++ ByteString.decimal tier.toInt ++
    (" interaction=" : ByteString) ++ ByteString.decimal count.toInt ++
    (" ioc_match=" : ByteString) ++ (if iocHit then ("true" : ByteString) else "false")

namespace ActiveResponse

variable {σ : Type} (auditAdder : AuditAdder σ)

def sessionInteractionCount (sid : ByteString) (self : ActiveResponse) : Int32 :=
  self.sessionCounts.getD sid 0

/-- One section of the mutex, with what `now_ms_ar` reads in it. -/
def serve (now : Int64) (sid res iocHint : ByteString) (self : ActiveResponse) (world : σ) :
    ResponseEvent × ActiveResponse × σ :=
  let count := self.sessionCounts.getD sid 0 + 1
  let tier := responseTier count
  let body := buildResponse tier res count
  let matched := if iocHint = [] then none else findIoc iocHint
  let world :=
    match matched with
    | some e =>
        (auditAdder "ioc_correlation_match"
          (correlationPayload iocHint e ++ (" session=" : ByteString) ++ sid) world).2
    | none => world
  let ev : ResponseEvent :=
    { timestampMs := now
      sessionId := sid
      resource := res
      responseTier := tier
      responseBody := body
      iocMatch := matched.isSome
      iocIndicator := if matched.isSome then iocHint else [] }
  (ev,
    { sessionCounts := self.sessionCounts.insert sid count
      forensicLog := self.forensicLog ++ [ev] },
    (auditAdder "active_response_served"
      (servedPayload sid res tier count matched.isSome) world).2)

def checkIoc (indicator : ByteString) (world : σ) : Option IocEntry × σ :=
  match findIoc indicator with
  | some e =>
      (some e, (auditAdder "ioc_correlation_match" (correlationPayload indicator e) world).2)
  | none => (none, world)

end ActiveResponse

/-- A call of `serve`. -/
structure ServeCall where
  sessionId : ByteString
  resource : ByteString
  iocHint : ByteString
deriving DecidableEq

/-- The number of events of a session. -/
def eventsOf (sid : ByteString) (log : List ResponseEvent) : Nat :=
  log.countP fun ev => ev.sessionId = sid

/-- The event is the answer to the call. -/
structure Answers (call : ServeCall) (ev : ResponseEvent) : Prop where
  session : ev.sessionId = call.sessionId
  resource : ev.resource = call.resource
  match_iff : ev.iocMatch = true ↔ call.iocHint ∈ sampleIocs.map IocEntry.indicator
  indicator : ev.iocMatch = true → ev.iocIndicator = call.iocHint

/-- What the calls leave in the log and in the counters, which wrap around. -/
structure Records (calls : List ServeCall) (left : ActiveResponse) : Prop where
  inOrder : List.Forall₂ Answers calls left.forensicLog
  tier : ∀ i ev, left.forensicLog[i]? = some ev → ev.responseTier =
    responseTier (Int32.ofNat (eventsOf ev.sessionId (left.forensicLog.take (i + 1))))
  counted : ∀ sid, left.sessionInteractionCount sid =
    Int32.ofNat (eventsOf sid left.forensicLog)

theorem eventsOf_append_singleton (sid : ByteString) (log : List ResponseEvent)
    (ev : ResponseEvent) :
    eventsOf sid (log ++ [ev]) = eventsOf sid log + if ev.sessionId = sid then 1 else 0 := by
  simp [eventsOf, List.countP_append, List.countP_singleton]

theorem findIoc_isSome_iff {indicator : ByteString} :
    (findIoc indicator).isSome = true ↔ indicator ∈ sampleIocs.map IocEntry.indicator := by
  rw [findIoc, List.find?_isSome, List.mem_map]
  simp only [decide_eq_true_eq]

/-- No indicator is empty, so the empty hint needs no case of its own. -/
theorem matched_isSome_iff {iocHint : ByteString} :
    (if iocHint = [] then none else findIoc iocHint).isSome = true ↔
      iocHint ∈ sampleIocs.map IocEntry.indicator := by
  have hempty : ([] : ByteString) ∉ sampleIocs.map IocEntry.indicator := by decide +kernel
  split
  · rename_i hhint
    rw [hhint]
    exact iff_of_false (by simp) hempty
  · exact findIoc_isSome_iff

namespace ActiveResponse

variable {σ : Type} (auditAdder : AuditAdder σ) (now : Int64) (sid res iocHint : ByteString)
  (self : ActiveResponse) (world : σ)

theorem serve_log : (self.serve auditAdder now sid res iocHint world).2.1.forensicLog =
    self.forensicLog ++ [(self.serve auditAdder now sid res iocHint world).1] := rfl

theorem serve_tier : (self.serve auditAdder now sid res iocHint world).1.responseTier =
    responseTier (self.sessionInteractionCount sid + 1) := rfl

theorem serve_answers : Answers ⟨sid, res, iocHint⟩
    (self.serve auditAdder now sid res iocHint world).1 where
  session := rfl
  resource := rfl
  match_iff := matched_isSome_iff
  indicator := fun hmatch => if_pos hmatch

theorem serve_count (other : ByteString) :
    (self.serve auditAdder now sid res iocHint world).2.1.sessionInteractionCount other =
      if sid = other then self.sessionInteractionCount sid + 1
      else self.sessionInteractionCount other := by
  simp only [serve, sessionInteractionCount, Std.TreeMap.getD_insert,
    Std.LawfulEqOrd.compare_eq_iff_eq]

/-- The calls of the audit adder in one `serve`. -/
theorem serve_entries : ∃ correlations : List ByteString, ∃ payload : ByteString,
    correlations.length =
        (if (sampleIocs.map IocEntry.indicator).contains iocHint then 1 else 0) ∧
      (self.serve auditAdder now sid res iocHint world).2.2 =
        (auditAdder "active_response_served" payload
          (correlations.foldl (fun world p => (auditAdder "ioc_correlation_match" p world).2)
            world)).2 := by
  simp only [serve]
  cases hmatched : (if iocHint = [] then none else findIoc iocHint) with
  | none =>
      have hunlisted : iocHint ∉ sampleIocs.map IocEntry.indicator := by
        rw [← matched_isSome_iff, hmatched]
        simp
      exact ⟨[], _, (if_neg (List.contains_iff_mem.not.mpr hunlisted)).symm, rfl⟩
  | some e =>
      have hlisted : iocHint ∈ sampleIocs.map IocEntry.indicator := by
        rw [← matched_isSome_iff, hmatched]
        rfl
      exact ⟨[_], _, (if_pos (List.contains_iff_mem.mpr hlisted)).symm, rfl⟩

theorem serve_records {calls : List ServeCall} {self : ActiveResponse}
    (hrecords : Records calls self) :
    Records (calls ++ [⟨sid, res, iocHint⟩])
      (self.serve auditAdder now sid res iocHint world).2.1 := by
  have hanswers := serve_answers auditAdder now sid res iocHint self world
  have htier := serve_tier auditAdder now sid res iocHint self world
  have hcount := serve_count auditAdder now sid res iocHint self world
  have hlog := serve_log auditAdder now sid res iocHint self world
  generalize self.serve auditAdder now sid res iocHint world = answer at *
  obtain ⟨ev, after, world'⟩ := answer
  simp only at hanswers htier hcount hlog ⊢
  have hnext : ∀ n : Nat, Int32.ofNat n + 1 = Int32.ofNat (n + 1) := fun n =>
    (Int32.ofNat_add n 1).symm
  refine ⟨?_, ?_, ?_⟩
  · rw [hlog]
    exact List.rel_append hrecords.inOrder (.cons hanswers .nil)
  · intro i ev' hev
    rw [hlog] at hev ⊢
    rcases Nat.lt_trichotomy i self.forensicLog.length with hi | hi | hi
    · rw [List.getElem?_append_left hi] at hev
      rw [List.take_append_of_le_length hi]
      exact hrecords.tier i ev' hev
    · subst hi
      obtain rfl : ev = ev' := by simpa using hev
      have hall : (self.forensicLog ++ [ev]).take (self.forensicLog.length + 1) =
          self.forensicLog ++ [ev] := List.take_of_length_le (by simp)
      rw [hall, eventsOf_append_singleton, if_pos rfl, htier, hanswers.session,
        hrecords.counted sid, hnext]
    · have hnone : (self.forensicLog ++ [ev])[i]? = none :=
        List.getElem?_eq_none (by simp; omega)
      rw [hnone] at hev
      exact absurd hev (by simp)
  · intro other
    rw [hcount, hlog, eventsOf_append_singleton, hanswers.session]
    split
    · rename_i hsid
      rw [hrecords.counted sid, hnext, hsid]
    · exact hrecords.counted other

end ActiveResponse

section Runs

variable {σ : Type} (auditAdder : AuditAdder σ)

def serveSection (shared : ActiveResponse × σ) (call : ServeCall) (now : Int64) :
    ActiveResponse × σ :=
  (shared.1.serve auditAdder now call.sessionId call.resource call.iocHint shared.2).2

theorem foldl_serveSection_records (calls : List (ServeCall × Int64)) (world : σ) :
    Records (calls.map Prod.fst)
      (calls.foldl (fun shared call => serveSection auditAdder shared call.1 call.2)
        ({}, world)).1 := by
  induction calls using List.reverseRecOn with
  | nil => exact ⟨.nil, by simp, fun _ => rfl⟩
  | append_singleton calls call ih =>
      rw [List.foldl_append, List.map_append]
      exact ActiveResponse.serve_records auditAdder call.2 call.1.sessionId call.1.resource
        call.1.iocHint _ ih

theorem responseTier_mono {count count' : Int32} (hle : count ≤ count') :
    responseTier count ≤ responseTier count' := by
  rw [Int32.le_iff_toInt_le] at hle
  simp only [responseTier, Int32.lt_iff_toInt_lt]
  repeat' split
  all_goals first
    | decide
    | omega

/-- The number of calls for a session. -/
def served (sid : ByteString) (calls : List ServeCall) : Nat :=
  calls.countP fun call => call.sessionId = sid

theorem eventsOf_eq_served {calls : List ServeCall} {log : List ResponseEvent}
    (hanswers : List.Forall₂ Answers calls log) (sid : ByteString) :
    eventsOf sid log = served sid calls := by
  induction hanswers with
  | nil => rfl
  | cons hanswer _ ih =>
      rw [eventsOf, served, List.countP_cons, List.countP_cons, hanswer.session]
      exact congrArg (· + _) ih

/-- The log, the counters and the tiers of the sessions are in step with the calls. -/
structure Orderly (calls : List ServeCall) (left : ActiveResponse) : Prop where
  inOrder : List.Forall₂ Answers calls left.forensicLog
  tier : ∀ i ev, left.forensicLog[i]? = some ev → ev.responseTier =
    responseTier (Int32.ofNat (eventsOf ev.sessionId (left.forensicLog.take (i + 1))))
  rising : left.forensicLog.Pairwise fun first second =>
    first.sessionId = second.sessionId → first.responseTier ≤ second.responseTier
  counted : ∀ sid, (left.sessionInteractionCount sid).toInt = eventsOf sid left.forensicLog

theorem Records.rising {calls : List ServeCall} {left : ActiveResponse}
    (hrecords : Records calls left) (hbound : ∀ sid, eventsOf sid left.forensicLog < 2 ^ 31) :
    left.forensicLog.Pairwise fun first second =>
      first.sessionId = second.sessionId → first.responseTier ≤ second.responseTier := by
  rw [List.pairwise_iff_getElem]
  intro i j hi hj hij hsession
  rw [hrecords.tier i _ (List.getElem?_eq_getElem hi),
    hrecords.tier j _ (List.getElem?_eq_getElem hj), hsession]
  have hearlier : eventsOf left.forensicLog[j].sessionId (left.forensicLog.take (i + 1)) ≤
      eventsOf left.forensicLog[j].sessionId (left.forensicLog.take (j + 1)) :=
    (List.take_sublist_take_left (by omega)).countP_le
  have hlater : eventsOf left.forensicLog[j].sessionId (left.forensicLog.take (j + 1)) < 2 ^ 31 :=
    lt_of_le_of_lt (List.take_sublist _ _).countP_le (hbound _)
  apply responseTier_mono
  rw [Int32.le_iff_toInt_le, Int32.toInt_ofNat_of_lt (by omega),
    Int32.toInt_ofNat_of_lt (by omega)]
  exact_mod_cast hearlier

/-- While the counters do not wrap, everything is in step. -/
theorem Records.orderly_iff {calls : List ServeCall} {left : ActiveResponse}
    (hrecords : Records calls left) :
    Orderly calls left ↔ ∀ sid, served sid calls < 2 ^ 31 := by
  have hserved := eventsOf_eq_served hrecords.inOrder
  constructor
  · intro horderly sid
    have hcounted := horderly.counted sid
    have hlimit := (left.sessionInteractionCount sid).toInt_lt
    rw [hserved] at hcounted
    omega
  · intro hbound
    refine ⟨hrecords.inOrder, hrecords.tier, hrecords.rising fun sid => ?_, fun sid => ?_⟩
    · rw [hserved]
      exact hbound sid
    · rw [hrecords.counted, hserved, Int32.toInt_ofNat_of_lt (hbound sid)]

variable {Thread : Type} [DecidableEq Thread]

/-- A section of `serve` adds one entry, and one in front of it for a listed hint. -/
def Audited (t : Transition (Config Thread (ActiveResponse × σ) ServeCall)
    (Event Thread ServeCall Int64)) : Prop :=
  ∀ thread call now, t.label = .complete thread call now →
    ∃ correlations : List ByteString, ∃ payload : ByteString,
      correlations.length =
        (if (sampleIocs.map IocEntry.indicator).contains call.iocHint then 1 else 0) ∧
      t.after.shared.2 =
        (auditAdder "active_response_served" payload
          (correlations.foldl (fun world p => (auditAdder "ioc_correlation_match" p world).2)
            t.before.shared.2)).2

theorem step_audited {t : Transition (Config Thread (ActiveResponse × σ) ServeCall)
    (Event Thread ServeCall Int64)}
    (hstep : Step (serveSection auditAdder) t.before t.label t.after) :
    Audited auditAdder t := by
  rintro thread call now hlabel
  obtain ⟨before, label, after⟩ := t
  subst hlabel
  cases hstep with
  | complete _ =>
      exact ActiveResponse.serve_entries auditAdder now call.sessionId call.resource
        call.iocHint _ _

/-- The calls that a run has finished, in the order of their sections. -/
def servedCalls (steps : List (Transition (Config Thread (ActiveResponse × σ) ServeCall)
    (Event Thread ServeCall Int64))) : List ServeCall :=
  (completed steps).map fun call => call.2.1

theorem trace_records {world : σ} {programs : Thread → List ServeCall}
    {steps : List (Transition (Config Thread (ActiveResponse × σ) ServeCall)
      (Event Thread ServeCall Int64))}
    {config : Config Thread (ActiveResponse × σ) ServeCall}
    (htrace : Trace (system (serveSection auditAdder) ({}, world) programs) steps config) :
    Records (servedCalls steps) config.shared.1 := by
  have hrecords := foldl_serveSection_records auditAdder ((completed steps).map Prod.snd) world
  rw [List.foldl_map, List.map_map] at hrecords
  rw [shared_eq_foldl htrace]
  exact hrecords

/-- Whatever threads serve whatever sessions, the response is in step with the calls exactly as
long as no session has been served more often than a counter can hold. -/
theorem trace_orderly_iff (world : σ) (programs : Thread → List ServeCall)
    {steps : List (Transition (Config Thread (ActiveResponse × σ) ServeCall)
      (Event Thread ServeCall Int64))}
    {config : Config Thread (ActiveResponse × σ) ServeCall}
    (htrace : Trace (system (serveSection auditAdder) ({}, world) programs) steps config) :
    (Orderly (servedCalls steps) config.shared.1 ∧ ∀ t ∈ steps, Audited auditAdder t) ↔
      ∀ sid, served sid (servedCalls steps) < 2 ^ 31 := by
  rw [← (trace_records auditAdder htrace).orderly_iff]
  exact and_iff_left fun t ht => step_audited auditAdder (htrace.step_of_mem ht)

end Runs

section Samples

def probe : ServeCall := ⟨"session-A", "decoy/credentials/.aws/credentials", ""⟩

def correlated : ServeCall := ⟨"session-B", "decoy/server-02/etc/hostname", "10.0.0.55"⟩

/-- One thread that serves the same call again and again. -/
def probing (n : Nat) : Unit → List ServeCall :=
  fun _ => List.replicate n probe

theorem exists_probes (n : Nat) :
    ∃ steps config, Trace (system (serveSection noteEntry) ({}, []) (probing n)) steps config ∧
      servedCalls steps = List.replicate n probe := by
  have hstart : Trace (system (serveSection noteEntry) ({}, []) (probing n)) []
      ⟨({}, []), none, probing n⟩ := .start rfl
  have hnext : probing n () =
      (List.replicate n (probe, (0 : Int64))).map Prod.fst ++ [] := by simp [probing]
  obtain ⟨steps, htrace, hcompleted⟩ := exists_sections _ hstart hnext
  refine ⟨steps, _, htrace, ?_⟩
  rw [servedCalls, hcompleted]
  simp [completed]

/-- The counter of a session that has been served 2147483648 times is negative. -/
theorem longest_session_not_orderly :
    ∃ steps config, Trace (system (serveSection noteEntry) ({}, []) (probing (2 ^ 31))) steps
        config ∧
      ¬ Orderly (servedCalls steps) config.shared.1 := by
  obtain ⟨steps, config, htrace, hcalls⟩ := exists_probes (2 ^ 31)
  refine ⟨steps, config, htrace, fun horderly => ?_⟩
  have hserved := (trace_records noteEntry htrace).orderly_iff.mp horderly probe.sessionId
  rw [hcalls, served, List.countP_replicate, if_pos (by simp)] at hserved
  exact absurd hserved (lt_irrefl _)

/-- Two threads with one session each. -/
def twoSessions : Bool → List ServeCall :=
  fun thread => if thread then [probe] else [correlated]

theorem two_sessions_orderly :
    ∃ steps config, Trace (system (serveSection noteEntry) ({}, []) twoSessions) steps config ∧
      servedCalls steps = [correlated, probe] ∧
      Orderly (servedCalls steps) config.shared.1 := by
  have hstart : Trace (system (serveSection noteEntry) ({}, []) twoSessions) []
      ⟨({}, []), none, twoSessions⟩ := .start rfl
  obtain ⟨first, hfirst, hcalls⟩ :=
    exists_section 1750000000000 hstart (show twoSessions false = [correlated] from rfl)
  obtain ⟨steps, htrace, hcompleted⟩ :=
    exists_section 1750000000001 hfirst
      (show Function.update twoSessions false [] true = [probe] from rfl)
  have hserved : servedCalls steps = [correlated, probe] := by
    rw [servedCalls, hcompleted, hcalls]
    rfl
  refine ⟨steps, _, htrace, hserved, ((trace_orderly_iff noteEntry [] _ htrace).mpr ?_).1⟩
  intro sid
  rw [hserved]
  exact lt_of_le_of_lt List.countP_le_length (by decide)

end Samples

end Astartis.Response
