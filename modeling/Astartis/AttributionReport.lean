import Astartis.ActiveResponse
import Astartis.Attribution
import Astartis.PathAppend

/-!
The attribution report of a session: what the logs of the decoys and of the active response say
about it, summed up and written to a file below the sandbox.
-/

namespace Astartis.Attribution

open Audit
open ByteString
open Decoy
open LexicalPath
open Response

structure IocHit where
  indicator : ByteString
  type : ByteString
  description : ByteString
  source : ByteString
  timestampMs : Int64
deriving DecidableEq

structure ReportArtifact where
  sessionId : ByteString
  sessionStartMs : Int64
  sessionEndMs : Int64
  totalInteractions : Int32
  techniques : List AttackTechnique
  iocHits : List IocHit
  decoyEvents : List DecoyEvent
  responseEvents : List ResponseEvent
  summary : ByteString
  reportFilePath : ByteString
deriving DecidableEq

section Timestamps

/-- `std::setw(width)` with fill `0`. -/
def zeroFill (width : Nat) (text : ByteString) : ByteString :=
  List.replicate (width - text.length) 48 ++ text

/-- The year, month and day of a number of days since 1970-01-01. -/
def civilDate (days : Int) : Int × Int × Int :=
  -- the era has 400 years from March on, so that a leap day comes last
  let shifted := days + 719468
  let era := shifted / 146097
  let dayOfEra := shifted % 146097
  let yearOfEra :=
    (dayOfEra - dayOfEra / 1460 + dayOfEra / 36524 - dayOfEra / 146096) / 365
  let dayOfYear := dayOfEra - (365 * yearOfEra + yearOfEra / 4 - yearOfEra / 100)
  let shiftedMonth := (5 * dayOfYear + 2) / 153
  let day := dayOfYear - (153 * shiftedMonth + 2) / 5 + 1
  let month := if shiftedMonth < 10 then shiftedMonth + 3 else shiftedMonth - 9
  let year := yearOfEra + era * 400 + if month ≤ 2 then 1 else 0
  (year, month, day)

/-- `gmtime` and `strftime`, with the milliseconds behind. -/
def formatTimestamp (ms : Int64) : ByteString :=
  let sec := ms.toInt.tdiv 1000
  let msPart := ms.toInt.tmod 1000
  let (year, month, day) := civilDate (sec / 86400)
  let ofDay := sec % 86400
  let two := fun n : Int => zeroFill 2 (decimal n)
  decimal year ++ ("-" : ByteString) ++ two month ++ ("-" : ByteString) ++ two day ++
    ("T" : ByteString) ++ two (ofDay / 3600) ++ (":" : ByteString) ++
    two (ofDay % 3600 / 60) ++ (":" : ByteString) ++ two (ofDay % 60) ++
    ("." : ByteString) ++ zeroFill 3 (decimal msPart) ++ ("Z" : ByteString)

example : formatTimestamp 1750000000007 = ("2025-06-15T15:06:40.007Z" : ByteString) := by
  decide +kernel

end Timestamps

section ReportText

def doubleRule : ByteString :=
  List.replicate 80 61 ++ ("\n" : ByteString)

def heading (title : ByteString) : ByteString :=
  let rule := List.replicate 80 45 ++ ("\n" : ByteString)
  rule ++ ("  " : ByteString) ++ title ++ ("\n" : ByteString) ++ rule

def techniqueText (t : AttackTechnique) : ByteString :=
  ("  [" : ByteString) ++ t.techniqueId ++ ("]  " : ByteString) ++ t.name ++
    ("  (" : ByteString) ++ t.tactic ++ (")\n" : ByteString) ++
    ("    Evidence: " : ByteString) ++ t.evidence ++ ("\n" : ByteString)

def iocHitText (h : IocHit) : ByteString :=
  ("  [" : ByteString) ++ h.type ++ ("]  " : ByteString) ++ h.indicator ++
    ("\n    " : ByteString) ++ h.description ++ ("  (source: " : ByteString) ++ h.source ++
    (")\n    Observed at: " : ByteString) ++ formatTimestamp h.timestampMs ++
    ("\n" : ByteString)

def decoyEventText (ev : DecoyEvent) : ByteString :=
  ("  " : ByteString) ++ formatTimestamp ev.timestampMs ++ ("  [" : ByteString) ++
    poisonTypeName ev.poisonType ++ ("]  " : ByteString) ++ ev.action ++
    ("  " : ByteString) ++ ev.relPath ++ ("\n" : ByteString)

def responseEventText (ev : ResponseEvent) : ByteString :=
  ("  " : ByteString) ++ formatTimestamp ev.timestampMs ++ ("  tier=" : ByteString) ++
    decimal ev.responseTier.toInt ++ ("  " : ByteString) ++ ev.resource ++
    (if ev.iocMatch then
      ("  [IOC HIT: " : ByteString) ++ ev.iocIndicator ++ ("]" : ByteString)
    else []) ++ ("\n" : ByteString)

def buildReportText (r : ReportArtifact) : ByteString :=
  doubleRule ++ ("  ASTARTIS ATTRIBUTION REPORT\n" : ByteString) ++
    ("  DIBANET Layer 4 -- Decoy Session Analysis\n" : ByteString) ++ doubleRule ++
    ("\nSession ID      : " : ByteString) ++ r.sessionId ++
    ("\nSession Start   : " : ByteString) ++ formatTimestamp r.sessionStartMs ++
    ("\nSession End     : " : ByteString) ++ formatTimestamp r.sessionEndMs ++
    ("\nTotal Interactions: " : ByteString) ++ decimal r.totalInteractions.toInt ++
    ("\n\n" : ByteString) ++ heading "MITRE ATT&CK TECHNIQUE MATCHES" ++
    (if r.techniques = [] then ("  (no techniques matched)\n" : ByteString)
    else r.techniques.flatMap techniqueText) ++
    ("\n" : ByteString) ++ heading "IOC CORRELATION RESULTS" ++
    (if r.iocHits = [] then ("  (no IOC matches)\n" : ByteString)
    else r.iocHits.flatMap iocHitText) ++
    ("\n" : ByteString) ++ heading "DECOY INTERACTION TIMELINE" ++
    r.decoyEvents.flatMap decoyEventText ++
    ("\n" : ByteString) ++ heading "RESPONSE TIER PROGRESSION" ++
    r.responseEvents.flatMap responseEventText ++
    ("\n" : ByteString) ++ heading "SUMMARY" ++ r.summary ++ ("\n\n" : ByteString) ++
    doubleRule ++ ("  Generated by Astartis -- DIBANET Layer 4\n" : ByteString) ++ doubleRule

end ReportText

/-- The systems whose paths the standard library reads. -/
inductive FileSystem
  | posix
  | windows
deriving DecidableEq

namespace FileSystem

def isWindowsSeparator (b : UInt8) : Bool :=
  b = 47 || b = 92

def isLetter (b : UInt8) : Bool :=
  (65 ≤ b && b ≤ 90) || (97 ≤ b && b ≤ 122)

/-- What stands behind the two bytes of an object name `\??\`. -/
def isObjectName : ByteString → Bool
  | third :: fourth :: behind =>
      third = 63 && isWindowsSeparator fourth && !behind.head?.any isWindowsSeparator
  | _ => false

/-- A drive `C:`, a server `\\host`, or `\??` in front of an object name. -/
def windowsRootName : ByteString → ByteString
  | first :: second :: rest =>
      if isLetter first && second = 58 then [first, second]
      else if isWindowsSeparator first && isWindowsSeparator second &&
          rest.head?.any fun b => !isWindowsSeparator b then
        first :: second :: rest.takeWhile fun b => !isWindowsSeparator b
      else if isWindowsSeparator first && second = 63 && isObjectName rest then
        [first, second, 63]
      else []
  | _ => []

def grammar : FileSystem → Grammar UInt8
  | posix =>
      { isSeparator := fun b => b = 47
        here := [46]
        here_plain := by simp
        preferred := 47
        rootName := fun _ => []
        selfAbsolute := fun _ => false
        needsName := false }
  | windows =>
      { isSeparator := isWindowsSeparator
        here := [46]
        here_plain := by simp [isWindowsSeparator]
        preferred := 92
        rootName := windowsRootName
        selfAbsolute := fun name => name.head?.any isWindowsSeparator
        needsName := true }

end FileSystem

/-- `fs::path(sandbox_root_) / "reports"` -/
def reportsDir (fs : FileSystem) (sandboxRoot : ByteString) : ByteString :=
  fs.grammar.append sandboxRoot "reports"

def reportFile (fs : FileSystem) (sandboxRoot sessionId : ByteString) : ByteString :=
  fs.grammar.append (reportsDir fs sandboxRoot) (sessionId ++ (".txt" : ByteString))

/-- The path that a file is opened by: the stream hands its `c_str()` on. -/
def openedPath (path : ByteString) : ByteString :=
  path.takeWhile (· ≠ 0)

section Generate

/-- The smallest and the largest timestamp so far. -/
def noteTime (times : Int64 × Int64) (timestampMs : Int64) : Int64 × Int64 :=
  (if timestampMs < times.1 then timestampMs else times.1,
    if times.2 < timestampMs then timestampMs else times.2)

/-- `t_min` and `t_max`. -/
def sessionTimes (now : Int64) (decoyEvents : List DecoyEvent)
    (responseEvents : List ResponseEvent) : Int64 × Int64 :=
  let times := decoyEvents.foldl (fun times ev => noteTime times ev.timestampMs)
    (Int64.maxValue, Int64.minValue)
  let times := responseEvents.foldl (fun times ev => noteTime times ev.timestampMs) times
  if times.1 = Int64.maxValue then (now, now) else times

def isIpText (indicator : ByteString) : Bool :=
  indicator.contains 46 && indicator.all fun b => (48 ≤ b && b ≤ 57) || b = 46

def iocHit (ev : ResponseEvent) : IocHit where
  indicator := ev.iocIndicator
  type := if isIpText ev.iocIndicator then "IP_ADDRESS" else "DOMAIN"
  description := "IOC match observed in session"
  source := "Astartis IOC database"
  timestampMs := ev.timestampMs

def maxTier (responseEvents : List ResponseEvent) : Int32 :=
  responseEvents.foldl
    (fun tier ev => if tier < ev.responseTier then ev.responseTier else tier) 0

def listText (texts : List ByteString) : ByteString :=
  (texts.intersperse (", " : ByteString)).flatten

def summaryText (sessionId : ByteString) (totalInteractions : Int32)
    (decoyEvents : List DecoyEvent) (techniques : List AttackTechnique)
    (iocHits : List IocHit) (responseEvents : List ResponseEvent) : ByteString :=
  ("Attacker session '" : ByteString) ++ sessionId ++
    ("' interacted with the decoy environment " : ByteString) ++
    decimal totalInteractions.toInt ++ (" time(s) across " : ByteString) ++
    decimal decoyEvents.length ++ (" distinct poisoned asset(s). " : ByteString) ++
    (if techniques = [] then []
    else
      decimal techniques.length ++
        (" MITRE ATT&CK technique(s) were observed: " : ByteString) ++
        listText (techniques.map fun t =>
          t.techniqueId ++ (" (" : ByteString) ++ t.name ++ (")" : ByteString)) ++
        (". " : ByteString)) ++
    (if iocHits = [] then []
    else
      decimal iocHits.length ++ (" IOC match(es) were recorded: " : ByteString) ++
        listText (iocHits.map IocHit.indicator) ++ (". " : ByteString)) ++
    ("The attacker reached response tier " : ByteString) ++
    decimal (maxTier responseEvents).toInt ++
    (" (0=full response, 3=honeypot loop). " : ByteString) ++
    ("All interactions were contained within the sandbox. " : ByteString) ++
    ("No real system data was exposed." : ByteString)

def decoyEventsOf (sessionId : ByteString) (decoyLog : List DecoyEvent) : List DecoyEvent :=
  decoyLog.filter fun ev => ev.attackerTag = sessionId

def responseEventsOf (sessionId : ByteString) (responseLog : List ResponseEvent) :
    List ResponseEvent :=
  responseLog.filter fun ev => ev.sessionId = sessionId

/-- The artifact that `generate` returns, with what the clock reads if it is asked. -/
def artifactOf (fs : FileSystem) (sandboxRoot : ByteString) (now : Int64)
    (sessionId : ByteString) (decoyLog : List DecoyEvent) (responseLog : List ResponseEvent) :
    ReportArtifact :=
  let decoyEvents := decoyEventsOf sessionId decoyLog
  let responseEvents := responseEventsOf sessionId responseLog
  let totalInteractions := Int32.ofNat responseEvents.length
  let times := sessionTimes now decoyEvents responseEvents
  let techniques := reportTechniques decoyEvents
  let iocHits := (responseEvents.filter ResponseEvent.iocMatch).map iocHit
  { sessionId
    sessionStartMs := times.1
    sessionEndMs := times.2
    totalInteractions
    techniques
    iocHits
    decoyEvents
    responseEvents
    summary :=
      summaryText sessionId totalInteractions decoyEvents techniques iocHits responseEvents
    reportFilePath := reportFile fs sandboxRoot sessionId }

/-- The clock, and how the calls of the file system end: `create_directories` may throw, and the
file may not open. -/
structure Environment where
  now : Int64
  directoriesCreated : Bool
  fileOpened : Bool

/-- What a report leaves behind: its artifact, and the file that it has replaced with its
content. -/
structure Generated where
  artifact : ReportArtifact
  written : Option (ByteString × ByteString)

variable {σ : Type} (auditAdder : AuditAdder σ)

def generate (fs : FileSystem) (sandboxRoot : ByteString) (env : Environment)
    (sessionId : ByteString) (decoyLog : List DecoyEvent) (responseLog : List ResponseEvent)
    (world : σ) : Option Generated × σ :=
  let r := artifactOf fs sandboxRoot env.now sessionId decoyLog responseLog
  if env.directoriesCreated then
    (some ⟨r, if env.fileOpened then some (openedPath r.reportFilePath, buildReportText r)
        else none⟩,
      (auditAdder "attribution_report_generated"
        (("session=" : ByteString) ++ sessionId ++ (" techniques=" : ByteString) ++
          decimal r.techniques.length ++ (" ioc_hits=" : ByteString) ++
          decimal r.iocHits.length ++ (" interactions=" : ByteString) ++
          decimal r.totalInteractions.toInt ++ (" file=" : ByteString) ++ r.reportFilePath)
        world).2)
  else (none, world)

end Generate

end Astartis.Attribution
