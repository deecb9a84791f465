import Astartis.DashboardServer
import Astartis.DashboardWriter
import Astartis.SharedFile
import Astartis.TransitionSystem

/-!
The data file of the dashboard between the thread that writes it and the connections that
serve it.
-/

namespace Astartis.Dashboard

open Files
open TransitionSystem

/-- The bytes that a stream opened in text mode writes. -/
def textMode (text : ByteString) : ByteString :=
  text.flatMap fun b => if b = 10 then [13, 10] else [b]

abbrev DataFile := SharedFile UInt8 Nat

/-- The steps of `write_json` on the file, and of the `serve_data_json` of a connection.  The
file may fail to open. -/
inductive DataFileCall
  | writeJson (data : DashboardData) (timestamp : ByteString) (opens : Bool)
  | append (count : Nat)
  | close
  | serveDataJson (connection : Nat) (opens : Bool)
  | read (connection count : Nat)
  | respond (connection : Nat)

section

variable (host : Host) (server : Server)

/-- The bytes of a snapshot, `none` where it cannot be serialized. -/
def snapshot? (data : DashboardData) (timestamp : ByteString) : Option ByteString :=
  (host.dumpIndented (data.toJson timestamp)).map textMode

def IsSnapshot (document : ByteString) : Prop :=
  ∃ data timestamp, snapshot? host data timestamp = some document

def DataFileCall.action? : DataFileCall → Option (FileAction UInt8 Nat)
  | .writeJson data timestamp opens =>
      if opens then (snapshot? host data timestamp).map .truncate else none
  | .append count => some (.append count)
  | .close => some .close
  | .serveDataJson connection opens => if opens then some (.openReader connection) else none
  | .read connection count => some (.read connection count)
  | .respond connection => some (.finish connection)

def DataFileCall.run (file : DataFile) (call : DataFileCall) : DataFile :=
  match call.action? host with
  | none => file
  | some action => file.perform action

/-- The file is not there at the beginning, or it holds a snapshot that was written before. -/
def dataFileSystem : System DataFile DataFileCall where
  Init := fun file => file.writing = none ∧ (∀ connection, file.readers connection = none) ∧
    (∀ content, file.content = some content → content ∈ file.completed) ∧
    ∀ document ∈ file.completed, IsSnapshot host document
  Step := fun file call after => after = call.run host file

/-- What the connection answers, with what it has read for the content of the file. -/
def dataAnswer? (file : DataFile) : DataFileCall → Option Outcome
  | .serveDataJson _ opens =>
      if opens && file.content.isSome then none
      else some (serveDataJson { host with readFile := fun _ => none } server)
  | .respond connection =>
      (file.finished? connection).map fun content =>
        serveDataJson { host with readFile := fun _ => some content } server
  | _ => none

/-- A snapshot is written only under connections that have read nothing else than its beginning,
it is written to its end, and no connection finds the end of a file that is being written. -/
def DataFileCall.Undisturbed (file : DataFile) (call : DataFileCall) : Prop :=
  ∀ action, call.action? host = some action → file.Undisturbed action

end

section

variable {host : Host} {server : Server}

theorem serveDataJson_unread {contentType body : ByteString} {addCors : Bool} :
    (serveDataJson { host with readFile := fun _ => none } server).answer ≠
      some (.response 200 contentType body addCors) := by
  simp only [serveDataJson, sendError, sendJson]
  split <;> simp

theorem serveDataJson_read {content contentType body : ByteString} {addCors : Bool}
    (hanswer : (serveDataJson { host with readFile := fun _ => some content } server).answer =
      some (.response 200 contentType body addCors)) : body = content := by
  simp only [serveDataJson, sendContent, Option.some.injEq, Answer.response.injEq] at hanswer
  exact hanswer.2.2.1.symm

theorem isSnapshot_of_truncate {call : DataFileCall} {document : ByteString}
    (haction : call.action? host = some (.truncate document)) : IsSnapshot host document := by
  cases call with
  | writeJson data timestamp opens =>
      simp only [DataFileCall.action?] at haction
      split at haction
      · obtain ⟨bytes, hbytes, hsame⟩ := Option.map_eq_some_iff.mp haction
        obtain rfl := FileAction.truncate.inj hsame
        exact ⟨data, timestamp, hbytes⟩
      · simp at haction
  | append count => simp [DataFileCall.action?] at haction
  | close => simp [DataFileCall.action?] at haction
  | serveDataJson connection opens => simp [DataFileCall.action?] at haction
  | read connection count => simp [DataFileCall.action?] at haction
  | respond connection => simp [DataFileCall.action?] at haction

theorem whole_of_trace {steps : List (Transition DataFile DataFileCall)} {file : DataFile}
    (htrace : Trace (dataFileSystem host) steps file)
    (hundisturbed : ∀ t ∈ steps, t.label.Undisturbed host t.before) :
    file.Whole ∧ file.Documents (IsSnapshot host) := by
  refine htrace.guarded_invariant
    (I := fun file => file.Whole ∧ file.Documents (IsSnapshot host))
    (G := fun file call => call.Undisturbed host file) ?_ ?_ hundisturbed
  · rintro file ⟨hclosed, hreaders, hcontent, hcompleted⟩
    exact ⟨.start hclosed hcontent hreaders, hcompleted, by simp [hclosed]⟩
  · rintro file call _ ⟨hwhole, hdocuments⟩ hguard rfl
    unfold DataFileCall.run
    cases haction : call.action? host with
    | none => exact ⟨hwhole, hdocuments⟩
    | some action =>
        refine ⟨hwhole.perform action (hguard action haction),
          hdocuments.perform action fun document hdocument => ?_⟩
        rw [hdocument] at haction
        exact isSnapshot_of_truncate haction

/-- In every run in which writes and connections do not disturb each other, every successful
answer is a snapshot that has been written to its end. -/
theorem dataJson_answers_whole {steps : List (Transition DataFile DataFileCall)}
    {final : DataFile} (htrace : Trace (dataFileSystem host) steps final)
    (hundisturbed : ∀ t ∈ steps, t.label.Undisturbed host t.before) :
    ∀ t ∈ steps, ∀ outcome contentType body addCors,
      dataAnswer? host server t.before t.label = some outcome →
      outcome.answer = some (.response 200 contentType body addCors) →
      body ∈ t.before.completed ∧ IsSnapshot host body := by
  intro t ht outcome contentType body addCors houtcome hanswer
  obtain ⟨before, after, rfl⟩ := List.append_of_mem ht
  obtain ⟨hwhole, hdocuments⟩ := whole_of_trace htrace.split.1
    fun u hu => hundisturbed u (by simp [hu])
  have hguard := hundisturbed t ht
  cases hlabel : t.label with
  | writeJson data timestamp opens => simp [hlabel, dataAnswer?] at houtcome
  | append count => simp [hlabel, dataAnswer?] at houtcome
  | close => simp [hlabel, dataAnswer?] at houtcome
  | read connection count => simp [hlabel, dataAnswer?] at houtcome
  | serveDataJson connection opens =>
      simp only [hlabel, dataAnswer?] at houtcome
      split at houtcome
      · simp at houtcome
      · obtain rfl := Option.some.inj houtcome
        exact absurd hanswer serveDataJson_unread
  | respond connection =>
      simp only [hlabel, dataAnswer?] at houtcome
      obtain ⟨content, hfinished, rfl⟩ := Option.map_eq_some_iff.mp houtcome
      obtain rfl := serveDataJson_read hanswer
      rw [hlabel] at hguard
      have hmem := hwhole.finished (hguard _ rfl) hfinished
      exact ⟨hmem, hdocuments.completed _ hmem⟩

end

def absentFile : DataFile := {}

theorem absentFile_init (host : Host) : (dataFileSystem host).Init absentFile :=
  ⟨rfl, fun _ => rfl, by simp [absentFile], by simp [absentFile]⟩

/-- `write_json` with everything written at once. -/
def writeCalls (data : DashboardData) (timestamp document : ByteString) : List DataFileCall :=
  [.writeJson data timestamp true, .append document.length, .close]

/-- A connection that reads the file after the write. -/
def servedCalls (data : DashboardData) (timestamp document : ByteString) : List DataFileCall :=
  writeCalls data timestamp document ++ [.serveDataJson 1 true, .read 1 document.length]

/-- A connection that is served between the truncation by a second write and its first piece. -/
def emptiedCalls (data : DashboardData) (timestamp document later : ByteString) :
    List DataFileCall :=
  writeCalls data timestamp document ++ [.writeJson data later true, .serveDataJson 1 true]

section

variable {host : Host} {data : DashboardData} {timestamp document later laterDocument : ByteString}

theorem servedCalls_run (hsnapshot : snapshot? host data timestamp = some document) :
    ((servedCalls data timestamp document).foldl (DataFileCall.run host) absentFile).finished? 1 =
      some document := by
  simp [servedCalls, writeCalls, DataFileCall.run, DataFileCall.action?, hsnapshot,
    SharedFile.perform, SharedFile.setReader, SharedFile.finished?, absentFile]

theorem servedCalls_undisturbed (hsnapshot : snapshot? host data timestamp = some document) :
    ∀ t ∈ execute (DataFileCall.run host) absentFile
        (servedCalls data timestamp document ++ [.respond 1]),
      t.label.Undisturbed host t.before := by
  simp [servedCalls, writeCalls, execute, DataFileCall.Undisturbed, DataFileCall.run,
    DataFileCall.action?, hsnapshot, SharedFile.perform, SharedFile.setReader,
    SharedFile.Undisturbed, absentFile]

theorem emptiedCalls_run (hsnapshot : snapshot? host data timestamp = some document)
    (hlater : snapshot? host data later = some laterDocument) :
    let file := (emptiedCalls data timestamp document later).foldl (DataFileCall.run host)
      absentFile
    file.finished? 1 = some [] ∧ file.completed = [document] := by
  simp [emptiedCalls, writeCalls, DataFileCall.run, DataFileCall.action?, hsnapshot, hlater,
    SharedFile.perform, SharedFile.setReader, SharedFile.finished?, absentFile]

/-- What a connection answers that has read the file to its end. -/
theorem exists_respond (server : Server) {calls : List DataFileCall} {content : ByteString}
    (hfinished : (calls.foldl (DataFileCall.run host) absentFile).finished? 1 = some content) :
    ∃ t ∈ execute (DataFileCall.run host) absentFile (calls ++ [.respond 1]),
      t.before = calls.foldl (DataFileCall.run host) absentFile ∧
      dataAnswer? host server t.before t.label =
        some (serveDataJson { host with readFile := fun _ => some content } server) := by
  have hlast := execute_concat (DataFileCall.run host) absentFile calls (.respond 1)
  refine ⟨_, hlast ▸ List.mem_append_right _ (List.mem_singleton_self _), rfl, ?_⟩
  simp only [dataAnswer?, hfinished, Option.map_some]

end

/-- A host whose library indents by two. -/
def indentingHost : Host :=
  { sampleHost "null" .null "null" with
    dumpIndented := fun j => if j.isUtf8 then some (j.indentedText 0) else none }

/-- The bytes of a snapshot of a dashboard without data. -/
def emptySnapshot (timestamp : ByteString) : ByteString :=
  textMode ((({} : DashboardData).toJson timestamp).indentedText 0)

theorem snapshot?_empty {timestamp : ByteString}
    (hutf8 : (({} : DashboardData).toJson timestamp).isUtf8 = true) :
    snapshot? indentingHost {} timestamp = some (emptySnapshot timestamp) := by
  simp [snapshot?, indentingHost, hutf8, emptySnapshot]

theorem textMode_ne_nil {text : ByteString} (htext : text ≠ []) : textMode text ≠ [] := by
  obtain ⟨b, rest, rfl⟩ := List.exists_cons_of_ne_nil htext
  rw [textMode, List.flatMap_cons]
  split <;> simp

theorem emptySnapshot_ne_nil (timestamp : ByteString) : emptySnapshot timestamp ≠ [] := by
  apply textMode_ne_nil
  intro hnil
  have hopening : ((({} : DashboardData).toJson timestamp).indentedText 0).head? = some 123 := rfl
  rw [hnil] at hopening
  simp at hopening

theorem served_whole :
    let document := emptySnapshot "2026-01-01T00:00:00.000Z"
    let calls := servedCalls {} "2026-01-01T00:00:00.000Z" document
    ∃ t ∈ execute (DataFileCall.run indentingHost) absentFile (calls ++ [.respond 1]), ∃ outcome,
      dataAnswer? indentingHost sampleServer t.before t.label = some outcome ∧
      outcome.answer = some (.response 200 "application/json" document true) ∧
      document ∈ t.before.completed ∧ IsSnapshot indentingHost document := by
  intro document calls
  have hsnapshot : snapshot? indentingHost {} "2026-01-01T00:00:00.000Z" = some document :=
    snapshot?_empty (by decide +kernel)
  obtain ⟨t, ht, -, hanswer⟩ := exists_respond sampleServer (servedCalls_run hsnapshot)
  exact ⟨t, ht, _, hanswer, rfl, dataJson_answers_whole
    (trace_execute_of absentFile (DataFileCall.run indentingHost) (absentFile_init _)
      fun _ _ _ => rfl)
    (servedCalls_undisturbed hsnapshot) t ht _ _ _ _ hanswer rfl⟩

theorem empty_document_served :
    let document := emptySnapshot "2026-01-01T00:00:00.000Z"
    let calls := emptiedCalls {} "2026-01-01T00:00:00.000Z" document "2026-01-01T00:00:03.000Z"
    let steps := execute (DataFileCall.run indentingHost) absentFile (calls ++ [.respond 1])
    (∃ final, Trace (dataFileSystem indentingHost) steps final) ∧
      ∃ t ∈ steps, ∃ outcome,
        dataAnswer? indentingHost sampleServer t.before t.label = some outcome ∧
        outcome.answer = some (.response 200 "application/json" [] true) ∧
        t.before.completed = [document] ∧ [] ∉ t.before.completed := by
  intro document calls steps
  obtain ⟨hfinished, hcompleted⟩ :
      (calls.foldl (DataFileCall.run indentingHost) absentFile).finished? 1 = some [] ∧
        (calls.foldl (DataFileCall.run indentingHost) absentFile).completed = [document] :=
    emptiedCalls_run (@snapshot?_empty "2026-01-01T00:00:00.000Z" (by decide +kernel))
      (@snapshot?_empty "2026-01-01T00:00:03.000Z" (by decide +kernel))
  obtain ⟨t, ht, hbefore, hanswer⟩ := exists_respond sampleServer hfinished
  refine ⟨⟨_, trace_execute_of absentFile (DataFileCall.run indentingHost) (absentFile_init _)
    fun _ _ _ => rfl⟩, t, ht, _, hanswer, rfl, hbefore ▸ hcompleted, ?_⟩
  rw [hbefore, hcompleted, List.mem_singleton]
  exact (emptySnapshot_ne_nil _).symm

end Astartis.Dashboard
