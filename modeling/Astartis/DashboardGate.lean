import Astartis.DashboardServer

/-!
The token gate.  Routing, header search and comparison work on the collected bytes, and what
the comparison takes for the token is a part of these.
-/

namespace Astartis.Dashboard

open ByteString
open SegmentedStream

section Token

theorem substr_infix (s : ByteString) (pos count : Nat) : substr s pos count <:+: s :=
  (List.take_prefix count (s.drop pos)).isInfix.trans (List.drop_suffix pos s).isInfix

theorem occurs_of_headerValue {name raw val : ByteString}
    (hvalue : headerValue name raw = .text val) : val <:+: raw := by
  simp only [headerValue] at hvalue
  split at hvalue
  · exact absurd hvalue (by simp)
  · split at hvalue
    · exact absurd hvalue (by simp)
    · obtain rfl := HeaderValue.text.inj hvalue
      exact substr_infix raw _ _

theorem reverse_dropWhile_starts (p : UInt8 → Bool) (s : ByteString) :
    (s.reverse.dropWhile p).reverse <+: s := by
  have hsuffix : s.reverse.dropWhile p <:+ s.reverse := List.dropWhile_suffix p
  rwa [← List.reverse_prefix, List.reverse_reverse] at hsuffix

/-- Only a request with the token in it passes. -/
theorem token_occurs_of_checkToken {token request : ByteString}
    (h : checkToken token request = true) : token <:+: request := by
  simp only [checkToken] at h
  split at h
  · rename_i val hvalue
    have hval : val.dropWhile isBlank <:+: request :=
      (List.dropWhile_suffix isBlank).isInfix.trans (occurs_of_headerValue hvalue)
    split at h
    · exact absurd h (by simp)
    · split at h
      · exact of_decide_eq_true h ▸ hval
      · have htrimmed := of_decide_eq_true h
        rw [← htrimmed]
        exact (reverse_dropWhile_starts _ _).isInfix.trans hval
  · exact absurd h (by simp)

end Token

/-- No process, no file, no callback. -/
structure NoEffect (outcome : Outcome) : Prop where
  started : outcome.started = []
  written : outcome.written = []
  notified : outcome.notified = []

section Handlers

variable (host : Host) (self : Server)

theorem sendJson_noEffect (status : Nat) (value : Json) :
    NoEffect (sendJson host status value) := by
  simp only [sendJson]
  split
  · exact ⟨rfl, rfl, rfl⟩
  · exact ⟨rfl, rfl, rfl⟩

theorem sendError_noEffect (status : Nat) (msg : ByteString) :
    NoEffect (sendError host status msg) :=
  sendJson_noEffect host status _

theorem sendContent_noEffect (contentType content : ByteString) (addCors : Bool) :
    NoEffect (sendContent contentType content addCors) :=
  ⟨rfl, rfl, rfl⟩

/-- Most handlers send a file, or something else where it is missing. -/
theorem readFile_noEffect {file : Option ByteString} {missing : Outcome}
    {found : ByteString → Outcome} (hmissing : NoEffect missing)
    (hfound : ∀ content, NoEffect (found content)) :
    NoEffect (match file with
      | none => missing
      | some content => found content) := by
  cases file with
  | none => exact hmissing
  | some content => exact hfound content

/-- The handlers without a check of the token only answer. -/
theorem handle_noEffect {endpoint : Endpoint} (hguarded : endpoint.isGuarded = false)
    (path body : ByteString) : NoEffect (handle host self path body endpoint) := by
  cases endpoint with
  | corsPreflight => exact ⟨rfl, rfl, rfl⟩
  | health => exact sendJson_noEffect host _ _
  | index =>
      exact readFile_noEffect (sendError_noEffect host _ _) fun _ => sendContent_noEffect _ _ _
  | dataJson =>
      exact readFile_noEffect (sendError_noEffect host _ _) fun _ => sendContent_noEffect _ _ _
  | npcapResult =>
      exact readFile_noEffect (sendJson_noEffect host _ _) fun _ => sendContent_noEffect _ _ _
  | static =>
      exact readFile_noEffect (sendError_noEffect host _ _) fun _ => sendContent_noEffect _ _ _
  | notFound => exact sendError_noEffect host _ _
  | exec => exact absurd hguarded (by simp [Endpoint.isGuarded])
  | npcapVerify => exact absurd hguarded (by simp [Endpoint.isGuarded])
  | configGet => exact absurd hguarded (by simp [Endpoint.isGuarded])
  | configPost => exact absurd hguarded (by simp [Endpoint.isGuarded])

end Handlers

def guardedPaths : List ByteString :=
  ["/exec", "/npcap_verify", "/config"]

/-- On these paths there are guarded endpoints, the preflight answer and nothing else. -/
theorem route_guardedPaths {line : RequestLine} (hpath : line.path ∈ guardedPaths) :
    route line = .notFound ∨ (route line).isGuarded = true ∨
      (line.method = ("OPTIONS" : ByteString) ∧ route line = .corsPreflight) := by
  have hother : ∀ path : ByteString, path ∉ guardedPaths → line.path ≠ path := by
    rintro path hnot rfl
    exact hnot hpath
  by_cases hoptions : line.method = ("OPTIONS" : ByteString)
  · exact .inr (.inr ⟨hoptions, by simp only [route, hoptions, if_true]⟩)
  · simp only [route, hoptions, if_false, hother "/health" (by decide), hother "/" (by decide),
      hother "/index.html" (by decide), hother "/dashboard_data.json" (by decide),
      hother "/npcap_verify_result.json" (by decide), hother "/style.css" (by decide),
      hother "/script.js" (by decide), decide_false, Bool.and_false, Bool.or_false,
      Bool.false_eq_true]
    split
    · exact .inr (.inl rfl)
    · split
      · exact .inr (.inl rfl)
      · split
        · exact .inr (.inl rfl)
        · split
          · exact .inr (.inl rfl)
          · exact .inl rfl

def AnsweredWithError (host : Host) (outcome : Outcome) : Prop :=
  ∃ status msg, 400 ≤ status ∧ status < 600 ∧ outcome = sendError host status msg

section Gate

variable (host : Host) (server : Server) (socket : Source UInt8)

def Tokenless : Prop :=
  ¬ server.token <:+: (readHeaders socket).1

/-- Of a guarded path the client learns an error, besides the answers in `others`. -/
structure GateClosed (others : RequestLine → Option Answer) : Prop where
  noEffect : NoEffect (handleConnection host server socket)
  answer : ∀ line, requestLine (readHeaders socket).1 = some line → line.path ∈ guardedPaths →
    AnsweredWithError host (handleConnection host server socket) ∨
      ∃ other, others line = some other ∧
        handleConnection host server socket = { answer := some other }

/-- The answer to a preflight request has no content. -/
def preflightOnly (line : RequestLine) : Option Answer :=
  if line.method = ("OPTIONS" : ByteString) then some .preflight else none

variable {server socket}

/-- Without the token a connection ends before a guarded handler. -/
theorem dispatch_tokenless (htokenless : Tokenless server socket) {endpoint : Endpoint}
    {path body : ByteString}
    (hdispatch : dispatch server.token socket = .handler endpoint path body) :
    ∃ line, requestLine (readHeaders socket).1 = some line ∧ route line = endpoint ∧
      endpoint ≠ .notFound ∧ endpoint.isGuarded = false := by
  have hcheck : checkToken server.token (readHeaders socket).1 = false := by
    rw [Bool.eq_false_iff]
    exact fun h => htokenless (token_occurs_of_checkToken h)
  simp only [dispatch] at hdispatch
  split at hdispatch
  · exact absurd hdispatch (by simp)
  · rename_i line hline
    split at hdispatch
    · exact absurd hdispatch (by simp)
    · rename_i hfound
      simp only [hcheck, Bool.not_false, Bool.and_true] at hdispatch
      split at hdispatch
      · exact absurd hdispatch (by simp)
      · rename_i hguarded
        split at hdispatch
        · exact absurd hdispatch (by simp)
        · obtain ⟨rfl, -, -⟩ := Dispatch.handler.inj hdispatch
          exact ⟨line, hline, rfl, hfound, by simpa using hguarded⟩

/-- What a refusal without the token says. -/
theorem dispatch_refused {token : ByteString} {status : Nat} {msg : ByteString}
    (hdispatch : dispatch token socket = .refused status msg) : 400 ≤ status ∧ status < 600 := by
  simp only [dispatch] at hdispatch
  split at hdispatch
  · exact absurd hdispatch (by simp)
  · split at hdispatch
    · obtain ⟨rfl, -⟩ := Dispatch.refused.inj hdispatch
      omega
    · split at hdispatch
      · obtain ⟨rfl, -⟩ := Dispatch.refused.inj hdispatch
        omega
      · split at hdispatch
        · obtain ⟨rfl, -⟩ := Dispatch.refused.inj hdispatch
          omega
        · exact absurd hdispatch (by simp)

theorem dispatch_closed {token : ByteString} (hdispatch : dispatch token socket = .closed) :
    requestLine (readHeaders socket).1 = none := by
  simp only [dispatch] at hdispatch
  split at hdispatch
  · assumption
  · split at hdispatch
    · exact absurd hdispatch (by simp)
    · split at hdispatch
      · exact absurd hdispatch (by simp)
      · split at hdispatch
        · exact absurd hdispatch (by simp)
        · exact absurd hdispatch (by simp)

theorem gateClosed_of_tokenless (host : Host) (server : Server) (socket : Source UInt8)
    (htokenless : Tokenless server socket) : GateClosed host server socket preflightOnly := by
  cases hdispatch : dispatch server.token socket with
  | closed =>
      refine ⟨by simpa only [handleConnection, hdispatch] using ⟨rfl, rfl, rfl⟩, ?_⟩
      intro line hline
      exact absurd hline (by rw [dispatch_closed hdispatch]; simp)
  | refused status msg =>
      have hconnection : handleConnection host server socket = sendError host status msg := by
        simp only [handleConnection, hdispatch]
      have hstatus := dispatch_refused hdispatch
      refine ⟨hconnection ▸ sendError_noEffect host status msg, fun line _ _ => .inl ?_⟩
      exact ⟨status, msg, hstatus.1, hstatus.2, hconnection⟩
  | handler endpoint path body =>
      obtain ⟨line, hline, hroute, hfound, hguarded⟩ := dispatch_tokenless htokenless hdispatch
      have hconnection : handleConnection host server socket =
          handle host server path body endpoint := by
        simp only [handleConnection, hdispatch]
      refine ⟨hconnection ▸ handle_noEffect host server hguarded path body, ?_⟩
      intro line' hline' hpath
      obtain rfl := Option.some.inj (hline.symm.trans hline')
      rcases route_guardedPaths hpath with h | h | ⟨hoptions, h⟩
      · exact absurd (hroute.symm.trans h) hfound
      · exact absurd h (by rw [hroute, hguarded]; simp)
      · obtain rfl := hroute.symm.trans h
        exact .inr ⟨.preflight, by simp only [preflightOnly, hoptions, if_true], hconnection⟩

def configRequest : ByteString :=
  .ofLiterals ["POST /config HTTP/1.0\r\n", "X-Astartis-Token: 0000\r\n",
    "Content-Length: 4\r\n\r\n", "null"]

theorem configRequest_refused :
    GateClosed (sampleHost "null" .null "null") sampleServer ⟨configRequest, []⟩ preflightOnly :=
  gateClosed_of_tokenless _ _ _ (by
    rw [Tokenless, ← findText_isSome_iff]
    decide +kernel)

def preflightRequest : ByteString :=
  "OPTIONS /exec HTTP/1.0\r\n\r\n"

/-- The answer to a preflight request is no error. -/
theorem preflight_answered :
    Tokenless sampleServer ⟨preflightRequest, []⟩ ∧
      ¬ GateClosed (sampleHost "null" .null "null") sampleServer ⟨preflightRequest, []⟩
        fun _ => none := by
  have hconnection : handleConnection (sampleHost "null" .null "null") sampleServer
      ⟨preflightRequest, []⟩ = { answer := some .preflight } := by decide +kernel
  refine ⟨by rw [Tokenless, ← findText_isSome_iff]; decide +kernel, fun hclosed => ?_⟩
  have hline : requestLine (readHeaders ⟨preflightRequest, []⟩).1 =
      some ⟨"OPTIONS", "/exec"⟩ := by decide +kernel
  rcases hclosed.answer _ hline (by decide) with ⟨status, msg, -, -, herror⟩ | ⟨_, hother, -⟩
  · rw [hconnection] at herror
    simp only [sendError, sendJson] at herror
    split at herror
    · exact absurd (congrArg Outcome.answer herror) (by simp)
    · exact absurd (congrArg Outcome.answer herror) (by simp)
  · exact absurd hother (by simp)

end Gate

end Astartis.Dashboard
