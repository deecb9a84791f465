import Astartis.ByteSearch
import Astartis.JsonText
import Astartis.SegmentedStream

/-!
The HTTP server of the dashboard.  `handle_connection` collects the request from the socket,
takes a decision on the collected bytes and hands over to a handler.
-/

namespace Astartis.Dashboard

open ByteString
open SegmentedStream

structure SafeCmd where
  pfx : ByteString
  needsCmdC : Bool
  needsPs : Bool
  description : ByteString
deriving DecidableEq

def safeCmds : List SafeCmd :=
  [⟨"ipconfig", false, false, "Display IP configuration for all adapters"⟩,
    ⟨"ping", false, false, "Test ICMP connectivity to a host"⟩,
    ⟨"arp", false, false, "Display ARP table (arp -a for all entries)"⟩,
    ⟨"nslookup", false, false, "DNS lookup for a hostname or IP"⟩,
    ⟨"tracert", false, false, "Trace route to a host"⟩,
    ⟨"pathping", false, false, "Combined ping + tracert with statistics"⟩,
    ⟨"netstat", false, false, "Display active TCP connections and ports"⟩,
    ⟨"route", false, false, "Display or modify IP routing table"⟩,
    ⟨"systeminfo", false, false, "Display detailed OS and hardware configuration"⟩,
    ⟨"hostname", false, false, "Display the machine hostname"⟩,
    ⟨"whoami", false, false, "Display current user name and domain"⟩,
    ⟨"getmac", false, false, "Display MAC addresses for all network adapters"⟩,
    ⟨"tasklist", false, false, "List all running processes"⟩,
    ⟨"netsh", false, false, "Network shell — use read-only show subcommands"⟩,
    ⟨"sc", true, false, "Service Control — sc query for service status"⟩,
    ⟨"wmic", false, false, "WMI queries — e.g. wmic os get Caption,Version"⟩,
    ⟨"ver", true, false, "Display Windows version string"⟩,
    ⟨"dir", true, false, "List directory contents"⟩,
    ⟨"echo", true, false, "Print text to output"⟩,
    ⟨"net", true, false, "Network commands — net use, net view (read-only)"⟩,
    ⟨"Get-", false, true,
      "PowerShell read-only cmdlets (Get-Process, Get-Service, etc.)"⟩]

/-! The request. -/

def blankLine : ByteString := "\r\n\r\n"

def lineEnd : ByteString := "\r\n"

/-- The loop of `handle_connection` stops behind the headers or past 64 KB. -/
def headersRead (raw : ByteString) : Bool :=
  (findText blankLine raw).isSome || 65536 < raw.length

def recvLimit : Nat := 4096 - 1

/-- What `handle_connection` collects in `raw`, and what is left in the socket. -/
def readHeaders (socket : Source UInt8) : ByteString × Source UInt8 :=
  Source.readUntil recvLimit headersRead socket.stream.length [] socket

/-- `std::isspace` in the default locale. -/
def isSpace (b : UInt8) : Bool :=
  b = 32 || (9 ≤ b && b ≤ 13)

def isBlank (b : UInt8) : Bool :=
  b = 32 || b = 9

/-- The next word that `>>` reads, and what is behind it. -/
def word (s : ByteString) : ByteString × ByteString :=
  let s := s.dropWhile isSpace
  (s.takeWhile fun b => !isSpace b, s.dropWhile fun b => !isSpace b)

structure RequestLine where
  method : ByteString
  path : ByteString
deriving DecidableEq

/-- The first line of a request, without the query string. -/
def requestLine (raw : ByteString) : Option RequestLine :=
  (findText lineEnd raw).map fun nl =>
    let (method, rest) := word (raw.take nl)
    let (path, _) := word rest
    { method := method, path := path.takeWhile (· ≠ 63) }

/-- How the first occurrence of a header name continues. -/
inductive HeaderValue
  | absent
  | unterminated
  | text (val : ByteString)
deriving DecidableEq

def headerValue (name raw : ByteString) : HeaderValue :=
  match findText name raw with
  | none => .absent
  | some pos =>
      match findText lineEnd (raw.drop pos) with
      | none => .unterminated
      | some eol => .text (substr raw (pos + name.length) (eol - name.length))

def isDigit (b : UInt8) : Bool :=
  48 ≤ b && b ≤ 57

/-- `std::stoul`, whose `unsigned long` has 32 bits.  A minus sign negates in it. -/
def stoul (s : ByteString) : Option Nat :=
  let s := s.dropWhile isSpace
  let negative : Bool := s.head? = some 45
  let s := if negative || s.head? = some 43 then s.drop 1 else s
  let digits := s.takeWhile isDigit
  let n := digits.foldl (fun n b => 10 * n + (b.toNat - 48)) 0
  if digits = [] then none
  else if 2 ^ 32 ≤ n then none
  else some (if negative then (2 ^ 32 - n) % 2 ^ 32 else n)

def contentLength (raw : ByteString) : Nat :=
  match headerValue "Content-Length:" raw with
  | .text clVal => (stoul clVal).getD 0
  | _ => 0

inductive Endpoint
  | corsPreflight
  | health
  | index
  | dataJson
  | npcapResult
  | static
  | exec
  | npcapVerify
  | configGet
  | configPost
  | notFound
deriving DecidableEq

/-- Which handler the request line selects. -/
def route (line : RequestLine) : Endpoint :=
  let get : Bool := line.method = "GET"
  let post : Bool := line.method = "POST"
  if line.method = "OPTIONS" then .corsPreflight
  else if get && line.path = "/health" then .health
  else if get && (line.path = "/" || line.path = "/index.html") then .index
  else if get && line.path = "/dashboard_data.json" then .dataJson
  else if get && line.path = "/npcap_verify_result.json" then .npcapResult
  else if get && (line.path = "/style.css" || line.path = "/script.js") then .static
  else if post && line.path = "/exec" then .exec
  else if post && line.path = "/npcap_verify" then .npcapVerify
  else if get && line.path = "/config" then .configGet
  else if post && line.path = "/config" then .configPost
  else .notFound

/-- The endpoints that check the token and the origin. -/
def Endpoint.isGuarded : Endpoint → Bool
  | .exec | .npcapVerify | .configGet | .configPost => true
  | _ => false

def Endpoint.readsBody : Endpoint → Bool
  | .exec | .configPost => true
  | _ => false

def checkToken (token request : ByteString) : Bool :=
  match headerValue "X-Astartis-Token:" request with
  | .text val =>
      let val := val.dropWhile isBlank
      if val = [] then false
      else
        let trimmed := (val.reverse.dropWhile fun b => isBlank b || b = 13 || b = 10).reverse
        (if trimmed = [] then val else trimmed) = token
  | _ => false

def checkOrigin (request : ByteString) : Bool :=
  match headerValue "Origin:" request with
  | .absent => true
  | .unterminated => false
  | .text origin =>
      let trimmed := origin.dropWhile isBlank
      let origin := if trimmed = [] then origin else trimmed
      ("http://127.0.0.1" : ByteString).isPrefixOf origin ||
        ("http://localhost" : ByteString).isPrefixOf origin

def maxBody : Nat := 512 * 1024

/-- The bytes behind the headers that came along with them. -/
def bodyRead (headers : ByteString) : ByteString :=
  match findText blankLine headers with
  | none => []
  | some bodyStart => headers.drop (bodyStart + 4)

def readFullBody (headers : ByteString) (contentLength : Nat) (socket : Source UInt8) :
    ByteString :=
  Source.readTo 4096 (min contentLength maxBody) socket.stream.length (bodyRead headers) socket

inductive Dispatch
  /-- The connection is closed without an answer. -/
  | closed
  | refused (status : Nat) (msg : ByteString)
  | handler (endpoint : Endpoint) (path body : ByteString)
deriving DecidableEq

/-- The part of `handle_connection` that selects a handler. -/
def dispatch (token : ByteString) (socket : Source UInt8) : Dispatch :=
  let (raw, socket) := readHeaders socket
  match requestLine raw with
  | none => .closed
  | some line =>
      let endpoint := route line
      if endpoint = .notFound then .refused 404 "Not found"
      else if endpoint.isGuarded && !checkToken token raw then .refused 401 "Unauthorized"
      else if endpoint.isGuarded && !checkOrigin raw then .refused 403 "Forbidden"
      else
        .handler endpoint line.path
          (if endpoint.readsBody then readFullBody raw (contentLength raw) socket else [])

/-! What a connection does. -/

/-- How the elevated helper ends. -/
inductive HelperRun
  | notStarted (win32Error : Nat)
  | timedOut
  | exited (code : Int)

/-- The libraries, files and processes around the server. -/
structure Host where
  json : Json.Library
  /-- `dump(2)`. -/
  dumpIndented : Json → Option ByteString
  fileExists : ByteString → Bool
  readFile : ByteString → Option ByteString
  pipeCreated : Bool := true
  /-- The output of a process that could be created, and whether it ran too long. -/
  createProcess : ByteString → Option (ByteString × Bool)
  shellExecute : ByteString → ByteString → HelperRun
  configOpens : Bool := true
  /-- `on_config_save_`, and whether it returns. -/
  onConfigSave : Option (ByteString → Bool) := none
  timestamp : ByteString := []

structure Server where
  dashboardDir : ByteString
  dataJsonPath : ByteString
  configPath : ByteString
  token : ByteString

inductive Answer
  | preflight
  | response (status : Nat) (contentType body : ByteString) (addCors : Bool)
deriving DecidableEq

/-- What the thread of a connection has done when it ends. -/
structure Outcome where
  started : List ByteString := []
  written : List (ByteString × ByteString) := []
  notified : List ByteString := []
  answer : Option Answer := none
  /-- An exception has left the thread. -/
  threw : Bool := false
deriving DecidableEq

section

variable (host : Host) (self : Server)

/-- Answer with a value that has to be serialized first. -/
def sendJson (status : Nat) (value : Json) : Outcome :=
  match host.json.dump value with
  | none => { threw := true }
  | some body => { answer := some (.response status "application/json" body true) }

def sendError (status : Nat) (msg : ByteString) : Outcome :=
  sendJson host status
    (.object [("error", .string msg), ("status", .numberInteger status)])

def sendContent (contentType content : ByteString) (addCors : Bool) : Outcome :=
  { answer := some (.response 200 contentType content addCors) }

def serveStatic (path : ByteString) : Outcome :=
  match host.readFile (self.dashboardDir ++ path) with
  | none => sendError host 404 "File not found"
  | some content =>
      let contentType : ByteString :=
        if (findText ".css" path).isSome then "text/css" else "application/javascript"
      sendContent contentType content false

def serveIndex : Outcome :=
  match host.readFile (self.dashboardDir ++ ("/index.html" : ByteString)) with
  | none => sendError host 404 "Dashboard not found"
  | some content =>
      let inject := ("<meta name=\"astartis-token\" content=\"" : ByteString) ++ self.token ++
        ("\">" : ByteString)
      let content :=
        match findText "<head>" content with
        | none => content
        | some headPos => content.take (headPos + 6) ++ inject ++ content.drop (headPos + 6)
      sendContent "text/html; charset=utf-8" content false

def serveDataJson : Outcome :=
  match host.readFile self.dataJsonPath with
  | none => sendError host 503 "Data not ready"
  | some content => sendContent "application/json" content true

def serveHealth : Outcome :=
  sendJson host 200 (.object [("ok", .boolean true), ("ts", .string host.timestamp)])

/-! `/exec`. -/

def helpText : ByteString :=
  ("Astartis SOC Terminal — available commands:\n\n" : ByteString) ++
    (safeCmds.flatMap fun cmd =>
      ("  " : ByteString) ++ cmd.pfx ++ List.replicate (14 - cmd.pfx.length) 32 ++
        ("  " : ByteString) ++ cmd.description ++ ("\n" : ByteString)) ++
    .ofLiterals
      ["\nUse Get-* for PowerShell read-only cmdlets ", "(e.g. Get-Process, Get-Service).\n"]

def badChars : ByteString := "&|;`$<>()\x7b\x7d!^"

/-- `std::strchr`, which also finds the byte behind the string. -/
def isBadChar (c : UInt8) : Bool :=
  badChars.contains c || c = 0

def SafeCmd.isMatch (cmd : ByteString) (safe : SafeCmd) : Bool :=
  safe.pfx.isPrefixOf cmd &&
    (cmd.length = safe.pfx.length || cmd[safe.pfx.length]? = some 32)

def fullCmd (cmd : ByteString) (matched : SafeCmd) : ByteString :=
  if matched.needsPs then
    ("powershell.exe -NoProfile -NonInteractive -Command \"" : ByteString) ++ cmd ++
      ("\"" : ByteString)
  else if matched.needsCmdC then ("cmd.exe /c " : ByteString) ++ cmd
  else cmd

/-- The checks of `handle_exec` behind `help`, with the error it answers. -/
def acceptCmd (cmd : ByteString) : Except (Nat × ByteString) SafeCmd :=
  if cmd.any isBadChar then .error (400, "Command contains disallowed characters")
  else
    match safeCmds.find? (SafeCmd.isMatch cmd) with
    | none => .error (403, "Command not in whitelist")
    | some matched => .ok matched

def maxOutput : Nat := 20 * 1024

/-- Start a process and answer with its output. -/
def runProcess (fullCmd : ByteString) : Outcome :=
  if !host.pipeCreated then sendError host 500 "Pipe creation failed"
  else
    match host.createProcess fullCmd with
    | none => sendError host 500 "CreateProcess failed"
    | some (output, timedOut) =>
        let output :=
          if timedOut then output ++ ("\n... [command timed out after 5 seconds]" : ByteString)
          else output
        let output :=
          if maxOutput ≤ output.length then
            output ++ ("\n... [truncated at 20 KB]" : ByteString)
          else output
        { sendJson host 200 (.object [("output", .string output)]) with started := [fullCmd] }

def handleExec (body : ByteString) : Outcome :=
  match host.json.parse body with
  | none => sendError host 400 "Invalid JSON"
  | some j =>
      match j.value? Json.getString? "cmd" [] with
      | none => sendError host 400 "Invalid JSON"
      | some cmd =>
          if cmd = [] then sendError host 400 "cmd required"
          else if cmd = "help" then
            sendJson host 200 (.object [("output", .string helpText)])
          else
            match acceptCmd cmd with
            | .error (status, msg) => sendError host status msg
            | .ok matched => runProcess host (fullCmd cmd matched)

/-! `/config`. -/

def defaultConfig : Json :=
  .object
    [("max_concurrent_tasks", .numberInteger 4), ("ollama_timeout_s", .numberInteger 60),
      ("ollama_host", .string "127.0.0.1"), ("ollama_port", .numberInteger 11434),
      ("chaos_threshold", .numberFloat (.ofRat (7 / 10))),
      ("worm_auto_lockdown", .boolean true), ("event_log_monitor", .boolean true),
      ("fs_monitor", .boolean true), ("packet_sensor", .boolean true),
      ("autonomy_loop", .boolean true)]

def handleConfigGet : Outcome :=
  match host.readFile self.configPath with
  | none =>
      match host.dumpIndented defaultConfig with
      | none => { threw := true }
      | some body => sendContent "application/json" body true
  | some content => sendContent "application/json" content true

/-- A bounds check of `handle_config_post`: whether the converted value is accepted, `none`
where `get<T>` throws. -/
structure BoundedField where
  key : ByteString
  accepts? : Json → Option Bool
  msg : ByteString

def intField (key : ByteString) (low high : Int32) (msg : ByteString) : BoundedField where
  key := key
  accepts? := fun value => value.getInt32?.map fun v => !(v < low || high < v)
  msg := msg

def maxConcurrentTasks : BoundedField :=
  intField "max_concurrent_tasks" 1 64 "max_concurrent_tasks must be 1..64"

def ollamaTimeoutS : BoundedField :=
  intField "ollama_timeout_s" 5 3600 "ollama_timeout_s must be 5..3600"

def ollamaHost : BoundedField where
  key := "ollama_host"
  accepts? := fun value => value.getString?.map fun h =>
    !(h ≠ ("127.0.0.1" : ByteString) && h ≠ ("localhost" : ByteString))
  msg := "ollama_host must be 127.0.0.1 or localhost"

def ollamaPort : BoundedField :=
  intField "ollama_port" 1024 65535 "ollama_port out of range"

def chaosThreshold : BoundedField where
  key := "chaos_threshold"
  accepts? := fun value => value.getDouble?.map fun v =>
    !(v.lt (.finite 0) || Double.lt (.finite 1) v)
  msg := "chaos_threshold must be 0.0..1.0"

def boundedFields : List BoundedField :=
  [maxConcurrentTasks, ollamaTimeoutS, ollamaHost, ollamaPort, chaosThreshold]

inductive Verdict
  | passed
  | refused (msg : ByteString)
  | threw
deriving DecidableEq

def BoundedField.check (cfg : Json) (field : BoundedField) : Verdict :=
  match cfg.member? field.key with
  | none => .passed
  | some value =>
      match field.accepts? value with
      | none => .threw
      | some true => .passed
      | some false => .refused field.msg

/-- The checks in order, up to the first that does not pass. -/
def boundsChecks (cfg : Json) : List BoundedField → Verdict
  | [] => .passed
  | field :: rest =>
      match field.check cfg with
      | .passed => boundsChecks cfg rest
      | verdict => verdict

/-- The part of `handle_config_post` behind the bounds checks.  The file is truncated before
the value is serialized. -/
def writeConfig (cfg : Json) : Outcome :=
  if !host.configOpens then sendError host 500 "Cannot write config"
  else
    match host.dumpIndented cfg with
    | none => { written := [(self.configPath, [])], threw := true }
    | some cfgStr =>
        let outcome : Outcome :=
          sendJson host 200
            (.object [("ok", .boolean true), ("message", .string "Config saved")])
        match host.onConfigSave with
        | none => { outcome with written := [(self.configPath, cfgStr)] }
        | some callback =>
            if callback cfgStr then
              { outcome with written := [(self.configPath, cfgStr)], notified := [cfgStr] }
            else
              { written := [(self.configPath, cfgStr)], notified := [cfgStr], threw := true }

def handleConfigPost (body : ByteString) : Outcome :=
  match host.json.parse body with
  | none => sendError host 400 "Invalid JSON"
  | some cfg =>
      match boundsChecks cfg boundedFields with
      | .refused msg => sendError host 400 msg
      | .threw => { threw := true }
      | .passed => writeConfig host self cfg

/-! `/npcap_verify`. -/

def helperPath? : Option ByteString :=
  let beside := self.dashboardDir ++ ("\\npcap_verify_helper.exe" : ByteString)
  let above := self.dashboardDir ++ ("\\..\\npcap_verify_helper.exe" : ByteString)
  if host.fileExists beside then some beside
  else if host.fileExists above then some above
  else none

def npcapResultPath : ByteString :=
  self.dashboardDir ++ ("\\npcap_verify_result.json" : ByteString)

def statusJson (status message : ByteString) (rest : List (ByteString × Json)) : Json :=
  .object (("status", .string status) :: ("message", .string message) :: rest)

def helperAnswer : HelperRun → Outcome
  | .notStarted 1223 =>
      sendJson host 200 (statusJson "cancelled" "UAC elevation prompt was declined by user"
        [("uac_shown", .boolean true)])
  | .notStarted err =>
      sendJson host 200 (statusJson "error" "ShellExecuteEx failed"
        [("win32_error", .numberInteger (Int32.ofNat err).toInt)])
  | .timedOut =>
      sendJson host 200 (statusJson "timeout"
        (.ofLiterals ["npcap_verify_helper did not complete within 35 seconds. ",
          "Check that a real network adapter is active and Npcap service is running."])
        [("uac_shown", .boolean true)])
  | .exited code =>
      match host.readFile (npcapResultPath self) with
      | some content => sendContent "application/json" content true
      | none =>
          sendJson host 200 (statusJson (if code = 0 then "ok" else "error")
            "Helper ran but result file not found"
            [("exit_code", .numberInteger code), ("uac_shown", .boolean true)])

def handleNpcapVerify : Outcome :=
  match helperPath? host self with
  | none =>
      sendJson host 503 (statusJson "error"
        "npcap_verify_helper.exe not found — build the helper first"
        [("hint", .string "bridge/npcap_verify_helper/npcap_verify_helper.cpp")])
  | some helperPath =>
      let params := ("\"" : ByteString) ++ npcapResultPath self ++ ("\"" : ByteString)
      { helperAnswer host self (host.shellExecute helperPath params) with
        started := [helperPath ++ (" " : ByteString) ++ params] }

def serveNpcapResult : Outcome :=
  match host.readFile (npcapResultPath self) with
  | none => sendJson host 200 (statusJson "no_result" "No verification has been run yet" [])
  | some content => sendContent "application/json" content true

def handle (path body : ByteString) : Endpoint → Outcome
  | .corsPreflight => { answer := some .preflight }
  | .health => serveHealth host
  | .index => serveIndex host self
  | .dataJson => serveDataJson host self
  | .npcapResult => serveNpcapResult host self
  | .static => serveStatic host self path
  | .exec => handleExec host body
  | .npcapVerify => handleNpcapVerify host self
  | .configGet => handleConfigGet host self
  | .configPost => handleConfigPost host self body
  | .notFound => sendError host 404 "Not found"

def handleConnection (socket : Source UInt8) : Outcome :=
  match dispatch self.token socket with
  | .closed => {}
  | .refused status msg => sendError host status msg
  | .handler endpoint path body => handle host self path body endpoint

end

/-! Samples. -/

/-- A host on which the body parses to one value, with an empty disk. -/
def sampleHost (document : ByteString) (value : Json) (indented : ByteString) : Host where
  json := Json.sampleLibrary document value
  dumpIndented := fun j => if j.isUtf8 then some indented else none
  fileExists := fun _ => false
  readFile := fun _ => none
  createProcess := fun _ => none
  shellExecute := fun _ _ => .timedOut

def sampleServer : Server where
  dashboardDir := "dashboard"
  dataJsonPath := "dashboard\\dashboard_data.json"
  configPath := "config.json"
  token := "5f3a"

end Astartis.Dashboard
