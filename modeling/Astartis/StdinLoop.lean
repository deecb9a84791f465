import Astartis.JsonText

/-!
The loop over the lines on stdin.  A line is parsed, its command and arguments are extracted,
a component serves it, and what goes wrong on the way is reported from the handler of the
exception.
-/

namespace Astartis.Stdin

open ByteString

/-- The JSON library with the texts of its exceptions. -/
structure Library where
  parse : ByteString → Except ByteString Json
  dump : Json → Except ByteString ByteString
  /-- The token that the message of a failed parse quotes. -/
  lastRead : ByteString → ByteString

section Arguments

def typeName : Json → ByteString
  | .null => "null"
  | .boolean _ => "boolean"
  | .numberInteger _ | .numberUnsigned _ | .numberFloat _ => "number"
  | .string _ => "string"
  | .array _ => "array"
  | .object _ => "object"

/-- The message of the exception that `get<T>` throws. -/
def typeError302 (expected : ByteString) (j : Json) : ByteString :=
  ("[json.exception.type_error.302] type must be " : ByteString) ++ expected ++
    (", but is " : ByteString) ++ typeName j

def typeError306 (j : Json) : ByteString :=
  ("[json.exception.type_error.306] cannot use value() with " : ByteString) ++ typeName j

/-- `value(key, default)`. -/
def value {α : Type} (get? : Json → Option α) (expected key : ByteString) (default : α)
    (j : Json) : Except ByteString α :=
  match j with
  | .object members =>
      match members.lookup key with
      | none => .ok default
      | some member =>
          match get? member with
          | none => .error (typeError302 expected member)
          | some v => .ok v
  | _ => .error (typeError306 j)

def getBool? : Json → Option Bool
  | .boolean b => some b
  | _ => none

def stringValue (key default : ByteString) : Json → Except ByteString ByteString :=
  value Json.getString? "string" key default

def intValue (key : ByteString) (default : Int32) : Json → Except ByteString Int32 :=
  value Json.getInt32? "number" key default

def doubleValue (key : ByteString) (default : Double) : Json → Except ByteString Double :=
  value Json.getDouble? "number" key default

def boolValue (key : ByteString) (default : Bool) : Json → Except ByteString Bool :=
  value getBool? "boolean" key default

def jsonValue (key : ByteString) (default : Json) : Json → Except ByteString Json :=
  value some [] key default

/-- What a loop over a value visits. -/
def elements : Json → List Json
  | .null => []
  | .array elements => elements
  | .object members => members.map (·.2)
  | j => [j]

/-- `get<double>` of those for which `is_number` holds. -/
def numbers (j : Json) : List Double :=
  (elements j).filterMap Json.getDouble?

end Arguments

/-- A line with its arguments extracted. -/
inductive Request
  | ping
  | getSnapshot
  | observeSignal (score : Int32) (source : ByteString)
  | pushChaos (value : Double) (synthetic : Bool)
  | pushChaosBatch (synthetic : Bool) (values : List Double)
  | wormTrigger (reason : ByteString)
  | wormUnlock
  | veeamIntegrityCheck
  | veeamStatus
  | sandboxGetTree
  | decoyPlant
  | decoyTouch (path action session detail : ByteString)
  | activeResponseServe (session resource iocHint : ByteString)
  | runDemo
  | getAttribution (session : ByteString)
  | scanAndQuarantine (path : ByteString)
  | blockIp (ip : ByteString) (ttl : Int32)
  | unblockIp (ip : ByteString)
  | unlockVote (approver : ByteString)
  | getUnlockStatus
  | triageEvent (eventType source : ByteString) (score : Int32) (rawDetail : ByteString)
  | agentSubmit (agentName input priority : ByteString)
  | agentStatus
  | networkGetSsids
  | nacSimulateDevice (deviceMac deviceName ssidName username domain : ByteString)
      (osUpdated antivirusRunning diskEncrypted firewallEnabled : Bool)
  | zerotrustEvaluate (userId deviceId sourceIp destinationIp requestedResource
      ssidName : ByteString)
  | unknown (cmd : ByteString)

/-- The commands of `dispatch`, with how their arguments are extracted. -/
def commands : List (ByteString × (Json → Except ByteString Request)) :=
  [("ping", fun _ => .ok .ping),
    ("get_snapshot", fun _ => .ok .getSnapshot),
    ("observe_signal", fun args => do
      let score ← intValue "score" 0 args
      let source ← stringValue "source" "elixir" args
      return .observeSignal score source),
    ("push_chaos", fun args => do
      let value ← doubleValue "value" (.finite 0) args
      let synthetic ← boolValue "synthetic" true args
      return .pushChaos value synthetic),
    ("push_chaos_batch", fun args => do
      let synthetic ← boolValue "synthetic" true args
      let vals ← jsonValue "values" (.array []) args
      return .pushChaosBatch synthetic (numbers vals)),
    ("worm_trigger", fun args => do
      let reason ← stringValue "reason" "manual" args
      return .wormTrigger reason),
    ("worm_unlock", fun _ => .ok .wormUnlock),
    ("veeam_integrity_check", fun _ => .ok .veeamIntegrityCheck),
    ("veeam_status", fun _ => .ok .veeamStatus),
    ("sandbox_get_tree", fun _ => .ok .sandboxGetTree),
    ("decoy_plant", fun _ => .ok .decoyPlant),
    ("decoy_touch", fun args => do
      let path ← stringValue "path" [] args
      let action ← stringValue "action" "read" args
      let session ← stringValue "session" "demo" args
      let detail ← stringValue "detail" [] args
      return .decoyTouch path action session detail),
    ("active_response_serve", fun args => do
      let session ← stringValue "session" "demo" args
      let resource ← stringValue "resource" [] args
      let iocHint ← stringValue "ioc_hint" [] args
      return .activeResponseServe session resource iocHint),
    ("run_demo", fun _ => .ok .runDemo),
    ("get_attribution", fun args => do
      let session ← stringValue "session" "demo-atk" args
      return .getAttribution session),
    ("scan_and_quarantine", fun args => do
      let path ← stringValue "path" [] args
      return .scanAndQuarantine path),
    ("block_ip", fun args => do
      let ip ← stringValue "ip" [] args
      let ttl ← intValue "ttl_s" 0 args
      return .blockIp ip ttl),
    ("unblock_ip", fun args => do
      let ip ← stringValue "ip" [] args
      return .unblockIp ip),
    ("unlock_vote", fun args => do
      let approver ← stringValue "approver" [] args
      return .unlockVote approver),
    ("get_unlock_status", fun _ => .ok .getUnlockStatus),
    ("triage_event", fun args => do
      let eventType ← stringValue "event_type" "unknown" args
      let source ← stringValue "source" "bridge" args
      let score ← intValue "score" 0 args
      let detail ← stringValue "detail" [] args
      return .triageEvent eventType source score (substr detail 0 200)),
    ("agent_submit", fun args => do
      let agentName ← stringValue "agent_name" [] args
      let input ← stringValue "input" [] args
      let priority ← stringValue "priority" "normal" args
      return .agentSubmit agentName input priority),
    ("agent_status", fun _ => .ok .agentStatus),
    ("network_get_ssids", fun _ => .ok .networkGetSsids),
    ("nac_simulate_device", fun args => do
      let deviceMac ← stringValue "device_mac" "00:00:00:00:00:00" args
      let deviceName ← stringValue "device_name" "Unknown-Device" args
      let ssidName ← stringValue "ssid_name" "SmartBots" args
      let username ← stringValue "username" [] args
      let domain ← stringValue "domain" [] args
      let osUpdated ← boolValue "os_updated" false args
      let antivirusRunning ← boolValue "antivirus_running" false args
      let diskEncrypted ← boolValue "disk_encrypted" false args
      let firewallEnabled ← boolValue "firewall_enabled" false args
      return .nacSimulateDevice deviceMac deviceName ssidName username domain osUpdated
        antivirusRunning diskEncrypted firewallEnabled),
    ("zerotrust_evaluate", fun args => do
      let userId ← stringValue "user_id" "unknown" args
      let deviceId ← stringValue "device_id" "unknown" args
      let sourceIp ← stringValue "source_ip" "0.0.0.0" args
      let destinationIp ← stringValue "destination_ip" "0.0.0.0" args
      let requestedResource ← stringValue "requested_resource" [] args
      let ssidName ← stringValue "ssid_name" "SmartBots" args
      return .zerotrustEvaluate userId deviceId sourceIp destinationIp requestedResource
        ssidName)]

def decode (msg : Json) : Except ByteString Request := do
  let cmd ← stringValue "cmd" [] msg
  let args ← jsonValue "args" (.object []) msg
  match commands.lookup cmd with
  | none => return .unknown cmd
  | some extract => extract args

/-! Replies. -/

def event (name : ByteString) (data : Json) : Json :=
  .object [("event", .string name), ("data", data)]

def Request.eventName : Request → ByteString
  | .ping => "pong"
  | .getSnapshot => "snapshot"
  | .observeSignal _ _ => "signal_result"
  | .pushChaos _ _ => "chaos_pushed"
  | .pushChaosBatch _ _ => "chaos_batch_pushed"
  | .wormTrigger _ | .wormUnlock => "worm_status"
  | .veeamIntegrityCheck => "veeam_check_result"
  | .veeamStatus => "veeam_status"
  | .sandboxGetTree => "sandbox_tree"
  | .decoyPlant => "decoy_planted"
  | .decoyTouch _ _ _ _ => "decoy_touch"
  | .activeResponseServe _ _ _ => "ar_serve"
  | .runDemo => "demo_started_async"
  | .getAttribution _ => "attribution_report"
  | .scanAndQuarantine _ => "scan_quarantine_result"
  | .blockIp _ _ => "block_ip_result"
  | .unblockIp _ => "unblock_ip_result"
  | .unlockVote _ => "unlock_vote_result"
  | .getUnlockStatus => "unlock_status"
  | .triageEvent _ _ _ _ => "triage_result"
  | .agentSubmit _ _ _ => "agent_submitted"
  | .agentStatus => "agent_status_update"
  | .networkGetSsids => "network_ssids"
  | .nacSimulateDevice _ _ _ _ _ _ _ _ _ => "nac_result"
  | .zerotrustEvaluate _ _ _ _ _ _ => "zerotrust_result"
  | .unknown _ => "unknown_cmd"

/-- The reply to a request that reaches no component. -/
def Request.immediate? : Request → Option Json
  | .ping => some (.object [("event", .string "pong")])
  | .unknown cmd => some (event "unknown_cmd" (.object [("cmd", .string cmd)]))
  | .scanAndQuarantine [] =>
      some (event "scan_quarantine_result"
        (.object [("status", .string "error"), ("error", .string "no path provided")]))
  | .blockIp [] _ =>
      some (event "block_ip_result"
        (.object [("blocked", .boolean false), ("reason", .string "no ip provided")]))
  | .unblockIp [] =>
      some (event "unblock_ip_result"
        (.object [("unblocked", .boolean false), ("ip", .string [])]))
  | .unlockVote [] =>
      some (event "unlock_vote_result"
        (.object [("accepted", .boolean false),
          ("reason", .string "no_approver_or_protocol_not_ready")]))
  | .agentSubmit agentName input _ =>
      if agentName = [] ∨ input = [] then
        some (event "agent_submitted"
          (.object [("error", .string "agent_name and input are required")]))
      else none
  | _ => none

/-- What the components make of a request: the lines that callbacks write meanwhile, and the
data of the reply or the message of an exception. -/
structure Served (σ : Type) where
  written : List ByteString := []
  data : Except ByteString Json
  state : σ

/-- Where an iteration stands: the lines written, and the message of an exception on its way
out. -/
structure Progress (σ : Type) where
  written : List ByteString
  raised : Option ByteString
  state : σ

section Loop

variable {σ : Type} (lib : Library) (components : Request → σ → Served σ)

/-- Write one more line, unless the value cannot be serialized. -/
def emit (obj : Json) (written : List ByteString) (state : σ) : Progress σ :=
  match lib.dump obj with
  | .error text => ⟨written, some text, state⟩
  | .ok line => ⟨written ++ [line], none, state⟩

def dispatch (msg : Json) (state : σ) : Progress σ :=
  match decode msg with
  | .error text => ⟨[], some text, state⟩
  | .ok request =>
      match request.immediate? with
      | some reply => emit lib reply [] state
      | none =>
          let served := components request state
          match served.data with
          | .error text => ⟨served.written, some text, served.state⟩
          | .ok data => emit lib (event request.eventName data) served.written served.state

/-- `line.pop_back()` of a carriage return. -/
def strip (line : ByteString) : ByteString :=
  if line.getLast? = some 13 then line.dropLast else line

/-- What the `try` block does. -/
def attempt (line : ByteString) (state : σ) : Progress σ :=
  match lib.parse line with
  | .error text => ⟨[], some text, state⟩
  | .ok msg => dispatch lib components msg state

/-- The handler reports the message of the exception. -/
def handleException (progress : Progress σ) : Progress σ :=
  match progress.raised with
  | none => progress
  | some text =>
      emit lib (event "parse_error" (.object [("msg", .string text)])) progress.written
        progress.state

def iteration (line : ByteString) (state : σ) : Progress σ :=
  if strip line = [] then ⟨[], none, state⟩
  else handleException lib (attempt lib components (strip line) state)

/-- `stdin_loop`.  An exception that leaves it ends the thread. -/
def stdinLoop : List ByteString → σ → Progress σ
  | [], state => ⟨[], none, state⟩
  | line :: rest, state =>
      let progress := iteration lib components line state
      match progress.raised with
      | some _ => progress
      | none =>
          let later := stdinLoop rest progress.state
          { later with written := progress.written ++ later.written }

end Loop

end Astartis.Stdin
