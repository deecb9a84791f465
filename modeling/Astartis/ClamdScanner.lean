import Astartis.AuditChain
import Astartis.ByteSearch
import Astartis.FrameStream

/-!
The client of the virus scanner: a buffer is streamed to the daemon in frames, and the line
it answers with is classified.
-/

namespace Astartis.Clamd

open Audit ByteString FrameStream

inductive ScanStatus
  | scanClean
  | scanInfected
  | scanError
deriving DecidableEq

def ScanStatus.name : ScanStatus → ByteString
  | .scanClean => "CLEAN"
  | .scanInfected => "INFECTED"
  | .scanError => "ERROR"

structure ScanResult where
  status : ScanStatus
  virusName : ByteString := []
  rawResponse : ByteString
  filePath : ByteString
  durationMs : Int64
  auditEntryId : ByteString := []
deriving DecidableEq

/-- `htonl`: the bytes of a number as they lie in memory, most significant first. -/
def be32 (v : UInt32) : ByteString :=
  (List.range 4).reverse.map fun i => (v >>> UInt32.ofNat (8 * i)).toUInt8

/-- A connected socket: what went out on it, how many bytes each coming `send` is ready to
take, and what comes in before the connection ends.  Behind the listed sends the connection
is gone. -/
structure Socket where
  sent : ByteString := []
  offers : List Int
  incoming : ByteString := []
deriving DecidableEq

namespace Socket

/-- `::send(sock, ptr, static_cast<int>(rem), 0)` -/
def send (buf : ByteString) (self : Socket) : Int × Socket :=
  match self.offers with
  | [] => (-1, self)
  | offer :: offers =>
      let n := min offer (Int32.ofNat buf.length).toInt
      (n, { self with sent := self.sent ++ buf.take n.toNat, offers := offers })

/-- The turns of `send_all`. -/
def sendTurns : Nat → ByteString → Socket → Bool × Socket
  | 0, buf, self => (buf.isEmpty, self)
  | turns + 1, buf, self =>
      if buf = [] then (true, self)
      else
        let (n, self) := self.send buf
        if n ≤ 0 then (false, self) else sendTurns turns (buf.drop n.toNat) self

end Socket

/-- Something to put on a socket, and whether it all went out. -/
abbrev Sending := Socket → Bool × Socket

def Sending.andThen (first second : Sending) : Sending := fun socket =>
  match first socket with
  | (true, socket) => second socket
  | (false, socket) => (false, socket)

/-- A turn that goes on sends at least one byte, so that there are turns enough. -/
def sendAll (buf : ByteString) : Sending :=
  Socket.sendTurns buf.length buf

/-- `"zINSTREAM\0"` -/
def instreamCommand : ByteString :=
  ("zINSTREAM" : ByteString) ++ [0]

def chunkSize : Nat := 4096

/-- The turns of the loop over the offsets. -/
def sendChunks (data : ByteString) : Nat → Nat → Sending
  | 0, offset => fun socket => (decide (data.length ≤ offset), socket)
  | turns + 1, offset =>
      if offset < data.length then
        let csz := min chunkSize (data.length - offset)
        Sending.andThen (sendAll (be32 (UInt32.ofNat csz)))
          (Sending.andThen (sendAll ((data.drop offset).take csz))
            (sendChunks data turns (offset + csz)))
      else fun socket => (true, socket)

/-- The sending part of `do_instream`. -/
def sendInstream (data : ByteString) : Sending :=
  Sending.andThen (sendAll instreamCommand)
    (Sending.andThen (sendChunks data data.length 0) (sendAll (be32 0)))

/-- The loop reads byte by byte up to a newline or the end of the connection. -/
def recvLine (incoming : ByteString) : ByteString :=
  let line := incoming.takeWhile (· ≠ 10)
  if line.getLast? = some 13 then line.dropLast else line

def doInstream (data : ByteString) (socket : Socket) : ByteString × Socket :=
  match sendInstream data socket with
  | (true, socket) => (recvLine socket.incoming, socket)
  | (false, socket) => ([], socket)

def foundText : ByteString := " FOUND"

def okText : ByteString := " OK"

def errorText : ByteString := "ERROR"

def colonText : ByteString := ": "

def virusName (raw : ByteString) : ByteString :=
  match findText colonText raw, rfindText foundText raw.length raw with
  | some colon, some found =>
      -- a negative difference wraps to a count that no string has
      if found < colon + 2 then raw.drop (colon + 2)
      else substr raw (colon + 2) (found - (colon + 2))
  | _, _ => []

def parseResponse (raw path : ByteString) (durationMs : Int64) : ScanResult :=
  let r : ScanResult :=
    { status := .scanError, rawResponse := raw, filePath := path, durationMs := durationMs }
  if raw = [] then r
  else if (findText foundText raw).isSome then
    { r with status := .scanInfected, virusName := virusName raw }
  else if (findText okText raw).isSome then { r with status := .scanClean }
  else if (findText errorText raw).isSome then r
  else r

section Scanner

variable {σ : Type} (auditAdder : AuditAdder σ)

def audit (r : ScanResult) (world : σ) : ScanResult × σ :=
  let payload := ("path=" : ByteString) ++ r.filePath ++ (" status=" : ByteString) ++
    r.status.name ++ (" virus=" : ByteString) ++ r.virusName ++
    (" duration_ms=" : ByteString) ++ decimal r.durationMs.toInt ++
    (" response=" : ByteString) ++ r.rawResponse
  let (entryId, world) := auditAdder "clamd_scan" payload world
  ({ r with auditEntryId := entryId }, world)

/-- `connection` is what `connect_to_clamd` opens, and `ms` the time the scan takes. -/
def scanBuffer (connection : Option Socket) (ms : Int64) (data label : ByteString)
    (world : σ) : ScanResult × σ :=
  match connection with
  | none =>
      audit auditAdder
        { status := .scanError, rawResponse := "connection_failed", filePath := label,
          durationMs := 0 } world
  | some socket =>
      audit auditAdder (parseResponse (doInstream data socket).1 label ms) world

def scanFile (content : Option ByteString) (connection : Option Socket) (ms : Int64)
    (filePath : ByteString) (world : σ) : ScanResult × σ :=
  match content with
  | none =>
      audit auditAdder
        { status := .scanError, rawResponse := "file_open_failed", filePath := filePath,
          durationMs := 0 } world
  | some buf => scanBuffer auditAdder connection ms buf filePath world

end Scanner

def pingCommand : ByteString :=
  ("zPING" : ByteString) ++ [0]

def ping : Option Socket → Bool
  | none => false
  | some socket =>
      match sendAll pingCommand socket with
      | (true, socket) => (findText "PONG" (recvLine socket.incoming)).isSome
      | (false, _) => false

end Astartis.Clamd
