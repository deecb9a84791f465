import Astartis.ByteString
import Astartis.Subtext

/-!
The monitor of the Windows event log: the number of an event is cut out of its rendered XML and
looked up in a table of scores.
-/

namespace Astartis.EventLog

open Subtext

/-- The code units of a `std::wstring`. -/
abbrev WideString := List UInt16

def wide (s : ByteString) : WideString :=
  s.map UInt8.toUInt16

structure EventDef where
  id : UInt16
  score : Int
  description : ByteString

/-- `k_event_defs` -/
def eventDefs : List EventDef :=
  [⟨4625, 40, "Failed logon attempt"⟩,
    ⟨4648, 55, "Logon with explicit credentials"⟩,
    ⟨4688, 30, "New process created"⟩,
    ⟨4697, 60, "Service installed on system"⟩,
    ⟨4698, 55, "Scheduled task created"⟩,
    ⟨4702, 45, "Scheduled task updated"⟩,
    ⟨4720, 50, "User account created"⟩,
    ⟨4726, 60, "User account deleted"⟩,
    ⟨4728, 45, "Member added to security-enabled global group"⟩,
    ⟨4732, 45, "Member added to security-enabled local group"⟩,
    ⟨4756, 45, "Member added to security-enabled universal group"⟩,
    ⟨4768, 35, "Kerberos authentication ticket requested"⟩,
    ⟨4776, 40, "NTLM credential validation attempted"⟩,
    ⟨4946, 50, "Firewall rule added"⟩,
    ⟨4947, 50, "Firewall rule modified"⟩,
    ⟨7045, 65, "New service registered on system"⟩,
    ⟨7036, 10, "Service state changed"⟩,
    ⟨1000, 25, "Application crash"⟩,
    ⟨1002, 30, "Application hang"⟩]

def scoreForEventId (id : UInt16) : Int :=
  match eventDefs.find? fun eventDef => eventDef.id = id with
  | some eventDef => eventDef.score
  | none => 0

def describeEventId (id : UInt16) : ByteString :=
  match eventDefs.find? fun eventDef => eventDef.id = id with
  | some eventDef => eventDef.description
  | none => ("Unknown event " : ByteString) ++ ByteString.decimal id.toNat

structure EventSignal where
  channel : ByteString
  eventId : UInt16
  score : Int
  source : ByteString
  description : ByteString
  timestampMs : Int64

def isWideSpace (u : UInt16) : Bool :=
  u = 32 || (9 ≤ u && u ≤ 13)

def isWideDigit (u : UInt16) : Bool :=
  48 ≤ u && u ≤ 57

def digitsValue (digits : WideString) : Nat :=
  digits.foldl (fun value digit => 10 * value + (digit.toNat - 48)) 0

/-- A sign, and whether it is a minus. -/
def signed : WideString → Bool × WideString
  | 45 :: rest => (true, rest)
  | 43 :: rest => (false, rest)
  | s => (false, s)

/-- `std::stoul`, to a `long` of 32 bits, or nothing where it throws. -/
def stoul (s : WideString) : Option UInt32 :=
  let (negative, s) := signed (s.dropWhile isWideSpace)
  let digits := s.takeWhile isWideDigit
  if digits = [] then none
  else
    let value := digitsValue digits
    if 2 ^ 32 ≤ value then none
    else some (if negative then -UInt32.ofNat value else UInt32.ofNat value)

/-- `xml.substr(start + 9, stop - start - 9)` with the first occurrences of the two tags, whose
difference wraps around when they stand the other way. -/
def between? (startTag endTag xml : WideString) : Option WideString :=
  match position? startTag xml, position? endTag xml with
  | some start, some stop =>
      some ((xml.drop (start + 9)).take (UInt64.ofNat stop - UInt64.ofNat start - 9).toNat)
  | _, _ => none

/-- What stands behind the first bracket, if there is one. -/
def behindBracket (idStr : WideString) : WideString :=
  match position? [62] idStr with
  | some bracket => idStr.drop (bracket + 1)
  | none => idStr

def eventId? (xml : WideString) : Option UInt16 :=
  match between? (wide "<EventID>") (wide "</EventID>") xml with
  | none => none
  | some idStr => (stoul (behindBracket idStr)).map UInt32.toUInt16

def channelOf (xml : WideString) : ByteString :=
  match between? (wide "<Channel>") (wide "</Channel>") xml with
  | none => "unknown"
  | some wch => wch.map UInt16.toUInt8

/-- The signal that `on_event` hands to the callback, if it comes to that.  `EvtRender` fills
the buffer, or fails. -/
def onEvent (now : Int64) (rendered : Option WideString) : Option EventSignal :=
  match rendered with
  | none => none
  | some buffer =>
      let xml := buffer.takeWhile fun u => u ≠ 0
      match eventId? xml with
      | none => none
      | some eventId =>
          let score := scoreForEventId eventId
          if score ≤ 0 then none
          else
            let channel := channelOf xml
            some
              { channel := channel
                eventId := eventId
                score := score
                source := ("event_log/" : ByteString) ++ channel ++ ("/" : ByteString) ++
                  ByteString.decimal eventId.toNat
                description := describeEventId eventId
                timestampMs := now }

end Astartis.EventLog
