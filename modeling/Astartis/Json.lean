import Astartis.Double

namespace Astartis

inductive Json
  | null
  | boolean (b : Bool)
  | numberInteger (n : Int)
  | numberUnsigned (n : Nat)
  | numberFloat (d : Double)
  | string (s : ByteString)
  | array (elements : List Json)
  | object (members : List (ByteString × Json))

namespace Json

/-- Parser and serializer of the JSON library, `none` where they throw. -/
structure Library where
  parse : ByteString → Option Json
  dump : Json → Option ByteString

def getString? : Json → Option ByteString
  | .string s => some s
  | _ => none

def getDouble? : Json → Option Double
  | .numberUnsigned n => some (.ofRat n)
  | .numberInteger n => some (.ofRat n)
  | .numberFloat d => some d
  | _ => none

/-- `get<int>`, which takes booleans as well. -/
def getInt32? : Json → Option Int32
  | .numberUnsigned n => some (Int32.ofNat n)
  | .numberInteger n => some (Int32.ofInt n)
  | .numberFloat d => some d.toInt32
  | .boolean b => some (if b then 1 else 0)
  | _ => none

/-- The member of an object, `none` as for `contains` on anything else. -/
def member? (key : ByteString) : Json → Option Json
  | .object members => members.lookup key
  | _ => none

def contains (key : ByteString) (j : Json) : Bool :=
  (j.member? key).isSome

/-- `value(key, default)`: throws on anything but an object, and where the member
is there with another type. -/
def value? {α : Type} (get? : Json → Option α) (key : ByteString) (default : α) :
    Json → Option α
  | .object members =>
      match members.lookup key with
      | none => some default
      | some member => get? member
  | _ => none

end Json

end Astartis
