import Astartis.ByteString

/-!
Regular expressions as a backtracking matcher reads them: greedy repetition, and the first
match from the left.  A match is the pair of its ends.
-/

namespace Astartis

inductive Regex
  | byte (accepts : UInt8 → Bool)
  | wordBoundary
  | sequence (first second : Regex)
  | optional (r : Regex)
  | repeated (r : Regex) (least most : Nat)

namespace Regex

def isDigit (b : UInt8) : Bool :=
  48 ≤ b && b ≤ 57

def isLetter (b : UInt8) : Bool :=
  (65 ≤ b && b ≤ 90) || (97 ≤ b && b ≤ 122)

def isWord (b : UInt8) : Bool :=
  isDigit b || isLetter b || b = 95

def isHexDigit (b : UInt8) : Bool :=
  isDigit b || (65 ≤ b && b ≤ 70) || (97 ≤ b && b ≤ 102)

def isSpace (b : UInt8) : Bool :=
  b = 32 || (9 ≤ b && b ≤ 13)

/-- A text, byte by byte. -/
def literal : ByteString → Regex
  | [] => repeated wordBoundary 0 0
  | [b] => byte (· = b)
  | b :: rest => sequence (byte (· = b)) (literal rest)

/-- A text in lower case, matched without regard to case. -/
def literalIcase : ByteString → Regex
  | [] => repeated wordBoundary 0 0
  | [b] => byte fun c => c = b || c + 32 = b
  | b :: rest => sequence (byte fun c => c = b || c + 32 = b) (literalIcase rest)

/-- The ends of `least` to `most` steps from a position, the longest way first. -/
def repeatEnds (step : Nat → List Nat) : Nat → Nat → Nat → List Nat
  | least, 0, i => if least = 0 then [i] else []
  | least, most + 1, i =>
      (step i).flatMap (repeatEnds step (least - 1) most) ++ if least = 0 then [i] else []

/-- The ends of the matches at a position, in the order in which they are tried. -/
def ends (text : ByteString) : Regex → Nat → List Nat
  | .byte accepts, i => if text[i]?.any accepts then [i + 1] else []
  | .wordBoundary, i =>
      let before := i ≠ 0 ∧ text[i - 1]?.any isWord
      let after := text[i]?.any isWord
      if before ↔ after then [] else [i]
  | .sequence first second, i => (ends text first i).flatMap (ends text second)
  | .optional r, i => ends text r i ++ [i]
  | .repeated r least most, i => repeatEnds (ends text r) least most i

/-- `regex_search` from a position on. -/
def searchFrom (r : Regex) (text : ByteString) (start : Nat) : Option (Nat × Nat) :=
  ((List.range' start (text.length + 1 - start)).filterMap fun i =>
    (r.ends text i).head?.map fun stop => (i, stop)).head?

/-- The texts of the successive matches, `sregex_iterator` over non-empty matches. -/
def allMatches (r : Regex) (text : ByteString) : Nat → Nat → List ByteString
  | 0, _ => []
  | fuel + 1, start =>
      match r.searchFrom text start with
      | none => []
      | some (i, stop) => ByteString.substr text i (stop - i) :: allMatches r text fuel stop

/-- The text of the first match. -/
def search (r : Regex) (text : ByteString) : Option ByteString :=
  (r.searchFrom text 0).map fun m => ByteString.substr text m.1 (m.2 - m.1)

def matchTexts (r : Regex) (text : ByteString) : List ByteString :=
  r.allMatches text (text.length + 1) 0

end Regex

end Astartis
