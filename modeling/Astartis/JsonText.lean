import Astartis.Json

/-!
JSON as text.  The serializer of the library writes strings as they are and refuses
bytes that are not UTF-8, so whether a value can be dumped depends on its strings.
-/

namespace Astartis

namespace ByteString

def isContinuation (b : UInt8) : Bool :=
  0x80 ≤ b && b ≤ 0xBF

/-- Well-formed UTF-8: no overlong form, no surrogate and nothing above U+10FFFF. -/
def validUtf8 : ByteString → Bool
  | [] => true
  | a :: rest =>
      if a ≤ 0x7F then validUtf8 rest
      else
        match rest with
        | [] => false
        | b :: rest =>
            if 0xC2 ≤ a ∧ a ≤ 0xDF then isContinuation b && validUtf8 rest
            else
              match rest with
              | [] => false
              | c :: rest =>
                  if 0xE0 ≤ a ∧ a ≤ 0xEF then
                    (if a = 0xE0 then 0xA0 else 0x80) ≤ b &&
                      b ≤ (if a = 0xED then 0x9F else 0xBF) &&
                      isContinuation c && validUtf8 rest
                  else
                    match rest with
                    | [] => false
                    | d :: rest =>
                        0xF0 ≤ a && a ≤ 0xF4 &&
                          (if a = 0xF0 then 0x90 else 0x80) ≤ b &&
                          b ≤ (if a = 0xF4 then 0x8F else 0xBF) &&
                          isContinuation c && isContinuation d && validUtf8 rest

theorem validUtf8_ascii_append {s : ByteString} (hascii : ∀ b ∈ s, b ≤ 0x7F)
    (rest : ByteString) : validUtf8 (s ++ rest) = validUtf8 rest := by
  induction s with
  | nil => rfl
  | cons a s ih =>
      rw [List.cons_append, validUtf8.eq_def]
      simp only [hascii a (by simp), if_true]
      exact ih fun b hb => hascii b (by simp [hb])

theorem validUtf8_of_ascii {s : ByteString} (hascii : ∀ b ∈ s, b ≤ 0x7F) :
    validUtf8 s = true := by
  rw [← List.append_nil s, validUtf8_ascii_append hascii]
  rfl

theorem not_le_of_ascii {b bound : UInt8} (hascii : b ≤ 0x7F) (hbound : 0x80 ≤ bound) :
    ¬ bound ≤ b := by
  rw [UInt8.le_iff_toNat_le] at *
  simp at hascii hbound
  omega

theorem isContinuation_ascii {b : UInt8} (hascii : b ≤ 0x7F) : isContinuation b = false := by
  simp [isContinuation, not_le_of_ascii hascii (show (0x80 : UInt8) ≤ 0x80 by decide)]

/-- A lead byte is not followed by an ASCII character before its sequence is complete. -/
theorem validUtf8_ascii_second {a b : UInt8} {s : ByteString} (ha : ¬ a ≤ 0x7F) (hb : b ≤ 0x7F) :
    validUtf8 (a :: b :: s) = false := by
  rw [validUtf8.eq_def]
  have hlow : ¬ (if a = 0xE0 then (0xA0 : UInt8) else 0x80) ≤ b :=
    not_le_of_ascii hb (by split <;> decide)
  have hlow' : ¬ (if a = 0xF0 then (0x90 : UInt8) else 0x80) ≤ b :=
    not_le_of_ascii hb (by split <;> decide)
  rcases s with _ | ⟨c, _ | ⟨d, s⟩⟩
  · simp [ha, isContinuation_ascii hb]
  · simp [ha, isContinuation_ascii hb, hlow]
  · simp [ha, isContinuation_ascii hb, hlow, hlow']

theorem validUtf8_ascii_third {a b c : UInt8} {s : ByteString} (ha : ¬ a ≤ 0x7F)
    (htwo : ¬ (0xC2 ≤ a ∧ a ≤ 0xDF)) (hc : c ≤ 0x7F) : validUtf8 (a :: b :: c :: s) = false := by
  rw [validUtf8.eq_def]
  rcases s with _ | ⟨d, s⟩
  · simp [ha, htwo, isContinuation_ascii hc]
  · simp [ha, htwo, isContinuation_ascii hc]

theorem validUtf8_ascii_fourth {a b c d : UInt8} {s : ByteString} (ha : ¬ a ≤ 0x7F)
    (htwo : ¬ (0xC2 ≤ a ∧ a ≤ 0xDF)) (hthree : ¬ (0xE0 ≤ a ∧ a ≤ 0xEF)) (hd : d ≤ 0x7F) :
    validUtf8 (a :: b :: c :: d :: s) = false := by
  rw [validUtf8.eq_def]
  simp [ha, htwo, hthree, isContinuation_ascii hd]

/-- ASCII at the end completes nothing. -/
theorem validUtf8_append_ascii {rest : ByteString} (hascii : ∀ b ∈ rest, b ≤ 0x7F)
    (s : ByteString) : validUtf8 (s ++ rest) = validUtf8 s := by
  rcases rest with _ | ⟨r, rest⟩
  · rw [List.append_nil]
  have hr : r ≤ 0x7F := hascii r (by simp)
  induction s using validUtf8.induct with
  | case1 =>
      rw [List.nil_append, ← List.append_nil (r :: rest), validUtf8_ascii_append hascii]
  | case2 a s ha ih =>
      rw [List.cons_append, validUtf8.eq_def, validUtf8.eq_def (a :: s)]
      simp only [ha, if_true]
      exact ih
  | case3 a ha =>
      refine (validUtf8_ascii_second ha hr).trans ?_
      simp [validUtf8, ha]
  | case4 a ha b s htwo ih =>
      rw [List.cons_append, List.cons_append, validUtf8.eq_def, validUtf8.eq_def (a :: b :: s)]
      simp only [if_neg ha, if_pos htwo, ih]
  | case5 a ha b htwo =>
      refine (validUtf8_ascii_third ha htwo hr).trans ?_
      simp [validUtf8, ha, htwo]
  | case6 a ha b htwo c s hthree ih =>
      rw [List.cons_append, List.cons_append, List.cons_append, validUtf8.eq_def,
        validUtf8.eq_def (a :: b :: c :: s)]
      simp only [if_neg ha, if_neg htwo, if_pos hthree, ih]
  | case7 a ha b htwo c hthree =>
      refine (validUtf8_ascii_fourth ha htwo hthree hr).trans ?_
      simp [validUtf8, ha, htwo, hthree]
  | case8 a ha b htwo c hthree d s ih =>
      rw [List.cons_append, List.cons_append, List.cons_append, List.cons_append,
        validUtf8.eq_def, validUtf8.eq_def (a :: b :: c :: d :: s)]
      simp only [if_neg ha, if_neg htwo, if_neg hthree, ih]

end ByteString

namespace Json

open ByteString

mutual

/-- All keys and strings in a value are UTF-8. -/
def isUtf8 : Json → Bool
  | .string s => validUtf8 s
  | .array elements => areUtf8 elements
  | .object members => membersUtf8 members
  | _ => true

def areUtf8 : List Json → Bool
  | [] => true
  | j :: rest => isUtf8 j && areUtf8 rest

def membersUtf8 : List (ByteString × Json) → Bool
  | [] => true
  | (key, j) :: rest => validUtf8 key && isUtf8 j && membersUtf8 rest

end

/-- `dump()` throws exactly on a value with a string that is not UTF-8. -/
def Library.RefusesNonUtf8 (library : Library) : Prop :=
  ∀ j, (library.dump j).isSome = j.isUtf8

def escapeByte (b : UInt8) : ByteString :=
  if b = 8 then "\\b"
  else if b = 9 then "\\t"
  else if b = 10 then "\\n"
  else if b = 12 then "\\f"
  else if b = 13 then "\\r"
  else if b = 34 then "\\\""
  else if b = 92 then "\\\\"
  else if b < 32 then ("\\u00" : ByteString) ++ hexByte b
  else [b]

def quote (s : ByteString) : ByteString :=
  (34 :: s.flatMap escapeByte) ++ [34]

mutual

/-- The compact text of a value, with short decimal fractions for its floats. -/
def text : Json → ByteString
  | .null => "null"
  | .boolean b => if b then "true" else "false"
  | .numberInteger n => decimal n
  | .numberUnsigned n => decimal n
  | .numberFloat d => d.toStream
  | .string s => quote s
  | .array elements => ("[" : ByteString) ++ texts elements ++ ("]" : ByteString)
  | .object members => ("\x7b" : ByteString) ++ memberTexts members ++ ("\x7d" : ByteString)

def texts : List Json → ByteString
  | [] => []
  | j :: rest =>
      text j ++ (if rest = [] then [] else (44 : UInt8) :: texts rest)

def memberTexts : List (ByteString × Json) → ByteString
  | [] => []
  | (key, j) :: rest =>
      quote key ++ (58 : UInt8) :: text j ++
        (if rest = [] then [] else (44 : UInt8) :: memberTexts rest)

end

/-- A float among indented text has a fraction even where it is none. -/
def floatText (d : Double) : ByteString :=
  if d.toStream.contains 46 then d.toStream else d.toStream ++ (".0" : ByteString)

def newline (depth : Nat) : ByteString :=
  10 :: List.replicate (2 * depth) 32

mutual

/-- The text with two blanks of indentation a level. -/
def indentedText (depth : Nat) : Json → ByteString
  | .numberFloat d => floatText d
  | .array [] => "[]"
  | .array (j :: rest) =>
      ("[" : ByteString) ++ newline (depth + 1) ++ indentedText (depth + 1) j ++
        indentedTexts (depth + 1) rest ++ newline depth ++ ("]" : ByteString)
  | .object [] => "\x7b\x7d"
  | .object ((key, j) :: rest) =>
      ("\x7b" : ByteString) ++ newline (depth + 1) ++ quote key ++ (": " : ByteString) ++
        indentedText (depth + 1) j ++ indentedMembers (depth + 1) rest ++ newline depth ++
        ("\x7d" : ByteString)
  | .null => "null"
  | .boolean b => if b then "true" else "false"
  | .numberInteger n => decimal n
  | .numberUnsigned n => decimal n
  | .string s => quote s

def indentedTexts (depth : Nat) : List Json → ByteString
  | [] => []
  | j :: rest =>
      (44 : UInt8) :: newline depth ++ indentedText depth j ++ indentedTexts depth rest

def indentedMembers (depth : Nat) : List (ByteString × Json) → ByteString
  | [] => []
  | (key, j) :: rest =>
      (44 : UInt8) :: newline depth ++ quote key ++ (": " : ByteString) ++
        indentedText depth j ++ indentedMembers depth rest

end

/-- A library with this text, that reads back one document. -/
def sampleLibrary (document : ByteString) (value : Json) : Library where
  dump := fun j => if j.isUtf8 then some j.text else none
  parse := fun s => if s = document then some value else none

theorem sampleLibrary_refusesNonUtf8 (document : ByteString) (value : Json) :
    (sampleLibrary document value).RefusesNonUtf8 := by
  intro j
  simp only [sampleLibrary]
  split <;> simp_all

end Json

end Astartis
