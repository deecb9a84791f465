import Mathlib.Data.List.DropRight
import Astartis.JsonText

/-!
A reader of JSON documents as RFC 8259 defines them.  Numbers without a fraction and an
exponent are read exactly, and a string has to denote a UTF-8 text.
-/

namespace Astartis.Json

open ByteString

def isBlank (b : UInt8) : Bool :=
  b = 32 || b = 9 || b = 10 || b = 13

def skipBlanks (s : ByteString) : ByteString :=
  s.dropWhile isBlank

/-- `s` behind the given text. -/
def expect (text s : ByteString) : Option ByteString :=
  if text.isPrefixOf s then some (s.drop text.length) else none

section Strings

def hexDigit? (b : UInt8) : Option Nat :=
  if 48 ≤ b ∧ b ≤ 57 then some (b.toNat - 48)
  else if 65 ≤ b ∧ b ≤ 70 then some (b.toNat - 55)
  else if 97 ≤ b ∧ b ≤ 102 then some (b.toNat - 87)
  else none

def codeUnit? (a b c d : UInt8) : Option Nat := do
  return ((← hexDigit? a) * 16 + (← hexDigit? b)) * 256 +
    ((← hexDigit? c) * 16 + (← hexDigit? d))

def encodeUtf8 (code : Nat) : ByteString :=
  if code < 0x80 then [.ofNat code]
  else if code < 0x800 then [.ofNat (0xC0 + code / 64), .ofNat (0x80 + code % 64)]
  else if code < 0x10000 then
    [.ofNat (0xE0 + code / 4096), .ofNat (0x80 + code / 64 % 64), .ofNat (0x80 + code % 64)]
  else
    [.ofNat (0xF0 + code / 262144), .ofNat (0x80 + code / 4096 % 64),
      .ofNat (0x80 + code / 64 % 64), .ofNat (0x80 + code % 64)]

/-- The character of an escape of two bytes. -/
def unescape? (b : UInt8) : Option UInt8 :=
  if b = 34 ∨ b = 47 ∨ b = 92 then some b
  else if b = 98 then some 8
  else if b = 102 then some 12
  else if b = 110 then some 10
  else if b = 114 then some 13
  else if b = 116 then some 9
  else none

def isHighSurrogate (unit : Nat) : Bool :=
  0xD800 ≤ unit && unit < 0xDC00

def isLowSurrogate (unit : Nat) : Bool :=
  0xDC00 ≤ unit && unit < 0xE000

/-- The text in front of what has been read of a string. -/
def prepend (text : ByteString) :
    Option (ByteString × ByteString) → Option (ByteString × ByteString) :=
  Option.map fun p => (text ++ p.1, p.2)

/-- A string from behind its opening quotation mark on, with what follows it. -/
def stringBody : ByteString → Option (ByteString × ByteString)
  | [] => none
  | b :: rest =>
      if b = 34 then some ([], rest)
      else if b < 32 then none
      else if b = 92 then
        match rest with
        | [] => none
        | c :: rest =>
            if c = 117 then
              match rest with
              | h₁ :: h₂ :: h₃ :: h₄ :: rest =>
                  match codeUnit? h₁ h₂ h₃ h₄ with
                  | none => none
                  | some unit =>
                      if isHighSurrogate unit then
                        match rest with
                        | e₁ :: e₂ :: l₁ :: l₂ :: l₃ :: l₄ :: rest =>
                            match codeUnit? l₁ l₂ l₃ l₄ with
                            | none => none
                            | some low =>
                                if e₁ = 92 ∧ e₂ = 117 ∧ isLowSurrogate low then
                                  prepend (encodeUtf8
                                    (0x10000 + (unit - 0xD800) * 0x400 + (low - 0xDC00)))
                                    (stringBody rest)
                                else none
                        | _ => none
                      else if isLowSurrogate unit then none
                      else prepend (encodeUtf8 unit) (stringBody rest)
              | _ => none
            else
              match unescape? c with
              | none => none
              | some character => prepend [character] (stringBody rest)
      else prepend [b] (stringBody rest)

def readString (s : ByteString) : Option (ByteString × ByteString) :=
  match stringBody s with
  | some (text, rest) => if validUtf8 text then some (text, rest) else none
  | none => none

end Strings

section Numbers

def isDecimal (b : UInt8) : Bool :=
  48 ≤ b && b ≤ 57

def digitsValue (digits : ByteString) : Nat :=
  digits.foldl (fun n b => 10 * n + (b.toNat - 48)) 0

/-- An integer, as the library distinguishes them by their sign. -/
def ofInteger (negative : Bool) (n : Nat) : Json :=
  if negative then .numberInteger (-n) else .numberUnsigned n

/-- One digit or more. -/
def readDigits (s : ByteString) : Option (ByteString × ByteString) :=
  match s.span isDecimal with
  | ([], _) => none
  | (digits, rest) => some (digits, rest)

def readFraction : ByteString → Option (Option ByteString × ByteString)
  | 46 :: rest => (readDigits rest).map fun p => (some p.1, p.2)
  | s => some (none, s)

def readExponent : ByteString → Option (Option Int × ByteString)
  | b :: rest =>
      if b = 101 ∨ b = 69 then
        match rest with
        | 43 :: rest => (readDigits rest).map fun p => (some (digitsValue p.1 : Int), p.2)
        | 45 :: rest => (readDigits rest).map fun p => (some (-(digitsValue p.1 : Int)), p.2)
        | rest => (readDigits rest).map fun p => (some (digitsValue p.1 : Int), p.2)
      else some (none, b :: rest)
  | [] => some (none, [])

def readUnsigned (negative : Bool) (s : ByteString) : Option (Json × ByteString) := do
  let (digits, rest) ← readDigits s
  if digits.head? = some 48 ∧ digits ≠ [48] then none
  else
    let (fraction, rest) ← readFraction rest
    let (exponent, rest) ← readExponent rest
    match fraction, exponent with
    | none, none => some (ofInteger negative (digitsValue digits), rest)
    | _, _ =>
        let fraction := fraction.getD []
        let magnitude : ℚ := (digitsValue (digits ++ fraction) : ℚ) *
          10 ^ (exponent.getD 0 - fraction.length)
        some (.numberFloat (.ofRat (if negative then -magnitude else magnitude)), rest)

def readNumber : ByteString → Option (Json × ByteString)
  | 45 :: rest => readUnsigned true rest
  | s => readUnsigned false s

end Numbers

mutual

/-- A value at the front of a text, nested at most as deep as there are turns. -/
def readValue : Nat → ByteString → Option (Json × ByteString)
  | 0, _ => none
  | turns + 1, s =>
      match skipBlanks s with
      | [] => none
      | b :: rest =>
          if b = 34 then (readString rest).map fun p => (.string p.1, p.2)
          else if b = 123 then
            match skipBlanks rest with
            | 125 :: rest => some (.object [], rest)
            | rest => (readMembers turns rest).map fun p => (.object p.1, p.2)
          else if b = 91 then
            match skipBlanks rest with
            | 93 :: rest => some (.array [], rest)
            | rest => (readElements turns rest).map fun p => (.array p.1, p.2)
          else if b = 110 then (expect "ull" rest).map fun rest => (.null, rest)
          else if b = 116 then (expect "rue" rest).map fun rest => (.boolean true, rest)
          else if b = 102 then (expect "alse" rest).map fun rest => (.boolean false, rest)
          else readNumber (b :: rest)

def readElements : Nat → ByteString → Option (List Json × ByteString)
  | 0, _ => none
  | turns + 1, s => do
      let (element, rest) ← readValue turns s
      match skipBlanks rest with
      | 44 :: rest => (readElements turns rest).map fun p => (element :: p.1, p.2)
      | 93 :: rest => some ([element], rest)
      | _ => none

def readMembers : Nat → ByteString → Option (List (ByteString × Json) × ByteString)
  | 0, _ => none
  | turns + 1, s =>
      match skipBlanks s with
      | 34 :: rest => do
          let (key, rest) ← readString rest
          let rest ← expect [58] (skipBlanks rest)
          let (value, rest) ← readValue turns rest
          match skipBlanks rest with
          | 44 :: rest => (readMembers turns rest).map fun p => ((key, value) :: p.1, p.2)
          | 125 :: rest => some ([(key, value)], rest)
          | _ => none
      | _ => none

end

/-- A document is a value with nothing but blanks around it. -/
def read (turns : Nat) (s : ByteString) : Option Json :=
  match readValue turns s with
  | some (j, rest) => if skipBlanks rest = [] then some j else none
  | none => none

/-- The text is a document of the value. -/
def Reads (s : ByteString) (j : Json) : Prop :=
  ∃ turns, read turns s = some j

section Blanks

variable {b : UInt8} {s : ByteString}

theorem skipBlanks_cons (hblank : isBlank b = true) : skipBlanks (b :: s) = skipBlanks s := by
  simp [skipBlanks, hblank]

theorem skipBlanks_of_cons (hblank : isBlank b = false) : skipBlanks (b :: s) = b :: s := by
  simp [skipBlanks, hblank]

theorem skipBlanks_skipBlanks : skipBlanks (skipBlanks s) = skipBlanks s :=
  List.dropWhile_idempotent _ s

end Blanks

section StringBodies

variable {b c : UInt8} {s rest text : ByteString}

/-- A byte that stands for itself in a string. -/
def IsPlain (b : UInt8) : Prop :=
  32 ≤ b ∧ b ≠ 34 ∧ b ≠ 92

theorem stringBody_quote : stringBody (34 :: rest) = some ([], rest) := by
  rw [stringBody.eq_def]
  rfl

theorem stringBody_control (hcontrol : b < 32) : stringBody (b :: rest) = none := by
  have hquote : b ≠ 34 := by
    rintro rfl
    exact absurd hcontrol (by decide)
  rw [stringBody.eq_def]
  simp only [if_neg hquote, if_pos hcontrol]

theorem stringBody_plain (hplain : IsPlain b) :
    stringBody (b :: rest) = prepend [b] (stringBody rest) := by
  obtain ⟨hlow, hquote, hslash⟩ := hplain
  rw [stringBody.eq_def]
  simp only [if_neg hquote, if_neg (UInt8.not_lt.mpr hlow), if_neg hslash]

theorem stringBody_unescape {character : UInt8} (hc : unescape? c = some character) :
    stringBody (92 :: c :: rest) = prepend [character] (stringBody rest) := by
  have hunit : c ≠ 117 := by
    rintro rfl
    have hnone : unescape? 117 = none := by decide
    exact absurd (hnone.symm.trans hc) (by simp)
  rw [stringBody.eq_def]
  simp only [hc, if_neg hunit]
  rfl

theorem stringBody_text (hplain : ∀ b ∈ text, IsPlain b) :
    stringBody (text ++ 34 :: rest) = some (text, rest) := by
  induction text with
  | nil => exact stringBody_quote
  | cons b text ih =>
      rw [List.cons_append, stringBody_plain (hplain b List.mem_cons_self),
        ih fun c hc => hplain c (List.mem_cons_of_mem b hc)]
      rfl

theorem hexDigit?_le {n : Nat} (hb : hexDigit? b = some n) : 32 ≤ b := by
  simp only [hexDigit?] at hb
  split at hb
  · rename_i hdigit
    exact UInt8.le_trans (by decide) hdigit.1
  · split at hb
    · rename_i hupper
      exact UInt8.le_trans (by decide) hupper.1
    · split at hb
      · rename_i hlower
        exact UInt8.le_trans (by decide) hlower.1
      · exact absurd hb (by simp)

theorem codeUnit?_le {h₁ h₂ h₃ h₄ : UInt8} {unit : Nat}
    (hunit : codeUnit? h₁ h₂ h₃ h₄ = some unit) :
    32 ≤ h₁ ∧ 32 ≤ h₂ ∧ 32 ≤ h₃ ∧ 32 ≤ h₄ := by
  simp only [codeUnit?, bind, Option.bind_eq_some_iff] at hunit
  obtain ⟨_, h₁, _, h₂, _, h₃, _, h₄, -⟩ := hunit
  exact ⟨hexDigit?_le h₁, hexDigit?_le h₂, hexDigit?_le h₃, hexDigit?_le h₄⟩

theorem unescape?_le {character : UInt8} (hc : unescape? c = some character) : 32 ≤ c := by
  simp only [unescape?] at hc
  by_contra hlow
  have hne : ∀ d : UInt8, 32 ≤ d → c ≠ d := by
    rintro d hd rfl
    exact hlow hd
  simp [hne 34 (by decide), hne 47 (by decide), hne 92 (by decide), hne 98 (by decide),
    hne 102 (by decide), hne 110 (by decide), hne 114 (by decide), hne 116 (by decide)] at hc

theorem encodeUtf8_length (code : Nat) : (encodeUtf8 code).length ≤ 4 := by
  simp only [encodeUtf8]
  split
  · simp
  · split
    · simp
    · split <;> simp

/-- What a string has been read from: its raw bytes up to the quotation mark have no control
bytes, and are the text itself or more than its bytes. -/
def Raw (s text rest : ByteString) : Prop :=
  ∃ raw, s = raw ++ 34 :: rest ∧ (∀ b ∈ raw, 32 ≤ b) ∧
    ((text = raw ∧ ∀ b ∈ raw, IsPlain b) ∨ text.length < raw.length)

/-- An escape of more bytes than it stands for, in front of a string. -/
theorem Raw.escaped {bytes characters : ByteString} (hraw : Raw s text rest)
    (hbytes : ∀ b ∈ bytes, 32 ≤ b) (hlength : characters.length < bytes.length) :
    Raw (bytes ++ s) (characters ++ text) rest := by
  obtain ⟨raw, rfl, hlow, hshape⟩ := hraw
  refine ⟨bytes ++ raw, (List.append_assoc _ _ _).symm, ?_, .inr ?_⟩
  · intro b hb
    exact (List.mem_append.mp hb).elim (hbytes b) (hlow b)
  · have hle : text.length ≤ raw.length := by
      rcases hshape with ⟨rfl, -⟩ | hlt
      · exact le_rfl
      · omega
    simp only [List.length_append]
    omega

theorem Raw.plain (hraw : Raw s text rest) (hplain : IsPlain b) :
    Raw (b :: s) (b :: text) rest := by
  obtain ⟨raw, rfl, hlow, hshape⟩ := hraw
  refine ⟨b :: raw, rfl, ?_, ?_⟩
  · simp only [List.forall_mem_cons]
    exact ⟨hplain.1, hlow⟩
  · rcases hshape with ⟨rfl, hall⟩ | hlt
    · exact .inl ⟨rfl, List.forall_mem_cons.mpr ⟨hplain, hall⟩⟩
    · exact .inr (by simpa using hlt)

theorem prepend_eq_some {front : ByteString} {body : Option (ByteString × ByteString)}
    (h : prepend front body = some (text, rest)) :
    ∃ text', body = some (text', rest) ∧ text = front ++ text' := by
  simp only [prepend, Option.map_eq_some_iff] at h
  obtain ⟨⟨text', rest'⟩, hbody, hpair⟩ := h
  obtain ⟨rfl, rfl⟩ := Prod.mk.inj hpair
  exact ⟨text', hbody, rfl⟩

/-- A unit in hexadecimal digits, with a second one where it is the first of a pair. -/
theorem stringBody_unit (h : stringBody (92 :: 117 :: s) = some (text, rest)) :
    ∃ bytes characters s' text', 92 :: 117 :: s = bytes ++ s' ∧ text = characters ++ text' ∧
      stringBody s' = some (text', rest) ∧ (∀ b ∈ bytes, 32 ≤ b) ∧
      characters.length < bytes.length := by
  rw [stringBody.eq_def] at h
  simp only [show ((92 : UInt8) = 34) = False by decide, show ((92 : UInt8) < 32) = False by decide,
    if_false, if_true] at h
  split at h
  · rename_i h₁ h₂ h₃ h₄ s'
    split at h
    · exact absurd h (by simp)
    rename_i unit hfirst
    have hdigits := codeUnit?_le hfirst
    split at h
    · split at h
      · rename_i e₁ e₂ l₁ l₂ l₃ l₄ s'
        split at h
        · exact absurd h (by simp)
        rename_i low hsecond
        have hlows := codeUnit?_le hsecond
        split at h
        · rename_i hpair
          obtain ⟨rfl, rfl, -⟩ := hpair
          have hcharacter := encodeUtf8_length
            (0x10000 + (unit - 0xD800) * 0x400 + (low - 0xDC00))
          generalize encodeUtf8 (0x10000 + (unit - 0xD800) * 0x400 + (low - 0xDC00)) =
            characters at h hcharacter
          obtain ⟨text', hbody, rfl⟩ := prepend_eq_some h
          refine ⟨[92, 117, h₁, h₂, h₃, h₄, 92, 117, l₁, l₂, l₃, l₄], characters, s', text',
            rfl, rfl, hbody, ?_, ?_⟩
          · simp [hdigits, hlows]
          · exact lt_of_le_of_lt hcharacter (by simp)
        · exact absurd h (by simp)
      · exact absurd h (by simp)
    · split at h
      · exact absurd h (by simp)
      · obtain ⟨text', hbody, rfl⟩ := prepend_eq_some h
        refine ⟨[92, 117, h₁, h₂, h₃, h₄], _, s', text', rfl, rfl, hbody, ?_, ?_⟩
        · simp [hdigits]
        · exact lt_of_le_of_lt (encodeUtf8_length _) (by simp)
  · exact absurd h (by simp)

/-- One turn of the loop over a string that is read to its end. -/
theorem stringBody_step (h : stringBody s = some (text, rest)) :
    (s = 34 :: rest ∧ text = []) ∨
      (∃ b s' text', s = b :: s' ∧ text = b :: text' ∧ stringBody s' = some (text', rest) ∧
        IsPlain b) ∨
      ∃ bytes characters s' text', s = bytes ++ s' ∧ text = characters ++ text' ∧
        stringBody s' = some (text', rest) ∧ (∀ b ∈ bytes, 32 ≤ b) ∧
        characters.length < bytes.length := by
  have hwhole := h
  rw [stringBody.eq_def] at h
  split at h
  · exact absurd h (by simp)
  rename_i b s'
  split at h
  · rename_i hquote
    obtain ⟨rfl, rfl⟩ := Prod.mk.inj (Option.some.inj h)
    exact .inl ⟨by rw [hquote], rfl⟩
  rename_i hquote
  split at h
  · exact absurd h (by simp)
  rename_i hlow
  split at h
  · rename_i hslash
    refine .inr (.inr ?_)
    subst hslash
    split at h
    · exact absurd h (by simp)
    rename_i c s'
    by_cases hunit : c = 117
    · subst hunit
      exact stringBody_unit hwhole
    · rw [if_neg hunit] at h
      split at h
      · exact absurd h (by simp)
      · rename_i character hcharacter
        obtain ⟨text', hbody, rfl⟩ := prepend_eq_some h
        refine ⟨[92, c], [character], s', text', rfl, rfl, hbody, ?_, by simp⟩
        simp [unescape?_le hcharacter]
  · rename_i hslash
    obtain ⟨text', hbody, rfl⟩ := prepend_eq_some h
    exact .inr (.inl ⟨b, s', text', rfl, rfl, hbody, UInt8.not_lt.mp hlow, hquote, hslash⟩)

theorem stringBody_raw (h : stringBody s = some (text, rest)) : Raw s text rest := by
  induction hlength : s.length using Nat.strong_induction_on generalizing s text with
  | _ n ih =>
      subst hlength
      rcases stringBody_step h with ⟨rfl, rfl⟩ | ⟨b, s', text', rfl, rfl, hbody, hplain⟩ |
        ⟨bytes, characters, s', text', rfl, rfl, hbody, hbytes, hlength⟩
      · exact ⟨[], rfl, by simp, .inl ⟨rfl, by simp⟩⟩
      · exact (ih s'.length (by simp) hbody rfl).plain hplain
      · exact (ih s'.length (by simp; omega) hbody rfl).escaped hbytes hlength

end StringBodies

section Integers

/-- The byte ends a number without a fraction and an exponent. -/
def EndsInteger (b : UInt8) : Prop :=
  isDecimal b = false ∧ b ≠ 46 ∧ b ≠ 101 ∧ b ≠ 69

theorem isDecimal_digitByte {d : Nat} (hd : d < 10) : isDecimal (digitByte d) = true := by
  have hnat := digitByte_toNat (show d < 16 by omega)
  rw [if_pos hd] at hnat
  simp only [isDecimal, Bool.and_eq_true, decide_eq_true_eq, UInt8.le_iff_toNat_le, hnat]
  simp
  omega

theorem isDecimal_of_mem_natText {n : Nat} {b : UInt8} (hb : b ∈ natText 10 n) :
    isDecimal b = true := by
  obtain ⟨d, hd, rfl⟩ := mem_natText (by omega) hb
  exact isDecimal_digitByte hd

theorem natText_ne_nil (n : Nat) : natText 10 n ≠ [] := by
  rw [natText]
  split
  · simp
  · rename_i hn
    simp [Nat.digits_ne_nil_iff_ne_zero.mpr hn]

theorem digitsValue_reverse {ds : List Nat} (hds : ∀ d ∈ ds, d < 10) :
    digitsValue (ds.map digitByte).reverse = Nat.ofDigits 10 ds := by
  rw [digitsValue, List.foldl_reverse]
  induction ds with
  | nil => rfl
  | cons d ds ih =>
      have hnat := digitByte_toNat (show d < 16 by have := hds d List.mem_cons_self; omega)
      rw [if_pos (hds d List.mem_cons_self)] at hnat
      rw [List.map_cons, List.foldr_cons, ih fun e he => hds e (List.mem_cons_of_mem d he),
        Nat.ofDigits_cons, hnat]
      omega

theorem digitsValue_natText (n : Nat) : digitsValue (natText 10 n) = n := by
  rw [natText]
  split
  · rename_i hn
    rw [hn]
    decide
  · rw [digitsValue_reverse fun d hd => Nat.digits_lt_base (by omega) hd, Nat.ofDigits_digits]

/-- A numeral has no zero in front. -/
theorem natText_head {n : Nat} (hzero : (natText 10 n).head? = some 48) :
    natText 10 n = [48] := by
  rw [natText] at hzero ⊢
  split at hzero
  · rename_i hn
    rw [if_pos hn]
    decide
  · rename_i hn
    have hne : Nat.digits 10 n ≠ [] := Nat.digits_ne_nil_iff_ne_zero.mpr hn
    have hlast := Nat.getLast_digit_ne_zero 10 hn
    rw [List.head?_reverse, List.getLast?_map, List.getLast?_eq_some_getLast hne,
      Option.map_some, Option.some.injEq] at hzero
    have hbound : (Nat.digits 10 n).getLast hne < 10 :=
      Nat.digits_lt_base (by omega) (List.getLast_mem hne)
    exact absurd (digitByte_inj (by omega) (by omega)
      (hzero.trans (by decide : (48 : UInt8) = digitByte 0))) hlast

theorem readDigits_natText (n : Nat) {b : UInt8} {rest : ByteString}
    (hb : isDecimal b = false) :
    readDigits (natText 10 n ++ b :: rest) = some (natText 10 n, b :: rest) := by
  have hspan : (natText 10 n ++ b :: rest).span isDecimal = (natText 10 n, b :: rest) := by
    rw [List.span_eq_takeWhile_dropWhile,
      List.takeWhile_append_of_pos fun b hb => isDecimal_of_mem_natText hb,
      List.dropWhile_append_of_pos fun b hb => isDecimal_of_mem_natText hb]
    simp [hb]
  rw [readDigits, hspan]
  split
  · rename_i heq
    exact absurd (Prod.mk.inj heq).1 (natText_ne_nil n)
  · rename_i heq
    obtain ⟨rfl, rfl⟩ := Prod.mk.inj heq
    rfl

theorem readUnsigned_natText (negative : Bool) (n : Nat) {b : UInt8} {rest : ByteString}
    (hb : EndsInteger b) :
    readUnsigned negative (natText 10 n ++ b :: rest) =
      some (ofInteger negative n, b :: rest) := by
  obtain ⟨hdigit, hpoint, hlower, hupper⟩ := hb
  have hzero : ¬ ((natText 10 n).head? = some 48 ∧ natText 10 n ≠ [48]) := by
    rintro ⟨hhead, hne⟩
    exact hne (natText_head hhead)
  have hfraction : readFraction (b :: rest) = some (none, b :: rest) := by
    rw [readFraction]
    rintro rest' heq
    exact hpoint (List.cons.inj heq).1
  have hexponent : readExponent (b :: rest) = some (none, b :: rest) := by
    simp [readExponent, hlower, hupper]
  simp [readUnsigned, readDigits_natText n hdigit, if_neg hzero, hfraction, hexponent,
    digitsValue_natText]

/-- A printed integer is read back. -/
theorem readNumber_decimal (n : Int) {b : UInt8} {rest : ByteString} (hb : EndsInteger b) :
    readNumber (decimal n ++ b :: rest) =
      some (ofInteger (decide (n < 0)) n.natAbs, b :: rest) := by
  rw [decimal]
  split
  · rename_i hneg
    rw [List.cons_append, readNumber, readUnsigned_natText true n.natAbs hb]
    simp [hneg]
  · rename_i hpos
    rw [readNumber, readUnsigned_natText false n.natAbs hb]
    · simp [hpos]
    · intro rest' heq
      rcases hdigits : natText 10 n.natAbs with _ | ⟨d, ds⟩
      · exact natText_ne_nil _ hdigits
      · rw [hdigits, List.cons_append] at heq
        have hdecimal : isDecimal d = true :=
          isDecimal_of_mem_natText (n := n.natAbs) (hdigits ▸ List.mem_cons_self)
        rw [(List.cons.inj heq).1] at hdecimal
        exact absurd hdecimal (by decide)

end Integers

section Turns

/-- What is read is read in the same way with one turn more. -/
structure Steady (turns : Nat) : Prop where
  value : ∀ s r, readValue turns s = some r → readValue (turns + 1) s = some r
  elements : ∀ s r, readElements turns s = some r → readElements (turns + 1) s = some r
  members : ∀ s r, readMembers turns s = some r → readMembers (turns + 1) s = some r

theorem map_of_steady {α β : Type} {first second : Option α} {f : α → β} {r : β}
    (hsteady : ∀ p, first = some p → second = some p) (h : first.map f = some r) :
    second.map f = some r := by
  obtain ⟨p, hp, rfl⟩ := Option.map_eq_some_iff.mp h
  rw [hsteady p hp]
  rfl

variable {turns : Nat}

theorem Steady.readValue_succ (hsteady : Steady turns) {s : ByteString}
    {r : Json × ByteString} (h : readValue (turns + 1) s = some r) :
    readValue (turns + 2) s = some r := by
  rw [readValue] at h ⊢
  generalize skipBlanks s = front at h ⊢
  rcases front with _ | ⟨b, rest⟩
  · exact absurd h (by simp)
  simp only at h ⊢
  split at h
  · rename_i hb
    rwa [if_pos hb]
  rename_i hb
  rw [if_neg hb]
  split at h
  · rename_i hobject
    rw [if_pos hobject]
    split at h
    · exact h
    · exact map_of_steady (hsteady.members _) h
  rename_i hobject
  rw [if_neg hobject]
  split at h
  · rename_i harray
    rw [if_pos harray]
    split at h
    · exact h
    · exact map_of_steady (hsteady.elements _) h
  · rename_i harray
    rwa [if_neg harray]

theorem Steady.readElements_succ (hsteady : Steady turns) {s : ByteString}
    {r : List Json × ByteString} (h : readElements (turns + 1) s = some r) :
    readElements (turns + 2) s = some r := by
  rw [readElements] at h ⊢
  obtain ⟨⟨element, rest⟩, helement, h⟩ := Option.bind_eq_some_iff.mp h
  rw [hsteady.value _ _ helement]
  simp only [Option.bind_eq_bind, Option.bind_some] at h ⊢
  split at h
  · exact map_of_steady (hsteady.elements _) h
  · exact h
  · exact absurd h (by simp)

theorem Steady.readMembers_succ (hsteady : Steady turns) {s : ByteString}
    {r : List (ByteString × Json) × ByteString} (h : readMembers (turns + 1) s = some r) :
    readMembers (turns + 2) s = some r := by
  rw [readMembers] at h ⊢
  split at h
  · obtain ⟨⟨key, rest⟩, hkey, h⟩ := Option.bind_eq_some_iff.mp h
    obtain ⟨rest', hcolon, h⟩ := Option.bind_eq_some_iff.mp h
    obtain ⟨⟨value, rest''⟩, hmember, h⟩ := Option.bind_eq_some_iff.mp h
    simp only [hkey, hcolon, hsteady.value _ _ hmember, Option.bind_eq_bind, Option.bind_some]
      at h ⊢
    split at h
    · exact map_of_steady (hsteady.members _) h
    · exact h
    · exact absurd h (by simp)
  · exact absurd h (by simp)

theorem turns_succ (turns : Nat) : Steady turns := by
  induction turns with
  | zero => constructor <;> simp [readValue, readElements, readMembers]
  | succ turns ih =>
      exact ⟨fun _ _ => ih.readValue_succ, fun _ _ => ih.readElements_succ,
        fun _ _ => ih.readMembers_succ⟩

theorem read_of_le {turns turns' : Nat} (hle : turns ≤ turns') {s : ByteString} {j : Json}
    (h : read turns s = some j) : read turns' s = some j := by
  induction hle with
  | refl => exact h
  | step _ ih =>
      simp only [read] at ih ⊢
      split at ih
      · rename_i hvalue
        rw [(turns_succ _).value _ _ hvalue]
        exact ih
      · exact absurd ih (by simp)

/-- Any number of turns from some number on decides what a text reads as. -/
theorem reads_iff {bound : Nat} {s : ByteString} {j : Json} :
    Reads s j ↔ ∃ turns, read (turns + bound) s = some j := by
  constructor
  · rintro ⟨turns, h⟩
    exact ⟨turns, read_of_le (Nat.le_add_right turns bound) h⟩
  · rintro ⟨turns, h⟩
    exact ⟨turns + bound, h⟩

end Turns

section Members

variable {turns : Nat} {s key tail : ByteString}

theorem readString_text (hplain : ∀ b ∈ key, IsPlain b) (hutf8 : validUtf8 key = true) :
    readString (key ++ 34 :: tail) = some (key, tail) := by
  simp [readString, stringBody_text hplain, hutf8]

theorem readValue_string (hs : skipBlanks s = 34 :: tail) :
    readValue (turns + 1) s = (readString tail).map fun p => (.string p.1, p.2) := by
  rw [readValue, hs]
  rfl

/-- The first byte of a numeral begins nothing else. -/
theorem decimal_cons (n : Int) : ∃ b ds, decimal n = b :: ds ∧ (b = 45 ∨ isDecimal b = true) := by
  rw [decimal]
  split
  · exact ⟨45, _, rfl, .inl rfl⟩
  · rcases hdigits : natText 10 n.natAbs with _ | ⟨d, ds⟩
    · exact absurd hdigits (natText_ne_nil _)
    · exact ⟨d, ds, rfl, .inr
        (isDecimal_of_mem_natText (n := n.natAbs) (hdigits ▸ List.mem_cons_self))⟩

theorem readValue_decimal (n : Int) {b : UInt8} {rest : ByteString} (hb : EndsInteger b)
    (hs : skipBlanks s = decimal n ++ b :: rest) :
    readValue (turns + 1) s = some (ofInteger (decide (n < 0)) n.natAbs, b :: rest) := by
  obtain ⟨first, ds, hdecimal, hfirst⟩ := decimal_cons n
  have hother : ∀ c : UInt8, c ≠ 45 → isDecimal c = false → first ≠ c := by
    rintro c hminus hc rfl
    rcases hfirst with rfl | hdigit
    · exact hminus rfl
    · rw [hc] at hdigit
      exact absurd hdigit (by simp)
  rw [readValue, hs, ← readNumber_decimal n hb, hdecimal, List.cons_append]
  simp only [if_neg (hother 34 (by decide) (by decide)),
    if_neg (hother 123 (by decide) (by decide)), if_neg (hother 91 (by decide) (by decide)),
    if_neg (hother 110 (by decide) (by decide)), if_neg (hother 116 (by decide) (by decide)),
    if_neg (hother 102 (by decide) (by decide))]

theorem readMembers_skipBlanks : readMembers turns (skipBlanks s) = readMembers turns s := by
  cases turns with
  | zero => rfl
  | succ turns => rw [readMembers, readMembers, skipBlanks_skipBlanks]

/-- An object that is not empty. -/
theorem readValue_object (hs : skipBlanks s = 123 :: tail) {b : UInt8} {rest : ByteString}
    (htail : skipBlanks tail = b :: rest) (hb : b ≠ 125) :
    readValue (turns + 1) s = (readMembers turns tail).map fun p => (.object p.1, p.2) := by
  rw [readValue, hs, ← readMembers_skipBlanks, htail]
  simp only
  rw [if_neg (by decide), if_pos trivial]
  split
  · rename_i hclosed
    rw [htail] at hclosed
    exact absurd (List.cons.inj hclosed).1 hb
  · rw [htail]

/-- A member whose key stands for itself. -/
theorem readMembers_key (hs : skipBlanks s = 34 :: (key ++ 34 :: 58 :: tail))
    (hplain : ∀ b ∈ key, IsPlain b) (hutf8 : validUtf8 key = true) :
    readMembers (turns + 1) s = (readValue turns tail).bind fun p =>
      match skipBlanks p.2 with
      | 44 :: rest => (readMembers turns rest).map fun q => ((key, p.1) :: q.1, q.2)
      | 125 :: rest => some ([(key, p.1)], rest)
      | _ => none := by
  have hcolon : expect [58] (skipBlanks (58 :: tail)) = some tail := by
    rw [skipBlanks_of_cons (by decide)]
    simp [expect]
  rw [readMembers, hs]
  simp only [readString_text hplain hutf8, Option.bind_eq_bind, Option.bind_some, hcolon]

end Members

end Astartis.Json
