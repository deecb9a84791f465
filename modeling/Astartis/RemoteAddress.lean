import Mathlib.Data.Set.Insert
import Mathlib.Order.Interval.Set.Defs
import Astartis.ByteString

/-!
Sets of addresses as texts: single addresses, everything, subnets with a prefix length or a mask,
ranges, and lists of these.  How a single address is spelled is left open.
-/

namespace Astartis.RemoteAddress

inductive Family
  | v4
  | v6
deriving DecidableEq

def Family.width : Family → Nat
  | .v4 => 32
  | .v6 => 128

structure Address where
  family : Family
  number : Nat
  number_lt : number < 2 ^ family.width
deriving DecidableEq

/-- An item of a list. -/
inductive Remote
  | any
  | single (address : Address)
  | subnet (base : Address) (length : Nat)
  | range (first last : Address)

namespace Remote

def addresses : Remote → Set Address
  | .any => Set.univ
  | .single address => {address}
  | .subnet base length =>
      {a | a.family = base.family ∧
        ∀ i, a.family.width - length ≤ i → a.number.testBit i = base.number.testBit i}
  | .range first last =>
      {a | a.family = first.family ∧ a.family = last.family ∧
        a.number ∈ Set.Icc first.number last.number}

def covers : Remote → Address → Bool
  | .any, _ => true
  | .single address, a => a = address
  | .subnet base length, a =>
      a.family = base.family &&
        a.number >>> (a.family.width - length) = base.number >>> (a.family.width - length)
  | .range first last, a =>
      a.family = first.family && a.family = last.family && first.number ≤ a.number &&
        a.number ≤ last.number

/-- Numbers agree from a bit on if they are the same without the bits below it. -/
theorem shiftRight_eq_iff {x y k : Nat} :
    x >>> k = y >>> k ↔ ∀ i, k ≤ i → x.testBit i = y.testBit i := by
  constructor
  · intro heq i hi
    have hbit := congrArg (fun n => Nat.testBit n (i - k)) heq
    simpa [Nat.testBit_shiftRight, Nat.add_sub_cancel' hi] using hbit
  · intro hbits
    apply Nat.eq_of_testBit_eq
    intro i
    rw [Nat.testBit_shiftRight, Nat.testBit_shiftRight]
    exact hbits (k + i) (Nat.le_add_right k i)

theorem covers_iff {remote : Remote} {a : Address} :
    remote.covers a = true ↔ a ∈ remote.addresses := by
  cases remote with
  | any => simp [covers, addresses]
  | single address => simp [covers, addresses]
  | subnet base length => simp [covers, addresses, shiftRight_eq_iff]
  | range first last => simp [covers, addresses, and_assoc]

end Remote

section Grammar

/-- The small letter of a capital one. -/
def lower (b : UInt8) : UInt8 :=
  if 65 ≤ b ∧ b ≤ 90 then b + 32 else b

def Decimal (n : Nat) (text : ByteString) : Prop :=
  text ≠ [] ∧ (∀ b ∈ text, 48 ≤ b ∧ b ≤ 57) ∧
    text.foldl (fun n b => 10 * n + (b.toNat - 48)) 0 = n

instance (n : Nat) (text : ByteString) : Decidable (Decimal n text) :=
  inferInstanceAs (Decidable (_ ∧ _ ∧ _))

variable (literal : ByteString → Option Address)

/-- A length of prefixes, as a number or as the mask with so many leading ones. -/
def SpellsLength (family : Family) (length : Nat) (text : ByteString) : Prop :=
  Decimal length text ∨ ∃ mask, literal text = some mask ∧ mask.family = family ∧
    mask.number = 2 ^ family.width - 2 ^ (family.width - length)

inductive Spells : Remote → ByteString → Prop
  | any {text : ByteString} : text.map lower = ("any" : ByteString) → Spells .any text
  | single {text : ByteString} {a : Address} : literal text = some a → Spells (.single a) text
  | subnet {base text : ByteString} {a : Address} {length : Nat} :
      literal base = some a → length ≤ a.family.width →
        SpellsLength literal a.family length text →
        Spells (.subnet a length) (base ++ 47 :: text)
  | range {first last : ByteString} {a b : Address} :
      literal first = some a → literal last = some b → a.family = b.family →
        Spells (.range a b) (first ++ 45 :: last)

/-- The text is a list of items, and the set is their union. -/
def Denotes (text : ByteString) (set : Set Address) : Prop :=
  ∃ remotes, List.Forall₂ (Spells literal) remotes (text.splitOn 44) ∧
    set = {a | ∃ remote ∈ remotes, a ∈ remote.addresses}

end Grammar

section Readings

variable (literal : ByteString → Option Address)

/-- The ways to take a mark out of a text. -/
def cuts (mark : UInt8) : ByteString → List (ByteString × ByteString)
  | [] => []
  | b :: rest =>
      (if b = mark then [([], rest)] else []) ++
        (cuts mark rest).map fun cut => (b :: cut.1, cut.2)

theorem mem_cuts {mark : UInt8} {text front back : ByteString} :
    (front, back) ∈ cuts mark text ↔ text = front ++ mark :: back := by
  induction text generalizing front with
  | nil => simp [cuts]
  | cons b rest ih =>
      have hfirst : (front, back) ∈ (if b = mark then [(([] : ByteString), rest)] else []) ↔
          b = mark ∧ front = [] ∧ back = rest := by
        split
        · rename_i hmark
          simp [hmark]
        · rename_i hmark
          simp [hmark]
      rw [cuts, List.mem_append, hfirst, List.mem_map]
      constructor
      · rintro (⟨rfl, rfl, rfl⟩ | ⟨⟨front', back'⟩, hcut, heq⟩)
        · rfl
        · obtain ⟨rfl, rfl⟩ := Prod.mk.inj heq
          rw [ih.mp hcut, List.cons_append]
      · intro htext
        rcases front with _ | ⟨c, front⟩
        · obtain ⟨rfl, rfl⟩ := List.cons.inj htext
          exact .inl ⟨rfl, rfl, rfl⟩
        · obtain ⟨rfl, hrest⟩ := List.cons.inj htext
          exact .inr ⟨(front, back), ih.mpr hrest, rfl⟩

/-- The lengths that a text spells. -/
def lengths (family : Family) (text : ByteString) : List Nat :=
  (List.range (family.width + 1)).filter fun length =>
    Decimal length text || (literal text).any fun mask =>
      mask.family = family && mask.number = 2 ^ family.width - 2 ^ (family.width - length)

theorem mem_lengths {family : Family} {text : ByteString} {length : Nat} :
    length ∈ lengths literal family text ↔
      length ≤ family.width ∧ SpellsLength literal family length text := by
  rw [lengths, List.mem_filter, List.mem_range, Nat.lt_succ_iff, SpellsLength]
  refine and_congr_right fun _ => ?_
  simp [Option.any_eq_true]

def subnets (text : ByteString) : List Remote :=
  (cuts 47 text).flatMap fun cut =>
    match literal cut.1 with
    | none => []
    | some a => (lengths literal a.family cut.2).map (.subnet a)

def ranges (text : ByteString) : List Remote :=
  (cuts 45 text).flatMap fun cut =>
    match literal cut.1, literal cut.2 with
    | some a, some b => if a.family = b.family then [.range a b] else []
    | _, _ => []

/-- The items that a text spells. -/
def readings (text : ByteString) : List Remote :=
  (if text.map lower = ("any" : ByteString) then [.any] else []) ++
    ((literal text).map .single).toList ++ subnets literal text ++ ranges literal text

variable {literal} {text : ByteString}

theorem mem_subnets {remote : Remote} :
    remote ∈ subnets literal text ↔
      ∃ base rest a length, text = base ++ 47 :: rest ∧ literal base = some a ∧
        length ≤ a.family.width ∧ SpellsLength literal a.family length rest ∧
        remote = .subnet a length := by
  rw [subnets, List.mem_flatMap]
  constructor
  · rintro ⟨⟨base, rest⟩, hcut, hmem⟩
    cases hbase : literal base with
    | none => simp [hbase] at hmem
    | some a =>
        simp only [hbase, List.mem_map] at hmem
        obtain ⟨length, hlength, rfl⟩ := hmem
        obtain ⟨hle, hspells⟩ := (mem_lengths literal).mp hlength
        exact ⟨base, rest, a, length, mem_cuts.mp hcut, hbase, hle, hspells, rfl⟩
  · rintro ⟨base, rest, a, length, htext, hbase, hle, hspells, rfl⟩
    refine ⟨(base, rest), mem_cuts.mpr htext, ?_⟩
    simp only [hbase, List.mem_map]
    exact ⟨length, (mem_lengths literal).mpr ⟨hle, hspells⟩, rfl⟩

theorem mem_ranges {remote : Remote} :
    remote ∈ ranges literal text ↔
      ∃ first last a b, text = first ++ 45 :: last ∧ literal first = some a ∧
        literal last = some b ∧ a.family = b.family ∧ remote = .range a b := by
  rw [ranges, List.mem_flatMap]
  constructor
  · rintro ⟨⟨first, last⟩, hcut, hmem⟩
    cases hfirst : literal first with
    | none => simp [hfirst] at hmem
    | some a =>
        cases hlast : literal last with
        | none => simp [hfirst, hlast] at hmem
        | some b =>
            by_cases hfamily : a.family = b.family
            · simp only [hfirst, hlast, if_pos hfamily, List.mem_singleton] at hmem
              exact ⟨first, last, a, b, mem_cuts.mp hcut, hfirst, hlast, hfamily, hmem⟩
            · simp [hfirst, hlast, hfamily] at hmem
  · rintro ⟨first, last, a, b, htext, hfirst, hlast, hfamily, rfl⟩
    refine ⟨(first, last), mem_cuts.mpr htext, ?_⟩
    simp only [hfirst, hlast, if_pos hfamily, List.mem_singleton]

theorem mem_readings {remote : Remote} :
    remote ∈ readings literal text ↔ Spells literal remote text := by
  rw [readings, List.mem_append, List.mem_append, List.mem_append, mem_subnets, mem_ranges]
  constructor
  · rintro (((hany | hsingle) | ⟨base, rest, a, length, rfl, hbase, hle, hspells, rfl⟩) |
      ⟨first, last, a, b, rfl, hfirst, hlast, hfamily, rfl⟩)
    · split at hany
      · rename_i htext
        rw [List.mem_singleton.mp hany]
        exact .any htext
      · simp at hany
    · obtain ⟨a, htext, rfl⟩ := Option.map_eq_some_iff.mp (Option.mem_toList.mp hsingle)
      exact .single htext
    · exact .subnet hbase hle hspells
    · exact .range hfirst hlast hfamily
  · intro hspells
    cases hspells with
    | any htext => exact .inl (.inl (.inl (by rw [if_pos htext, List.mem_singleton])))
    | single htext => exact .inl (.inl (.inr (by rw [htext]; simp)))
    | subnet hbase hle hlength =>
        exact .inl (.inr ⟨_, _, _, _, rfl, hbase, hle, hlength, rfl⟩)
    | range hfirst hlast hfamily => exact .inr ⟨_, _, _, _, rfl, hfirst, hlast, hfamily, rfl⟩

end Readings

section Reaches

variable (literal : ByteString → Option Address)

/-- Every item of the text has a reading, and one of them covers the address. -/
def reaches (text : ByteString) (a : Address) : Bool :=
  (text.splitOn 44).all (fun item => !(readings literal item).isEmpty) &&
    (text.splitOn 44).any fun item => (readings literal item).any (·.covers a)

variable {literal}

theorem forall₂_mem {remotes : List Remote} {items : List ByteString}
    (h : List.Forall₂ (Spells literal) remotes items) :
    (∀ remote ∈ remotes, ∃ item ∈ items, Spells literal remote item) ∧
      ∀ item ∈ items, ∃ remote, Spells literal remote item := by
  induction h with
  | nil => simp
  | @cons remote item remotes items hspells _ ih =>
      constructor
      · intro remote' hremote
        rcases List.mem_cons.mp hremote with rfl | hremote
        · exact ⟨item, by simp, hspells⟩
        · obtain ⟨item', hitem, hspells'⟩ := ih.1 remote' hremote
          exact ⟨item', by simp [hitem], hspells'⟩
      · intro item' hitem
        rcases List.mem_cons.mp hitem with rfl | hitem
        · exact ⟨remote, hspells⟩
        · exact ih.2 item' hitem

/-- Where every item has a reading, any reading of an item is part of a reading of the list. -/
theorem exists_remotes {items : List ByteString}
    (hread : ∀ item ∈ items, ∃ remote, Spells literal remote item) :
    (∃ remotes, List.Forall₂ (Spells literal) remotes items) ∧
      ∀ item ∈ items, ∀ remote, Spells literal remote item →
        ∃ remotes, List.Forall₂ (Spells literal) remotes items ∧ remote ∈ remotes := by
  induction items with
  | nil => exact ⟨⟨[], .nil⟩, fun item hitem => absurd hitem List.not_mem_nil⟩
  | cons item items ih =>
      obtain ⟨remote, hremote⟩ := hread item (by simp)
      obtain ⟨⟨remotes, hremotes⟩, hothers⟩ := ih fun item' hitem => hread item' (by simp [hitem])
      refine ⟨⟨remote :: remotes, .cons hremote hremotes⟩, ?_⟩
      intro item' hitem chosen hchosen
      rcases List.mem_cons.mp hitem with rfl | hitem
      · exact ⟨chosen :: remotes, .cons hchosen hremotes, by simp⟩
      · obtain ⟨remotes', hremotes', hmem⟩ := hothers item' hitem chosen hchosen
        exact ⟨remote :: remotes', .cons hremote hremotes', by simp [hmem]⟩

theorem reaches_iff {text : ByteString} {a : Address} :
    reaches literal text a = true ↔ ∃ set, Denotes literal text set ∧ a ∈ set := by
  have hreadings : ∀ item, (readings literal item).isEmpty = false ↔
      ∃ remote, Spells literal remote item := by
    intro item
    rw [List.isEmpty_eq_false_iff_exists_mem]
    exact exists_congr fun remote => mem_readings
  simp only [reaches, Bool.and_eq_true, List.all_eq_true, List.any_eq_true, Bool.not_eq_true',
    hreadings, mem_readings, Remote.covers_iff]
  constructor
  · rintro ⟨hread, item, hitem, remote, hspells, hcovers⟩
    obtain ⟨remotes, hremotes, hmem⟩ := (exists_remotes hread).2 item hitem remote hspells
    exact ⟨_, ⟨remotes, hremotes, rfl⟩, remote, hmem, hcovers⟩
  · rintro ⟨set, ⟨remotes, hremotes, rfl⟩, remote, hmem, hcovers⟩
    obtain ⟨hspelled, hread⟩ := forall₂_mem hremotes
    obtain ⟨item, hitem, hspells⟩ := hspelled remote hmem
    exact ⟨hread, item, hitem, remote, hspells, hcovers⟩

/-- A text without marks is at most a single address. -/
theorem reaches_of_unmarked {text : ByteString} {a : Address} (hcomma : 44 ∉ text)
    (hdash : 45 ∉ text) (hslash : 47 ∉ text) (hany : text.map lower ≠ ("any" : ByteString)) :
    reaches literal text a = true ↔ literal text = some a := by
  have hspells : ∀ remote, Spells literal remote text ↔
      ∃ b, literal text = some b ∧ remote = .single b := by
    intro remote
    constructor
    · intro h
      cases h with
      | any htext => exact absurd htext hany
      | single htext => exact ⟨_, htext, rfl⟩
      | subnet => simp at hslash
      | range => simp at hdash
    · rintro ⟨b, htext, rfl⟩
      exact .single htext
  rw [reaches_iff]
  simp only [Denotes, List.splitOn_eq_singleton hcomma]
  constructor
  · rintro ⟨_, ⟨remotes, hremotes, rfl⟩, remote, hmem, ha⟩
    obtain ⟨item, hitem, hread⟩ := (forall₂_mem hremotes).1 remote hmem
    rw [List.mem_singleton.mp hitem, hspells] at hread
    obtain ⟨b, htext, rfl⟩ := hread
    obtain rfl : a = b := ha
    exact htext
  · intro htext
    refine ⟨_, ⟨[.single a], .cons (.single htext) .nil, rfl⟩, .single a, by simp, rfl⟩

end Reaches

end Astartis.RemoteAddress
