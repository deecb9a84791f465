import Mathlib.Data.List.Infix
import Mathlib.Data.List.TakeWhile

/-!
Texts of fields with a separator between them, each field a key and a value behind it.  A reader
takes the first place where the key stands, whatever field it stands in.
-/

namespace Astartis.FieldText

universe u

variable {α : Type u} [DecidableEq α]

/-- What stands behind the first occurrence of a key, up to the next separator. -/
def value? (sep : α) (key : List α) : List α → Option (List α)
  | [] => none
  | a :: rest =>
      if key.isPrefixOf (a :: rest) then
        some (((a :: rest).drop key.length).takeWhile fun b => !decide (b = sep))
      else value? sep key rest

/-- The key stands in the text for the first time in front of this value, and the value ends
at a separator or with the text. -/
def FirstValue (sep : α) (key text value : List α) : Prop :=
  ∃ front rest, text = front ++ (key ++ (value ++ rest)) ∧
    (∀ i < front.length, ¬ key <+: text.drop i) ∧ sep ∉ value ∧ ∀ b ∈ rest.head?, b = sep

/-- The first of the texts in which the key stands has this value behind it. -/
def FirstHolds (sep : α) (key : List α) (texts : List (List α)) (value : List α) : Prop :=
  ∃ before text after, texts = before ++ text :: after ∧
    (∀ earlier ∈ before, ¬ key <:+: earlier) ∧ FirstValue sep key text value

/-- The value is read for a key that has a field of its own behind these texts: out of the first
of them in which the key stands, or out of the field, up to a separator. -/
def ReadsOwn (sep : α) (key : List α) (texts : List (List α)) (own value : List α) : Prop :=
  FirstHolds sep key texts value ∨
    (∀ text ∈ texts, ¬ key <:+: text) ∧ ∃ rest, own = value ++ rest ∧ sep ∉ value ∧
      ∀ b ∈ rest.head?, b = sep

/-- The fields of a text, each a name and a value. -/
def fieldsText (sep : α) (fields : List (List α × List α)) : List α :=
  [sep].intercalate (fields.map fun field => field.1 ++ field.2)

/-- The value comes back whole: no text in front of it has the key in it, or the first that has
it has the very same value behind it. -/
def Kept (sep : α) (key : List α) (texts : List (List α)) (value : List α) : Prop :=
  sep ∉ value ∧ ((∀ text ∈ texts, ¬ key <:+: text) ∨ FirstHolds sep key texts value)

/-- No occurrence of the key can begin inside the name. -/
def apart (key name : List α) : Bool :=
  name.tails.all fun t => t.isEmpty || (!t.isPrefixOf key && !key.isPrefixOf t)

section Values

variable {sep : α} {key : List α}

theorem takeWhile_value {value rest : List α} (hvalue : sep ∉ value)
    (hrest : ∀ b ∈ rest.head?, b = sep) :
    ((value ++ rest).takeWhile fun b => !decide (b = sep)) = value := by
  induction value with
  | nil =>
      cases rest with
      | nil => rfl
      | cons b rest => simp [hrest b rfl]
  | cons a value ih =>
      have ha : a ≠ sep := fun h => hvalue (h ▸ List.mem_cons_self)
      rw [List.cons_append, List.takeWhile_cons, ih fun h => hvalue (List.mem_cons_of_mem a h)]
      simp [ha]

theorem takeWhile_ne_eq_iff {own value : List α} :
    (own.takeWhile fun b => !decide (b = sep)) = value ↔
      ∃ rest, own = value ++ rest ∧ sep ∉ value ∧ ∀ b ∈ rest.head?, b = sep := by
  constructor
  · rintro rfl
    refine ⟨own.dropWhile fun b => !decide (b = sep), List.takeWhile_append_dropWhile.symm, ?_, ?_⟩
    · intro hmem
      simpa using List.mem_takeWhile_imp hmem
    · intro b hb
      have hstop := List.head?_dropWhile_not (fun b => !decide (b = sep)) own
      rw [Option.mem_def.mp hb] at hstop
      simpa using hstop
  · rintro ⟨rest, rfl, hvalue, hrest⟩
    exact takeWhile_value hvalue hrest

theorem takeWhile_ne_eq_self_iff {text : List α} :
    (text.takeWhile fun b => !decide (b = sep)) = text ↔ sep ∉ text := by
  rw [List.takeWhile_eq_self_iff]
  constructor
  · intro hall hmem
    simpa using hall sep hmem
  · intro hmem b hb
    have hne : b ≠ sep := fun h => hmem (h ▸ hb)
    simpa using hne

omit [DecidableEq α] in
/-- A separator ends what can be read in front of it. -/
theorem prefix_append_sep_iff (hkey : sep ∉ key) {a b : List α} :
    key <+: a ++ sep :: b ↔ key <+: a := by
  constructor
  · intro h
    rcases List.prefix_or_prefix_of_prefix h (List.prefix_append a (sep :: b)) with h' | ⟨t, rfl⟩
    · exact h'
    · rw [List.prefix_append_right_inj] at h
      cases t with
      | nil => simp
      | cons c t =>
          obtain rfl : c = sep := (List.cons_prefix_cons.mp h).1
          exact absurd (by simp) hkey
  · exact fun h => h.trans (List.prefix_append a _)

theorem takeWhile_append_sep (a b : List α) :
    ((a ++ sep :: b).takeWhile fun c => !decide (c = sep)) =
      a.takeWhile fun c => !decide (c = sep) := by
  induction a with
  | nil => simp
  | cons c a ih => rw [List.cons_append, List.takeWhile_cons, List.takeWhile_cons, ih]

theorem value?_append_sep (hkey : sep ∉ key) (hne : key ≠ []) (a b : List α) :
    value? sep key (a ++ sep :: b) = (value? sep key a).or (value? sep key b) := by
  induction a with
  | nil =>
      have hsep : ¬ key <+: sep :: b := by
        rw [← List.nil_append (sep :: b), prefix_append_sep_iff hkey, List.prefix_nil]
        exact hne
      rw [List.nil_append, value?, value?, if_neg (by rwa [List.isPrefixOf_iff_prefix]),
        Option.none_or]
  | cons c a ih =>
      rw [List.cons_append, value?, value?, ← List.cons_append]
      simp only [List.isPrefixOf_iff_prefix, prefix_append_sep_iff hkey]
      split
      · rename_i hstarts
        rw [List.drop_append_of_le_length hstarts.length_le, takeWhile_append_sep, Option.some_or]
      · exact ih

/-- In a text of fields the fields are read one after the other. -/
theorem value?_intercalate (hkey : sep ∉ key) (hne : key ≠ []) (fields : List (List α)) :
    value? sep key ([sep].intercalate fields) = fields.findSome? (value? sep key) := by
  induction fields with
  | nil => rfl
  | cons field fields ih =>
      cases fields with
      | nil => simp [List.intercalate]
      | cons next fields =>
          have hcons : [sep].intercalate (field :: next :: fields) =
              field ++ sep :: [sep].intercalate (next :: fields) := by
            simp [List.intercalate]
          rw [hcons, value?_append_sep hkey hne, ih]
          cases hfield : value? sep key field <;> simp [List.findSome?_cons, hfield]

theorem value?_own (hne : key ≠ []) (value : List α) :
    value? sep key (key ++ value) = some (value.takeWhile fun b => !decide (b = sep)) := by
  obtain ⟨a, rest, hcons⟩ :=
    List.exists_cons_of_ne_nil (List.append_ne_nil_of_left_ne_nil hne value)
  have hstarts : key.isPrefixOf (key ++ value) = true :=
    List.isPrefixOf_iff_prefix.mpr (List.prefix_append key value)
  rw [hcons] at hstarts ⊢
  rw [value?, if_pos hstarts, ← hcons, List.drop_left]

/-- A name in front of a value in which the key cannot begin is passed over. -/
theorem value?_name {name : List α} (hapart : apart key name = true) (value : List α) :
    value? sep key (name ++ value) = value? sep key value := by
  induction name with
  | nil => rfl
  | cons a name ih =>
      rw [apart, List.tails_cons, List.all_cons, Bool.and_eq_true] at hapart
      obtain ⟨hhere, hbehind⟩ := hapart
      simp only [List.isEmpty_cons, Bool.false_or, Bool.and_eq_true, Bool.not_eq_true',
        ← Bool.not_eq_true, List.isPrefixOf_iff_prefix] at hhere
      have hstarts : ¬ key <+: a :: (name ++ value) := by
        intro h
        rcases List.prefix_or_prefix_of_prefix h (List.prefix_append (a :: name) value) with h' | h'
        · exact hhere.2 h'
        · exact hhere.1 h'
      rw [List.cons_append, value?, if_neg (by rwa [List.isPrefixOf_iff_prefix]), ih hbehind]

theorem value?_eq_none_iff (hne : key ≠ []) {text : List α} :
    value? sep key text = none ↔ ¬ key <:+: text := by
  induction text with
  | nil => simp [value?, hne]
  | cons a rest ih =>
      rw [value?, List.infix_cons_iff, not_or, ← ih]
      simp only [List.isPrefixOf_iff_prefix]
      split <;> simp_all

theorem value?_eq_some_iff (hne : key ≠ []) {text value : List α} :
    value? sep key text = some value ↔ FirstValue sep key text value := by
  induction text with
  | nil =>
      constructor
      · intro h
        exact absurd h (by simp [value?])
      · rintro ⟨front, rest, htext, -⟩
        simp [hne] at htext
  | cons a text ih =>
      rw [value?]
      simp only [List.isPrefixOf_iff_prefix]
      split
      · rename_i hstarts
        obtain ⟨behind, hbehind⟩ := hstarts
        rw [← hbehind, List.drop_left, Option.some.injEq, takeWhile_ne_eq_iff]
        constructor
        · rintro ⟨rest, rfl, hvalue, hrest⟩
          exact ⟨[], rest, rfl, by simp, hvalue, hrest⟩
        · rintro ⟨front, rest, htext, hfirst, hvalue, hrest⟩
          cases front with
          | nil => exact ⟨rest, List.append_cancel_left htext, hvalue, hrest⟩
          | cons c front =>
              exact absurd (List.prefix_append key behind) (hfirst 0 (by simp))
      · rename_i hstarts
        rw [ih]
        constructor
        · rintro ⟨front, rest, htext, hfirst, hvalue, hrest⟩
          refine ⟨a :: front, rest, by rw [htext, List.cons_append], ?_, hvalue, hrest⟩
          intro i hi
          cases i with
          | zero => exact hstarts
          | succ i => exact hfirst i (by simpa using hi)
        · rintro ⟨front, rest, htext, hfirst, hvalue, hrest⟩
          cases front with
          | nil => exact absurd ⟨value ++ rest, htext.symm⟩ hstarts
          | cons c front =>
              rw [List.cons_append, List.cons.injEq] at htext
              refine ⟨front, rest, htext.2, ?_, hvalue, hrest⟩
              intro i hi
              exact hfirst (i + 1) (by simpa using hi)

theorem findSome?_value?_iff (hne : key ≠ []) {texts : List (List α)} {value : List α} :
    texts.findSome? (value? sep key) = some value ↔ FirstHolds sep key texts value := by
  simp only [List.findSome?_eq_some_iff, value?_eq_some_iff hne, value?_eq_none_iff hne,
    FirstHolds]
  constructor
  · rintro ⟨before, text, after, htexts, hvalue, hbefore⟩
    exact ⟨before, text, after, htexts, hbefore, hvalue⟩
  · rintro ⟨before, text, after, htexts, hbefore, hvalue⟩
    exact ⟨before, text, after, htexts, hvalue, hbefore⟩

theorem findSome?_value?_eq_none_iff (hne : key ≠ []) {texts : List (List α)} :
    texts.findSome? (value? sep key) = none ↔ ∀ text ∈ texts, ¬ key <:+: text := by
  simp only [List.findSome?_eq_none_iff, value?_eq_none_iff hne]

omit [DecidableEq α] in
theorem not_mem_of_firstHolds {texts : List (List α)} {value : List α}
    (hholds : FirstHolds sep key texts value) : sep ∉ value := by
  obtain ⟨before, text, after, -, -, front, rest, -, -, hvalue, -⟩ := hholds
  exact hvalue

/-- The fields in front of the key's own are the ones that can speak for it. -/
theorem value?_fieldsText_own (hkey : sep ∉ key) (hne : key ≠ [])
    {before : List (List α × List α)} (hbefore : ∀ field ∈ before, apart key field.1 = true)
    (value : List α) (after : List (List α × List α)) :
    value? sep key (fieldsText sep (before ++ (key, value) :: after)) =
      ((before.map (·.2)).findSome? (value? sep key)).or
        (some (value.takeWhile fun b => !decide (b = sep))) := by
  rw [fieldsText, value?_intercalate hkey hne]
  induction before with
  | nil => simp [value?_own hne]
  | cons field before ih =>
      rw [List.cons_append, List.map_cons, List.findSome?_cons, List.map_cons,
        List.findSome?_cons, value?_name (hbefore field List.mem_cons_self),
        ih fun field' h => hbefore field' (List.mem_cons_of_mem field h)]
      cases value? sep key field.2 <;> rfl

/-- A key that no field has is looked for in the values. -/
theorem value?_fieldsText_absent (hkey : sep ∉ key) (hne : key ≠ [])
    {fields : List (List α × List α)} (hfields : ∀ field ∈ fields, apart key field.1 = true) :
    value? sep key (fieldsText sep fields) =
      (fields.map (·.2)).findSome? (value? sep key) := by
  rw [fieldsText, value?_intercalate hkey hne]
  induction fields with
  | nil => rfl
  | cons field fields ih =>
      rw [List.map_cons, List.findSome?_cons, List.map_cons, List.findSome?_cons,
        value?_name (hfields field List.mem_cons_self),
        ih fun field' h => hfields field' (List.mem_cons_of_mem field h)]

theorem kept_iff_of_none (hne : key ≠ []) {texts : List (List α)} {value : List α}
    (hread : texts.findSome? (value? sep key) = none) :
    Kept sep key texts value ↔ sep ∉ value := by
  have hfree := (findSome?_value?_eq_none_iff hne).mp hread
  exact ⟨And.left, fun hvalue => ⟨hvalue, .inl hfree⟩⟩

theorem kept_iff_of_some (hne : key ≠ []) {texts : List (List α)} {read value : List α}
    (hread : texts.findSome? (value? sep key) = some read) :
    Kept sep key texts value ↔ read = value := by
  rw [← Option.some_inj, ← hread, findSome?_value?_iff hne]
  constructor
  · rintro ⟨-, hfree | hholds⟩
    · rw [(findSome?_value?_eq_none_iff hne).mpr hfree] at hread
      exact absurd hread (by simp)
    · exact hholds
  · exact fun hholds => ⟨not_mem_of_firstHolds hholds, .inr hholds⟩

theorem value?_own_eq_some_iff (hkey : sep ∉ key) (hne : key ≠ [])
    {before : List (List α × List α)} (hbefore : ∀ field ∈ before, apart key field.1 = true)
    (own : List α) (after : List (List α × List α)) {value : List α} :
    value? sep key (fieldsText sep (before ++ (key, own) :: after)) = some value ↔
      ReadsOwn sep key (before.map (·.2)) own value := by
  have hsilent : (before.map (·.2)).findSome? (value? sep key) = none ↔ _ :=
    findSome?_value?_eq_none_iff hne
  rw [value?_fieldsText_own hkey hne hbefore, ReadsOwn, ← findSome?_value?_iff hne, ← hsilent,
    ← takeWhile_ne_eq_iff]
  cases (before.map (·.2)).findSome? (value? sep key) <;> simp

/-- What is read for a key is the value of its field exactly if that comes back whole. -/
theorem read_own_iff (hkey : sep ∉ key) (hne : key ≠ []) {before : List (List α × List α)}
    (hbefore : ∀ field ∈ before, apart key field.1 = true) (value : List α)
    (after : List (List α × List α)) :
    (value? sep key (fieldsText sep (before ++ (key, value) :: after))).getD [] = value ↔
      Kept sep key (before.map (·.2)) value := by
  rw [value?_fieldsText_own hkey hne hbefore]
  cases hread : (before.map (·.2)).findSome? (value? sep key) with
  | none =>
      rw [kept_iff_of_none hne hread, Option.none_or, Option.getD_some, takeWhile_ne_eq_self_iff]
  | some read => rw [kept_iff_of_some hne hread, Option.some_or, Option.getD_some]

/-- A key of no field reads as nothing where no value, or one with nothing behind it, has it. -/
theorem read_nothing_iff (hne : key ≠ []) {texts : List (List α)} :
    (texts.findSome? (value? sep key)).getD [] = [] ↔ Kept sep key texts [] := by
  cases hread : texts.findSome? (value? sep key) with
  | none => simp [kept_iff_of_none hne hread]
  | some read => rw [kept_iff_of_some hne hread, Option.getD_some]

/-- A key of no field reads as something only out of the values. -/
theorem read_something_iff (hne : key ≠ []) {texts : List (List α)} {value : List α}
    (hvalue : value ≠ []) :
    (texts.findSome? (value? sep key)).getD [] = value ↔ FirstHolds sep key texts value := by
  rw [← findSome?_value?_iff hne]
  cases texts.findSome? (value? sep key) <;> simp [hvalue.symm]

/-- A text without the key says nothing about it. -/
theorem findSome?_silent (hne : key ≠ []) (texts : List (List α)) {silent : List α}
    (hsilent : ¬ key <:+: silent) :
    (texts ++ [silent]).findSome? (value? sep key) = texts.findSome? (value? sep key) := by
  rw [List.findSome?_append, List.findSome?_singleton, (value?_eq_none_iff hne).mpr hsilent,
    Option.or_none]

end Values

end Astartis.FieldText
