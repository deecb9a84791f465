import Astartis.ByteString

/-!
Text among the markup of a page.  The tokenizer follows the states of the HTML standard, as far
as start tags, end tags and named references go; comments and numeric references are not read.
-/

namespace Astartis.Html

open ByteString

/-- Where a tag is read: its name, its attributes, or a value behind the given quotation mark. -/
inductive Place
  | name
  | beforeAttribute
  | attribute
  | afterAttribute
  | beforeValue
  | quoted (mark : UInt8)
  | unquoted
  | afterQuoted
  | selfClosing

inductive Mode
  | data
  | reference (name : ByteString)
  | tagOpen
  | endTagOpen
  | tag (isEnd : Bool) (name : ByteString) (place : Place)

inductive Token
  | text (b : UInt8)
  | startTag (name : ByteString)
  | endTag (name : ByteString)
deriving DecidableEq

def isSpace (b : UInt8) : Bool :=
  b = 9 || b = 10 || b = 12 || b = 32

def isLetter (b : UInt8) : Bool :=
  65 ≤ b && b ≤ 90 || 97 ≤ b && b ≤ 122

/-- The named references that are read. -/
def referenceText? (name : ByteString) : Option ByteString :=
  if name = "amp" then some "&"
  else if name = "lt" then some "<"
  else if name = "gt" then some ">"
  else if name = "quot" then some "\""
  else none

/-- The next place inside of a tag, `none` at its end. -/
def Place.next (b : UInt8) : Place → Option Place
  | .name =>
      if isSpace b then some .beforeAttribute
      else if b = 47 then some .selfClosing
      else if b = 62 then none
      else some .name
  | .beforeAttribute =>
      if isSpace b then some .beforeAttribute
      else if b = 47 then some .selfClosing
      else if b = 62 then none
      else some .attribute
  | .attribute =>
      if isSpace b then some .afterAttribute
      else if b = 47 then some .selfClosing
      else if b = 62 then none
      else if b = 61 then some .beforeValue
      else some .attribute
  | .afterAttribute =>
      if isSpace b then some .afterAttribute
      else if b = 47 then some .selfClosing
      else if b = 62 then none
      else if b = 61 then some .beforeValue
      else some .attribute
  | .beforeValue =>
      if isSpace b then some .beforeValue
      else if b = 34 ∨ b = 39 then some (.quoted b)
      else if b = 62 then none
      else some .unquoted
  | .quoted mark => if b = mark then some .afterQuoted else some (.quoted mark)
  | .unquoted =>
      if isSpace b then some .beforeAttribute
      else if b = 62 then none
      else some .unquoted
  | .afterQuoted =>
      if isSpace b then some .beforeAttribute
      else if b = 47 then some .selfClosing
      else if b = 62 then none
      else some .attribute
  | .selfClosing =>
      if isSpace b then some .beforeAttribute
      else if b = 47 then some .selfClosing
      else if b = 62 then none
      else some .attribute

def Mode.step (b : UInt8) : Mode → Option (Mode × List Token)
  | .data =>
      if b = 38 then some (.reference [], [])
      else if b = 60 then some (.tagOpen, [])
      else some (.data, [.text b])
  | .reference name =>
      if b = 59 then (referenceText? name).map fun text => (.data, text.map .text)
      else if isLetter b then some (.reference (name ++ [b]), [])
      else none
  | .tagOpen =>
      if b = 47 then some (.endTagOpen, [])
      else if isLetter b then some (.tag false [b] .name, [])
      else none
  | .endTagOpen => if isLetter b then some (.tag true [b] .name, []) else none
  | .tag isEnd name place =>
      match place.next b with
      | none => some (.data, [if isEnd then .endTag name else .startTag name])
      | some .name => some (.tag isEnd (name ++ [b]) .name, [])
      | some place => some (.tag isEnd name place, [])

def run : Mode → ByteString → Option (Mode × List Token)
  | mode, [] => some (mode, [])
  | mode, b :: html => do
      let (mode, out) ← mode.step b
      let (mode, rest) ← run mode html
      return (mode, out ++ rest)

/-- The replacement of `&`, `<` and `>`, in this order. -/
def escape (text : ByteString) : ByteString :=
  text.flatMap fun b =>
    if b = 38 then "&amp;" else if b = 60 then "&lt;" else if b = 62 then "&gt;" else [b]

/-- A text without the bytes that begin a reference or a tag. -/
def Plain (text : ByteString) : Prop :=
  38 ∉ text ∧ 60 ∉ text

instance : DecidablePred Plain := fun _ => inferInstanceAs (Decidable (_ ∧ _))

section Runs

theorem run_append (mode : Mode) (html more : ByteString) :
    run mode (html ++ more) =
      (run mode html).bind fun p => (run p.1 more).map fun q => (q.1, p.2 ++ q.2) := by
  induction html generalizing mode with
  | nil => simp [run]
  | cons b html ih =>
      rw [List.cons_append, run, run]
      cases mode.step b with
      | none => rfl
      | some p =>
          simp only [Option.bind_eq_bind, Option.bind_some, ih]
          cases run p.1 html with
          | none => rfl
          | some q =>
              simp only [Option.bind_some]
              cases hmore : run q.1 more <;> simp [hmore]

theorem run_plain {text : ByteString} (hplain : Plain text) :
    run .data text = some (.data, text.map .text) := by
  induction text with
  | nil => rfl
  | cons b text ih =>
      obtain ⟨hamp, hlt⟩ := hplain
      rw [List.mem_cons, not_or] at hamp hlt
      rw [run, Mode.step, if_neg (Ne.symm hamp.1), if_neg (Ne.symm hlt.1)]
      simp [ih ⟨hamp.2, hlt.2⟩]

theorem run_escape (text : ByteString) :
    run .data (escape text) = some (.data, text.map .text) := by
  induction text with
  | nil => rfl
  | cons b text ih =>
      have hfirst : run .data (escape [b]) = some (.data, [.text b]) := by
        by_cases hamp : b = 38
        · subst hamp
          rfl
        · by_cases hlt : b = 60
          · subst hlt
            rfl
          · by_cases hgt : b = 62
            · subst hgt
              rfl
            · simp [escape, hamp, hlt, hgt, run, Mode.step]
      show run .data (escape ([b] ++ text)) = _
      rw [escape, List.flatMap_append, run_append, ← escape, hfirst, Option.bind_some, ← escape, ih]
      rfl

/-- A value is read to its quotation mark. -/
theorem run_quoted (isEnd : Bool) (name : ByteString) {mark : UInt8} {text : ByteString}
    (htext : mark ∉ text) :
    run (.tag isEnd name (.quoted mark)) text = some (.tag isEnd name (.quoted mark), []) := by
  induction text with
  | nil => rfl
  | cons b text ih =>
      rw [List.mem_cons, not_or] at htext
      simp [run, Mode.step, Place.next, Ne.symm htext.1, ih htext.2]

end Runs

/-- The rows of a table as they are read, the row and the cell that are open, and the elements
that are open inside of the cell. -/
structure Grid where
  rows : List (List ByteString) := []
  row : Option (List ByteString) := none
  cell : Option ByteString := none
  inner : List ByteString := []
deriving DecidableEq

/-- What a token does to a table.  Text outside of the cells may only be white space. -/
def Grid.take (self : Grid) : Token → Option Grid
  | .text b =>
      match self.cell with
      | some text => some { self with cell := some (text ++ [b]) }
      | none => if isSpace b then some self else none
  | .startTag name =>
      match self.row, self.cell with
      | none, none => if name = "tr" then some { self with row := some [] } else none
      | some _, none => if name = "td" then some { self with cell := some [] } else none
      | _, some _ =>
          if name = "tr" ∨ name = "td" then none
          else some { self with inner := name :: self.inner }
  | .endTag name =>
      match self.row, self.cell, self.inner with
      | some cells, none, [] =>
          if name = "tr" then some { self with rows := self.rows ++ [cells], row := none }
          else none
      | some cells, some text, [] =>
          if name = "td" then some { self with row := some (cells ++ [text]), cell := none }
          else none
      | _, some _, element :: inner =>
          if name = element then some { self with inner := inner } else none
      | _, _, _ => none

/-- What a piece of HTML does to a table. -/
def Draws (html : ByteString) (before after : Grid) : Prop :=
  ∃ tokens, run .data html = some (.data, tokens) ∧ tokens.foldlM Grid.take before = some after

/-- The rows that a body of a table comes to, if it is nothing else than rows of cells. -/
def rows? (html : ByteString) : Option (List (List ByteString)) :=
  match run .data html with
  | some (.data, tokens) =>
      match tokens.foldlM Grid.take {} with
      | some ⟨rows, none, none, []⟩ => some rows
      | _ => none
  | _ => none

section Tables

variable {html more : ByteString} {before mid after : Grid}

theorem Draws.append (hfirst : Draws html before mid) (hsecond : Draws more mid after) :
    Draws (html ++ more) before after := by
  obtain ⟨tokens, hrun, htake⟩ := hfirst
  obtain ⟨rest, hrest, htake'⟩ := hsecond
  refine ⟨tokens ++ rest, ?_, ?_⟩
  · rw [run_append, hrun, Option.bind_some, hrest]
    rfl
  · rw [List.foldlM_append, htake]
    exact htake'

theorem foldlM_text (text cell : ByteString) (grid : Grid) (hcell : grid.cell = some cell) :
    (text.map Token.text).foldlM Grid.take grid =
      some { grid with cell := some (cell ++ text) } := by
  induction text generalizing cell grid with
  | nil => simp [← hcell]
  | cons b text ih =>
      rw [List.map_cons, List.foldlM_cons, Grid.take, hcell]
      refine (ih (cell ++ [b]) _ rfl).trans ?_
      simp

/-- The piece of HTML is the text, wherever a cell is open. -/
def Spells (html text : ByteString) : Prop :=
  ∀ grid : Grid, ∀ cell, grid.cell = some cell →
    Draws html grid { grid with cell := some (cell ++ text) }

theorem spells_escape (text : ByteString) : Spells (escape text) text :=
  fun grid cell hcell => ⟨_, run_escape text, foldlM_text text cell grid hcell⟩

theorem spells_plain {text : ByteString} (hplain : Plain text) : Spells text text :=
  fun grid cell hcell => ⟨_, run_plain hplain, foldlM_text text cell grid hcell⟩

theorem rows?_of_draws {rows : List (List ByteString)} (hdraws : Draws html {} { rows := rows }) :
    rows? html = some rows := by
  obtain ⟨tokens, hrun, htake⟩ := hdraws
  simp only [rows?, hrun, htake]

/-- A cell: the markup around its text. -/
structure Cell where
  front : ByteString
  html : ByteString
  behind : ByteString

def Cell.toHtml (self : Cell) : ByteString :=
  self.front ++ (self.html ++ self.behind)

/-- A row, with white space in front of its cells and of its end. -/
def rowHtml (indent close : ByteString) (cells : List Cell) : ByteString :=
  ("<tr>" : ByteString) ++ ((cells.flatMap fun cell => indent ++ cell.toHtml) ++
    (close ++ ("</tr>" : ByteString)))

/-- Markup that opens a cell and closes it again. -/
def Encloses (front behind : ByteString) : Prop :=
  ∃ inner, ∀ rows cells,
    Draws front ⟨rows, some cells, none, []⟩ ⟨rows, some cells, some [], inner⟩ ∧
      ∀ text, Draws behind ⟨rows, some cells, some text, inner⟩
        ⟨rows, some (cells ++ [text]), none, []⟩

structure Cell.Shows (self : Cell) (text : ByteString) : Prop where
  encloses : Encloses self.front self.behind
  spells : Spells self.html text

theorem Cell.Shows.draws {cell : Cell} {text : ByteString} (hshows : cell.Shows text)
    (rows : List (List ByteString)) (cells : List ByteString) :
    Draws cell.toHtml ⟨rows, some cells, none, []⟩ ⟨rows, some (cells ++ [text]), none, []⟩ := by
  obtain ⟨⟨inner, hencloses⟩, hspells⟩ := hshows
  obtain ⟨hopens, hcloses⟩ := hencloses rows cells
  refine hopens.append (Draws.append ?_ (hcloses text))
  exact hspells ⟨rows, some cells, some [], inner⟩ [] rfl

theorem draws_space {space : ByteString} (hspace : ∀ b ∈ space, isSpace b = true)
    (rows : List (List ByteString)) (cells : List ByteString) :
    Draws space ⟨rows, some cells, none, []⟩ ⟨rows, some cells, none, []⟩ := by
  have hplain : Plain space := by
    constructor
    all_goals
      intro hmem
      exact absurd (hspace _ hmem) (by decide)
  refine ⟨_, run_plain hplain, ?_⟩
  clear hplain
  induction space with
  | nil => rfl
  | cons b space ih =>
      obtain ⟨hb, hspace⟩ := List.forall_mem_cons.mp hspace
      rw [List.map_cons, List.foldlM_cons, Grid.take, if_pos hb]
      exact ih hspace

section Rows

variable {indent close : ByteString} (hindent : ∀ b ∈ indent, isSpace b = true)
  (hclose : ∀ b ∈ close, isSpace b = true)

include hindent

theorem draws_cells {cells : List Cell} {texts : List ByteString}
    (hshows : List.Forall₂ Cell.Shows cells texts) (rows : List (List ByteString))
    (front : List ByteString) :
    Draws (cells.flatMap fun cell => indent ++ cell.toHtml) ⟨rows, some front, none, []⟩
      ⟨rows, some (front ++ texts), none, []⟩ := by
  induction hshows generalizing front with
  | nil => exact ⟨[], rfl, by simp⟩
  | cons hcell _ ih =>
      rw [List.flatMap_cons, List.append_cons]
      exact ((draws_space hindent rows front).append (hcell.draws rows front)).append (ih _)

include hclose

theorem draws_row {cells : List Cell} {texts : List ByteString}
    (hshows : List.Forall₂ Cell.Shows cells texts) (rows : List (List ByteString)) :
    Draws (rowHtml indent close cells) { rows := rows } { rows := rows ++ [texts] } := by
  have hstart : Draws "<tr>" { rows := rows } ⟨rows, some [], none, []⟩ := ⟨_, rfl, rfl⟩
  have hend : Draws "</tr>" ⟨rows, some texts, none, []⟩ { rows := rows ++ [texts] } :=
    ⟨_, rfl, rfl⟩
  exact hstart.append ((draws_cells hindent hshows rows []).append
    ((draws_space hclose rows texts).append hend))

/-- A table whose rows show their texts. -/
theorem rows?_flatMap {cells : List (List Cell)} {texts : List (List ByteString)}
    (hshows : List.Forall₂ (List.Forall₂ Cell.Shows) cells texts) :
    rows? (cells.flatMap (rowHtml indent close)) = some texts := by
  have hdraws : ∀ rows, Draws (cells.flatMap (rowHtml indent close)) { rows := rows }
      { rows := rows ++ texts } := by
    induction hshows with
    | nil => exact fun rows => ⟨[], rfl, by simp⟩
    | cons hfirst _ ih =>
        intro rows
        rw [List.flatMap_cons, List.append_cons]
        exact (draws_row hindent hclose hfirst rows).append (ih _)
  exact rows?_of_draws (hdraws [])

end Rows

end Tables

end Astartis.Html
