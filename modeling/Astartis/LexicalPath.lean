import Mathlib.Data.List.Basic

/-!
Lexical resolution of paths: a path is split at its separators, and neither repeated
separators nor components that stand for the directory itself count.
-/

namespace Astartis.LexicalPath

universe u

/-- The separators of a path, and the component that stays where it is. -/
structure Spelling (α : Type u) where
  isSeparator : α → Bool
  here : List α
  here_plain : ∀ c ∈ here, isSeparator c = false

/-- What a path denotes. -/
structure Location (α : Type u) where
  rooted : Bool
  names : List (List α)
deriving DecidableEq

/-- A path is one component, or its first component comes before a separator. -/
theorem path_induction {α : Type u} (isSeparator : α → Bool) {motive : List α → Prop}
    (component : ∀ path, (∀ c ∈ path, isSeparator c = false) → motive path)
    (cut : ∀ first separator rest, (∀ c ∈ first, isSeparator c = false) →
      isSeparator separator = true → motive rest → motive (first ++ separator :: rest))
    (path : List α) : motive path := by
  suffices h : ∀ rest front : List α, (∀ c ∈ front, isSeparator c = false) →
      motive (front ++ rest) ∧ motive rest from (h path [] (by simp)).2
  intro rest
  induction rest with
  | nil =>
      intro front hfront
      rw [List.append_nil]
      exact ⟨component front hfront, component [] (by simp)⟩
  | cons c rest ih =>
      intro front hfront
      cases hc : isSeparator c with
      | true =>
          have hrest : motive rest := (ih [] (by simp)).2
          exact ⟨cut front c rest hfront hc hrest, cut [] c rest (by simp) hc hrest⟩
      | false =>
          have hfront' : ∀ b ∈ front ++ [c], isSeparator b = false := by
            intro b hb
            rcases List.mem_append.mp hb with hb | hb
            · exact hfront b hb
            · exact List.mem_singleton.mp hb ▸ hc
          have hlong := (ih (front ++ [c]) hfront').1
          have hshort := (ih [c] fun b hb => List.mem_singleton.mp hb ▸ hc).1
          rw [List.append_assoc, List.singleton_append] at hlong
          exact ⟨hlong, hshort⟩

namespace Spelling

variable {α : Type u} [DecidableEq α] (S : Spelling α)

def names (path : List α) : List (List α) :=
  (path.splitOnP S.isSeparator).filter fun name => name ≠ [] ∧ name ≠ S.here

def resolve (path : List α) : Location α where
  rooted := path.head?.any S.isSeparator
  names := S.names path

@[simp] theorem names_nil : S.names [] = [] := rfl

@[simp] theorem names_here : S.names S.here = [] := by
  rw [names, List.splitOnP_eq_singleton S.here_plain]
  simp

variable {S}

theorem names_append_cons {separator : α} (hseparator : S.isSeparator separator = true)
    (path rest : List α) :
    S.names (path ++ separator :: rest) = S.names path ++ S.names rest := by
  rw [names, List.splitOnP_append_cons path rest hseparator, List.filter_append]
  rfl

/-- Components without a name at the end of a path do not count. -/
theorem resolve_append {separator : α} (hseparator : S.isSeparator separator = true)
    {path : List α} (hpath : path ≠ []) {rest : List α} (hrest : S.names rest = []) :
    S.resolve (path ++ separator :: rest) = S.resolve path := by
  have hrooted : (path ++ separator :: rest).head? = path.head? := by
    obtain ⟨first, path, rfl⟩ := List.exists_cons_of_ne_nil hpath
    rfl
  simp only [resolve, hrooted, names_append_cons hseparator, hrest, List.append_nil]

/-- Behind a common directory, two paths denote the same exactly if their names agree. -/
theorem resolve_inside_iff {separator : α} (hseparator : S.isSeparator separator = true)
    (directory first second : List α) :
    S.resolve (directory ++ separator :: first) = S.resolve (directory ++ separator :: second) ↔
      S.names first = S.names second := by
  have hrooted : (directory ++ separator :: first).head? =
      (directory ++ separator :: second).head? := by
    cases directory <;> rfl
  simp only [resolve, Location.mk.injEq, hrooted, true_and, names_append_cons hseparator,
    List.append_cancel_left_eq]

/-- Separators may be exchanged for one another. -/
theorem resolve_map {exchange : α → α}
    (hseparators : ∀ c, S.isSeparator (exchange c) = S.isSeparator c)
    (hplain : ∀ c, S.isSeparator c = false → exchange c = c) (path : List α) :
    S.resolve (path.map exchange) = S.resolve path := by
  have hsplit : (path.map exchange).splitOnP S.isSeparator = path.splitOnP S.isSeparator := by
    induction path with
    | nil => rfl
    | cons c path ih =>
        rw [List.map_cons, List.splitOnP_cons_eq_if_modifyHead,
          List.splitOnP_cons_eq_if_modifyHead, hseparators c, ih]
        split
        · rfl
        · rename_i hc
          rw [hplain c (by simpa using hc)]
  have hrooted : (path.map exchange).head?.any S.isSeparator =
      path.head?.any S.isSeparator := by
    cases path with
    | nil => rfl
    | cons c path => exact hseparators c
  simp only [resolve, names, hsplit, hrooted]

theorem names_component {path : List α} (hpath : ∀ c ∈ path, S.isSeparator c = false) :
    S.names path = [path].filter fun name => name ≠ [] ∧ name ≠ S.here := by
  rw [names, List.splitOnP_eq_singleton hpath]

end Spelling

/-- Where a walk along the components of a path ends: `above` counts the directories that a path
without root has left behind at its start. -/
structure Place (α : Type u) where
  rooted : Bool
  above : Nat := 0
  names : List (List α) := []
deriving DecidableEq

namespace Place

variable {α : Type u}

/-- The same place, or one below it. -/
def Within (outer inner : Place α) : Prop :=
  inner.rooted = outer.rooted ∧ inner.above = outer.above ∧ outer.names <+: inner.names

theorem within_refl (place : Place α) : Within place place :=
  ⟨rfl, rfl, List.prefix_rfl⟩

variable [DecidableEq α] (parent : List α)

instance (outer inner : Place α) : Decidable (Within outer inner) :=
  inferInstanceAs (Decidable (_ ∧ _ ∧ _))

/-- The component `parent` takes the last name back, and does nothing at the root. -/
def enter (place : Place α) (name : List α) : Place α :=
  if name = parent then
    if place.names = [] then
      if place.rooted then place else { place with above := place.above + 1 }
    else { place with names := place.names.dropLast }
  else { place with names := place.names ++ [name] }

variable {parent}

/-- Without `parent` among its components, a walk only leads downwards. -/
theorem within_foldl_enter {names : List (List α)} (hnames : parent ∉ names) (place : Place α) :
    Within place (names.foldl (enter parent) place) := by
  induction names generalizing place with
  | nil => exact within_refl place
  | cons name names ih =>
      obtain ⟨hname, hnames⟩ := List.ne_and_not_mem_of_not_mem_cons hnames
      have hstep : enter parent place name = { place with names := place.names ++ [name] } :=
        if_neg (Ne.symm hname)
      have hrest := ih hnames { place with names := place.names ++ [name] }
      rw [List.foldl_cons, hstep]
      exact ⟨hrest.1, hrest.2.1, (List.prefix_append place.names [name]).trans hrest.2.2⟩

end Place

namespace Spelling

variable {α : Type u} [DecidableEq α] (S : Spelling α) (parent : List α)

/-- The walk along the components of a path. -/
def walk (path : List α) : Place α :=
  (S.resolve path).names.foldl (Place.enter parent) { rooted := (S.resolve path).rooted }

variable {S parent}

theorem within_walk_append {separator : α} (hseparator : S.isSeparator separator = true)
    {path : List α} (hpath : path ≠ []) {rest : List α} (hrest : parent ∉ S.names rest) :
    Place.Within (S.walk parent path) (S.walk parent (path ++ separator :: rest)) := by
  have hrooted : (path ++ separator :: rest).head? = path.head? := by
    obtain ⟨first, path, rfl⟩ := List.exists_cons_of_ne_nil hpath
    rfl
  simp only [walk, resolve, hrooted, names_append_cons hseparator, List.foldl_append]
  exact Place.within_foldl_enter hrest _

end Spelling

end Astartis.LexicalPath
