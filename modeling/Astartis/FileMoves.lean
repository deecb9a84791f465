import Mathlib.Logic.Function.Basic

/-!
Files that are renamed, copied, removed and written.  A call that succeeds replaces what
stands at its destination, so whether a content survives depends on the places it has.
-/

namespace Astartis.FileMoves

universe u v

abbrev Files (Place : Type u) (Content : Type v) := Place → Option Content

inductive Call (Place : Type u) (Content : Type v)
  | rename (source destination : Place)
  | copy (source destination : Place)
  | remove (place : Place)
  | write (place : Place) (content : Content)

/-- How a call ends.  A copy or a write that breaks off leaves something else at its
destination. -/
inductive Ending (Content : Type v)
  | done
  | failed
  | torn (left : Content)

variable {Place : Type u} {Content : Type v}

/-- The content is in a file somewhere. -/
def Stands (c : Content) (files : Files Place Content) : Prop :=
  ∃ p, files p = some c

/-- Nothing is lost with the file at a place: there is none, or what it contains is in
another file as well. -/
def Spare (p : Place) (files : Files Place Content) : Prop :=
  ∀ c, files p = some c → ∃ p', p' ≠ p ∧ files p' = some c

theorem spare_of_none {p : Place} {files : Files Place Content} (hfree : files p = none) :
    Spare p files := by
  intro c hc
  rw [hfree] at hc
  exact absurd hc (by simp)

section

variable [DecidableEq Place]

namespace Call

/-- Whether a call reports success, and the files behind it. -/
def run (ending : Ending Content) (files : Files Place Content) :
    Call Place Content → Bool × Files Place Content
  | rename source destination =>
      match ending, files source with
      | .done, some c =>
          if source = destination then (true, files)
          else
            (true, Function.update (Function.update files destination (some c)) source none)
      | _, _ => (false, files)
  | copy source destination =>
      match files source with
      | none => (false, files)
      | some c =>
          if source = destination then (false, files)
          else
            match ending with
            | .done => (true, Function.update files destination (some c))
            | .failed => (false, files)
            | .torn left => (false, Function.update files destination (some left))
  | remove place =>
      match ending with
      | .done => (true, Function.update files place none)
      | _ => (false, files)
  | write place content =>
      match ending with
      | .done => (true, Function.update files place (some content))
      | .failed => (false, files)
      | .torn left => (false, Function.update files place (some left))

/-- The place whose file a call replaces or deletes. -/
def replaced (ending : Ending Content) (files : Files Place Content) :
    Call Place Content → Option Place
  | rename source destination =>
      match ending, files source with
      | .done, some _ => if source = destination then none else some destination
      | _, _ => none
  | copy source destination =>
      match ending, files source with
      | .failed, _ => none
      | _, none => none
      | _, some _ => if source = destination then none else some destination
  | remove place =>
      match ending with
      | .done => some place
      | _ => none
  | write place _ =>
      match ending with
      | .failed => none
      | _ => some place

def Spares (ending : Ending Content) (files : Files Place Content)
    (call : Call Place Content) : Prop :=
  ∀ p, call.replaced ending files = some p → Spare p files

end Call

theorem Stands.update {c : Content} {files : Files Place Content} {p : Place}
    (hstands : Stands c files) (hspare : Spare p files) (x : Option Content) :
    ∃ p', p' ≠ p ∧ Function.update files p x p' = some c := by
  obtain ⟨p', hp'⟩ := hstands
  by_cases hplace : p' = p
  · subst hplace
    obtain ⟨p'', hne, hp''⟩ := hspare c hp'
    exact ⟨p'', hne, by rwa [Function.update_of_ne hne]⟩
  · exact ⟨p', hplace, by rwa [Function.update_of_ne hplace]⟩

/-- The content of the source moves along with its file. -/
theorem Stands.rename {c d : Content} {files : Files Place Content} {source destination : Place}
    (hstands : Stands c files) (hspare : Spare destination files)
    (hsource : files source = some d) (hne : source ≠ destination) :
    Stands c (Function.update (Function.update files destination (some d)) source none) := by
  obtain ⟨p, hp, hc⟩ := hstands.update hspare (some d)
  by_cases hplace : p = source
  · rw [Function.update_of_ne hp, hplace, hsource] at hc
    refine ⟨destination, ?_⟩
    rw [Function.update_of_ne (Ne.symm hne), Function.update_self, hc]
  · refine ⟨p, ?_⟩
    rwa [Function.update_of_ne hplace]

/-- A call that spares the file it replaces loses no content. -/
theorem Stands.run {c : Content} {files : Files Place Content} {call : Call Place Content}
    {ending : Ending Content} (hstands : Stands c files) (hspares : call.Spares ending files) :
    Stands c (call.run ending files).2 := by
  cases call with
  | rename source destination =>
      simp only [Call.Spares, Call.replaced] at hspares
      simp only [Call.run]
      split
      · rename_i d hsource
        simp only [hsource] at hspares
        split
        · exact hstands
        · rename_i hne
          rw [if_neg hne] at hspares
          exact hstands.rename (hspares destination rfl) hsource hne
      · exact hstands
  | copy source destination =>
      simp only [Call.Spares, Call.replaced] at hspares
      simp only [Call.run]
      split
      · exact hstands
      · rename_i d hsource
        simp only [hsource] at hspares
        split
        · exact hstands
        · rename_i hne
          simp only [if_neg hne] at hspares
          cases ending with
          | done =>
              obtain ⟨p, -, hc⟩ := hstands.update (hspares destination rfl) (some d)
              exact ⟨p, hc⟩
          | failed => exact hstands
          | torn left =>
              obtain ⟨p, -, hc⟩ := hstands.update (hspares destination rfl) (some left)
              exact ⟨p, hc⟩
  | remove place =>
      cases ending with
      | done =>
          obtain ⟨p, -, hc⟩ := hstands.update (hspares place rfl) none
          exact ⟨p, hc⟩
      | failed => exact hstands
      | torn left => exact hstands
  | write place content =>
      cases ending with
      | done =>
          obtain ⟨p, -, hc⟩ := hstands.update (hspares place rfl) (some content)
          exact ⟨p, hc⟩
      | failed => exact hstands
      | torn left =>
          obtain ⟨p, -, hc⟩ := hstands.update (hspares place rfl) (some left)
          exact ⟨p, hc⟩

/-- A rename keeps what it moves and what does not stand at its destination only. -/
theorem stands_run_rename_iff {c d : Content} {files : Files Place Content}
    {source destination : Place} (hsource : files source = some d)
    (hne : source ≠ destination) :
    Stands c ((Call.rename source destination).run .done files).2 ↔
      c = d ∨ ∃ p, p ≠ destination ∧ files p = some c := by
  simp only [Call.run, hsource, if_neg hne]
  constructor
  · rintro ⟨p, hp⟩
    by_cases hplace : p = source
    · rw [hplace, Function.update_self] at hp
      exact absurd hp (by simp)
    · rw [Function.update_of_ne hplace] at hp
      by_cases hplace' : p = destination
      · rw [hplace', Function.update_self] at hp
        exact .inl (Option.some.inj hp).symm
      · rw [Function.update_of_ne hplace'] at hp
        exact .inr ⟨p, hplace', hp⟩
  · rintro (rfl | ⟨p, hplace', hp⟩)
    · exact ⟨destination, by rw [Function.update_of_ne hne.symm, Function.update_self]⟩
    · by_cases hplace : p = source
      · rw [hplace, hsource] at hp
        refine ⟨destination, ?_⟩
        rw [Function.update_of_ne hne.symm, Function.update_self, hp]
      · refine ⟨p, ?_⟩
        rw [Function.update_of_ne hplace, Function.update_of_ne hplace', hp]

theorem Call.run_write_of_ne {ending : Ending Content} {files : Files Place Content}
    {place p : Place} {content : Content} (hne : place ≠ p) :
    ((Call.write place content).run ending files).2 p = files p := by
  cases ending <;> simp [Call.run, Function.update_of_ne hne.symm]

/-- A write removes no file, and makes one where it does not fail. -/
theorem Call.run_write_eq_none_iff {ending : Ending Content} {files : Files Place Content}
    {place p : Place} {content : Content} :
    ((Call.write place content).run ending files).2 p = none ↔
      files p = none ∧ (ending = .failed ∨ place ≠ p) := by
  by_cases hplace : place = p
  · subst hplace
    cases ending <;> simp [Call.run]
  · simp [Call.run_write_of_ne hplace, hplace]

/-- How the calls of a move end: a rename, or a copy and a removal. -/
structure MoveEndings (Content : Type v) where
  rename : Ending Content := .done
  copy : Ending Content := .done
  remove : Ending Content := .done

/-- A move that copies where it cannot rename.  What becomes of the removal does not count. -/
def relocate (endings : MoveEndings Content) (source destination : Place)
    (files : Files Place Content) : Bool × Files Place Content :=
  let (renamed, files) := (Call.rename source destination).run endings.rename files
  if renamed then (true, files)
  else
    let (copied, files) := (Call.copy source destination).run endings.copy files
    if copied then (true, ((Call.remove source).run endings.remove files).2)
    else (false, files)

/-- Every call of the move succeeds that it depends on, and the removal too. -/
def MoveEndings.Succeed (endings : MoveEndings Content) : Prop :=
  endings.rename = .done ∨ (endings.copy = .done ∧ endings.remove = .done)

variable {endings : MoveEndings Content} {files : Files Place Content}
  {source destination : Place} {c : Content}

/-- The calls that a move makes. -/
theorem relocate_cases (endings : MoveEndings Content) (source destination : Place)
    (files : Files Place Content) :
    (∃ moved, (Call.rename source destination).run endings.rename files = (true, moved) ∧
        relocate endings source destination files = (true, moved)) ∨
      ∃ tried, (Call.rename source destination).run endings.rename files = (false, tried) ∧
        ((∃ left, (Call.copy source destination).run endings.copy tried = (false, left) ∧
            relocate endings source destination files = (false, left)) ∨
          ∃ copied, (Call.copy source destination).run endings.copy tried = (true, copied) ∧
            relocate endings source destination files =
              (true, ((Call.remove source).run endings.remove copied).2)) := by
  simp only [relocate]
  rcases (Call.rename source destination).run endings.rename files with ⟨_ | _, tried⟩
  · refine .inr ⟨tried, rfl, ?_⟩
    simp only [Bool.false_eq_true, if_false]
    rcases (Call.copy source destination).run endings.copy tried with ⟨_ | _, copied⟩
    · exact .inl ⟨copied, rfl, rfl⟩
    · exact .inr ⟨copied, rfl, rfl⟩
  · exact .inl ⟨tried, rfl, rfl⟩

theorem relocate_of_rename (hsource : files source = some c) (hrename : endings.rename = .done) :
    relocate endings source destination files =
      (true, if source = destination then files
        else Function.update (Function.update files destination (some c)) source none) := by
  simp only [relocate, Call.run, hsource, hrename]
  split <;> rfl

/-- Without a rename, a file is not copied over itself. -/
theorem relocate_of_copy (hsource : files source = some c) (hrename : endings.rename ≠ .done) :
    relocate endings source destination files =
      if source = destination then (false, files)
      else
        match endings.copy with
        | .done =>
            (true, match endings.remove with
              | .done => Function.update (Function.update files destination (some c)) source none
              | _ => Function.update files destination (some c))
        | .failed => (false, files)
        | .torn left => (false, Function.update files destination (some left)) := by
  have hrefused : (Call.rename source destination).run endings.rename files = (false, files) := by
    cases hending : endings.rename with
    | done => exact absurd hending hrename
    | failed => simp [Call.run]
    | torn left => simp [Call.run]
  simp only [relocate, hrefused, Bool.false_eq_true, if_false]
  by_cases heq : source = destination
  · subst heq
    simp [Call.run, hsource]
  · cases hcopy : endings.copy with
    | done =>
        cases hremove : endings.remove <;> simp [Call.run, hsource, heq]
    | failed => simp [Call.run, hsource, heq]
    | torn left => simp [Call.run, hsource, heq]

/-- A move whose calls succeed takes the file along, by whichever way. -/
theorem relocate_of_succeed (hsource : files source = some c) (hne : source ≠ destination)
    (hsucceed : endings.Succeed) :
    relocate endings source destination files =
      (true, Function.update (Function.update files destination (some c)) source none) := by
  by_cases hrename : endings.rename = .done
  · rw [relocate_of_rename hsource hrename, if_neg hne]
  · obtain ⟨hcopy, hremove⟩ := hsucceed.resolve_left hrename
    rw [relocate_of_copy hsource hrename, if_neg hne]
    simp only [hcopy, hremove]

end

end Astartis.FileMoves
