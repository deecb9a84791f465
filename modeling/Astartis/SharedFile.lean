import Mathlib.Data.List.Infix
import Mathlib.Logic.Function.Basic

/-!
A file that one writer rewrites in place while readers read it from its beginning to its end.
The writer truncates the file, appends the document in pieces and closes it; a reader takes
pieces from where it stands until a read finds nothing more.
-/

namespace Astartis.Files

universe u v

structure Write (α : Type u) where
  document : List α
  rest : List α

/-- The content, an open write, the documents written to their end, and what each open reader
has read. -/
structure SharedFile (α : Type u) (ρ : Type v) where
  content : Option (List α) := none
  writing : Option (Write α) := none
  completed : List (List α) := []
  readers : ρ → Option (List α) := fun _ => none

inductive FileAction (α : Type u) (ρ : Type v)
  | truncate (document : List α)
  | append (count : Nat)
  | close
  | openReader (reader : ρ)
  | read (reader : ρ) (count : Nat)
  | finish (reader : ρ)

namespace SharedFile

section

variable {α : Type u} {ρ : Type v} (file : SharedFile α ρ)

/-- What a reader has read when its next read finds nothing more. -/
def finished? (reader : ρ) : Option (List α) :=
  match file.readers reader, file.content with
  | some taken, some content => if content.length ≤ taken.length then some taken else none
  | _, _ => none

def setReader [DecidableEq ρ] (reader : ρ) (taken : Option (List α)) : SharedFile α ρ :=
  { file with readers := Function.update file.readers reader taken }

/-- One step of the writer or of a reader, nothing where it cannot be made. -/
def perform [DecidableEq ρ] : FileAction α ρ → SharedFile α ρ
  | .truncate document =>
      match file.writing with
      | some _ => file
      | none => { file with content := some [], writing := some ⟨document, document⟩ }
  | .append count =>
      match file.writing, file.content with
      | some ⟨document, rest⟩, some content =>
          { file with
            content := some (content ++ rest.take count)
            writing := some ⟨document, rest.drop count⟩ }
      | _, _ => file
  | .close =>
      match file.writing with
      | some ⟨document, []⟩ =>
          { file with writing := none, completed := file.completed ++ [document] }
      | _ => { file with writing := none }
  | .openReader reader =>
      match file.readers reader, file.content with
      | none, some _ => file.setReader reader (some [])
      | _, _ => file
  | .read reader count =>
      match file.readers reader, file.content with
      | some taken, some content =>
          file.setReader reader (some (taken ++ (content.drop taken.length).take count))
      | _, _ => file
  | .finish reader =>
      match file.finished? reader with
      | some _ => file.setReader reader none
      | none => file

/-- A file is truncated only under readers that have read nothing else than the beginning of the
new document, no write is broken off, and no reader comes to the end of a file that is being
written. -/
def Undisturbed : FileAction α ρ → Prop
  | .truncate document => ∀ reader taken, file.readers reader = some taken → taken <+: document
  | .close => ∀ write, file.writing = some write → write.rest = []
  | .finish reader => ∀ taken, file.finished? reader = some taken → file.writing = none
  | _ => True

/-- The document the file holds or is about to hold. -/
def document? : Option (List α) :=
  match file.writing with
  | some write => some write.document
  | none => file.content

/-- All documents written, or about to be written, are of a kind. -/
structure Documents (kind : List α → Prop) : Prop where
  completed : ∀ document ∈ file.completed, kind document
  writing : ∀ write, file.writing = some write → kind write.document

structure Whole : Prop where
  written : ∀ write, file.writing = some write →
    ∃ content, file.content = some content ∧ write.document = content ++ write.rest
  complete : file.writing = none → ∀ content, file.content = some content →
    content ∈ file.completed
  readers : ∀ reader taken, file.readers reader = some taken →
    ∃ document, file.document? = some document ∧ taken <+: document

end

section

variable {α : Type u} {ρ : Type v} {file : SharedFile α ρ}

theorem Whole.start (hclosed : file.writing = none)
    (hcontent : ∀ content, file.content = some content → content ∈ file.completed)
    (hreaders : ∀ reader, file.readers reader = none) : file.Whole where
  written := by simp [hclosed]
  complete := fun _ => hcontent
  readers := by simp [hreaders]

theorem Whole.content_begins (hwhole : file.Whole) {content : List α}
    (hcontent : file.content = some content) :
    ∃ document, file.document? = some document ∧ content <+: document := by
  unfold document?
  cases hwriting : file.writing with
  | none => exact ⟨content, hcontent, List.prefix_refl _⟩
  | some write =>
      obtain ⟨content', hcontent', hdocument⟩ := hwhole.written write hwriting
      obtain rfl : content = content' := Option.some.inj (hcontent.symm.trans hcontent')
      exact ⟨write.document, rfl, hdocument ▸ List.prefix_append content write.rest⟩

/-- A reader that goes on reading still has read a beginning of the document. -/
theorem prefix_read {taken content document : List α} (count : Nat)
    (htaken : taken <+: document) (hcontent : content <+: document) :
    taken ++ (content.drop taken.length).take count <+: document := by
  rcases Nat.le_total taken.length content.length with hle | hle
  · obtain ⟨rest, rfl⟩ := List.prefix_of_prefix_length_le htaken hcontent hle
    rw [List.drop_left]
    exact ((List.prefix_append_right_inj taken).mpr (List.take_prefix count rest)).trans hcontent
  · rw [List.drop_eq_nil_of_le hle, List.take_nil, List.append_nil]
    exact htaken

variable [DecidableEq ρ]

theorem Whole.setReader (hwhole : file.Whole) (reader : ρ) (taken : Option (List α))
    (htaken : ∀ read, taken = some read →
      ∃ document, file.document? = some document ∧ read <+: document) :
    (file.setReader reader taken).Whole where
  written := hwhole.written
  complete := hwhole.complete
  readers := by
    intro other read hread
    simp only [SharedFile.setReader, Function.update_apply] at hread
    split at hread
    · exact htaken read hread
    · exact hwhole.readers other read hread

theorem Whole.perform (hwhole : file.Whole) (action : FileAction α ρ)
    (hundisturbed : file.Undisturbed action) : (file.perform action).Whole := by
  cases action with
  | truncate document =>
      cases hwriting : file.writing with
      | some write => simpa [SharedFile.perform, hwriting] using hwhole
      | none =>
          simp only [SharedFile.perform, hwriting]
          refine ⟨?_, by simp, ?_⟩
          · intro write hwrite
            obtain rfl := Option.some.inj hwrite
            exact ⟨[], rfl, rfl⟩
          · intro reader taken hreader
            exact ⟨document, rfl, hundisturbed reader taken hreader⟩
  | append count =>
      simp only [SharedFile.perform]
      split
      · rename_i document rest content hwriting hcontent
        obtain ⟨content', hcontent', hdocument⟩ := hwhole.written _ hwriting
        obtain rfl : content = content' := Option.some.inj (hcontent.symm.trans hcontent')
        refine ⟨?_, by simp, ?_⟩
        · intro write hwrite
          obtain rfl := Option.some.inj hwrite
          exact ⟨_, rfl, by simpa using hdocument⟩
        · intro reader taken hreader
          obtain ⟨document', hdocument', hbegins⟩ := hwhole.readers reader taken hreader
          rw [document?, hwriting] at hdocument'
          exact ⟨document', hdocument', hbegins⟩
      · exact hwhole
  | close =>
      cases hwriting : file.writing with
      | none =>
          simp only [SharedFile.perform, hwriting]
          refine ⟨by simp, fun _ => hwhole.complete hwriting, fun reader taken hreader => ?_⟩
          have hdocument := hwhole.readers reader taken hreader
          rwa [document?, hwriting] at hdocument
      | some write =>
          obtain ⟨content, hcontent, hdocument⟩ := hwhole.written write hwriting
          have hrest : write.rest = [] := hundisturbed write hwriting
          obtain ⟨document, rest⟩ := write
          obtain rfl : rest = [] := hrest
          obtain rfl : document = content := by simpa using hdocument
          simp only [SharedFile.perform, hwriting]
          refine ⟨by simp, fun _ other hother => ?_, fun reader taken hreader => ?_⟩
          · obtain rfl := Option.some.inj (hcontent.symm.trans hother)
            simp
          · obtain ⟨other, hother, hbegins⟩ := hwhole.readers reader taken hreader
            rw [document?, hwriting] at hother
            exact ⟨other, hcontent.trans hother, hbegins⟩
  | openReader reader =>
      simp only [SharedFile.perform]
      split
      · rename_i content _ hcontent
        apply hwhole.setReader reader
        intro read hread
        obtain ⟨document, hdocument, -⟩ := hwhole.content_begins hcontent
        obtain rfl := Option.some.inj hread
        exact ⟨document, hdocument, List.nil_prefix⟩
      · exact hwhole
  | read reader count =>
      simp only [SharedFile.perform]
      split
      · rename_i taken content hreader hcontent
        apply hwhole.setReader reader
        intro read hread
        obtain ⟨document, hdocument, hcontained⟩ := hwhole.content_begins hcontent
        obtain ⟨document', hdocument', htaken⟩ := hwhole.readers reader taken hreader
        obtain rfl := Option.some.inj (hdocument.symm.trans hdocument')
        obtain rfl := Option.some.inj hread
        exact ⟨document, hdocument, prefix_read count htaken hcontained⟩
      · exact hwhole
  | finish reader =>
      simp only [SharedFile.perform]
      split
      · exact hwhole.setReader reader none (by simp)
      · exact hwhole

theorem Documents.perform {kind : List α → Prop} (hdocuments : file.Documents kind)
    (action : FileAction α ρ)
    (hkind : ∀ document, action = .truncate document → kind document) :
    (file.perform action).Documents kind := by
  cases action with
  | truncate document =>
      simp only [SharedFile.perform]
      split
      · exact hdocuments
      · refine ⟨hdocuments.completed, fun write hwrite => ?_⟩
        obtain rfl := Option.some.inj hwrite
        exact hkind document rfl
  | append count =>
      simp only [SharedFile.perform]
      split
      · rename_i document rest content hwriting _
        refine ⟨hdocuments.completed, fun write hwrite => ?_⟩
        obtain rfl := Option.some.inj hwrite
        exact hdocuments.writing ⟨document, rest⟩ hwriting
      · exact hdocuments
  | close =>
      simp only [SharedFile.perform]
      split
      · rename_i document hwriting
        refine ⟨fun other hother => ?_, by simp⟩
        rcases List.mem_append.mp hother with hother | hother
        · exact hdocuments.completed other hother
        · obtain rfl := List.mem_singleton.mp hother
          exact hdocuments.writing _ hwriting
      · exact ⟨hdocuments.completed, by simp⟩
  | openReader reader =>
      simp only [SharedFile.perform]
      split
      · exact ⟨hdocuments.completed, hdocuments.writing⟩
      · exact hdocuments
  | read reader count =>
      simp only [SharedFile.perform]
      split
      · exact ⟨hdocuments.completed, hdocuments.writing⟩
      · exact hdocuments
  | finish reader =>
      simp only [SharedFile.perform]
      split
      · exact ⟨hdocuments.completed, hdocuments.writing⟩
      · exact hdocuments

omit [DecidableEq ρ] in
/-- What a reader has read at the end of the file is a document that has been written. -/
theorem Whole.finished (hwhole : file.Whole) {reader : ρ} {taken : List α}
    (hundisturbed : file.Undisturbed (.finish reader))
    (hfinished : file.finished? reader = some taken) : taken ∈ file.completed := by
  have hclosed : file.writing = none := hundisturbed taken hfinished
  unfold finished? at hfinished
  split at hfinished
  · rename_i taken' content hreader hcontent
    split at hfinished
    · rename_i hlength
      obtain rfl := Option.some.inj hfinished
      obtain ⟨document, hdocument, hbegins⟩ := hwhole.readers reader taken' hreader
      rw [document?, hclosed] at hdocument
      obtain rfl := Option.some.inj (hcontent.symm.trans hdocument)
      rw [hbegins.eq_of_length_le hlength]
      exact hwhole.complete hclosed content hcontent
    · simp at hfinished
  · simp at hfinished

end

end SharedFile

end Astartis.Files
