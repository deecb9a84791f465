import Astartis.JsonText

/-!
Objects of the JSON library as it builds, writes and reads them: members sorted by their keys,
and integers that come back without a sign where they have none.
-/

namespace Astartis.Json

/-- `j[key] = value`. -/
def assign (key : ByteString) (value : Json) :
    List (ByteString × Json) → List (ByteString × Json)
  | [] => [(key, value)]
  | (other, old) :: rest =>
      if key = other then (key, value) :: rest
      else if key < other then (key, value) :: (other, old) :: rest
      else (other, old) :: assign key value rest

/-- Assigned one after the other. -/
def assignAll (entries members : List (ByteString × Json)) : List (ByteString × Json) :=
  entries.foldl (fun members entry => assign entry.1 entry.2 members) members

mutual

/-- A value as it is read back: an integer that is not negative is unsigned. -/
def reread : Json → Json
  | .numberInteger n => if n < 0 then .numberInteger n else .numberUnsigned n.toNat
  | .array elements => .array (rereadAll elements)
  | .object members => .object (rereadMembers members)
  | j => j

def rereadAll : List Json → List Json
  | [] => []
  | j :: rest => reread j :: rereadAll rest

def rereadMembers : List (ByteString × Json) → List (ByteString × Json)
  | [] => []
  | (key, j) :: rest => (key, reread j) :: rereadMembers rest

end

theorem lookup_cons_if (head other : ByteString) (j : Json) (rest : List (ByteString × Json)) :
    ((head, j) :: rest).lookup other = if other = head then some j else rest.lookup other := by
  rw [List.lookup_cons]
  split <;> simp_all

theorem lookup_assign (key other : ByteString) (value : Json)
    (members : List (ByteString × Json)) :
    (assign key value members).lookup other =
      if other = key then some value else members.lookup other := by
  induction members with
  | nil => exact lookup_cons_if key other value []
  | cons member rest ih =>
      obtain ⟨head, old⟩ := member
      rw [assign]
      split
      · rename_i hkey
        rw [lookup_cons_if, lookup_cons_if, ← hkey]
        split <;> rfl
      · rename_i hkey
        split
        · rw [lookup_cons_if]
        · rw [lookup_cons_if, lookup_cons_if, ih]
          split
          · rename_i hother
            rw [if_neg fun h => hkey (h.symm.trans hother)]
          · rfl

/-- The members behind the assignments: those assigned, and the others as they were. -/
theorem lookup_assignAll {entries : List (ByteString × Json)} {key : ByteString} {value : Json}
    (hkeys : (entries.map Prod.fst).Nodup) (hentry : (key, value) ∈ entries)
    (members : List (ByteString × Json)) :
    (assignAll entries members).lookup key = some value := by
  have hkept : ∀ (entries members : List (ByteString × Json)), key ∉ entries.map Prod.fst →
      (assignAll entries members).lookup key = members.lookup key := by
    intro entries
    induction entries with
    | nil => exact fun members _ => rfl
    | cons entry rest ih =>
        intro members hmem
        rw [List.map_cons, List.mem_cons, not_or] at hmem
        show (assignAll rest (assign entry.1 entry.2 members)).lookup key = _
        rw [ih _ hmem.2, lookup_assign, if_neg hmem.1]
  induction entries generalizing members with
  | nil => exact absurd hentry List.not_mem_nil
  | cons entry rest ih =>
      rw [List.map_cons, List.nodup_cons] at hkeys
      show (assignAll rest (assign entry.1 entry.2 members)).lookup key = _
      rcases List.mem_cons.mp hentry with rfl | hentry
      · rw [hkept rest _ hkeys.1, lookup_assign, if_pos rfl]
      · exact ih hkeys.2 hentry _

theorem lookup_rereadMembers (members : List (ByteString × Json)) (key : ByteString) :
    (rereadMembers members).lookup key = (members.lookup key).map reread := by
  induction members with
  | nil => rfl
  | cons member rest ih =>
      obtain ⟨head, j⟩ := member
      rw [rereadMembers, lookup_cons_if, lookup_cons_if, ih]
      split <;> rfl

theorem membersUtf8_eq_all {members : List (ByteString × Json)}
    (hkeys : ∀ key ∈ members.map Prod.fst, ByteString.validUtf8 key = true) :
    membersUtf8 members = (members.map Prod.snd).all isUtf8 := by
  induction members with
  | nil => rfl
  | cons member rest ih =>
      obtain ⟨key, j⟩ := member
      rw [membersUtf8, ih fun other hother => hkeys other (List.mem_cons_of_mem _ hother),
        hkeys key List.mem_cons_self]
      rfl

theorem membersUtf8_assign {key : ByteString} {value : Json}
    {members : List (ByteString × Json)} (hkey : key ∉ members.map Prod.fst) :
    membersUtf8 (assign key value members) =
      (ByteString.validUtf8 key && isUtf8 value && membersUtf8 members) := by
  induction members with
  | nil => simp [assign, membersUtf8]
  | cons member rest ih =>
      obtain ⟨head, old⟩ := member
      rw [List.map_cons, List.mem_cons, not_or] at hkey
      rw [assign, if_neg hkey.1]
      split
      · rfl
      · rw [membersUtf8, ih hkey.2, membersUtf8]
        ac_rfl

theorem mem_keys_assign {key other : ByteString} {value : Json}
    {members : List (ByteString × Json)}
    (hother : other ∈ (assign key value members).map Prod.fst) :
    other = key ∨ other ∈ members.map Prod.fst := by
  induction members with
  | nil =>
      left
      simpa [assign] using hother
  | cons member rest ih =>
      obtain ⟨head, old⟩ := member
      rw [assign] at hother
      split at hother
      · rcases List.mem_cons.mp hother with h | h
        · exact .inl h
        · exact .inr (List.mem_cons_of_mem _ h)
      · split at hother
        · exact List.mem_cons.mp hother
        · rcases List.mem_cons.mp hother with h | h
          · exact .inr (by rw [h]; exact List.mem_cons_self)
          · exact (ih h).imp_right (List.mem_cons_of_mem _)

/-- Sorting the members of an object does not change whether all its strings are UTF-8, as long
as no key is assigned twice. -/
theorem membersUtf8_assignAll {entries members : List (ByteString × Json)}
    (hkeys : (entries.map Prod.fst).Nodup)
    (hnew : ∀ key ∈ entries.map Prod.fst, key ∉ members.map Prod.fst) :
    membersUtf8 (assignAll entries members) = (membersUtf8 entries && membersUtf8 members) := by
  induction entries generalizing members with
  | nil => rfl
  | cons entry rest ih =>
      obtain ⟨key, value⟩ := entry
      rw [List.map_cons, List.nodup_cons] at hkeys
      have hkey : key ∉ members.map Prod.fst := hnew key (by simp)
      have hrest : ∀ other ∈ rest.map Prod.fst,
          other ∉ (assign key value members).map Prod.fst := by
        intro other hother hmem
        rcases mem_keys_assign hmem with rfl | hmem
        · exact hkeys.1 hother
        · exact hnew other (List.mem_cons_of_mem _ hother) hmem
      show membersUtf8 (assignAll rest (assign key value members)) = _
      rw [ih hkeys.2 hrest, membersUtf8_assign hkey, membersUtf8]
      ac_rfl

end Astartis.Json
