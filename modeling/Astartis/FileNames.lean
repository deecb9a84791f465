import Mathlib.Data.List.DropRight
import Astartis.AutonomyLoop

/-!
The names of files in the events of the file monitor: what narrowing a name to bytes loses, and
which part of it is taken for the extension.
-/

namespace Astartis.Monitor

/-! The part of a list from the last element of a kind on. -/

section FromLast

variable {α β : Type*}

def fromLast (p : α → Bool) : List α → List α
  | [] => []
  | x :: xs =>
      if fromLast p xs = [] then if p x then x :: xs else []
      else fromLast p xs

theorem fromLast_suffix (p : α → Bool) (xs : List α) : fromLast p xs <:+ xs := by
  induction xs with
  | nil => exact List.nil_suffix
  | cons x xs ih =>
      rw [fromLast]
      split
      · split
        · exact List.suffix_rfl
        · exact List.nil_suffix
      · exact ih.trans (List.suffix_cons x xs)

theorem fromLast_eq_nil_iff {p : α → Bool} {xs : List α} :
    fromLast p xs = [] ↔ ∀ x ∈ xs, p x = false := by
  induction xs with
  | nil => simp [fromLast]
  | cons x xs ih =>
      rw [fromLast, List.forall_mem_cons, ← ih]
      by_cases hrest : fromLast p xs = [] <;> cases hx : p x <;> simp [hrest]

theorem fromLast_append_cons {p : α → Bool} {x : α} (hx : p x = true) (before : List α)
    {after : List α} (hafter : ∀ y ∈ after, p y = false) :
    fromLast p (before ++ x :: after) = x :: after := by
  induction before with
  | nil => rw [List.nil_append, fromLast, if_pos (fromLast_eq_nil_iff.mpr hafter), if_pos hx]
  | cons y before ih => rw [List.cons_append, fromLast, ih, if_neg (by simp)]

theorem exists_fromLast (p : α → Bool) (xs : List α) :
    fromLast p xs = [] ∨ ∃ before x after, xs = before ++ x :: after ∧ p x = true ∧
      (∀ y ∈ after, p y = false) ∧ fromLast p xs = x :: after := by
  induction xs with
  | nil => exact .inl rfl
  | cons y xs ih =>
      rcases ih with hnone | ⟨before, x, after, rfl, hx, hafter, -⟩
      · by_cases hy : p y = true
        · have hrest := fromLast_eq_nil_iff.mp hnone
          exact .inr ⟨[], y, xs, rfl, hy, hrest, fromLast_append_cons hy [] hrest⟩
        · refine .inl (fromLast_eq_nil_iff.mpr (List.forall_mem_cons.mpr ⟨by simpa using hy, ?_⟩))
          exact fromLast_eq_nil_iff.mp hnone
      · exact .inr ⟨y :: before, x, after, rfl, hx, hafter,
          fromLast_append_cons hx (y :: before) hafter⟩

theorem fromLast_map (f : α → β) (p : β → Bool) (xs : List α) :
    fromLast p (xs.map f) = (fromLast (fun x => p (f x)) xs).map f := by
  induction xs with
  | nil => rfl
  | cons x xs ih =>
      rw [List.map_cons, fromLast, fromLast, ih]
      by_cases hrest : fromLast (fun x => p (f x)) xs = []
      · rw [if_pos (by rw [hrest, List.map_nil]), if_pos hrest]
        split <;> rfl
      · rw [if_neg (by simpa using hrest), if_neg hrest]

end FromLast

/-! The names. -/

/-- The component behind the last separator. -/
def lastComponent (name : List UInt16) : List UInt16 :=
  name.rtakeWhile fun u => u ≠ 92

/-- The extension with its dot, empty when the component has none. -/
def componentExtension (name : List UInt16) : List UInt16 :=
  fromLast (fun u => u = 46) (lastComponent name)

def lowerUnit (u : UInt16) : UInt16 :=
  if 65 ≤ u ∧ u ≤ 90 then u + 32 else u

/-- Names in these code units have a path each, under any root and filter. -/
def PathsApart (units : UInt16 → Prop) : Prop :=
  ∀ (self : FsMonitor) (root : ByteString) (a b : List UInt16) (actionA actionB : FileAction)
    (nowA nowB : Int64) (evA evB : FsEvent), (∀ u ∈ a, units u) → (∀ u ∈ b, units u) →
    self.event? root actionA a nowA = some evA → self.event? root actionB b nowB = some evB →
    evA.path = evB.path → a = b

/-- The extension of every event for the name is that of its last component in lower case. -/
def ExtensionKept (name : List UInt16) : Prop :=
  ∀ (self : FsMonitor) (root : ByteString) (action : FileAction) (now : Int64) (ev : FsEvent),
    self.event? root action name now = some ev →
      ev.extension.map UInt8.toUInt16 = (componentExtension name).map lowerUnit

/-! What an event has of a name. -/

theorem drop_rfind (b : UInt8) (s : ByteString) :
    (match ByteString.rfind b s with
      | none => []
      | some i => s.drop i) = fromLast (fun c => c = b) s := by
  rcases exists_fromLast (fun c => decide (c = b)) s with
    hnone | ⟨before, c, after, rfl, hc, hafter, htail⟩
  · have hfind : s.reverse.findIdx? (· == b) = none := by
      rw [List.findIdx?_eq_none_iff]
      intro c hc
      simpa using fromLast_eq_nil_iff.mp hnone c (List.mem_reverse.mp hc)
    simp only [ByteString.rfind, hfind, Option.map_none]
    exact hnone.symm
  · obtain rfl : c = b := by simpa using hc
    have hbehind : after.reverse.findIdx? (· == c) = none := by
      rw [List.findIdx?_eq_none_iff]
      intro d hd
      simpa using hafter d (List.mem_reverse.mp hd)
    have hfind : (before ++ c :: after).reverse.findIdx? (· == c) = some after.length := by
      simp [List.findIdx?_append, List.findIdx?_cons, hbehind]
    have hindex : (before ++ c :: after).length - 1 - after.length = before.length := by
      rw [List.length_append, List.length_cons]
      omega
    simp only [ByteString.rfind, hfind, Option.map_some, hindex, List.drop_left]
    exact htail.symm

theorem path_extension_of_event? {self : FsMonitor} {root : ByteString} {action : FileAction}
    {name : List UInt16} {now : Int64} {ev : FsEvent}
    (hevent : self.event? root action name now = some ev) :
    ev.path = root ++ ("\\" : ByteString) ++ narrow name ∧
      ev.extension = toLower (fromLast (fun c => c = 46) (narrow name)) := by
  have htail := drop_rfind 46 (narrow name)
  simp only [FsMonitor.event?, Option.bind_eq_bind, Option.bind_eq_some_iff] at hevent
  obtain ⟨type, -, hfired⟩ := hevent
  split at hfired
  · rename_i hdot
    simp only [hdot] at htail
    split at hfired
    · obtain rfl := Option.some.inj hfired
      exact ⟨rfl, by rw [← htail]; rfl⟩
    · exact absurd hfired (by simp)
  · rename_i dot hdot
    simp only [hdot] at htail
    split at hfired
    · obtain rfl := Option.some.inj hfired
      exact ⟨rfl, by rw [← htail]⟩
    · exact absurd hfired (by simp)

/-- Without a filter every new file has its event. -/
theorem exists_event? (root : ByteString) (name : List UInt16) (now : Int64) :
    ∃ ev, ({} : FsMonitor).event? root .added name now = some ev :=
  ⟨_, rfl⟩

theorem pathsApart_iff (units : UInt16 → Prop) :
    PathsApart units ↔ ∀ u v, units u → units v → u.toUInt8 = v.toUInt8 → u = v := by
  constructor
  · intro hapart u v hu hv hlow
    obtain ⟨evA, hA⟩ := exists_event? [] [u] 0
    obtain ⟨evB, hB⟩ := exists_event? [] [v] 0
    have hpath : evA.path = evB.path := by
      rw [(path_extension_of_event? hA).1, (path_extension_of_event? hB).1]
      simp [narrow, hlow]
    have hnames := hapart {} [] [u] [v] .added .added 0 0 evA evB (by simpa using hu)
      (by simpa using hv) hA hB hpath
    exact (List.cons.inj hnames).1
  · intro hlow self root a b actionA actionB nowA nowB evA evB ha hb hA hB hpath
    rw [(path_extension_of_event? hA).1, (path_extension_of_event? hB).1] at hpath
    have hnarrow : a.map UInt16.toUInt8 = b.map UInt16.toUInt8 :=
      List.append_cancel_left hpath
    clear hpath hA hB
    induction a generalizing b with
    | nil => exact (List.map_eq_nil_iff.mp hnarrow.symm).symm
    | cons u a ih =>
        cases b with
        | nil => simp at hnarrow
        | cons v b =>
            obtain ⟨hu, ha⟩ := List.forall_mem_cons.mp ha
            obtain ⟨hv, hb⟩ := List.forall_mem_cons.mp hb
            obtain ⟨hhead, htail⟩ := List.cons.inj hnarrow
            rw [hlow u v hu hv hhead, ih b ha hb htail]

/-- The end of the name that the monitor takes for its extension. -/
def narrowedTail (name : List UInt16) : List UInt16 :=
  fromLast (fun u => u.toUInt8 = 46) name

theorem fromLast_narrow (name : List UInt16) :
    fromLast (fun c => c = 46) (narrow name) = narrow (narrowedTail name) :=
  fromLast_map UInt16.toUInt8 (fun c => c = 46) name

/-- A byte in lower case is the unit in lower case exactly for the units that fit a byte. -/
theorem lower_unit_iff (u : UInt16) :
    (if 65 ≤ u.toUInt8 ∧ u.toUInt8 ≤ 90 then u.toUInt8 + 32 else u.toUInt8).toUInt16 =
      lowerUnit u ↔ u < 256 := by
  have hbyte : u.toUInt8.toNat = u.toNat % 256 := UInt16.toNat_toUInt8 u
  have hunit : u.toNat < 65536 := u.toNat_lt
  simp only [lowerUnit, ← UInt16.toNat_inj, UInt8.toNat_toUInt16, UInt8.le_iff_toNat_le,
    UInt16.le_iff_toNat_le, UInt16.lt_iff_toNat_lt, UInt8.reduceToNat, UInt16.reduceToNat]
  -- the units from 256 on are no letters, and those below are their low bytes
  split <;> split <;>
    simp only [UInt8.toNat_add, UInt16.toNat_add, UInt8.reduceToNat, UInt16.reduceToNat,
      hbyte] at * <;> omega

/-- The end that the monitor takes and the extension are one and the same exactly if the end
has no separator and no dot that is none. -/
theorem componentExtension_eq {name : List UInt16}
    (htail : ∀ u ∈ narrowedTail name, u < 256 ∧ u ≠ 92) :
    componentExtension name = narrowedTail name := by
  rcases exists_fromLast (fun u : UInt16 => decide (u.toUInt8 = 46)) name with
    hnone | ⟨before, u, after, hname, hu, hafter, hfrom⟩
  · have hdots := fromLast_eq_nil_iff.mp hnone
    rw [narrowedTail, hnone, componentExtension, fromLast_eq_nil_iff]
    intro u hu
    have hlow := hdots u ((List.rtakeWhile_suffix _ _).subset hu)
    by_contra hdot
    obtain rfl : u = 46 := by simpa using hdot
    simp at hlow
  · rw [narrowedTail, hfrom] at htail ⊢
    have hdot : u = 46 := by
      have hsmall : u.toNat < 256 := UInt16.lt_iff_toNat_lt.mp (htail u List.mem_cons_self).1
      have hlow : u.toUInt8.toNat = 46 := congrArg UInt8.toNat (by simpa using hu)
      rw [UInt16.toNat_toUInt8, Nat.mod_eq_of_lt hsmall] at hlow
      exact UInt16.toNat_inj.mp hlow
    have hcomponent : lastComponent name = lastComponent before ++ u :: after := by
      rw [hname, lastComponent, lastComponent, List.rtakeWhile, List.reverse_append,
        List.takeWhile_append_of_pos, List.reverse_append, List.reverse_reverse]
      · rfl
      · intro v hv
        simpa using (htail v (List.mem_reverse.mp hv)).2
    rw [componentExtension, hcomponent]
    apply fromLast_append_cons (by simpa using hdot)
    intro v hv
    by_contra hv46
    obtain rfl : v = 46 := by simpa using hv46
    exact absurd (hafter 46 hv) (by simp)

theorem extensionKept_iff (name : List UInt16) :
    ExtensionKept name ↔ ∀ u ∈ narrowedTail name, u < 256 ∧ u ≠ 92 := by
  have hbytes : ∀ tail : List UInt16, (toLower (narrow tail)).map UInt8.toUInt16 =
      tail.map lowerUnit ↔ ∀ u ∈ tail, u < 256 := by
    intro tail
    rw [toLower, narrow, List.map_map, List.map_map, List.map_inj_left]
    exact forall₂_congr fun u _ => lower_unit_iff u
  have hevents : ExtensionKept name ↔ (toLower (narrow (narrowedTail name))).map UInt8.toUInt16 =
      (componentExtension name).map lowerUnit := by
    constructor
    · intro hkept
      obtain ⟨ev, hev⟩ := exists_event? [] name 0
      have hext := hkept {} [] .added 0 ev hev
      rwa [(path_extension_of_event? hev).2, fromLast_narrow] at hext
    · intro hsame self root action now ev hev
      rw [(path_extension_of_event? hev).2, fromLast_narrow, hsame]
  rw [hevents]
  constructor
  · intro hsame
    have hlength : (narrowedTail name).length = (componentExtension name).length := by
      simpa [toLower, narrow] using congrArg List.length hsame
    have htail : componentExtension name = narrowedTail name := by
      have hsuffix : componentExtension name <:+ name :=
        (fromLast_suffix _ _).trans (List.rtakeWhile_suffix _ _)
      exact (List.suffix_of_suffix_length_le hsuffix (fromLast_suffix _ _) hlength.ge).eq_of_length
        hlength.symm
    rw [htail] at hsame
    intro u hu
    refine ⟨(hbytes _).mp hsame u hu, ?_⟩
    have hmem : u ∈ lastComponent name := (fromLast_suffix _ _).subset (htail ▸ hu)
    simpa using List.mem_rtakeWhile_imp hmem
  · intro htail
    rw [componentExtension_eq htail]
    exact (hbytes _).mpr fun u hu => (htail u hu).1

/-- Paths tell names in these units apart, and the extension of this one is its own, exactly if
no two units agree in their low bytes, and behind the last low byte of a dot stand units below
256 and no separator. -/
theorem fileNames_iff (units : UInt16 → Prop) (name : List UInt16) :
    PathsApart units ∧ ExtensionKept name ↔
      (∀ u v, units u → units v → u.toUInt8 = v.toUInt8 → u = v) ∧
        ∀ u ∈ narrowedTail name, u < 256 ∧ u ≠ 92 := by
  rw [pathsApart_iff, extensionKept_iff]

/-- `Ł` and `A` have one path, and `my.app\r` has the extension of its directory. -/
theorem paths_collide_and_directory_dotted :
    ¬ PathsApart (fun _ => True) ∧ ¬ ExtensionKept [109, 121, 46, 97, 112, 112, 92, 114] := by
  rw [pathsApart_iff, extensionKept_iff]
  refine ⟨fun hlow => ?_, fun htail => ?_⟩
  · exact absurd (hlow 0x141 0x41 trivial trivial rfl) (by decide)
  · exact absurd (htail 92 (by decide)).2 (by decide)

end Astartis.Monitor
