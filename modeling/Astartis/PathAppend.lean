import Mathlib.Data.List.Induction
import Astartis.LexicalPath

/-!
Appending a path to a directory.  A path may begin with a root name and a root directory, and
what is appended may bring its own, in which case it does not stay in the directory.
-/

namespace Astartis.LexicalPath

universe u

/-- Names that lead through the directories to something below them. -/
def LeadsThrough {α : Type u} (directories names : List (List α)) : Prop :=
  directories <+: names ∧ directories.length < names.length

instance {α : Type u} [DecidableEq α] (directories names : List (List α)) :
    Decidable (LeadsThrough directories names) :=
  inferInstanceAs (Decidable (_ ∧ _))

namespace Place

variable {α : Type u} [DecidableEq α] {parent : List α}

omit [DecidableEq α] in
def Below (outer inner : Place α) : Prop :=
  inner.rooted = outer.rooted ∧ inner.above = outer.above ∧ LeadsThrough outer.names inner.names

instance (outer inner : Place α) : Decidable (Below outer inner) :=
  inferInstanceAs (Decidable (_ ∧ _ ∧ _))

@[simp] theorem enter_rooted (place : Place α) (name : List α) :
    (enter parent place name).rooted = place.rooted := by
  rw [enter]
  split
  · split
    · split <;> rfl
    · rfl
  · rfl

theorem foldl_enter_rooted (place : Place α) (names : List (List α)) :
    (names.foldl (enter parent) place).rooted = place.rooted := by
  induction names generalizing place with
  | nil => rfl
  | cons name names ih => rw [List.foldl_cons, ih, enter_rooted]

/-- What a walk without root comes to when it starts at a place: it leaves as many directories
as it leaves behind, and none beyond the root. -/
def descend (place own : Place α) : Place α :=
  { place with names := place.names.take (place.names.length - own.above) ++ own.names }

theorem enter_descend {place own : Place α} (hrooted : place.rooted = true)
    (hown : own.rooted = false) (name : List α) :
    enter parent (descend place own) name = descend place (enter parent own name) := by
  by_cases hname : name = parent
  · by_cases hnames : own.names = []
    · have habove : enter parent own name = { own with above := own.above + 1 } := by
        rw [enter, if_pos hname, if_pos hnames, if_neg (by simp [hown])]
      have hstart : descend place own =
          { place with names := place.names.take (place.names.length - own.above) } := by
        rw [descend, hnames, List.append_nil]
      have hstep : place.names.take (place.names.length - (own.above + 1)) =
          (place.names.take (place.names.length - own.above)).dropLast := by
        rw [List.dropLast_eq_take, List.length_take, List.take_take]
        congr 1
        omega
      rw [habove, hstart, enter, if_pos hname, descend, hstep]
      simp only [hnames, List.append_nil, hrooted, if_true]
      split
      · rename_i hempty
        rw [hempty, List.dropLast_nil]
      · rfl
    · have htail : enter parent own name = { own with names := own.names.dropLast } := by
        rw [enter, if_pos hname, if_neg hnames]
      rw [htail, enter, if_pos hname, if_neg (by simp [descend, hnames])]
      simp only [descend, List.dropLast_append_of_ne_nil hnames]
  · have hdown : enter parent own name = { own with names := own.names ++ [name] } := if_neg hname
    rw [hdown, enter, if_neg hname]
    simp only [descend, List.append_assoc]

theorem foldl_enter_descend {place : Place α} (hrooted : place.rooted = true)
    (names : List (List α)) :
    names.foldl (enter parent) place =
      descend place (names.foldl (enter parent) { rooted := false }) := by
  induction names using List.reverseRecOn with
  | nil => simp [descend]
  | append_singleton names name ih =>
      simp only [List.foldl_append, List.foldl_cons, List.foldl_nil]
      rw [ih, enter_descend hrooted (foldl_enter_rooted _ names)]

omit [DecidableEq α] in
/-- From a place with a root, a walk comes below the place exactly if it starts with the names
of the directories that it leaves and goes on. -/
theorem below_descend_iff {place own : Place α} :
    Below place (descend place own) ↔
      LeadsThrough (place.names.drop (place.names.length - own.above)) own.names := by
  have hsplit : place.names.take (place.names.length - own.above) ++
      place.names.drop (place.names.length - own.above) = place.names := List.take_append_drop _ _
  have hlengths := congrArg List.length hsplit
  rw [List.length_append] at hlengths
  rw [Below, LeadsThrough, LeadsThrough, descend]
  simp only [true_and, List.length_append]
  refine and_congr ?_ (by omega)
  nth_rewrite 1 [← hsplit]
  exact List.prefix_append_right_inj _

end Place

/-- How a file system reads paths.  A root name may stand in front of the root directory. -/
structure Grammar (α : Type u) extends Spelling α where
  preferred : α
  rootName : List α → List α
  /-- The root names that make a path absolute by themselves. -/
  selfAbsolute : List α → Bool
  /-- An absolute path has a root name. -/
  needsName : Bool

namespace Grammar

variable {α : Type u} (G : Grammar α)

/-- What stands behind the root name. -/
def behind (path : List α) : List α :=
  path.drop (G.rootName path).length

def hasRootDirectory (path : List α) : Bool :=
  (G.behind path).head?.any G.isSeparator

def isAbsolute (path : List α) : Bool :=
  G.selfAbsolute (G.rootName path) ||
    (G.hasRootDirectory path && (!G.needsName || !(G.rootName path).isEmpty))

def hasFilename (path : List α) : Bool :=
  (G.behind path).getLast?.any fun c => !G.isSeparator c

/-- What is appended takes the place of everything in front of it. -/
def Replaces [DecidableEq α] (path other : List α) : Prop :=
  G.isAbsolute other = true ∨
    (G.rootName other ≠ [] ∧ G.rootName other ≠ G.rootName path)

instance [DecidableEq α] (path other : List α) : Decidable (G.Replaces path other) :=
  inferInstanceAs (Decidable (_ ∨ _))

/-- `path / other` -/
def append [DecidableEq α] (path other : List α) : List α :=
  if G.Replaces path other then other
  else if G.hasRootDirectory other then G.rootName path ++ G.behind other
  else if G.hasFilename path || (!G.hasRootDirectory path && G.isAbsolute path) then
    path ++ G.preferred :: G.behind other
  else path ++ G.behind other

/-- An absolute path whose root name ends at the next separator, whatever stands behind. -/
structure Anchored (path : List α) : Prop where
  absolute : G.isAbsolute path = true
  ends : ∀ rest, rest.head?.any G.isSeparator = true →
    G.rootName (G.rootName path ++ rest) = G.rootName path

/-- What a grammar keeps to: the root name of an absolute path is followed by the root directory
if by anything, and is there if any path has one. -/
structure Lawful : Prop where
  preferred : G.isSeparator G.preferred = true
  starts : ∀ path, G.rootName path <+: path
  directory : ∀ path, G.isAbsolute path = true →
    G.behind path = [] ∨ G.hasRootDirectory path = true
  named : ∀ path other, G.isAbsolute path = true → G.rootName path = [] →
    G.rootName other = []

variable [DecidableEq α] (parent : List α)

/-- Where a path leads behind its root name. -/
def place (path : List α) : Place α :=
  (G.names (G.behind path)).foldl (Place.enter parent)
    { rooted := G.isAbsolute path || G.hasRootDirectory path }

/-- A path that leads below the place of another one. -/
def Below (outer inner : List α) : Prop :=
  G.rootName inner = G.rootName outer ∧ (G.place parent outer).Below (G.place parent inner)

/-- What is appended names the directories again that it leaves, and something below them: all
of them if it has a root, otherwise one for each step that leads out at its start. -/
def ComesBack (path other : List α) : Prop :=
  (G.rootName other = [] ∨ G.rootName other = G.rootName path) ∧
    if (G.place parent other).rooted then
      LeadsThrough (G.place parent path).names (G.place parent other).names
    else
      LeadsThrough
        ((G.place parent path).names.drop
          ((G.place parent path).names.length - (G.place parent other).above))
        (G.place parent other).names

instance (outer inner : List α) : Decidable (G.Below parent outer inner) :=
  inferInstanceAs (Decidable (_ ∧ _))

instance (path other : List α) : Decidable (G.ComesBack parent path other) :=
  inferInstanceAs (Decidable (_ ∧ if (G.place parent other).rooted then _ else _))

variable {G parent}

theorem place_rooted (path : List α) :
    (G.place parent path).rooted = (G.isAbsolute path || G.hasRootDirectory path) :=
  Place.foldl_enter_rooted _ _

/-- Below a place with a root there are the places that repeat its names and go on. -/
theorem below_iff_names {path other : List α} (hname : G.rootName other = G.rootName path)
    (hpath : (G.place parent path).rooted = true)
    (hother : (G.place parent other).rooted = true) :
    G.Below parent path other ↔
      LeadsThrough (G.place parent path).names (G.place parent other).names := by
  have habove : ∀ p, (G.place parent p).rooted = true → (G.place parent p).above = 0 := by
    intro p hp
    rw [place_rooted] at hp
    rw [place, hp, Place.foldl_enter_descend rfl]
    rfl
  rw [Below, Place.Below, hpath, hother, habove path hpath, habove other hother]
  simp [hname]

namespace Anchored

variable {path rest : List α} (hanchored : G.Anchored path)
  (hrest : rest.head?.any G.isSeparator = true)
include hanchored hrest

omit [DecidableEq α] in
theorem behind_append : G.behind (G.rootName path ++ rest) = rest := by
  rw [behind, hanchored.ends rest hrest, List.drop_left]

omit [DecidableEq α] in
theorem hasRootDirectory_append : G.hasRootDirectory (G.rootName path ++ rest) = true := by
  rw [hasRootDirectory, hanchored.behind_append hrest, hrest]

omit [DecidableEq α] in
theorem append : G.Anchored (G.rootName path ++ rest) := by
  have hname := hanchored.ends rest hrest
  refine ⟨?_, fun other hother => ?_⟩
  · have habsolute := hanchored.absolute
    rw [isAbsolute] at habsolute
    rw [isAbsolute, hname, hanchored.hasRootDirectory_append hrest]
    cases hself : G.selfAbsolute (G.rootName path) with
    | true => rfl
    | false =>
        rw [hself, Bool.false_or, Bool.and_eq_true] at habsolute
        rw [habsolute.2]
        rfl
  · rw [hname, hanchored.ends other hother]

theorem place_append : G.place parent (G.rootName path ++ rest) =
    (G.names rest).foldl (Place.enter parent) { rooted := true } := by
  rw [place, hanchored.hasRootDirectory_append hrest, hanchored.behind_append hrest, Bool.or_true]

end Anchored

omit [DecidableEq α] in
theorem head?_any_append {p : α → Bool} {path : List α} (hpath : path.head?.any p = true)
    (rest : List α) : (path ++ rest).head?.any p = true := by
  cases path with
  | nil => simp at hpath
  | cons c path => simpa using hpath

omit [DecidableEq α] in
theorem head?_any_takeWhile {p keep : α → Bool} (hkeep : ∀ c, p c = true → keep c = true)
    (path : List α) : (path.takeWhile keep).head?.any p = path.head?.any p := by
  cases path with
  | nil => rfl
  | cons c path =>
      rw [List.takeWhile_cons]
      cases hc : keep c with
      | true => rfl
      | false =>
          have hp : p c = false := by
            cases hp : p c with
            | true => exact absurd (hkeep c hp) (by simp [hc])
            | false => rfl
          simp [hp]

namespace Lawful

variable (hG : G.Lawful) {path other : List α}
include hG

omit [DecidableEq α] in
theorem rootName_append_behind (path : List α) : G.rootName path ++ G.behind path = path := by
  obtain ⟨tail, htail⟩ := hG.starts path
  have hdrop := congrArg (List.drop (G.rootName path).length) htail
  rw [List.drop_left] at hdrop
  rw [behind, ← hdrop, htail]

theorem mem_append {c : α} (hc : c ∈ G.append path other) :
    c ∈ path ∨ c = G.preferred ∨ c ∈ other := by
  have hbehind : c ∈ G.behind other → c ∈ other := List.mem_of_mem_drop
  rw [append] at hc
  split at hc
  · exact .inr (.inr hc)
  · split at hc
    · rcases List.mem_append.mp hc with hc | hc
      · exact .inl ((hG.starts path).subset hc)
      · exact .inr (.inr (hbehind hc))
    · split at hc
      · rcases List.mem_append.mp hc with hc | hc
        · exact .inl hc
        · exact .inr ((List.mem_cons.mp hc).imp_right hbehind)
      · exact (List.mem_append.mp hc).imp_right fun hc => .inr (hbehind hc)

/-- What has no root of its own goes behind the names of the directory. -/
theorem append_relative (habs : G.isAbsolute path = true) (hreplaces : ¬ G.Replaces path other)
    (hdirectory : G.hasRootDirectory other = false) :
    ∃ rest, G.append path other = G.rootName path ++ rest ∧
      rest.head?.any G.isSeparator = true ∧
      G.names rest = G.names (G.behind path) ++ G.names (G.behind other) := by
  have hpath := hG.rootName_append_behind path
  rw [append, if_neg hreplaces, hdirectory, if_neg (by simp)]
  split
  · refine ⟨G.behind path ++ G.preferred :: G.behind other, ?_, ?_, ?_⟩
    · rw [← List.append_assoc, hpath]
    · rcases hG.directory path habs with hempty | hroot
      · simp [hempty, hG.preferred]
      · exact head?_any_append hroot _
    · exact Spelling.names_append_cons hG.preferred _ _
  · rename_i hfilename
    simp only [Bool.or_eq_true, Bool.and_eq_true, not_or, habs, and_true, Bool.not_eq_true,
      Bool.not_eq_true', Bool.not_eq_false] at hfilename
    obtain ⟨hname, hroot⟩ := hfilename
    have hne : G.behind path ≠ [] := by
      intro hempty
      simp [hasRootDirectory, hempty] at hroot
    obtain ⟨front, c, hbehind⟩ := List.eq_nil_or_concat (G.behind path) |>.resolve_left hne
    have hc : G.isSeparator c = true := by
      simpa [hasFilename, hbehind] using hname
    refine ⟨G.behind path ++ G.behind other, ?_, ?_, ?_⟩
    · rw [← List.append_assoc, hpath]
    · exact head?_any_append hroot _
    · rw [hbehind, List.concat_eq_append, List.append_assoc, List.singleton_append,
        Spelling.names_append_cons hc, Spelling.names_append_cons hc, Spelling.names_nil,
        List.append_nil]

section Cut

variable {keep : α → Bool}

omit [DecidableEq α] hG in
/-- Cutting a path behind its root name leaves its root directory alone. -/
theorem hasRootDirectory_takeWhile
    (hseparator : ∀ c, G.isSeparator c = true → keep c = true)
    (hbehind : G.behind (other.takeWhile keep) = (G.behind other).takeWhile keep) :
    G.hasRootDirectory (other.takeWhile keep) = G.hasRootDirectory other := by
  rw [hasRootDirectory, hbehind, hasRootDirectory, head?_any_takeWhile hseparator]

omit [DecidableEq α] in
theorem behind_takeWhile (hname : G.rootName (other.takeWhile keep) = G.rootName other) :
    G.behind (other.takeWhile keep) = (G.behind other).takeWhile keep := by
  have hkept : ∀ c ∈ G.rootName other, keep c = true := by
    intro c hc
    rw [← hname] at hc
    exact List.all_eq_true.mp List.all_takeWhile c ((hG.starts _).subset hc)
  have hcut : other.takeWhile keep = G.rootName other ++ (G.behind other).takeWhile keep := by
    rw [← List.takeWhile_append_of_pos hkept, hG.rootName_append_behind]
  rw [behind, hname, hcut, List.drop_left]

/-- Where cutting keeps the root name, the appended path is cut with what is appended. -/
theorem append_takeWhile (hseparator : ∀ c, G.isSeparator c = true → keep c = true)
    (hpath : ∀ c ∈ path, keep c = true)
    (hname : G.rootName (other.takeWhile keep) = G.rootName other) :
    G.append path (other.takeWhile keep) = (G.append path other).takeWhile keep := by
  have hbehind := hG.behind_takeWhile hname
  have hdirectory := hasRootDirectory_takeWhile hseparator hbehind
  have hreplaces : G.Replaces path (other.takeWhile keep) ↔ G.Replaces path other := by
    rw [Replaces, Replaces, isAbsolute, isAbsolute, hname, hdirectory]
  have hroot : ∀ c ∈ G.rootName path, keep c = true :=
    fun c hc => hpath c ((hG.starts path).subset hc)
  rw [append, append, hdirectory, hbehind]
  simp only [hreplaces]
  split
  · rfl
  · split
    · rw [List.takeWhile_append_of_pos hroot]
    · split
      · rw [List.takeWhile_append_of_pos hpath,
          List.takeWhile_cons_of_pos (hseparator _ hG.preferred)]
      · rw [List.takeWhile_append_of_pos hpath]

end Cut

/-- What is appended leads below the directory exactly if it comes back to it. -/
theorem below_append_iff (hanchored : G.Anchored path) :
    G.Below parent path (G.append path other) ↔ G.ComesBack parent path other := by
  have habs := hanchored.absolute
  have hpath : (G.place parent path).rooted = true := by
    rw [place_rooted, habs, Bool.true_or]
  by_cases hforeign : G.rootName other ≠ [] ∧ G.rootName other ≠ G.rootName path
  · -- the path of another drive
    rw [append, if_pos (.inr hforeign)]
    refine iff_of_false (fun hbelow => hforeign.2 hbelow.1) fun hback => ?_
    rcases hback.1 with hname | hname
    · exact hforeign.1 hname
    · exact hforeign.2 hname
  have hname : G.rootName other = [] ∨ G.rootName other = G.rootName path := by
    by_contra hnames
    exact hforeign (not_or.mp hnames)
  cases habsolute : G.isAbsolute other with
  | true =>
      have hother : (G.place parent other).rooted = true := by
        rw [place_rooted, habsolute, Bool.true_or]
      have hsame : G.rootName other = G.rootName path := by
        rcases hname with hnone | hsame
        · rw [hnone, hG.named other path habsolute hnone]
        · exact hsame
      rw [append, if_pos (.inl habsolute), below_iff_names hsame hpath hother, ComesBack,
        if_pos hother]
      exact (and_iff_right hname).symm
  | false =>
      have hreplaces : ¬ G.Replaces path other := by
        rintro (h | h)
        · rw [habsolute] at h
          exact absurd h (by simp)
        · exact hforeign h
      cases hdirectory : G.hasRootDirectory other with
      | true =>
          have hother : (G.place parent other).rooted = true := by
            rw [place_rooted, hdirectory, Bool.or_true]
          have hplace : G.place parent (G.rootName path ++ G.behind other) =
              G.place parent other := by
            rw [hanchored.place_append hdirectory, place, hdirectory, Bool.or_true]
          rw [append, if_neg hreplaces, if_pos hdirectory,
            below_iff_names (hanchored.ends _ hdirectory) hpath (hplace ▸ hother), hplace,
            ComesBack, if_pos hother]
          exact (and_iff_right hname).symm
      | false =>
          obtain ⟨rest, happend, hrest, hnames⟩ :=
            hG.append_relative habs hreplaces hdirectory
          have hother : (G.place parent other).rooted = false := by
            rw [place_rooted, habsolute, hdirectory, Bool.or_false]
          have hplace : G.place parent (G.rootName path ++ rest) =
              (G.place parent path).descend (G.place parent other) := by
            rw [hanchored.place_append hrest, hnames, List.foldl_append,
              Place.foldl_enter_descend (Place.foldl_enter_rooted _ _)]
            simp only [place, habs, habsolute, hdirectory, Bool.true_or, Bool.or_false]
          rw [happend, Below, hanchored.ends rest hrest, hplace, Place.below_descend_iff,
            ComesBack, if_neg (by simp [hother])]
          exact and_congr_left fun _ => iff_of_true rfl hname

end Lawful

end Grammar

end Astartis.LexicalPath
