import Astartis.EccAdapter

/-!
What of a Markdown file comes back from its frontmatter, and which files the check in front of
the parser lets through.
-/

namespace Astartis.Ecc

open Agents
open ByteString
open Delimited

/-! Trimming and quoting. -/

theorem trim_cons_of_blank {b : UInt8} (hb : isBlank b = true) (s : ByteString) :
    trim (b :: s) = trim s := by
  rw [trim, trim, List.dropWhile_cons_of_pos hb]

theorem trim_eq_self {s : ByteString} (hhead : ∀ b ∈ s.head?, isBlank b = false)
    (hlast : ∀ b ∈ s.getLast?, isBlank b = false) : trim s = s := by
  have hfront : s.dropWhile isBlank = s := by
    cases s with
    | nil => rfl
    | cons b s => rw [List.dropWhile_cons_of_neg (by simp [hhead b rfl])]
  rw [trim, hfront, List.rdropWhile_eq_self_iff]
  intro hne
  simp [hlast _ (List.getLast?_eq_some_getLast hne)]

/-- A text keeps the byte it begins with, unless that is a blank. -/
theorem trim_cons_of_not_blank {b : UInt8} (hb : isBlank b = false) (s : ByteString) :
    ∃ t, trim (b :: s) = b :: t := by
  have hback : (b :: s).reverse.dropWhile isBlank = s.reverse.dropWhile isBlank ++ [b] := by
    rw [List.reverse_cons, List.dropWhile_append]
    split
    · rename_i hnone
      rw [List.isEmpty_iff.mp hnone, List.dropWhile_cons_of_neg (by simp [hb])]
      rfl
    · rfl
  refine ⟨(s.reverse.dropWhile isBlank).reverse, ?_⟩
  rw [trim, List.dropWhile_cons_of_neg (by simp [hb]), List.rdropWhile, hback]
  simp

theorem trim_concat_of_blank {b : UInt8} (hb : isBlank b = true) (s : ByteString) :
    trim (s ++ [b]) = trim s := by
  rw [trim, trim, List.dropWhile_append]
  split
  · rename_i hnone
    rw [List.isEmpty_iff.mp hnone, List.dropWhile_cons_of_pos hb]
    rfl
  · rw [List.rdropWhile_concat_pos _ _ _ hb]

theorem trim_subset (s : ByteString) : trim s ⊆ s := by
  intro b hb
  have hfront := (List.rdropWhile_prefix isBlank (s.dropWhile isBlank)).subset hb
  exact (List.dropWhile_suffix isBlank).subset hfront

theorem unquote_subset (s : ByteString) : unquote s ⊆ s := by
  intro b hb
  rw [unquote] at hb
  split at hb
  · exact trim_subset s (List.mem_of_mem_drop (List.dropLast_subset _ hb))
  · exact trim_subset s hb

def quoted (value : ByteString) : ByteString :=
  34 :: (value ++ [34])

theorem trim_quoted (value : ByteString) : trim (quoted value) = quoted value := by
  apply trim_eq_self
  · intro b hb
    obtain rfl : 34 = b := by simpa [quoted] using hb
    rfl
  · intro b hb
    rw [quoted, ← List.cons_append, List.getLast?_concat] at hb
    obtain rfl := Option.some.inj hb
    rfl

theorem unquote_quoted (value : ByteString) : unquote (quoted value) = value := by
  rw [unquote, trim_quoted, if_pos]
  · simp [quoted]
  · refine ⟨by simp [quoted], rfl, ?_⟩
    rw [quoted, ← List.cons_append, List.getLast?_concat]

/-! The check in front of the parser. -/

def firstLine (s : ByteString) : ByteString :=
  (pieces 10 s).headD []

/-- The check accepts what the parser recognises, and refuses no file that has a name and a
body. -/
structure ChecksAgree (content : ByteString) : Prop where
  accepts : isEccFile ⟨".md", some content⟩ = true ↔ (frontmatter? content).isSome = true
  loads : (parseFrontmatter content).name ≠ [] → (parseFrontmatter content).body ≠ [] →
    loadFromMd ⟨".md", some content⟩ = some (toAgentPersona (parseFrontmatter content))

theorem isEccFile_iff (content : ByteString) :
    isEccFile ⟨".md", some content⟩ = true ↔ trim (firstLine content) = ("---" : ByteString) := by
  simp [isEccFile, firstLine]

theorem isSome_frontmatter?_iff (content : ByteString) :
    (frontmatter? content).isSome = true ↔
      trim (firstLine (skipBom content)) = ("---" : ByteString) := by
  have hnil : trim [] ≠ ("---" : ByteString) := by decide
  unfold frontmatter?
  split
  · rename_i hempty
    subst hempty
    exact ⟨fun h => absurd h (by simp), fun h => absurd h hnil⟩
  · unfold firstLine
    cases pieces 10 (skipBom content) with
    | nil => exact ⟨fun h => absurd h (by simp), fun h => absurd h hnil⟩
    | cons line rest =>
        rw [List.headD_cons]
        by_cases hline : trim line = ("---" : ByteString) <;> simp [hline]

theorem isBlank_of_isBom {b : UInt8} (hb : isBom b = true) : isBlank b = false := by
  simp only [isBom, Bool.or_eq_true, decide_eq_true_eq] at hb
  rcases hb with (rfl | rfl) | rfl <;> rfl

/-- A line that begins with a byte of the mark is no fence. -/
theorem trim_firstLine_of_isBom {b : UInt8} (hb : isBom b = true) (s : ByteString) :
    trim (firstLine (b :: s)) ≠ ("---" : ByteString) := by
  have hnewline : b ≠ 10 := by
    rintro rfl
    simp [isBom] at hb
  have hline : ∃ line, firstLine (b :: s) = b :: line := by
    rw [firstLine, pieces, if_neg hnewline]
    cases pieces 10 s with
    | nil => exact ⟨[], rfl⟩
    | cons line rest => exact ⟨line, rfl⟩
  obtain ⟨line, hline⟩ := hline
  obtain ⟨t, ht⟩ := trim_cons_of_not_blank (isBlank_of_isBom hb) line
  rw [hline, ht]
  rintro hfence
  obtain rfl : b = 45 := (List.cons.inj hfence).1
  simp [isBom] at hb

theorem validatePersona_toAgentPersona {fm : ECCFrontmatter} (hname : fm.name ≠ [])
    (hbody : fm.body ≠ []) : validatePersona (toAgentPersona fm) = true := by
  have hpersona : (toAgentPersona fm).name.isEmpty = false := by
    simpa [toAgentPersona, yamlToSnakeCase] using hname
  have hprompt : (toAgentPersona fm).systemPrompt.isEmpty = false := by
    simpa [toAgentPersona] using hbody
  have htokens : ¬ (toAgentPersona fm).maxTokens < 1 := by
    change ¬ (2048 : Int32) < 1
    decide
  have hcold : Double.lt (toAgentPersona fm).temperature (.finite 0) = false := by
    simp [toAgentPersona]
    norm_num
  have hhot : Double.lt (.finite 2) (toAgentPersona fm).temperature = false := by
    simp [toAgentPersona]
    norm_num
  rw [validatePersona, hpersona, hprompt, decide_eq_false htokens, hcold, hhot]
  rfl

/-- Check and parser disagree exactly on the files where a byte of the mark stands in front of
a fence. -/
theorem checksAgree_iff (content : ByteString) :
    ChecksAgree content ↔ ∀ b ∈ content.head?, isBom b = true →
      trim (firstLine (content.dropWhile isBom)) ≠ ("---" : ByteString) := by
  have haccepts : (isEccFile ⟨".md", some content⟩ = true ↔
      (frontmatter? content).isSome = true) ↔ ∀ b ∈ content.head?, isBom b = true →
        trim (firstLine (content.dropWhile isBom)) ≠ ("---" : ByteString) := by
    rw [isEccFile_iff, isSome_frontmatter?_iff]
    cases content with
    | nil => simp [skipBom]
    | cons b rest =>
        by_cases hb : isBom b = true
        · have hrefused := trim_firstLine_of_isBom hb rest
          have hskipped : trim (firstLine (skipBom (b :: rest))) = ("---" : ByteString) ↔
              trim (firstLine ((b :: rest).dropWhile isBom)) = ("---" : ByteString) := by
            rw [skipBom]
            split
            · rename_i hall
              have hnothing : (b :: rest).dropWhile isBom = [] := by
                rw [List.dropWhile_eq_nil_iff]
                exact List.all_eq_true.mp hall
              rw [hnothing]
              exact ⟨fun h => absurd h hrefused, fun h => absurd h (by decide)⟩
            · rfl
          rw [hskipped]
          simp [hrefused, hb]
        · have hkept : (b :: rest).dropWhile isBom = b :: rest :=
            List.dropWhile_cons_of_neg hb
          have hall : ¬ (b :: rest).all isBom = true := by simp [hb]
          rw [skipBom, if_neg hall, hkept]
          simp [hb]
  refine ⟨fun hagree => haccepts.mp hagree.accepts, fun hmark => ?_⟩
  have hchecks := haccepts.mpr hmark
  refine ⟨hchecks, fun hname hbody => ?_⟩
  have hrecognised : (frontmatter? content).isSome = true := by
    by_contra hnone
    rw [Bool.not_eq_true, Option.isSome_eq_false_iff, Option.isNone_iff_eq_none] at hnone
    exact hname (by rw [parseFrontmatter, hnone])
  have haccepted := hchecks.mpr hrecognised
  rw [loadFromMd, if_neg (by simp [haccepted])]
  simp only [if_neg hname, if_neg hbody, validatePersona_toAgentPersona hname hbody, if_true]

/-- A file as an editor saves it that writes the mark. -/
theorem marked_file_refused :
    ¬ ChecksAgree (0xEF :: 0xBB :: 0xBF :: ("---\nname: scout\n---\nFind it." : ByteString)) := by
  intro hagree
  have hrecognised : (frontmatter?
      (0xEF :: 0xBB :: 0xBF :: ("---\nname: scout\n---\nFind it." : ByteString))).isSome = true :=
    (isSome_frontmatter?_iff _).mpr (by decide +kernel)
  exact absurd (hagree.accepts.mpr hrecognised) (by decide +kernel)

/-! Writing a frontmatter. -/

def fieldLine (key value : ByteString) : ByteString :=
  key ++ (": " : ByteString) ++ value

def toolsText (tools : List ByteString) : ByteString :=
  ("[" : ByteString) ++ (", " : ByteString).intercalate (tools.map quoted) ++
    ("]" : ByteString)

def fieldLines (fm : ECCFrontmatter) : List ByteString :=
  [fieldLine "name" (quoted fm.name), fieldLine "description" (quoted fm.description),
    fieldLine "tools" (toolsText fm.tools), fieldLine "model" (quoted fm.modelHint),
    fieldLine "color" (quoted fm.color)]

/-- The documented form, with the body behind the second fence. -/
def render (fm : ECCFrontmatter) : ByteString :=
  (("---" : ByteString) :: (fieldLines fm ++ [("---" : ByteString)])).flatMap (· ++ [10]) ++
    fm.body

/-- Values on one line, and a body without blanks at its ends. -/
structure Writable (fm : ECCFrontmatter) : Prop where
  name : 10 ∉ fm.name
  description : 10 ∉ fm.description
  tools : ∀ tool ∈ fm.tools, 10 ∉ tool
  modelHint : 10 ∉ fm.modelHint
  color : 10 ∉ fm.color
  head : ∀ b ∈ fm.body.head?, isBlank b = false
  last : ∀ b ∈ fm.body.getLast?, isBlank b = false

theorem not_mem_quoted {b : UInt8} {value : ByteString} (hb : b ≠ 34) (hvalue : b ∉ value) :
    b ∉ quoted value := by
  simp [quoted, hb, hvalue]

theorem not_mem_toolsText {b : UInt8} {tools : List ByteString}
    (hb : b ∉ ("[\", ]" : ByteString)) (htools : ∀ tool ∈ tools, b ∉ tool) :
    b ∉ toolsText tools := by
  have hquote : b ≠ 34 := by
    rintro rfl
    exact hb (by decide)
  have hitems : ∀ item ∈ tools.map quoted, b ∉ item := by
    intro item hitem
    obtain ⟨tool, htool, rfl⟩ := List.mem_map.mp hitem
    exact not_mem_quoted hquote (htools tool htool)
  have hsubset : ∀ s : ByteString, s ⊆ ("[\", ]" : ByteString) → b ∉ s :=
    fun s hs hmem => hb (hs hmem)
  simp only [toolsText, List.mem_append, not_or]
  exact ⟨⟨hsubset _ (by decide), not_mem_intercalate (hsubset _ (by decide)) hitems⟩,
    hsubset _ (by decide)⟩

theorem trim_toolsText (tools : List ByteString) : trim (toolsText tools) = toolsText tools := by
  apply trim_eq_self
  · intro b hb
    obtain rfl : 91 = b := Option.some.inj hb
    rfl
  · intro b hb
    obtain rfl : 93 = b := by
      have hlast : (toolsText tools).getLast? = some 93 := List.getLast?_concat
      exact Option.some.inj (hlast.symm.trans hb)
    rfl

/-- What is read as an item has no comma and is not empty. -/
theorem of_mem_parseYamlArray {value item : ByteString} (hitem : item ∈ parseYamlArray value) :
    item ≠ [] ∧ 44 ∉ item := by
  simp only [parseYamlArray] at hitem
  split at hitem
  · simp at hitem
  · obtain ⟨hread, hne⟩ := List.mem_filter.mp hitem
    obtain ⟨token, htoken, rfl⟩ := List.mem_map.mp hread
    refine ⟨by simpa using hne, fun hcomma => ?_⟩
    exact not_mem_of_mem_pieces htoken (trim_subset token (unquote_subset _ hcomma))

theorem parseYamlArray_toolsText {tools : List ByteString}
    (htools : ∀ tool ∈ tools, tool ≠ [] ∧ 44 ∉ tool) :
    parseYamlArray (toolsText tools) = tools := by
  have htext : toolsText tools =
      91 :: ((", " : ByteString).intercalate (tools.map quoted) ++ [93]) := rfl
  have hpieces : (pieces 44 ((", " : ByteString).intercalate (tools.map quoted))).map
      (fun token => unquote (trim token)) = tools := by
    cases tools with
    | nil => rfl
    | cons first rest =>
        have hcommas : ∀ item ∈ (first :: rest).map quoted, 44 ∉ item := by
          intro item hitem
          obtain ⟨tool, htool, rfl⟩ := List.mem_map.mp hitem
          exact not_mem_quoted (by decide) (htools tool htool).2
        have hread : ∀ tool : ByteString, unquote (trim (32 :: quoted tool)) = tool := by
          intro tool
          rw [trim_cons_of_blank rfl, trim_quoted, unquote_quoted]
        rw [List.map_cons] at hcommas ⊢
        rw [show (", " : ByteString) = [44, 32] from rfl,
          pieces_intercalate (by decide) (by simp [quoted]) hcommas, List.map_cons, trim_quoted,
          unquote_quoted, List.map_map, List.map_map]
        simp only [Function.comp_def, hread, List.map_id']
  have hnonempty : ∀ tool ∈ tools, (!tool.isEmpty) = true := by
    intro tool htool
    simpa using (htools tool htool).1
  simp only [parseYamlArray, trim_toolsText]
  rw [htext, if_neg (by simp)]
  simp only [List.head?_cons, List.drop_succ_cons, List.drop_zero, List.getLast?_concat, if_true,
    List.dropLast_concat, hpieces]
  exact List.filter_eq_self.mpr hnonempty

theorem parseYamlArray_toolsText_iff (tools : List ByteString) :
    parseYamlArray (toolsText tools) = tools ↔ ∀ tool ∈ tools, tool ≠ [] ∧ 44 ∉ tool := by
  constructor
  · intro hread tool htool
    exact of_mem_parseYamlArray (hread.symm ▸ htool)
  · exact parseYamlArray_toolsText

theorem parseField_fieldLine {key value : ByteString} (hkey : 58 ∉ key) (fm : ECCFrontmatter) :
    parseField (fieldLine key value) fm =
      assignField (toLower (trim key)) (trim value) fm := by
  have hline : fieldLine key value = key ++ 58 :: 32 :: value := by
    rw [fieldLine, List.append_assoc]
    rfl
  have hnone : key.findIdx? (· == 58) = none := by
    rw [List.findIdx?_eq_none_iff]
    intro b hb
    simpa using fun heq : b = 58 => hkey (heq ▸ hb)
  have hcolon : ByteString.find 58 (key ++ 58 :: 32 :: value) = some key.length := by
    simp [ByteString.find, List.findIdx?_append, List.findIdx?_cons, hnone]
  have hvalue : (key ++ 58 :: 32 :: value).drop (key.length + 1) = 32 :: value := by
    simp
  rw [parseField, hline, hcolon]
  simp only [List.take_left, hvalue, trim_cons_of_blank (b := 32) rfl]

/-- A field is no fence, and the loop goes on behind it. -/
theorem parseLines_fieldLine {key : ByteString} (hkey : 58 ∉ key)
    (hhead : key.head?.any (fun b => !isBlank b && b != 45) = true) (value : ByteString)
    (rest : List ByteString) (fm : ECCFrontmatter) :
    parseLines (fieldLine key value :: rest) fm =
      parseLines rest (assignField (toLower (trim key)) (trim value) fm) := by
  have hline : trim (fieldLine key value) ≠ ("---" : ByteString) := by
    cases key with
    | nil => simp at hhead
    | cons b key =>
        simp only [List.head?_cons, Option.any_some, Bool.and_eq_true, Bool.not_eq_true',
          bne_iff_ne] at hhead
        obtain ⟨t, ht⟩ := trim_cons_of_not_blank hhead.1 (key ++ (": " : ByteString) ++ value)
        change trim (b :: (key ++ (": " : ByteString) ++ value)) ≠ _
        rw [ht]
        exact fun h => hhead.2 (List.cons.inj h).1
  rw [parseLines, if_neg hline, parseField_fieldLine hkey]

/-- The lines of a frontmatter, read one after the other. -/
theorem parseLines_fieldLines (fm : ECCFrontmatter) (body : List ByteString) :
    parseLines (fieldLines fm ++ ("---" : ByteString) :: body) {} =
      ({ fm with tools := parseYamlArray (toolsText fm.tools), body := [] }, body) := by
  have hfence : trim ("---" : ByteString) = ("---" : ByteString) := by decide
  have hname : ∀ value fm', assignField (toLower (trim ("name" : ByteString))) value fm' =
      { fm' with name := unquote value } := fun _ _ => rfl
  have hdescription : ∀ value fm',
      assignField (toLower (trim ("description" : ByteString))) value fm' =
        { fm' with description := unquote value } := fun _ _ => rfl
  have htools : ∀ value fm', assignField (toLower (trim ("tools" : ByteString))) value fm' =
      { fm' with tools := parseYamlArray value } := fun _ _ => rfl
  have hmodel : ∀ value fm', assignField (toLower (trim ("model" : ByteString))) value fm' =
      { fm' with modelHint := unquote value } := fun _ _ => rfl
  have hcolor : ∀ value fm', assignField (toLower (trim ("color" : ByteString))) value fm' =
      { fm' with color := unquote value } := fun _ _ => rfl
  simp only [fieldLines, List.cons_append, List.nil_append]
  rw [parseLines_fieldLine (by decide) (by decide), parseLines_fieldLine (by decide) (by decide),
    parseLines_fieldLine (by decide) (by decide), parseLines_fieldLine (by decide) (by decide),
    parseLines_fieldLine (by decide) (by decide), parseLines, if_pos hfence]
  simp only [hname, hdescription, htools, hmodel, hcolor, trim_quoted, unquote_quoted,
    trim_toolsText]

/-- Everything but the tools comes back as it was. -/
theorem parseFrontmatter_render {fm : ECCFrontmatter} (hfm : Writable fm) :
    parseFrontmatter (render fm) = { fm with tools := parseYamlArray (toolsText fm.tools) } := by
  have hfence : (10 : UInt8) ∉ ("---" : ByteString) := by decide
  have hline : ∀ {key value : ByteString}, 10 ∉ key → 10 ∉ value → 10 ∉ fieldLine key value := by
    intro key value hkey hvalue
    simp only [fieldLine, List.mem_append, not_or]
    exact ⟨⟨hkey, by decide⟩, hvalue⟩
  have hlines : ∀ line ∈ ("---" : ByteString) :: (fieldLines fm ++ [("---" : ByteString)]),
      10 ∉ line := by
    simp only [fieldLines, List.cons_append, List.nil_append, List.forall_mem_cons,
      List.not_mem_nil, IsEmpty.forall_iff, implies_true, and_true]
    exact ⟨hfence, hline (by decide) (not_mem_quoted (by decide) hfm.name),
      hline (by decide) (not_mem_quoted (by decide) hfm.description),
      hline (by decide) (not_mem_toolsText (by decide) hfm.tools),
      hline (by decide) (not_mem_quoted (by decide) hfm.modelHint),
      hline (by decide) (not_mem_quoted (by decide) hfm.color), hfence⟩
  have hskip : skipBom (render fm) = render fm := rfl
  have hread : frontmatter? (render fm) =
      some (fieldLines fm ++ ("---" : ByteString) :: pieces 10 fm.body) := by
    have hpieces := pieces_flatMap_append hlines fm.body
    rw [frontmatter?, if_neg (by simp [render]), hskip, render, hpieces, List.cons_append,
      List.append_assoc]
    exact if_neg (not_not.mpr (by decide))
  have hbody : trim ((pieces 10 fm.body).flatMap (· ++ ("\n" : ByteString))) = fm.body := by
    have htrimmed := trim_eq_self hfm.head hfm.last
    have hjoined : (pieces 10 fm.body).flatMap (· ++ [10]) = fm.body ∨ _ :=
      flatMap_pieces fm.body
    rcases hjoined with hsame | hended
    · exact (congrArg trim hsame).trans htrimmed
    · exact (congrArg trim hended).trans ((trim_concat_of_blank rfl fm.body).trans htrimmed)
  simp only [parseFrontmatter, hread, parseLines_fieldLines, hbody]

/-- A frontmatter comes back exactly if its tools have names without commas. -/
theorem parseFrontmatter_render_iff {fm : ECCFrontmatter} (hfm : Writable fm) :
    parseFrontmatter (render fm) = fm ↔ ∀ tool ∈ fm.tools, tool ≠ [] ∧ 44 ∉ tool := by
  rw [parseFrontmatter_render hfm, ← parseYamlArray_toolsText_iff]
  constructor
  · intro hsame
    exact congrArg ECCFrontmatter.tools hsame
  · intro hsame
    rw [hsame]

def reviewer (tools : List ByteString) : ECCFrontmatter where
  name := "security-reviewer"
  description := "finds \"holes\": all of them"
  tools := tools
  modelHint := "sonnet"
  color := "orange"
  body := "## Task\n---\nReview."

theorem reviewer_writable {tools : List ByteString} (htools : ∀ tool ∈ tools, 10 ∉ tool) :
    Writable (reviewer tools) where
  name := by simp only [reviewer]; decide
  description := by simp only [reviewer]; decide
  tools := htools
  modelHint := by simp only [reviewer]; decide
  color := by simp only [reviewer]; decide
  head := by
    intro b hb
    obtain rfl : 35 = b := Option.some_inj.mp hb
    rfl
  last := by
    intro b hb
    obtain rfl : 46 = b := Option.some_inj.mp hb
    rfl

theorem reviewer_comes_back :
    parseFrontmatter (render (reviewer ["Read", "Bash[rm]"])) = reviewer ["Read", "Bash[rm]"] :=
  (parseFrontmatter_render_iff (reviewer_writable (by decide))).mpr (by decide)

/-- One tool becomes two, with a quote each. -/
theorem tool_split_at_comma :
    Writable (reviewer ["Bash(ls, cat)"]) ∧
      (parseFrontmatter (render (reviewer ["Bash(ls, cat)"]))).tools = ["\"Bash(ls", "cat)\""] ∧
      parseFrontmatter (render (reviewer ["Bash(ls, cat)"])) ≠ reviewer ["Bash(ls, cat)"] := by
  have hwritable : Writable (reviewer ["Bash(ls, cat)"]) := reviewer_writable (by decide)
  have hsplit : parseYamlArray (toolsText ["Bash(ls, cat)"]) = ["\"Bash(ls", "cat)\""] := by
    decide +kernel
  have hread := congrArg ECCFrontmatter.tools (parseFrontmatter_render hwritable)
  refine ⟨hwritable, hread.trans hsplit, fun hsame => ?_⟩
  have hlength := congrArg List.length (hread.symm.trans (congrArg ECCFrontmatter.tools hsame))
  exact absurd ((congrArg List.length hsplit).symm.trans hlength) (by decide)

end Astartis.Ecc
