import Astartis.AgentController
import Astartis.Delimited

/-!
The adapter for agents in Markdown files: the frontmatter between two lines `---`, one
`key: value` a line, and the body behind it, which becomes the system prompt.
-/

namespace Astartis.Ecc

open Agents
open Delimited
open Granite

def isBlank (b : UInt8) : Bool :=
  b = 32 || b = 9 || b = 13 || b = 10

/-- What `find_first_not_of` and `find_last_not_of` leave. -/
def trim (s : ByteString) : ByteString :=
  (s.dropWhile isBlank).rdropWhile isBlank

def unquote (s : ByteString) : ByteString :=
  let t := trim s
  if 2 ≤ t.length ∧ t.head? = some 34 ∧ t.getLast? = some 34 then (t.drop 1).dropLast else t

def lowerByte (b : UInt8) : UInt8 :=
  if 65 ≤ b ∧ b ≤ 90 then b + 32 else b

def toLower (s : ByteString) : ByteString :=
  s.map lowerByte

structure ECCFrontmatter where
  name : ByteString := []
  description : ByteString := []
  tools : List ByteString := []
  modelHint : ByteString := []
  color : ByteString := []
  body : ByteString := []
deriving DecidableEq

def yamlToSnakeCase (name : ByteString) : ByteString :=
  name.map fun c => if c = 45 then 95 else lowerByte c

def parseYamlArray (value : ByteString) : List ByteString :=
  let s := trim value
  if s = [] then []
  else
    let s := if s.head? = some 91 then s.drop 1 else s
    let s := if s.getLast? = some 93 then s.dropLast else s
    ((pieces 44 s).map fun token => unquote (trim token)).filter fun item => !item.isEmpty

def parseModelHint (hint : ByteString) : GraniteModel :=
  let h := toLower (trim hint)
  if h = ("opus" : ByteString) then .orchestrator
  else if h = ("sonnet" : ByteString) then .accuracy
  else if h = ("haiku" : ByteString) then .heavy
  else if h = ("fast" : ByteString) ∨ h = ("mini" : ByteString) then .fast
  else if h = ("accuracy" : ByteString) then .accuracy
  else if h = ("orchestrator" : ByteString) then .orchestrator
  else if h = ("heavy" : ByteString) then .heavy
  else .heavy

/-- A Markdown file: its extension, and the bytes that a stream in text mode delivers, if it
can be opened. -/
structure MdFile where
  extension : ByteString
  content : Option ByteString

def isEccFile (file : MdFile) : Bool :=
  if file.extension ≠ (".md" : ByteString) then false
  else
    match file.content with
    | none => false
    | some content => trim ((pieces 10 content).headD []) = ("---" : ByteString)

def isBom (b : UInt8) : Bool :=
  b = 0xEF || b = 0xBB || b = 0xBF

/-- `find_first_not_of` takes the three bytes of the mark in any order and number. -/
def skipBom (mdContent : ByteString) : ByteString :=
  if mdContent.all isBom then mdContent else mdContent.dropWhile isBom

/-- The lines behind the first, if that one opens a frontmatter. -/
def frontmatter? (mdContent : ByteString) : Option (List ByteString) :=
  if mdContent = [] then none
  else
    match pieces 10 (skipBom mdContent) with
    | [] => none
    | line :: rest => if trim line ≠ ("---" : ByteString) then none else some rest

def assignField (key val : ByteString) (fm : ECCFrontmatter) : ECCFrontmatter :=
  if key = ("name" : ByteString) then { fm with name := unquote val }
  else if key = ("description" : ByteString) then { fm with description := unquote val }
  else if key = ("model" : ByteString) then { fm with modelHint := unquote val }
  else if key = ("color" : ByteString) then { fm with color := unquote val }
  else if key = ("tools" : ByteString) then { fm with tools := parseYamlArray val }
  else fm

def parseField (line : ByteString) (fm : ECCFrontmatter) : ECCFrontmatter :=
  match ByteString.find 58 line with
  | none => fm
  | some colon =>
      assignField (toLower (trim (line.take colon))) (trim (line.drop (colon + 1))) fm

/-- The loop of `parse_frontmatter`: the fields, and the lines of the body. -/
def parseLines : List ByteString → ECCFrontmatter → ECCFrontmatter × List ByteString
  | [], fm => (fm, [])
  | line :: rest, fm =>
      if trim line = ("---" : ByteString) then (fm, rest)
      else parseLines rest (parseField line fm)

def parseFrontmatter (mdContent : ByteString) : ECCFrontmatter :=
  match frontmatter? mdContent with
  | none => {}
  | some rest =>
      let (fm, body) := parseLines rest {}
      { fm with body := trim (body.flatMap (· ++ ("\n" : ByteString))) }

def toAgentPersona (fm : ECCFrontmatter) : AgentPersona where
  name := yamlToSnakeCase fm.name
  category := "pen_test"
  preferredModel := parseModelHint fm.modelHint
  systemPrompt := fm.body
  maxTokens := 2048

/-- `PersonaLoader::validate_persona` -/
def validatePersona (persona : AgentPersona) : Bool :=
  !persona.name.isEmpty && !persona.systemPrompt.isEmpty && !decide (persona.maxTokens < 1) &&
    !(Double.lt persona.temperature (.finite 0) || Double.lt (.finite 2) persona.temperature)

def loadFromMd (file : MdFile) : Option AgentPersona :=
  if isEccFile file = false then none
  else
    match file.content with
    | none => none
    | some content =>
        let fm := parseFrontmatter content
        if fm.name = [] then none
        else if fm.body = [] then none
        else
          let persona := toAgentPersona fm
          if validatePersona persona then some persona else none

end Astartis.Ecc
