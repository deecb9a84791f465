import Astartis.DashboardSnapshots
import Astartis.HtmlTokens
import Astartis.JsonRoundTrip

/-!
The tables that the script of the dashboard makes of a snapshot.  Whatever stands in the
snapshot, a row has the cells of its template and nothing else, with the texts of the snapshot.
-/

namespace Astartis.Script

open ByteString
open Dashboard
open Html
open Json

/-- What the browser adds: the capital letters of a text, and how it writes numbers and times of
day.  Those have no markup. -/
structure Browser where
  toUpperCase : ByteString → ByteString
  numberText : Double → ByteString
  toFixed3 : Double → ByteString
  timeOfText : ByteString → ByteString
  timeOfNumber : Double → ByteString
  numberText_plain : ∀ d, Plain (numberText d)
  toFixed3_plain : ∀ d, Plain (toFixed3 d)
  timeOfText_plain : ∀ s, Plain (timeOfText s)
  timeOfNumber_plain : ∀ d, Plain (timeOfNumber d)

section Fields

/-- `j.key` of a text, `none` where the member is missing or something else. -/
def text? (key : ByteString) (j : Json) : Option ByteString :=
  (j.member? key).bind getString?

def number? (key : ByteString) (j : Json) : Option Double :=
  match j.member? key with
  | some (.boolean _) => none
  | some member => member.getDouble?
  | none => none

def flag? (key : ByteString) (j : Json) : Option Bool :=
  match j.member? key with
  | some (.boolean b) => some b
  | _ => none

def list? (key : ByteString) (j : Json) : Option (List Json) :=
  match j.member? key with
  | some (.array elements) => some elements
  | _ => none

/-- `s || other`. -/
def orElse (s other : ByteString) : ByteString :=
  if s = [] then other else s

/-- `replace(/b/g, text)`. -/
def replaceAll (b : UInt8) (text s : ByteString) : ByteString :=
  s.flatMap fun c => if c = b then text else [c]

def esc (s : ByteString) : ByteString :=
  replaceAll 62 "&gt;" (replaceAll 60 "&lt;" (replaceAll 38 "&amp;" s))

/-- `slice(0, units)`, where a character above U+FFFF is two units and half of one is shown
as U+FFFD. -/
def slice : Nat → ByteString → ByteString
  | 0, _ => []
  | _, [] => []
  | units + 1, a :: rest =>
      if a ≤ 0x7F then a :: slice units rest
      else if a ≤ 0xDF then a :: (rest.take 1 ++ slice units (rest.drop 1))
      else if a ≤ 0xEF then a :: (rest.take 2 ++ slice units (rest.drop 2))
      else
        match units with
        | 0 => [0xEF, 0xBF, 0xBD]
        | units + 1 => a :: (rest.take 3 ++ slice units (rest.drop 3))

/-- `slice(-count)`. -/
def lastOnes {α : Type} (count : Nat) (items : List α) : List α :=
  items.drop (items.length - count)

end Fields

section Texts

variable (browser : Browser)

def fmtTime (s : ByteString) : ByteString :=
  if s = [] then "–" else browser.timeOfText s

def fmtMs (ms : Double) : ByteString :=
  if ms = .finite 0 ∨ ms = .negZero ∨ ms = .nan then "–" else browser.timeOfNumber ms

def sevClass (s : ByteString) : ByteString :=
  let s := browser.toUpperCase s
  if s = "CRITICAL" then "critical"
  else if s = "HIGH" then "high"
  else if s = "MEDIUM" then "medium"
  else if s = "LOW" then "low"
  else "info"

/-- A member that is written with three digits if it is a number. -/
def fixed (j : Json) : ByteString :=
  match j with
  | .boolean _ => "–"
  | j =>
      match j.getDouble? with
      | some d => browser.toFixed3 d
      | none => "–"

end Texts

section Cells

def plainCell (html : ByteString) : Cell :=
  ⟨"<td>", html, "</td>"⟩

def monoCell (html : ByteString) : Cell :=
  ⟨"<td class=\"mono\">", html, "</td>"⟩

def mutedCell (html : ByteString) : Cell :=
  ⟨"<td class=\"mono muted\">", html, "</td>"⟩

/-- A badge of a class. -/
def badgeCell (kind cls html : ByteString) : Cell :=
  ⟨("<td><span class=\"" : ByteString) ++ (kind ++ (cls ++ ("\">" : ByteString))), html,
    "</span></td>"⟩

def sevCell (cls html : ByteString) : Cell :=
  badgeCell "sev sev--" cls html

/-- `rows.map(row).join('')`, or the row that says that there are none. -/
def tableHtml (empty indent close : ByteString) (row : Json → Option (List Cell))
    (items : List Json) : Option ByteString :=
  if items = [] then some empty
  else (items.mapM row).map fun rows => rows.flatMap (rowHtml indent close)

end Cells

/-- White space of the templates. -/
def indent4 : ByteString := "\n    "

def indent6 : ByteString := "\n      "

section Updates

variable (browser : Browser) (d : Json)

def alertRow (a : Json) : Option (List Cell) := do
  let severity ← text? "severity" a
  let agentName ← text? "agent_name" a
  let message ← text? "message" a
  let timestamp ← text? "timestamp" a
  return [sevCell (sevClass browser severity) (esc (orElse severity "INFO")),
    plainCell (esc (orElse agentName "–")),
    plainCell (esc (orElse message "–")),
    mutedCell (fmtTime browser timestamp)]

def updateAlerts : Option ByteString := do
  let alerts ← list? "alerts" d
  tableHtml "<tr><td colspan=\"4\" class=\"tbl-empty\">No alerts</td></tr>" indent4 []
    (alertRow browser) (alerts.reverse.take 20)

def firewallRow (f : Json) : Option (List Cell) := do
  let ip ← text? "ip" f
  let ruleNameIn ← text? "rule_name_in" f
  let expiresAtMs ← number? "expires_at_ms" f
  return [monoCell (esc ip), plainCell (esc (orElse ruleNameIn "–")),
    mutedCell (fmtMs browser expiresAtMs)]

def updateFirewall : Option ByteString := do
  let blocks ← list? "firewall_blocks" d
  tableHtml "<tr><td colspan=\"3\" class=\"tbl-empty\">None</td></tr>" indent4 []
    (firewallRow browser) blocks

def agentRow (a : Json) : Option (List Cell) := do
  let status ← text? "status" a
  let tier ← text? "tier" a
  let name ← text? "name" a
  let tasksCompleted ← number? "tasks_completed" a
  let lastActive ← text? "last_active" a
  let st := orElse status "idle"
  let scls : ByteString :=
    if st = "busy" then "medium" else if st = "error" then "critical" else "info"
  let tier := browser.toUpperCase tier
  let tcls : ByteString := if tier = "FAST" then "fast" else "heavy"
  return [plainCell (esc (orElse name "–")),
    badgeCell "tier tier--" tcls (esc (orElse tier "–")),
    sevCell scls (esc (browser.toUpperCase st)),
    monoCell (browser.numberText tasksCompleted),
    mutedCell (fmtTime browser lastActive)]

def updateAgents : Option ByteString := do
  let agents ← list? "agents" d
  tableHtml "<tr><td colspan=\"5\" class=\"tbl-empty\">No agents</td></tr>" indent6 []
    (agentRow browser) agents

def sandboxRow (e : Json) : Option (List Cell) := do
  let relPath ← text? "rel_path" e
  let type ← text? "type" e
  let version ← number? "version" e
  let locked ← flag? "locked" e
  return [monoCell (esc (orElse relPath "–")), plainCell (esc (orElse type "–")),
    monoCell (browser.numberText version),
    if locked then sevCell "critical" "LOCKED" else sevCell "low" "open"]

def updateSandbox : Option ByteString := do
  let entries ← list? "sandbox_entries" d
  tableHtml (("<tr><td colspan=\"4\" class=\"tbl-empty\">\n      Sandbox empty — use " :
      ByteString) ++ ("<strong>Plant Decoys</strong> above to populate honey files.</td></tr>" :
        ByteString))
    indent4 indent4 (sandboxRow browser) (entries.take 50)

def zeroTrustRow (z : Json) : Option (List Cell) := do
  let userId ← text? "user_id" z
  let resource ← text? "resource" z
  let trustScore ← number? "trust_score" z
  let decision ← text? "decision" z
  let cls : ByteString :=
    if decision = "DENY" then "critical" else if decision = "ALLOW_FULL" then "low" else "medium"
  return [plainCell (esc (orElse userId "–")), plainCell (esc (orElse resource "–")),
    monoCell (browser.numberText trustScore), sevCell cls (esc (orElse decision "–"))]

def updateZeroTrust : Option ByteString := do
  let decisions ← list? "zerotrust_decisions" d
  tableHtml (("<tr><td colspan=\"4\" class=\"tbl-empty\">No decisions yet — use <strong>" :
      ByteString) ++ ("Simulate Device Connect</strong> above.</td></tr>" : ByteString))
    indent4 indent4 (zeroTrustRow browser) (decisions.take 30)

def auditRow (a : Json) : Option (List Cell) := do
  let entryId ← text? "entry_id" a
  let eventType ← text? "event_type" a
  let timestamp ← text? "timestamp" a
  let chainValid ← flag? "chain_valid" a
  return [mutedCell (esc (slice 12 entryId ++ ("…" : ByteString))),
    plainCell (esc (orElse eventType "–")), mutedCell (fmtTime browser timestamp),
    if chainValid then sevCell "low" "✓" else sevCell "critical" "✗"]

def updateAudit : Option ByteString := do
  let entries ← list? "audit_entries" d
  tableHtml "<tr><td colspan=\"4\" class=\"tbl-empty\">Loading…</td></tr>" indent6 indent6
    (auditRow browser) (lastOnes 20 entries).reverse

def quarantineRow (q : Json) : Option (List Cell) := do
  let entryId ← text? "entry_id" q
  let virusName ← text? "virus_name" q
  let quarantinedAtMs ← number? "quarantined_at_ms" q
  return [mutedCell (esc (slice 12 entryId ++ ("…" : ByteString))),
    plainCell (esc (orElse virusName "–")), mutedCell (fmtMs browser quarantinedAtMs)]

/-- The second table of `updateAudit`. -/
def updateQuarantine : Option ByteString := do
  let qtn ← list? "quarantine_entries" d
  tableHtml "<tr><td colspan=\"3\" class=\"tbl-empty\">None</td></tr>" indent6 []
    (quarantineRow browser) qtn

def entropyRow (w : Json) : Option (List Cell) := do
  let windowIndex ← number? "window_index" w
  let meanEntropyBits ← w.member? "mean_entropy_bits"
  let maxEntropyBits ← w.member? "max_entropy_bits"
  let anomalous ← flag? "anomalous" w
  return [monoCell (browser.numberText windowIndex), monoCell (fixed browser meanEntropyBits),
    monoCell (fixed browser maxEntropyBits),
    if anomalous then sevCell "critical" "YES" else sevCell "low" "no"]

def updateNetwork : Option ByteString := do
  let ew ← list? "entropy_windows" d
  tableHtml "<tr><td colspan=\"4\" class=\"tbl-empty\">No windows yet</td></tr>" indent6 indent6
    (entropyRow browser) (lastOnes 20 ew).reverse

def statusClass (s : ByteString) : ByteString :=
  if s = "connected" ∨ s = "running" then "sev--low"
  else if s = "stubbed" ∨ s = "installed-stopped" then "sev--medium"
  else if s = "missing" then "sev--critical"
  else "sev--info"

def depRow (r : Json) : Option (List Cell) := do
  let name ← text? "name" r
  let version ← text? "version" r
  let status ← text? "status" r
  let verifiedAt ← text? "verified_at" r
  let s := orElse status "unknown"
  return [plainCell (esc (orElse name "–")), monoCell (esc (orElse version "unknown")),
    badgeCell "sev " (statusClass s) (esc s),
    mutedCell (if verifiedAt = "–" then "–" else fmtTime browser verifiedAt)]

def depKeys : List ByteString :=
  ["ollama", "npcap", "clamd", "granite_fast", "granite_heavy", "granite_acc"]

def staticRow (name version status : ByteString) : Json :=
  .object [("name", .string name), ("version", .string version), ("status", .string status),
    ("verified_at", .string "–")]

def staticRows : List Json :=
  [staticRow "nlohmann/json" "3.11.x (header-only)" "built-in",
    staticRow "WinCrypt / BCrypt" "system (Win32)" "built-in",
    staticRow "Veeam/IBM Storage" "1.0 (stub)" "stubbed"]

/-- A snapshot without `deps` is not followed. -/
def updateDeps : Option ByteString := do
  let deps ← d.member? "deps"
  let rows := depKeys.filterMap fun k => deps.member? k
  if rows = [] then none
  else
    let cells ← (rows ++ staticRows).mapM (depRow browser)
    return cells.flatMap (rowHtml indent4 "\n  ")

end Updates

section Shown

variable {browser : Browser}

theorem esc_eq (s : ByteString) : esc s = escape s := by
  simp only [esc, replaceAll, List.flatMap_assoc, escape]
  refine congrArg (fun f => List.flatMap f s) (funext fun b => ?_)
  by_cases hamp : b = 38
  · subst hamp
    rfl
  · by_cases hlt : b = 60
    · subst hlt
      rfl
    · simp [hamp, hlt]

theorem spells_esc (s : ByteString) : Spells (esc s) s := by
  rw [esc_eq]
  exact spells_escape s

theorem plain_dash : Plain ("–" : ByteString) := by decide

theorem spells_fmtTime (s : ByteString) : Spells (fmtTime browser s) (fmtTime browser s) := by
  refine spells_plain ?_
  rw [fmtTime]
  split
  · exact plain_dash
  · exact browser.timeOfText_plain s

theorem spells_fmtMs (ms : Double) : Spells (fmtMs browser ms) (fmtMs browser ms) := by
  refine spells_plain ?_
  rw [fmtMs]
  split
  · exact plain_dash
  · exact browser.timeOfNumber_plain ms

theorem spells_number (d : Double) : Spells (browser.numberText d) (browser.numberText d) :=
  spells_plain (browser.numberText_plain d)

theorem encloses_plain : Encloses "<td>" "</td>" :=
  ⟨[], fun _ _ => ⟨⟨_, rfl, rfl⟩, fun _ => ⟨_, rfl, rfl⟩⟩⟩

theorem encloses_mono : Encloses "<td class=\"mono\">" "</td>" :=
  ⟨[], fun _ _ => ⟨⟨_, rfl, rfl⟩, fun _ => ⟨_, rfl, rfl⟩⟩⟩

theorem encloses_muted : Encloses "<td class=\"mono muted\">" "</td>" :=
  ⟨[], fun _ _ => ⟨⟨_, rfl, rfl⟩, fun _ => ⟨_, rfl, rfl⟩⟩⟩

theorem encloses_badge {kind cls : ByteString} (hkind : 34 ∉ kind) (hcls : 34 ∉ cls) :
    Encloses (("<td><span class=\"" : ByteString) ++ (kind ++ (cls ++ ("\">" : ByteString))))
      "</span></td>" := by
  refine ⟨["span"], fun rows cells => ⟨?_, fun _ => ⟨_, rfl, rfl⟩⟩⟩
  refine ⟨[.startTag "td", .startTag "span"], ?_, rfl⟩
  have hfront : run .data "<td><span class=\"" =
      some (.tag false "span" (.quoted 34), [.startTag "td"]) := rfl
  have hbehind : run (.tag false "span" (.quoted 34)) "\">" = some (.data, [.startTag "span"]) :=
    rfl
  rw [run_append, hfront, Option.bind_some, run_append, run_quoted _ _ hkind, Option.bind_some,
    run_append, run_quoted _ _ hcls, Option.bind_some, hbehind]
  rfl

theorem mark_not_mem_sevClass (s : ByteString) : 34 ∉ sevClass browser s := by
  simp only [sevClass]
  repeat' split
  all_goals decide

theorem shows_plain {html text : ByteString} (hspells : Spells html text) :
    (plainCell html).Shows text :=
  ⟨encloses_plain, hspells⟩

theorem shows_mono {html text : ByteString} (hspells : Spells html text) :
    (monoCell html).Shows text :=
  ⟨encloses_mono, hspells⟩

theorem shows_muted {html text : ByteString} (hspells : Spells html text) :
    (mutedCell html).Shows text :=
  ⟨encloses_muted, hspells⟩

theorem shows_badge {kind cls html text : ByteString} (hkind : 34 ∉ kind) (hcls : 34 ∉ cls)
    (hspells : Spells html text) : (badgeCell kind cls html).Shows text :=
  ⟨encloses_badge hkind hcls, hspells⟩

theorem shows_sev {cls html text : ByteString} (hcls : 34 ∉ cls) (hspells : Spells html text) :
    (sevCell cls html).Shows text :=
  shows_badge (by decide) hcls hspells

theorem shows_choice (b : Bool) {clsYes clsNo yes no : ByteString} (hclsYes : 34 ∉ clsYes)
    (hclsNo : 34 ∉ clsNo) (hyes : Plain yes) (hno : Plain no) :
    (if b then sevCell clsYes yes else sevCell clsNo no).Shows (if b then yes else no) := by
  cases b with
  | true => exact shows_sev hclsYes (spells_plain hyes)
  | false => exact shows_sev hclsNo (spells_plain hno)

end Shown

section Rows

variable {browser : Browser} {back : Double → Json}

theorem number?_integer {key : ByteString} {j : Json} {n : Int}
    (hmember : j.member? key = some (returned back (.numberInteger n))) :
    number? key j = some (.ofRat n) := by
  rw [number?, hmember, returned]
  by_cases hn : n < 0
  · simp [hn, getDouble?]
  · have hnat : ((n.toNat : ℚ)) = n := by
      exact_mod_cast Int.toNat_of_nonneg (not_lt.mp hn)
    simp [hn, getDouble?, hnat]

/-- The texts of a row are those of its data. -/
def ShowsRow (row : Json → Option (List Cell)) (j : Json) (texts : List ByteString) : Prop :=
  ∃ cells, row j = some cells ∧ List.Forall₂ Cell.Shows cells texts

def alertTexts (browser : Browser) (a : Alert) : List ByteString :=
  [orElse a.severity "INFO", orElse a.agentName "–", orElse a.message "–",
    fmtTime browser a.timestamp]

theorem alertRow_shows (a : Alert) :
    ShowsRow (alertRow browser) (returned back a.toJson) (alertTexts browser a) := by
  refine ⟨_, rfl, ?_⟩
  refine .cons (shows_sev (mark_not_mem_sevClass a.severity) (spells_esc _)) ?_
  refine .cons (shows_plain (spells_esc _)) (.cons (shows_plain (spells_esc _)) ?_)
  exact .cons (shows_muted (spells_fmtTime _)) .nil

def firewallTexts (browser : Browser) (f : FirewallBlockData) : List ByteString :=
  [f.ip, orElse f.ruleNameIn "–", fmtMs browser (.ofRat f.expiresAtMs.toInt)]

theorem firewallRow_shows (f : FirewallBlockData) :
    ShowsRow (firewallRow browser) (returned back f.toJson) (firewallTexts browser f) := by
  have hip : text? "ip" (returned back f.toJson) = some f.ip := rfl
  have hrule : text? "rule_name_in" (returned back f.toJson) = some f.ruleNameIn := rfl
  have hexpires : number? "expires_at_ms" (returned back f.toJson) =
      some (.ofRat f.expiresAtMs.toInt) := number?_integer rfl
  refine ⟨_, by rw [firewallRow, hip, hrule, hexpires]; rfl, ?_⟩
  refine .cons (shows_mono (spells_esc _)) (.cons (shows_plain (spells_esc _)) ?_)
  exact .cons (shows_muted (spells_fmtMs _)) .nil

def agentTexts (browser : Browser) (a : AgentStatus) : List ByteString :=
  [orElse a.name "–", orElse (browser.toUpperCase a.tier) "–",
    browser.toUpperCase (orElse a.status "idle"), browser.numberText (.ofRat a.tasksCompleted),
    fmtTime browser a.lastActive]

theorem agentRow_shows (a : AgentStatus) :
    ShowsRow (agentRow browser) (returned back a.toJson) (agentTexts browser a) := by
  have hstatus : text? "status" (returned back a.toJson) = some a.status := rfl
  have htier : text? "tier" (returned back a.toJson) = some a.tier := rfl
  have hname : text? "name" (returned back a.toJson) = some a.name := rfl
  have htasks : number? "tasks_completed" (returned back a.toJson) =
      some (.ofRat a.tasksCompleted) := number?_integer rfl
  have hactive : text? "last_active" (returned back a.toJson) = some a.lastActive := rfl
  refine ⟨_, by rw [agentRow, hstatus, htier, hname, htasks, hactive]; rfl, ?_⟩
  refine .cons (shows_plain (spells_esc _)) (.cons (shows_badge (by decide) ?_ (spells_esc _)) ?_)
  · split <;> decide
  · refine .cons (shows_sev ?_ (spells_esc _)) (.cons (shows_mono (spells_number _)) ?_)
    · repeat' split
      all_goals decide
    · exact .cons (shows_muted (spells_fmtTime _)) .nil

def sandboxTexts (browser : Browser) (e : SandboxEntryData) : List ByteString :=
  [orElse e.relPath "–", orElse e.type "–", browser.numberText (.ofRat e.version.toNat),
    if e.locked then "LOCKED" else "open"]

theorem sandboxRow_shows (e : SandboxEntryData) :
    ShowsRow (sandboxRow browser) (returned back e.toJson) (sandboxTexts browser e) := by
  refine ⟨_, rfl, ?_⟩
  refine .cons (shows_mono (spells_esc _)) (.cons (shows_plain (spells_esc _)) ?_)
  refine .cons (shows_mono (spells_number _)) (.cons ?_ .nil)
  exact shows_choice e.locked (by decide) (by decide) (by decide) (by decide)

def zeroTrustTexts (browser : Browser) (z : ZeroTrustDecisionData) : List ByteString :=
  [orElse z.userId "–", orElse z.resource "–", browser.numberText (.ofRat z.trustScore),
    orElse z.decision "–"]

theorem zeroTrustRow_shows (z : ZeroTrustDecisionData) :
    ShowsRow (zeroTrustRow browser) (returned back z.toJson) (zeroTrustTexts browser z) := by
  have huser : text? "user_id" (returned back z.toJson) = some z.userId := rfl
  have hresource : text? "resource" (returned back z.toJson) = some z.resource := rfl
  have hscore : number? "trust_score" (returned back z.toJson) = some (.ofRat z.trustScore) :=
    number?_integer rfl
  have hdecision : text? "decision" (returned back z.toJson) = some z.decision := rfl
  refine ⟨_, by rw [zeroTrustRow, huser, hresource, hscore, hdecision]; rfl, ?_⟩
  refine .cons (shows_plain (spells_esc _)) (.cons (shows_plain (spells_esc _)) ?_)
  refine .cons (shows_mono (spells_number _)) (.cons (shows_sev ?_ (spells_esc _)) .nil)
  repeat' split
  all_goals decide

def auditTexts (browser : Browser) (a : AuditEntryData) : List ByteString :=
  [slice 12 a.entryId ++ ("…" : ByteString), orElse a.eventType "–", fmtTime browser a.timestamp,
    if a.chainValid then "✓" else "✗"]

theorem auditRow_shows (a : AuditEntryData) :
    ShowsRow (auditRow browser) (returned back a.toJson) (auditTexts browser a) := by
  refine ⟨_, rfl, ?_⟩
  refine .cons (shows_muted (spells_esc _)) (.cons (shows_plain (spells_esc _)) ?_)
  refine .cons (shows_muted (spells_fmtTime _)) (.cons ?_ .nil)
  exact shows_choice a.chainValid (by decide) (by decide) (by decide) (by decide)

def quarantineTexts (browser : Browser) (q : QuarantineEntryData) : List ByteString :=
  [slice 12 q.entryId ++ ("…" : ByteString), orElse q.virusName "–",
    fmtMs browser (.ofRat q.quarantinedAtMs.toInt)]

theorem quarantineRow_shows (q : QuarantineEntryData) :
    ShowsRow (quarantineRow browser) (returned back q.toJson) (quarantineTexts browser q) := by
  have hentry : text? "entry_id" (returned back q.toJson) = some q.entryId := rfl
  have hvirus : text? "virus_name" (returned back q.toJson) = some q.virusName := rfl
  have hat : number? "quarantined_at_ms" (returned back q.toJson) =
      some (.ofRat q.quarantinedAtMs.toInt) := number?_integer rfl
  refine ⟨_, by rw [quarantineRow, hentry, hvirus, hat]; rfl, ?_⟩
  refine .cons (shows_muted (spells_esc _)) (.cons (shows_plain (spells_esc _)) ?_)
  exact .cons (shows_muted (spells_fmtMs _)) .nil

theorem spells_fixed (j : Json) : Spells (fixed browser j) (fixed browser j) := by
  refine spells_plain ?_
  unfold fixed
  split
  · exact plain_dash
  · split
    · exact browser.toFixed3_plain _
    · exact plain_dash

def entropyTexts (browser : Browser) (back : Double → Json) (w : EntropyWindowData) :
    List ByteString :=
  [browser.numberText (.ofRat w.windowIndex.toNat), fixed browser (back w.meanEntropyBits),
    fixed browser (back w.maxEntropyBits), if w.anomalous then "YES" else "no"]

theorem entropyRow_shows (w : EntropyWindowData) :
    ShowsRow (entropyRow browser) (returned back w.toJson) (entropyTexts browser back w) := by
  refine ⟨_, rfl, ?_⟩
  refine .cons (shows_mono (spells_number _)) (.cons (shows_mono (spells_fixed _)) ?_)
  refine .cons (shows_mono (spells_fixed _)) (.cons ?_ .nil)
  exact shows_choice w.anomalous (by decide) (by decide) (by decide) (by decide)

def depTexts (browser : Browser) (r : DepInfo) : List ByteString :=
  [orElse r.name "–", orElse r.version "unknown", orElse r.status "unknown",
    if r.verifiedAt = "–" then "–" else fmtTime browser r.verifiedAt]

theorem orElse_orElse (s other : ByteString) :
    orElse (orElse s other) other = orElse s other := by
  unfold orElse
  split <;> simp [*]

theorem mark_not_mem_statusClass (s : ByteString) : 34 ∉ statusClass s := by
  unfold statusClass
  repeat' split
  all_goals decide

/-- A row of the object `deps`, or one that is always there. -/
theorem depRow_shows (r : DepInfo) {j : Json} (hname : text? "name" j = some r.name)
    (hversion : text? "version" j = some (orElse r.version "unknown"))
    (hstatus : text? "status" j = some r.status)
    (hverified : text? "verified_at" j = some r.verifiedAt) :
    ShowsRow (depRow browser) j (depTexts browser r) := by
  refine ⟨_, by rw [depRow, hname, hversion, hstatus, hverified]; rfl, ?_⟩
  refine .cons (shows_plain (spells_esc _)) (.cons ?_ (.cons ?_ (.cons ?_ .nil)))
  · rw [orElse_orElse]
    exact shows_mono (spells_esc _)
  · exact shows_badge (by decide) (mark_not_mem_statusClass _) (spells_esc _)
  · refine shows_muted ?_
    split
    · exact spells_plain plain_dash
    · exact spells_fmtTime _

end Rows

section Tables

variable {browser : Browser} {back : Double → Json}

theorem rows?_mapM {row : Json → Option (List Cell)} {elements : List Json}
    {texts : List (List ByteString)} {indent close : ByteString}
    (hindent : ∀ b ∈ indent, Html.isSpace b = true) (hclose : ∀ b ∈ close, Html.isSpace b = true)
    (hrows : List.Forall₂ (ShowsRow row) elements texts) :
    ((elements.mapM row).map fun rows => rows.flatMap (rowHtml indent close)).bind rows? =
      some texts := by
  obtain ⟨cells, hcells, hshows⟩ : ∃ cells, elements.mapM row = some cells ∧
      List.Forall₂ (List.Forall₂ Cell.Shows) cells texts := by
    induction hrows with
    | nil => exact ⟨[], rfl, .nil⟩
    | cons hrow _ ih =>
        obtain ⟨first, hfirst, hfirsts⟩ := hrow
        obtain ⟨cells, hcells, hshows⟩ := ih
        exact ⟨first :: cells, by rw [List.mapM_cons, hfirst, hcells]; rfl, .cons hfirsts hshows⟩
  rw [hcells]
  exact rows?_flatMap hindent hclose hshows

/-- The rows of a table: one for each item, or one that says that there are none. -/
def tableRows {α : Type} (emptyText : ByteString) (texts : α → List ByteString) (items : List α) :
    List (List ByteString) :=
  if items = [] then [[emptyText]] else items.map texts

theorem tableHtml_rows {α : Type} {toJson : α → Json} {texts : α → List ByteString}
    {row : Json → Option (List Cell)} {empty emptyText indent close : ByteString}
    (hindent : ∀ b ∈ indent, Html.isSpace b = true) (hclose : ∀ b ∈ close, Html.isSpace b = true)
    (hempty : rows? empty = some [[emptyText]])
    (hrow : ∀ item, ShowsRow row (returned back (toJson item)) (texts item)) (items : List α) :
    (tableHtml empty indent close row (items.map fun item => returned back (toJson item))).bind
        rows? = some (tableRows emptyText texts items) := by
  rw [tableHtml, tableRows]
  by_cases hitems : items = []
  · rw [if_pos (by simp [hitems]), if_pos hitems]
    exact hempty
  · rw [if_neg (by simpa using hitems), if_neg hitems]
    refine rows?_mapM hindent hclose ?_
    rw [List.forall₂_map_left_iff, List.forall₂_map_right_iff]
    exact List.forall₂_same.mpr fun item _ => hrow item

/-- An array of a snapshot as it comes back. -/
theorem list?_returned {α : Type} {toJson : α → Json} {items : List α} {key : ByteString}
    {j : Json} (hmember : j.member? key = some (returned back (.array (items.map toJson)))) :
    list? key j = some (items.map fun item => returned back (toJson item)) := by
  rw [list?, hmember, returned, returnedAll_eq_map, List.map_map]
  rfl

end Tables

/-- What the tables show, a list of rows each. -/
structure Tables where
  alerts : List (List ByteString)
  firewall : List (List ByteString)
  agents : List (List ByteString)
  sandbox : List (List ByteString)
  zeroTrust : List (List ByteString)
  audit : List (List ByteString)
  quarantine : List (List ByteString)
  network : List (List ByteString)
  deps : List (List ByteString)
deriving DecidableEq

/-- The tables after a poll that has got the document. -/
def shownTables? (browser : Browser) (d : Json) : Option Tables := do
  let alerts ← (updateAlerts browser d).bind rows?
  let firewall ← (updateFirewall browser d).bind rows?
  let agents ← (updateAgents browser d).bind rows?
  let sandbox ← (updateSandbox browser d).bind rows?
  let zeroTrust ← (updateZeroTrust browser d).bind rows?
  let audit ← (updateAudit browser d).bind rows?
  let quarantine ← (updateQuarantine browser d).bind rows?
  let network ← (updateNetwork browser d).bind rows?
  let deps ← (updateDeps browser d).bind rows?
  return { alerts, firewall, agents, sandbox, zeroTrust, audit, quarantine, network, deps }

/-- The rows of the dependencies that are always there. -/
def staticDeps : List DepInfo :=
  [⟨"nlohmann/json", "3.11.x (header-only)", "built-in", "–"⟩,
    ⟨"WinCrypt / BCrypt", "system (Win32)", "built-in", "–"⟩,
    ⟨"Veeam/IBM Storage", "1.0 (stub)", "stubbed", "–"⟩]

def depsOf (health : SystemHealth) : List DepInfo :=
  [health.depOllama, health.depNpcap, health.depClamd, health.depGraniteFast,
    health.depGraniteHeavy, health.depGraniteAcc] ++ staticDeps

/-- The tables that a snapshot is there for. -/
def tablesOf (browser : Browser) (back : Double → Json) (data : DashboardData) : Tables where
  alerts := tableRows "No alerts" (alertTexts browser) (data.alerts.reverse.take 20)
  firewall := tableRows "None" (firewallTexts browser) data.firewallBlocks
  agents := tableRows "No agents" (agentTexts browser) data.agents
  sandbox :=
    tableRows "\n      Sandbox empty — use Plant Decoys above to populate honey files."
      (sandboxTexts browser) (data.sandboxEntries.take 50)
  zeroTrust := tableRows "No decisions yet — use Simulate Device Connect above."
    (zeroTrustTexts browser) (data.zerotrustDecisions.take 30)
  audit := tableRows "Loading…" (auditTexts browser) (lastOnes 20 data.auditEntries).reverse
  quarantine := tableRows "None" (quarantineTexts browser) data.quarantineEntries
  network := tableRows "No windows yet" (entropyTexts browser back)
    (lastOnes 20 data.entropyWindows).reverse
  deps := (depsOf data.health).map (depTexts browser)

section Snapshots

variable {browser : Browser} {back : Double → Json} (data : DashboardData)
  (timestamp : ByteString)

theorem isSpace_nil : ∀ b ∈ ([] : ByteString), Html.isSpace b = true :=
  List.forall_mem_nil _

theorem isSpace_indent4 : ∀ b ∈ indent4, Html.isSpace b = true :=
  List.all_eq_true.mp rfl

theorem isSpace_indent6 : ∀ b ∈ indent6, Html.isSpace b = true :=
  List.all_eq_true.mp rfl

theorem lastOnes_map {α β : Type} (f : α → β) (count : Nat) (items : List α) :
    lastOnes count (items.map f) = (lastOnes count items).map f := by
  rw [lastOnes, lastOnes, List.length_map, List.map_drop]

theorem alerts_shown :
    (updateAlerts browser (returned back (data.toJson timestamp))).bind rows? =
      some (tablesOf browser back data).alerts := by
  have hlist : list? "alerts" (returned back (data.toJson timestamp)) =
      some (data.alerts.map fun item => returned back item.toJson) := list?_returned rfl
  rw [updateAlerts, hlist]
  simp only [Option.bind_eq_bind, Option.bind_some, ← List.map_reverse, ← List.map_take]
  exact tableHtml_rows isSpace_indent4 isSpace_nil (by rfl) alertRow_shows _

theorem firewall_shown :
    (updateFirewall browser (returned back (data.toJson timestamp))).bind rows? =
      some (tablesOf browser back data).firewall := by
  have hlist : list? "firewall_blocks" (returned back (data.toJson timestamp)) =
      some (data.firewallBlocks.map fun item => returned back item.toJson) := list?_returned rfl
  rw [updateFirewall, hlist]
  exact tableHtml_rows isSpace_indent4 isSpace_nil (by rfl) firewallRow_shows _

theorem agents_shown :
    (updateAgents browser (returned back (data.toJson timestamp))).bind rows? =
      some (tablesOf browser back data).agents := by
  have hlist : list? "agents" (returned back (data.toJson timestamp)) =
      some (data.agents.map fun item => returned back item.toJson) := list?_returned rfl
  rw [updateAgents, hlist]
  exact tableHtml_rows isSpace_indent6 isSpace_nil (by rfl) agentRow_shows _

set_option maxRecDepth 1500 in
theorem sandbox_shown :
    (updateSandbox browser (returned back (data.toJson timestamp))).bind rows? =
      some (tablesOf browser back data).sandbox := by
  have hlist : list? "sandbox_entries" (returned back (data.toJson timestamp)) =
      some (data.sandboxEntries.map fun item => returned back item.toJson) := list?_returned rfl
  rw [updateSandbox, hlist]
  simp only [Option.bind_eq_bind, Option.bind_some, ← List.map_take]
  exact tableHtml_rows isSpace_indent4 isSpace_indent4 (by rfl) sandboxRow_shows _

set_option maxRecDepth 1500 in
theorem zeroTrust_shown :
    (updateZeroTrust browser (returned back (data.toJson timestamp))).bind rows? =
      some (tablesOf browser back data).zeroTrust := by
  have hlist : list? "zerotrust_decisions" (returned back (data.toJson timestamp)) =
      some (data.zerotrustDecisions.map fun item => returned back item.toJson) := list?_returned rfl
  rw [updateZeroTrust, hlist]
  simp only [Option.bind_eq_bind, Option.bind_some, ← List.map_take]
  exact tableHtml_rows isSpace_indent4 isSpace_indent4 (by rfl) zeroTrustRow_shows _

theorem audit_shown :
    (updateAudit browser (returned back (data.toJson timestamp))).bind rows? =
      some (tablesOf browser back data).audit := by
  have hlist : list? "audit_entries" (returned back (data.toJson timestamp)) =
      some (data.auditEntries.map fun item => returned back item.toJson) := list?_returned rfl
  rw [updateAudit, hlist]
  simp only [Option.bind_eq_bind, Option.bind_some, lastOnes_map, ← List.map_reverse]
  exact tableHtml_rows isSpace_indent6 isSpace_indent6 (by rfl) auditRow_shows _

theorem quarantine_shown :
    (updateQuarantine browser (returned back (data.toJson timestamp))).bind rows? =
      some (tablesOf browser back data).quarantine := by
  have hlist : list? "quarantine_entries" (returned back (data.toJson timestamp)) =
      some (data.quarantineEntries.map fun item => returned back item.toJson) := list?_returned rfl
  rw [updateQuarantine, hlist]
  exact tableHtml_rows isSpace_indent6 isSpace_nil (by rfl) quarantineRow_shows _

theorem network_shown :
    (updateNetwork browser (returned back (data.toJson timestamp))).bind rows? =
      some (tablesOf browser back data).network := by
  have hlist : list? "entropy_windows" (returned back (data.toJson timestamp)) =
      some (data.entropyWindows.map fun item => returned back item.toJson) := list?_returned rfl
  rw [updateNetwork, hlist]
  simp only [Option.bind_eq_bind, Option.bind_some, lastOnes_map, ← List.map_reverse]
  exact tableHtml_rows isSpace_indent6 isSpace_indent6 (by rfl) entropyRow_shows _

theorem deps_shown :
    (updateDeps browser (returned back (data.toJson timestamp))).bind rows? =
      some (tablesOf browser back data).deps := by
  have hdeps : (returned back (data.toJson timestamp)).member? "deps" =
      some (returned back data.health.depsJson) := rfl
  have hrows : List.Forall₂ (ShowsRow (depRow browser))
      ((depKeys.filterMap fun k => (returned back data.health.depsJson).member? k) ++ staticRows)
      ((depsOf data.health).map (depTexts browser)) := by
    repeat' first
      | exact .nil
      | refine .cons (depRow_shows _ rfl rfl rfl rfl) ?_
  rw [updateDeps, hdeps]
  have hsome : (depKeys.filterMap fun k => (returned back data.health.depsJson).member? k) ≠ [] :=
    List.cons_ne_nil _ _
  simp only [Option.bind_eq_bind, Option.bind_some, if_neg hsome]
  exact rows?_mapM isSpace_indent4 (List.all_eq_true.mp rfl) hrows

theorem shownTables?_returned :
    shownTables? browser (returned back (data.toJson timestamp)) =
      some (tablesOf browser back data) := by
  simp only [shownTables?, alerts_shown, firewall_shown, agents_shown, sandbox_shown,
    zeroTrust_shown, audit_shown, quarantine_shown, network_shown, deps_shown,
    Option.bind_eq_bind, Option.bind_some]
  rfl

end Snapshots

section Documents

variable {host : Host} {float : Double → ByteString} {back : Double → Json}

/-- `dump(2)` throws where there is a text that is not UTF-8. -/
def WritesIndented (host : Host) (float : Double → ByteString) : Prop :=
  ∀ j, host.dumpIndented j = if j.isUtf8 then some (write (indented float) 0 j) else none

/-- What a stream in text mode does to a byte. -/
def endLine (b : UInt8) : ByteString :=
  if b = 10 then [13, 10] else [b]

theorem endLine_of_ne {b : UInt8} (hb : b ≠ 10) : endLine b = [b] :=
  if_neg hb

theorem isBlank_endLine {s : ByteString} (hs : ∀ b ∈ s, Json.isBlank b = true) :
    ∀ b ∈ s.flatMap endLine, Json.isBlank b = true := by
  intro b hb
  obtain ⟨c, hc, hmem⟩ := List.mem_flatMap.mp hb
  rw [endLine] at hmem
  split at hmem
  · have hall : ∀ b ∈ ([13, 10] : ByteString), Json.isBlank b = true := List.all_eq_true.mp rfl
    exact hall b hmem
  · rw [List.mem_singleton.mp hmem]
    exact hs c hc

theorem textMode_legible (hfloat : Readable float back) (hnewline : ∀ d, 10 ∉ float d) :
    ((indented float).translate endLine).Legible back where
  item := fun _ => isBlank_endLine isBlank_newline
  close := fun _ => isBlank_endLine isBlank_newline
  colon := isBlank_endLine (by simp [indented, Json.isBlank])
  float := by
    have hsame : ((indented float).translate endLine).float = float :=
      funext fun d => flatMap_of_not_mem (fun _ => endLine_of_ne) (hnewline d)
    rw [hsame]
    exact hfloat

end Documents

theorem plain_zero : Plain ("0" : ByteString) := by decide

theorem plain_noon : Plain ("12:00:00" : ByteString) := by decide

/-- A browser where every number is zero and it is always noon. -/
def noonBrowser : Browser where
  toUpperCase := id
  numberText := fun _ => "0"
  toFixed3 := fun _ => "0"
  timeOfText := fun _ => "12:00:00"
  timeOfNumber := fun _ => "12:00:00"
  numberText_plain := fun _ => plain_zero
  toFixed3_plain := fun _ => plain_zero
  timeOfText_plain := fun _ => plain_noon
  timeOfNumber_plain := fun _ => plain_noon

def zeroHost : Host :=
  { sampleHost "null" .null "null" with
    dumpIndented := fun j => if j.isUtf8 then some (write (indented zeroText) 0 j) else none }

/-- An alert about a name with a tag in it. -/
def taggedData : DashboardData :=
  { alerts := [⟨"2026-01-01T00:00:00Z", "HIGH", "SandboxWatch", "read <img src=x> & \"left\""⟩] }

end Astartis.Script
