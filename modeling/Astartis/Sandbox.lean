import Std.Data.TreeMap
import Astartis.AuditChain
import Astartis.Double

namespace Astartis

open Audit

inductive EntryType
  | file
  | directory
deriving DecidableEq

structure SandboxEntry where
  relPath : ByteString
  type : EntryType
  content : ByteString
  version : UInt64
  locked : Bool
  sizeBytes : Int64
  lastModified : Int64
deriving DecidableEq

structure SandboxResult where
  ok : Bool
  error : ByteString
deriving DecidableEq

/-- The files on disk are written along with the entries and never read back. -/
structure Sandbox where
  rootPath : ByteString
  entries : Std.TreeMap ByteString SandboxEntry := {}

namespace Sandbox

/-- A reversed path without its leading slashes, of which the last byte stays. -/
def dropSlashes : ByteString → ByteString
  | b :: c :: rest => if b = 47 then dropSlashes (c :: rest) else b :: c :: rest
  | short => short

def normalise (p : ByteString) : ByteString :=
  (dropSlashes (p.map fun b => if b = 92 then 47 else b).reverse).reverse

def hasDotdot (s : ByteString) : Bool :=
  s = (".." : ByteString) || ("../" : ByteString).isPrefixOf s ||
    ("/.." : ByteString).isSuffixOf s || (ByteString.findText "/../" s).isSome

def isInside (absPath rootPath : ByteString) : Bool :=
  let normPath := normalise absPath
  let normRoot := normalise rootPath
  if hasDotdot normPath then false
  else normPath = normRoot || (normRoot ++ ("/" : ByteString)).isPrefixOf normPath

structure SynthFile where
  relPath : ByteString
  content : ByteString

def syntheticFiles : List SynthFile :=
  [⟨"etc/nginx.conf", .ofLiterals
      ["worker_processes auto;\nevents \x7b worker_connections 1024; \x7d\n",
        "http \x7b\n  server \x7b\n    listen 443 ssl;\n    server_name corp.internal;\n  \x7d\n\x7d\n"]⟩,
    ⟨"etc/sshd_config", .ofLiterals
      ["Port 22\nPermitRootLogin no\nPasswordAuthentication no\n",
        "PubkeyAuthentication yes\nAllowUsers admin deploy\n"]⟩,
    ⟨"etc/hosts", .ofLiterals
      ["127.0.0.1 localhost\n192.168.10.5 db-primary.corp.internal\n",
        "192.168.10.6 db-replica.corp.internal\n192.168.10.20 app-server.corp.internal\n"]⟩,
    ⟨"etc/cron.d/backup-job", .ofLiterals
      ["0 2 * * * root /opt/app/scripts/backup.sh >> /var/log/backup.log 2>&1\n"]⟩,
    ⟨"etc/ssl/server.crt", .ofLiterals
      ["-----BEGIN CERTIFICATE-----\n[SYNTHETIC CERTIFICATE PLACEHOLDER]\n-----END CERTIFICATE-----\n"]⟩,
    ⟨"var/log/auth.log", .ofLiterals
      ["Jun 26 01:12:03 sshd[1042]: Accepted publickey for admin from 192.168.1.100\n",
        "Jun 26 01:13:44 sshd[1052]: Failed password for invalid user guest from 10.0.0.55\n",
        "Jun 26 02:00:01 sudo: admin : TTY=pts/0 ; USER=root ; COMMAND=/bin/systemctl restart nginx\n"]⟩,
    ⟨"var/log/syslog", .ofLiterals
      ["Jun 26 00:00:01 kernel: [0.000000] Linux version 5.15.0 (gcc 11.3.0)\n",
        "Jun 26 01:00:00 cron[812]: (root) CMD (/opt/app/scripts/health_check.sh)\n",
        "Jun 26 01:12:03 systemd[1]: Started OpenSSH server daemon.\n"]⟩,
    ⟨"var/log/app.log", .ofLiterals
      ["[2024-06-26T01:10:00Z] INFO  app started, pid=4421\n",
        "[2024-06-26T01:12:05Z] INFO  request GET /api/v2/status 200 12ms\n",
        "[2024-06-26T01:14:22Z] WARN  rate limit threshold reached for 10.0.0.200\n"]⟩,
    ⟨"var/log/access.log", .ofLiterals
      ["192.168.1.100 - admin [26/Jun/2024:01:12:05 +0000] \"GET /api/v2/status HTTP/1.1\" 200 512\n",
        "10.0.0.200 - - [26/Jun/2024:01:14:22 +0000] \"POST /api/v1/auth HTTP/1.1\" 429 88\n"]⟩,
    ⟨"home/admin/.ssh/authorized_keys", .ofLiterals
      ["ssh-ed25519 AAAAC3NzaC1lZDI1NTE5AAAAIB... admin@workstation\n",
        "ssh-ed25519 AAAAC3NzaC1lZDI1NTE5AAAAIG... deploy@ci-server\n"]⟩,
    ⟨"home/admin/documents/q2-report.txt", .ofLiterals
      ["Q2 Infrastructure Report\n========================\nUptime: 99.97%\nIncidents: 1 (P3)\n"]⟩,
    ⟨"home/admin/scripts/deploy.sh", .ofLiterals
      ["#!/bin/bash\nset -euo pipefail\ncd /opt/app\ngit pull origin main\nsystemctl restart app\n"]⟩,
    ⟨"home/admin/.bashrc", .ofLiterals
      ["export PATH=\"/opt/app/bin:$PATH\"\nexport EDITOR=vim\nalias ll='ls -la'\n"]⟩,
    ⟨"opt/app/config.json", .ofLiterals
      ["\x7b\n  \"db_host\": \"db-primary.corp.internal\",\n  \"db_port\": 5432,\n",
        "  \"db_name\": \"proddb\",\n  \"max_connections\": 100,\n",
        "  \"log_level\": \"info\"\n\x7d\n"]⟩,
    ⟨"opt/app/data/users.db", .ofLiterals
      ["[SYNTHETIC SQLITE BINARY — 48KB]\n[user records omitted for safety]\n"]⟩,
    ⟨"opt/app/data/sessions.cache", .ofLiterals
      ["[SYNTHETIC SESSION CACHE — 12KB]\n[session tokens not real]\n"]⟩,
    ⟨"opt/app/bin/app-server", .ofLiterals
      ["[SYNTHETIC ELF BINARY — 2.1MB]\n"]⟩,
    ⟨"opt/app/scripts/backup.sh", .ofLiterals
      ["#!/bin/bash\nDATE=$(date +%F)\ntar czf /backup/db-$\x7bDATE\x7d.tar.gz /opt/app/data/\n",
        "echo \"Backup complete: db-$\x7bDATE\x7d.tar.gz\"\n"]⟩,
    ⟨"opt/app/scripts/health_check.sh", .ofLiterals
      ["#!/bin/bash\ncurl -sf http://localhost:8080/health || systemctl restart app\n"]⟩,
    ⟨"backup/db-2024-06-24.tar.gz", .ofLiterals
      ["[SYNTHETIC TAR.GZ — 14.2MB]\n"]⟩,
    ⟨"backup/db-2024-06-25.tar.gz", .ofLiterals
      ["[SYNTHETIC TAR.GZ — 14.3MB]\n"]⟩,
    ⟨"backup/db-2024-06-26.tar.gz", .ofLiterals
      ["[SYNTHETIC TAR.GZ — 14.5MB]\n"]⟩,
    ⟨"backup/manifest.txt", .ofLiterals
      ["db-2024-06-24.tar.gz SHA256=abc123...\n",
        "db-2024-06-25.tar.gz SHA256=def456...\n",
        "db-2024-06-26.tar.gz SHA256=789abc...\n"]⟩]

/-- `std::stod` on a numeral without sign and exponent.  `none` is the exception of
a text that starts with none. -/
def stod (s : ByteString) : Option Double :=
  let digit (b : UInt8) : Bool := 48 ≤ b && b ≤ 57
  let value (ds : ByteString) : Nat := ds.foldl (fun n b => 10 * n + (b.toNat - 48)) 0
  let whole := s.takeWhile digit
  let fraction :=
    match s.dropWhile digit with
    | 46 :: rest => rest.takeWhile digit
    | _ => []
  if whole = [] ∧ fraction = [] then none
  else some (.ofRat (value (whole ++ fraction) / 10 ^ fraction.length))

/-- The size a marker such as `— 2.1MB]` announces. -/
def markedSize (marker : ByteString) (scale : List ℚ) (content : ByteString) :
    Option Int64 := do
  let position ← ByteString.findText marker content
  let dash ← ByteString.rfindText "—" position content
  let num := ByteString.substr content (dash + 3) (position - dash - 3)
  let number ← stod (num.dropWhile fun b => b = 32 || b = 10)
  let bytes := scale.foldl (fun d factor => d.map (· * factor)) number
  return Int64.ofInt ⌊bytes.toRat⌋

def syntheticSize (content : ByteString) : Int64 :=
  match markedSize "MB]" [1024, 1024] content with
  | some size => size
  | none =>
      match markedSize "KB]" [1024] content with
      | some size => size
      | none => Int64.ofNat content.length

/-- What a `Sandbox` is constructed with, over the state the two callables work on. -/
structure Callbacks (σ : Type) where
  auditAdder : AuditAdder σ
  lockCheck : σ → Bool

variable {σ : Type} (callbacks : Callbacks σ)

def construct (rootPath : ByteString) : Sandbox :=
  { rootPath := normalise rootPath }

def toRel (absPath : ByteString) (self : Sandbox) : ByteString :=
  let norm := normalise absPath
  if hasDotdot norm then []
  else if isInside norm self.rootPath = false then []
  else if norm = self.rootPath then "."
  else norm.drop (self.rootPath.length + 1)

/-- The loop of `populate`: the number of new entries and the entries. -/
def populateEntries (now : Int64) :
    List SynthFile → Nat × Std.TreeMap ByteString SandboxEntry →
      Nat × Std.TreeMap ByteString SandboxEntry
  | [], populated => populated
  | sf :: rest, (created, entries) =>
      if entries.contains sf.relPath then populateEntries now rest (created, entries)
      else
        populateEntries now rest (created + 1, entries.insert sf.relPath
          { relPath := sf.relPath
            type := .file
            content := sf.content
            version := 1
            locked := false
            sizeBytes := syntheticSize sf.content
            lastModified := now })

def populate (now : Int64) (self : Sandbox) (world : σ) : Nat × Sandbox × σ :=
  let (created, entries) := populateEntries now syntheticFiles (0, self.entries)
  let self := { self with entries := entries }
  if created > 0 then
    let payload := ("root=" : ByteString) ++ self.rootPath ++
      (" entries_created=" : ByteString) ++ ByteString.decimal created
    (created, self, (callbacks.auditAdder "sandbox_populated" payload world).2)
  else (created, self, world)

def outsideRoot (absPath : ByteString) : SandboxResult :=
  ⟨false, ("path outside sandbox root: " : ByteString) ++ absPath⟩

def writtenEntry (now : Int64) (rel content : ByteString) (found : Option SandboxEntry) :
    SandboxEntry :=
  match found with
  | none =>
      { relPath := rel
        type := .file
        content := content
        version := 1
        locked := false
        sizeBytes := Int64.ofNat content.length
        lastModified := now }
  | some entry =>
      { entry with
        content := content
        version := entry.version + 1
        sizeBytes := Int64.ofNat content.length
        lastModified := now }

def write (now : Int64) (absPath content author : ByteString) (self : Sandbox) (world : σ) :
    SandboxResult × Sandbox × σ :=
  if isInside absPath self.rootPath = false then (outsideRoot absPath, self, world)
  else
    let rel := self.toRel absPath
    if rel = [] then
      (⟨false, ("could not compute rel_path for: " : ByteString) ++ absPath⟩, self, world)
    else if callbacks.lockCheck world then
      (⟨false, "write blocked: global WORM lockdown active"⟩, self, world)
    else
      let found := self.entries[rel]?
      if found.any SandboxEntry.locked then
        (⟨false, ("write blocked: entry is individually locked: " : ByteString) ++ rel⟩,
          self, world)
      else
        let entry := writtenEntry now rel content found
        let payload := ("rel=" : ByteString) ++ rel ++
          (" version=" : ByteString) ++ ByteString.decimal entry.version.toNat ++
          (" author=" : ByteString) ++ author ++
          (" size=" : ByteString) ++ ByteString.decimal entry.sizeBytes.toInt
        (⟨true, []⟩, { self with entries := self.entries.insert rel entry },
          (callbacks.auditAdder "sandbox_write" payload world).2)

def read (absPath : ByteString) (self : Sandbox) : SandboxResult × Option SandboxEntry :=
  if isInside absPath self.rootPath = false then (outsideRoot absPath, none)
  else
    match self.entries[self.toRel absPath]? with
    | none => (⟨false, ("entry not found: " : ByteString) ++ self.toRel absPath⟩, none)
    | some entry => (⟨true, []⟩, some entry)

/-- `lock_entry` and `unlock_entry`. -/
def setLocked (locked : Bool) (eventType absPath reason : ByteString) (self : Sandbox)
    (world : σ) : SandboxResult × Sandbox × σ :=
  if isInside absPath self.rootPath = false then (outsideRoot absPath, self, world)
  else
    let rel := self.toRel absPath
    match self.entries[rel]? with
    | none => (⟨false, ("entry not found: " : ByteString) ++ rel⟩, self, world)
    | some entry =>
        let payload := ("rel=" : ByteString) ++ rel ++
          (" reason=\"" : ByteString) ++ reason ++ ("\"" : ByteString)
        (⟨true, []⟩,
          { self with entries := self.entries.insert rel { entry with locked := locked } },
          (callbacks.auditAdder eventType payload world).2)

def lockEntry (absPath reason : ByteString) (self : Sandbox) (world : σ) :
    SandboxResult × Sandbox × σ :=
  self.setLocked callbacks true "sandbox_entry_locked" absPath reason world

def unlockEntry (absPath reason : ByteString) (self : Sandbox) (world : σ) :
    SandboxResult × Sandbox × σ :=
  self.setLocked callbacks false "sandbox_entry_unlocked" absPath reason world

def lockAll (reason : ByteString) (self : Sandbox) (world : σ) : Nat × Sandbox × σ :=
  let newlyLocked := (self.entries.toList.filter fun kv => !kv.2.locked).length
  let entries := self.entries.map fun _ entry => { entry with locked := true }
  let payload := ("newly_locked=" : ByteString) ++ ByteString.decimal newlyLocked ++
    (" total=" : ByteString) ++ ByteString.decimal entries.size ++
    (" reason=\"" : ByteString) ++ reason ++ ("\"" : ByteString)
  (newlyLocked, { self with entries := entries },
    (callbacks.auditAdder "sandbox_worm_lock_all" payload world).2)

def getTree (self : Sandbox) : List SandboxEntry :=
  self.entries.toList.map Prod.snd

def entryCount (self : Sandbox) : Nat :=
  self.entries.size

def isEntryLocked (rel : ByteString) (self : Sandbox) : Bool :=
  self.entries[rel]?.any SandboxEntry.locked

section Write

variable (now : Int64) (absPath content author : ByteString) (self : Sandbox) (world : σ)

theorem write_ok_iff :
    (self.write callbacks now absPath content author world).1.ok = true ↔
      isInside absPath self.rootPath = true ∧ self.toRel absPath ≠ [] ∧
        callbacks.lockCheck world = false ∧
        self.isEntryLocked (self.toRel absPath) = false := by
  unfold write isEntryLocked
  split
  · simp [outsideRoot, *]
  · rename_i hinside
    dsimp only
    split
    · simp [*]
    · rename_i hrel
      split
      · simp [*]
      · rename_i hlock
        split
        · simp [*]
        · rename_i hentry
          simp_all

/-- A written entry keeps the lock that was there. -/
theorem isEntryLocked_insert (key rel : ByteString) :
    isEntryLocked rel
        { self with entries :=
            self.entries.insert key (writtenEntry now key content self.entries[key]?) } =
      self.isEntryLocked rel := by
  simp only [isEntryLocked, Std.TreeMap.getElem?_insert]
  split
  · rename_i heq
    rw [← Std.LawfulEqCmp.eq_of_compare heq]
    cases self.entries[key]? with
    | none => rfl
    | some entry => rfl
  · rfl

@[simp] theorem write_isEntryLocked (rel : ByteString) :
    (self.write callbacks now absPath content author world).2.1.isEntryLocked rel =
      self.isEntryLocked rel := by
  simp only [write]
  split
  · rfl
  · split
    · rfl
    · split
      · rfl
      · split
        · rfl
        · exact isEntryLocked_insert now content self (self.toRel absPath) rel

theorem write_observe {β : Type} {observe : σ → β}
    (hunseen : Unseen callbacks.auditAdder observe) :
    observe (self.write callbacks now absPath content author world).2.2 = observe world := by
  simp only [write]
  repeat' split
  all_goals first | rfl | exact hunseen _ _ _

end Write

section LockAll

variable (reason : ByteString) (self : Sandbox) (world : σ)

theorem lockAll_isEntryLocked (rel : ByteString) :
    (self.lockAll callbacks reason world).2.1.isEntryLocked rel =
      self.entries.contains rel := by
  unfold lockAll isEntryLocked
  dsimp only
  rw [Std.TreeMap.getElem?_map, Std.TreeMap.contains_eq_isSome_getElem?]
  cases self.entries[rel]? <;> rfl

theorem isEntryLocked_lockAll {rel : ByteString} (hlocked : self.isEntryLocked rel = true) :
    (self.lockAll callbacks reason world).2.1.isEntryLocked rel = true := by
  rw [lockAll_isEntryLocked, Std.TreeMap.contains_eq_isSome_getElem?]
  unfold isEntryLocked at hlocked
  cases hfound : self.entries[rel]? with
  | none => simp [hfound] at hlocked
  | some entry => rfl

theorem lockAll_observe {β : Type} {observe : σ → β}
    (hunseen : Unseen callbacks.auditAdder observe) :
    observe (self.lockAll callbacks reason world).2.2 = observe world :=
  hunseen _ _ _

end LockAll

theorem populate_observe {β : Type} {observe : σ → β}
    (hunseen : Unseen callbacks.auditAdder observe) (now : Int64) (self : Sandbox)
    (world : σ) : observe (self.populate callbacks now world).2.2 = observe world := by
  simp only [populate]
  split
  · exact hunseen _ _ _
  · rfl

end Sandbox

end Astartis
