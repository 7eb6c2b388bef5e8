import Bindery.Draft
import Bindery.FileTree

/-!
# Sessions

A session is the state that a build works on: the files, what was logged, and where log entries go.
Every entry is kept in order; once a session is set up, entries of a sufficient level appear on the
console, and all of them at the end of the log file if there is one. Before that only warnings and
worse appear, bare.

A run is a step that changes a session and gives a result or stops with a fault. What it changed
before a fault stays changed.
-/

namespace Bindery

/-- Where entries go. -/
structure Reporting where
  /-- The least level that is passed on at all. -/
  threshold : Log.Level
  /-- The least level that is shown on the console. -/
  console : Log.Level
  /-- The log file. -/
  file : Option Path
deriving DecidableEq, Repr

/-- The state that a build works on. -/
structure Session where
  files : FileTree
  /-- Every entry so far. -/
  entries : List Log.Entry
  /-- What the console shows. -/
  console : String
  /-- Where entries go; nothing is set up at first. -/
  reporting : Option Reporting
  /-- The time that lines of a log file bear. -/
  time : String

/-- A step that changes a session. -/
abbrev Run := ExceptT Fault (StateM Session)

namespace Session

/-- A session on files, before anything is set up. -/
def start (files : FileTree) (time : String) : Session := ⟨files, [], "", none, time⟩

/-- The directory in which relative paths begin. -/
def workingDirectory (s : Session) : Path := ⟨.root, s.files.start⟩

/-! ## Entries -/

/-- Adds an entry to the log file. -/
def appendToFile (p : Path) (e : Log.Entry) (s : Session) : Session :=
  match s.files.append p (e.fileLine s.time ++ "\n").toUTF8 with
  | .ok files => { s with files := files }
  | .error _ => s

/-- What an entry adds to the console. -/
def consoleText (reporting : Option Reporting) (e : Log.Entry) : String :=
  match reporting with
  | none => if e.level.rank < Log.Level.warning.rank then "" else e.message ++ "\n"
  | some r =>
      if e.level.rank < max r.threshold.rank r.console.rank then "" else e.consoleLine ++ "\n"

/-- Keeps an entry and passes it on. -/
def record (e : Log.Entry) (s : Session) : Session :=
  let s := { s with entries := s.entries ++ [e], console := s.console ++ consoleText s.reporting e }
  match s.reporting with
  | some ⟨threshold, _, some p⟩ => if e.level.rank < threshold.rank then s else s.appendToFile p e
  | _ => s

/-- Keeps entries in order. -/
def recordAll (es : List Log.Entry) (s : Session) : Session := es.foldl (fun s e => s.record e) s

end Session

namespace Run

/-- The files as they are. -/
def files : Run FileTree := do return (← get).files

/-- Gives a result or stops. -/
def ofExcept {α : Type} (outcome : Except Fault α) : Run α := ExceptT.mk (pure outcome)

/-- Logs what a draft logged, and ends as it ended. -/
def ofDraft {α : Type} (d : Draft α) : Run α := do
  modify (Session.recordAll d.entries)
  ofExcept d.outcome

/-- Logs an entry. -/
def log (level : Log.Level) (part message : String) : Run Unit :=
  modify (Session.record ⟨level, Log.loggerName part, message⟩)

/-- Changes the files. -/
def change (f : FileTree → Except Fault FileTree) : Run Unit := do
  let t ← ofExcept (f (← files))
  modify fun s => { s with files := t }

/-- Makes a directory and those above it that are missing; `above` counts how far up that may go.
Directories that were made before a fault stay. -/
def makeUpTo (p : Path) : (above : Nat) → Run Unit
  | 0 => change fun t => t.makeOneOrKeep p
  | above + 1 => do
      match (← files).makeOneOrKeep p with
      | .error (.file (.missing _)) => do
          makeUpTo p.parent above
          change fun t => t.makeOneOrKeep p
      | outcome => change fun _ => outcome

/-- Makes a directory and those above it that are missing. -/
def makeDirectory (p : Path) : Run Unit := makeUpTo p p.segments.length

/-- Runs a step on a session: what it leaves, and how it ended. -/
def on {α : Type} (r : Run α) (s : Session) : Session × Except Fault α :=
  let (outcome, after) := r.run.run s
  (after, outcome)

/-! ## Setting up -/

/-- Opens the log file, which is made with the directories above it. -/
def openLogFile (p : Path) : Run Path := do
  makeDirectory p.parent
  let place := Path.resolve (← get).workingDirectory p
  change fun t => t.append place ByteArray.empty
  return place

/-- Sets up where entries go. A log file takes every entry. -/
def setUp (verbose : Bool) (logFile : Option Path) : Run Reporting := do
  let level := if verbose then Log.Level.debug else .info
  modify fun s => { s with reporting := some ⟨level, level, none⟩ }
  match logFile with
  | none => return ⟨level, level, none⟩
  | some p => do
      let place ← openLogFile p
      let reporting : Reporting := ⟨.debug, level, some place⟩
      modify fun s => { s with reporting := some reporting }
      return reporting

end Run

end Bindery
