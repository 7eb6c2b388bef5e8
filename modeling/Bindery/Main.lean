import Bindery.Calendar
import Bindery.CommandLine

/-!
# The program

A call is run on a picture of the files that it may touch: the settings, the record, the
introduction, the templates and the book. What the call changed is then put back. The lines of a log
file bear universal time.
-/

namespace Bindery.Program

/-! ## Pictures of files -/

/-- The path of a place. -/
def pathOf (place : Place) : String := "/" ++ "/".intercalate place

/-- Takes what stands at a place into a picture; `deep` takes everything below it, too. -/
partial def take (deep : Bool) (t : FileTree) (place : Place) : IO FileTree := do
  try
    let here ← IO.FS.realPath (pathOf place)
    if ← here.isDir then
      let t := t.store place .directory
      if deep then
        (← here.readDir).foldlM (fun t entry => take true t (place ++ [entry.fileName])) t
      else return t
    else if ← here.pathExists then
      return t.store place (.file (← IO.FS.readBinFile here))
    else return t
  catch _ => return t

/-- Takes what a path leads to, with the directories above it. -/
def takePath (deep : Bool) (t : FileTree) (p : Path) : IO FileTree := do
  let place := (Path.resolve ⟨.root, t.start⟩ p).segments
  let above := (List.range place.length).map fun n => place.take n
  let t ← above.foldlM (take false) t
  take deep t place

/-- The picture for the arguments of a call. -/
def picture (start : Place) (arguments : List String) : IO FileTree := do
  let t : FileTree := ⟨[], start⟩
  match CommandLine.Request.ofArguments arguments with
  | .error _ => return t
  | .ok r => do
      let project := Path.ofString r.project
      let t ← [project, project / Settings.fileName].foldlM (takePath false) t
      let t ← (r.logFile.map Path.ofString).toList.foldlM (takePath false) t
      match Settings.load t project with
      | .error _ => return t
      | .ok found => do
          let s := r.applyTo found
          let t ← [s.input, s.readme].foldlM (takePath false) t
          (s.directory :: s.templates.toList).foldlM (takePath true) t

/-- Puts back what is new or other than before. -/
def putBack (before after : FileTree) : IO Unit :=
  after.entries.forM fun (place, stored) => do
    if before.at? place != some stored then
      match stored with
      | .directory => IO.FS.createDirAll (pathOf place)
      | .file content => IO.FS.writeBinFile (pathOf place) content

/-! ## Time -/

/-- The text of a time by its seconds and milliseconds. -/
def timeText (seconds milliseconds : Nat) : String :=
  let ofDay := seconds % 86400
  let two := Date.padded 2
  (Date.ofUnixDay (seconds / 86400)).text ++ " " ++ two (ofDay / 3600) ++ ":" ++
    two (ofDay / 60 % 60) ++ ":" ++ two (ofDay % 60) ++ "," ++ Date.padded 3 milliseconds

/-- The present time, which a new file bears. -/
def present : IO String := do
  let (_, file) ← IO.FS.createTempFile
  let modified := (← file.metadata).modified
  IO.FS.removeFile file
  return timeText modified.sec.toNat (modified.nsec.toNat / 1000000)

end Bindery.Program

open Bindery in
/-- Runs a call on the real files. -/
def main (arguments : List String) : IO UInt32 := do
  let here ← IO.FS.realPath "."
  let start := (Path.ofString here.toString).segments
  let before ← Program.picture start arguments
  let (after, outcome) := (CommandLine.call arguments).on (Session.start before (← Program.present))
  Program.putBack before after.files
  IO.eprint after.console
  match outcome with
  | .ok o => do
      IO.print o.output
      return UInt32.ofNat o.exitCode
  | .error fault => do
      IO.eprintln fault.message
      return 1
