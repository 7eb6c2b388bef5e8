import Bindery.CommandLine.Request
import Bindery.Compiler

/-!
# The command line

A call of the program: its arguments are read, the book is built, and the outcome is an exit code
with what goes to the output. What goes to the console is kept by the session.

A build that stops is reported by the kind of its fault: bad settings, a bad or missing record, or
anything else. Only a fault of the log file, which comes before the build, is not caught.
-/

namespace Bindery

namespace Run

/-- Shows a text on the console. -/
def tell (text : String) : Run Unit := modify fun s => { s with console := s.console ++ text }

end Run

namespace CommandLine

/-- How a call ends. -/
structure Outcome where
  exitCode : Nat
  output : String
deriving DecidableEq, Repr

/-- The part of the build that talks to users. -/
def component : String := "cli"

/-! ## Building -/

/-- The settings of a project, with what a request puts in their place. -/
def Request.applyTo (r : Request) (s : Settings) : Settings :=
  { s with
    input := (r.input.map Path.ofString).getD s.input
    directory := (r.out.map Path.ofString).getD s.directory
    moduleName := r.module.getD s.moduleName }

/-- A path as users see it: from the working directory if it leads below that. -/
def shown (workingDirectory p : Path) : String :=
  let whole := Path.resolve workingDirectory p
  if workingDirectory.segments.isPrefixOf whole.segments then
    Path.text ⟨.relative, whole.segments.drop workingDirectory.segments.length⟩
  else p.text

/-- Builds the book of a request and gives what users are told. -/
def build (r : Request) : Run String := do
  let found ← Run.ofExcept (Settings.load (← Run.files) (Path.ofString r.project))
  let settings := r.applyTo found
  let here := (← get).workingDirectory
  let written ← (Compiler.ofSettings here settings).run settings.input (some settings.readme)
  let directory := shown here settings.directory
  return "Wrote " ++ toString written.length ++ " files to " ++ directory ++ "\n"

/-! ## Failures -/

/-- The message of the log entry about a failed build. -/
def failureMessage (fault : Fault) : String :=
  match fault with
  | .settings _ => "Invalid configuration: " ++ fault.message
  | .record _ | .file (.missing _) => fault.message
  | _ => "Unexpected failure"

/-- What users are told about a failed build. -/
def failureNotice : Fault → String
  | .settings _ => "apibook build failed: invalid configuration\n"
  | .record _ | .file (.missing _) => "apibook build failed\n"
  | _ => "apibook build failed. Run with --verbose for more details.\n"

/-- Reports a failed build. -/
def fail (fault : Fault) : Run Outcome := do
  Run.log .error component (failureMessage fault)
  Run.tell (failureNotice fault)
  return ⟨1, ""⟩

/-! ## Calls -/

/-- Answers a request. -/
def answer (r : Request) : Run Outcome := do
  let _ ← Run.setUp r.verbose (r.logFile.map Path.ofString)
  tryCatch (do return ⟨0, ← build r⟩) fail

/-- Answers a refusal. -/
def refuse : Refusal → Run Outcome
  | .help command => return ⟨0, command.help⟩
  | .misuse command cause => do
      Run.tell (command.complaint cause)
      return ⟨2, ""⟩

/-- Calls the program. -/
def call (arguments : List String) : Run Outcome :=
  match Request.ofArguments arguments with
  | .ok r => answer r
  | .error refusal => refuse refusal

end CommandLine

end Bindery
