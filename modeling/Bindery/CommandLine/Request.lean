import Bindery.CommandLine.Reading

/-!
# Requests

What a user can ask the program for. The program has one command, which builds a book; it takes the
root of a project and flags that replace settings of the project. Arguments that are no request are
refused, with the help text or with a misuse.

Both the program and its command read flags of their own, and the flag for more entries is known to
both. What the command leaves over is a misuse of the program.
-/

namespace Bindery.CommandLine

/-! ## Commands -/

/-- The flags by their meaning. -/
inductive Key where
  | verbose
  | logFile
  | input
  | out
  | module
deriving DecidableEq, Repr

/-- The program or its command, as users see it. -/
structure Command where
  name : String
  flags : List (Flag Key)
  usage : String
  /-- What the help text says behind the usage. -/
  details : String

namespace Command

def helpFlag : Flag Key := ⟨["-h", "--help"], .help⟩

def verboseFlag : Flag Key := ⟨["-v", "--verbose"], .switch .verbose⟩

/-- The name of the command that builds a book. -/
def buildName : String := "build"

/-- The program itself. -/
def program : Command where
  name := "apibook"
  flags := [helpFlag, verboseFlag, ⟨["--log-file"], .value .logFile⟩]
  usage := "usage: apibook [-h] [-v] [--log-file LOG_FILE] \x7bbuild\x7d ...\n"
  details :=
    "Compile a reflection JSON of a library's API into a Markdown book.\n" ++
    "\n" ++
    "positional arguments:\n" ++
    "  \x7bbuild\x7d\n" ++
    "    build              Generate the documentation book.\n" ++
    "\n" ++
    "options:\n" ++
    "  -h, --help           show this help message and exit\n" ++
    "  -v, --verbose        Increase log verbosity for troubleshooting.\n" ++
    "  --log-file LOG_FILE  Also write logs to this file.\n"

/-- The command that builds a book. -/
def build : Command where
  name := "apibook build"
  flags := [helpFlag, verboseFlag, ⟨["--input"], .value .input⟩, ⟨["--out"], .value .out⟩,
    ⟨["--module"], .value .module⟩]
  usage :=
    "usage: apibook build [-h] [-v] [--input INPUT] [--out OUT] [--module MODULE]\n" ++
    "                     [path]\n"
  details :=
    "positional arguments:\n" ++
    "  path             Project root containing .apibook.yml (defaults to current\n" ++
    "                   directory).\n" ++
    "\n" ++
    "options:\n" ++
    "  -h, --help       show this help message and exit\n" ++
    "  -v, --verbose    Increase log verbosity for troubleshooting.\n" ++
    "  --input INPUT    Reflection JSON file (overrides \x60input\x60 from the config).\n" ++
    "  --out OUT        Output book directory (overrides \x60book_dir\x60 from the\n" ++
    "                   config).\n" ++
    "  --module MODULE  Name of the top-level module node to document.\n"

/-- The help text. -/
def help (c : Command) : String := c.usage ++ "\n" ++ c.details

/-- What a user is told about a misuse. -/
def complaint (c : Command) (cause : Misuse) : String :=
  c.usage ++ c.name ++ ": error: " ++ cause.message ++ "\n"

end Command

/-! ## Requests -/

/-- Why arguments are no request. -/
inductive Refusal where
  | help (command : Command)
  | misuse (command : Command) (cause : Misuse)

/-- A request to build a book. -/
structure Request where
  verbose : Bool
  logFile : Option String
  /-- The root of the project, or the file with its settings. -/
  project : String
  input : Option String
  out : Option String
  module : Option String
deriving DecidableEq, Repr

namespace Request

/-- Reads what was given to a command. -/
def reading (c : Command) (operands : Operands) (given : List String) :
    Except Refusal (Reading Key) :=
  match readAll c.flags operands given with
  | .ok found => .ok found
  | .error .help => .error (.help c)
  | .error (.misuse cause) => .error (.misuse c cause)

/-- The request that readings of the program's and the command's flags make. -/
def ofReadings (outer inner : Reading Key) : Request where
  verbose := outer.has .verbose || inner.has .verbose
  logFile := outer.value? .logFile
  project := inner.operands.head?.getD "."
  input := inner.value? .input
  out := inner.value? .out
  module := inner.value? .module

/-- The request that arguments make. -/
def ofArguments (given : List String) : Except Refusal Request := do
  let outer ← reading .program .command given
  match outer.operands with
  | [] => .error (.misuse .program .noCommand)
  | name :: rest =>
      if name = Command.buildName then do
        let inner ← reading .build .optional rest
        match outer.strays ++ inner.strays with
        | [] => return ofReadings outer inner
        | strays => .error (.misuse .program (.strays strays))
      else .error (.misuse .program (.unknownCommand name [Command.buildName]))

end Request

end Bindery.CommandLine
