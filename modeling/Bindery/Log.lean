/-!
# Log entries

What a build reports while it runs. A logger is named after the part of the build that speaks; its
full name stands under the name of the program.
-/

namespace Bindery.Log

/-- How serious an entry is, from the least to the most. -/
inductive Level where
  | debug
  | info
  | warning
  | error
  | critical
deriving DecidableEq, Repr

namespace Level

def all : List Level := [debug, info, warning, error, critical]

def name : Level → String
  | debug => "DEBUG"
  | info => "INFO"
  | warning => "WARNING"
  | error => "ERROR"
  | critical => "CRITICAL"

/-- The place of a level in the order. -/
def rank : Level → Nat
  | debug => 10
  | info => 20
  | warning => 30
  | error => 40
  | critical => 50

/-- The level of a name. -/
def ofName? (name : String) : Option Level := all.find? fun level => level.name == name

end Level

/-- One entry. -/
structure Entry where
  level : Level
  logger : String
  message : String
deriving DecidableEq, Repr

/-- The name of the program, which stands above all its loggers. -/
def programName : String := "apibook"

/-- The full name of the logger of a part of the build. -/
def loggerName (part : String) : String :=
  if part.isEmpty then programName else programName ++ "." ++ part

namespace Entry

/-- The part of the build that an entry comes from. -/
def component (e : Entry) : String :=
  let above := (programName ++ ".").toList
  let name := e.logger.toList
  if above.isPrefixOf name then String.ofList (name.drop above.length) else "main"

/-- The level, the logger and the message. -/
def text (e : Entry) : String := e.level.name ++ " " ++ e.logger ++ " " ++ e.message

/-- The line of an entry on the console. -/
def consoleLine (e : Entry) : String :=
  "[" ++ programName ++ ":" ++ e.component ++ "] " ++ e.level.name ++ " " ++ e.message

/-- The line of an entry in a log file, behind the time at which it was made. -/
def fileLine (time : String) (e : Entry) : String :=
  time ++ " " ++ e.level.name ++ " " ++ e.logger ++ ": " ++ e.message

end Entry

end Bindery.Log
