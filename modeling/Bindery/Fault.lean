import Bindery.Json.Reader
import Bindery.Json.Writer

/-!
# Faults

Everything that can stop a build, by cause. The wording of a cause stands in one function; a cause
that is never shown to a reader has a short one.
-/

namespace Bindery

/-- What is wrong with a reflection record. -/
inductive RecordFault where
  /-- Another kind of data stands where a node is expected. -/
  | notNode (found : Value)
  /-- A node has no text as its name; the keys that tell it apart are kept. -/
  | unnamed (shown : List (Value × Value))
  /-- Another kind of data stands where a type is expected. -/
  | notType (found : Value)
  /-- A type lacks a key that its tag needs. -/
  | missingKey (tag key : String)
  /-- A function or method has no call signatures. -/
  | noSignatures (kind : Value) (name : String)
  | untypedProperty (owner name : String)
  | missingModule (name : String)

/-- What is wrong with the settings of a project. -/
inductive SettingsFault where
  | unreadable (file : String)
  | notMapping (file : String)
  | referencesNotMapping
deriving DecidableEq, Repr

/-- Why a file operation fails. -/
inductive FileFault where
  | missing (path : String)
  | present
  | isDirectory
  | notDirectory
  | sameFile
  /-- A name or a path is longer than a file system takes. -/
  | tooLong
deriving DecidableEq, Repr

/-- What a value cannot be. -/
inductive ValueFault where
  | impossibleDate
  | nulInPath
  | longNumber
  /-- A text that has to be a number is none. -/
  | badNumber
  /-- No character has the number. -/
  | noCharacter
  /-- A number has no place in the range that an operation works on. -/
  | tooLarge
deriving DecidableEq, Repr

/-- Why a pattern of paths cannot be followed. -/
inductive PatternFault where
  | empty
  /-- Two stars share a segment with something else. -/
  | strayStars
  /-- The pattern begins at the root. -/
  | absolute
  /-- The pattern names no segment. -/
  | noSegment
  /-- The pattern names no segment and ends with a slash. -/
  | noSegmentInside
deriving DecidableEq, Repr

/-- Why a template cannot be used. -/
inductive TemplateFault where
  | badForm
  | unknownFilter
  /-- Templates are put into one another without end. -/
  | tooDeep
  | undefinedName
  | notFound (name : String)
deriving DecidableEq, Repr

/-- Why a step of a build stops. -/
inductive Fault where
  | record (cause : RecordFault)
  | unrouted (kind name : String)
  | settings (cause : SettingsFault)
  | json (cause : Json.Error)
  | file (cause : FileFault)
  | value (cause : ValueFault)
  | pattern (cause : PatternFault)
  | template (cause : TemplateFault)
  /-- A value of another type stands where an operation needs its own. -/
  | wrongType
  /-- A value that is no text is asked for an operation of texts. -/
  | noTextOperation
  /-- The first part of something empty is asked for. -/
  | noFirst
  /-- A text that has to be a date is none. -/
  | badDate
  /-- A text that has to be a truth value is none. -/
  | badTruth
  /-- Bytes that are no UTF-8. -/
  | notText
  /-- What a node stands for leads back to the node. -/
  | endless

namespace RecordFault

def message : RecordFault → String
  | notNode found => "Expected a reflection object, got " ++ found.sortName
  | unnamed shown => "Reflection node without a name: " ++ Json.write .plain (.map shown)
  | notType found => "Expected a type object, got " ++ found.sortName
  | missingKey tag key => "Type " ++ Text.quoted tag ++ " is missing " ++ Text.quoted key
  | noSignatures kind name => kind.display ++ " " ++ Text.quoted name ++ " has no call signatures"
  | untypedProperty owner name => "Property " ++ owner ++ "." ++ name ++ " has no type"
  | missingModule name => "Top-level module " ++ name ++ " not found in reflection tree"

end RecordFault

namespace SettingsFault

def message : SettingsFault → String
  | unreadable file => "Failed to parse " ++ file
  | notMapping file => file ++ " must contain a mapping at the root"
  | referencesNotMapping => "`references` must be a mapping of name to target"

end SettingsFault

namespace FileFault

def message : FileFault → String
  | missing path => "[Errno 2] No such file or directory: " ++ Text.quoted path
  | present => "File exists"
  | isDirectory => "Is a directory"
  | notDirectory => "Not a directory"
  | sameFile => "Source and destination are the same file"
  | tooLong => "File name too long"

end FileFault

namespace Fault

def message : Fault → String
  | record cause => cause.message
  | unrouted kind name => "No output file for " ++ Text.quoted kind ++ " " ++ Text.quoted name
  | settings cause => cause.message
  | json cause => cause.message
  | file cause => cause.message
  | value .impossibleDate => "day is out of range for month"
  | value .nulInPath => "embedded null byte"
  | value .longNumber => Json.Cause.longNumber.message
  | value .badNumber => "invalid number"
  | value .noCharacter => "no such character"
  | value .tooLarge => "number out of range"
  | pattern .empty => "Unacceptable pattern"
  | pattern .strayStars => "Invalid pattern: '**' can only be an entire path component"
  | pattern .absolute => "Non-relative patterns are unsupported"
  | pattern .noSegment => "pattern without a segment"
  | pattern .noSegmentInside => "pattern without a segment"
  | template .badForm => "malformed template"
  | template .unknownFilter => "no such filter"
  | template .tooDeep => "templates without end"
  | template .undefinedName => "undefined name"
  | template (.notFound name) => name
  | wrongType => "wrong type"
  | noTextOperation => "not a text"
  | noFirst => "nothing comes first"
  | badDate => "invalid date"
  | badTruth => "invalid truth value"
  | notText => "invalid UTF-8"
  | endless => "no end is reached"

end Fault

/-- The text that a value is, or the fault of its being something else. -/
def Value.textOr (fault : Fault) : Value → Except Fault String
  | .string s => .ok s
  | _ => .error fault

end Bindery
