import Bindery.Document
import Bindery.Node.TypeText
import Bindery.Text.Blank

/-!
# Writing documents

Each writer is a draft of lines. Texts that come from a record are data of any kind: a line and a
comment have to be texts, while headings, sections and bullets display whatever they are given.

Rows of a table are verbatim: their cells are not searched for references.
-/

namespace Bindery.Writer

/-! ## Lines -/

/-- Writes a text as one line. -/
def line (text : String) : Draft Unit := Draft.write (.scanned text)

/-- Writes data that has to be a text as one line. -/
def dataLine (v : Value) : Draft Unit := do line (← Draft.ofExcept (v.textOr .wrongType))

/-- Writes a heading; a depth below one gives no marks. -/
def heading (text : String) (depth : Int) : Draft Unit :=
  line (String.ofList (List.replicate depth.toNat '#') ++ " " ++ text)

/-- Writes a bullet that is indented by its depth. -/
def bullet (text : String) (depth : Int) : Draft Unit :=
  line (String.ofList (List.replicate depth.toNat ' ') ++ "* " ++ text)

/-- The rule above a section. -/
def sectionRule : String := "-------"

/-- Opens a section. -/
def openSection (name : String) : Draft Unit := do
  line sectionRule
  heading name 1
  line ""

/-- Writes a text line by line. -/
def block (text : String) : Draft Unit := Draft.forEach line (Text.lines text)

/-- Writes data that has to be a text line by line. -/
def dataBlock (v : Value) : Draft Unit := do
  block (← Draft.ofExcept (v.textOr .noTextOperation))

/-! ## Parameters and comments -/

/-- Is this the name under which a result is described? -/
def isReturns (name : String) : Bool := "returns".toList.isPrefixOf name.toList

/-- The line that describes a parameter or a result. -/
def parameterLine (name type description : String) (optional : Bool) : String :=
  let type := "<" ++ type ++ ">"
  let description := Text.strip description
  if isReturns name then "* " ++ name ++ " " ++ type ++ " " ++ description
  else "* \x60" ++ name ++ "\x60 " ++ type ++ " " ++ (if optional then "(Optional)" else "") ++
    " " ++ description

/-- Writes the line of a parameter. -/
def parameter (name : String) (type : Draft Value) (description : String) (optional : Bool) :
    Draft Unit := do
  line (parameterLine name (← type).display description optional)

/-- Writes the line of a parameter whose name and description are data. -/
def dataParameter (name : Value) (type : Draft Value) (description : Value) (optional : Bool) :
    Draft Unit := do
  let type ← type
  let name ← Draft.ofExcept (name.textOr .noTextOperation)
  let description ← Draft.ofExcept (description.textOr .noTextOperation)
  line (parameterLine name type.display description optional)

/-- Writes the parts of a comment that are not empty; the short one has an empty line after it. -/
def comment : Option Comment → Draft Unit
  | none => return ()
  | some c => do
      if c.short.isTruthy then
        dataLine c.short
        line ""
      if c.long.isTruthy then
        dataLine c.long

/-! ## Tables -/

/-- A character of a cell: a bar is escaped and a line feed becomes a blank. -/
def cellChar : Char → List Char
  | '|' => ['\\', '|']
  | '\n' => [' ']
  | c => [c]

/-- The text of a cell. -/
def cell (text : String) : String := String.ofList (text.toList.flatMap cellChar)

/-- The text of a row. -/
def row (cells : List String) : String := "| " ++ " | ".intercalate (cells.map cell) ++ " |"

/-- Writes one row. -/
def tableRow (cells : List String) : Draft Unit := Draft.write (.verbatim (row cells))

/-- Writes a table; the first row is its header. -/
def table : List (List String) → Draft Unit
  | [] => return ()
  | header :: rows => do
      tableRow header
      tableRow (header.map fun _ => "---")
      Draft.forEach tableRow rows

/-- The cells of a row that is data: every one has to be a text. -/
def dataCells (v : Value) : Except Fault (List String) :=
  match v.members? with
  | some cells => cells.mapM (Value.textOr .noTextOperation)
  | none => .error .wrongType

/-- Writes a table that is data, up to the first row that is malformed. -/
def dataTable (rows : Value) : Draft Unit :=
  if rows.isTruthy then
    match rows.members? with
    | some (header :: rows) => do
        let header ← Draft.ofExcept (dataCells header)
        tableRow header
        tableRow (header.map fun _ => "---")
        Draft.forEach (fun row => do tableRow (← Draft.ofExcept (dataCells row))) rows
    | _ => Draft.fail .wrongType
  else return ()

end Bindery.Writer
