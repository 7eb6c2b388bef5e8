import Bindery.Document
import Bindery.Example
import Bindery.Route
import Bindery.Template.Render

/-!
# Generated pages

Two pages of a book are rendered from templates: the summary, which lists the examples and the
entities, and the introduction to the enumerations. A project may bring templates of its own in a
directory; a template that is not there is taken from those that come with the program.

The summary gets no definitions of references; the introduction does.
-/

namespace Bindery.Pages

/-! ## Templates -/

def enumerationsTemplate : String := "enumerations.md.j2"

def summaryTemplate : String := "summary.md.j2"

/-- The templates that come with the program. -/
def packaged : List (String × String) :=
  [(enumerationsTemplate,
    "# Enumerations\n" ++
    "Here you will find a list of all the possible values for fields which accept a typed " ++
    "enumerated property, such as \x60userAgent\x60 or \x60click()\x60\n"),
  (summaryTemplate,
    "# Documentation\n" ++
    "\n" ++
    "[Quick Start](\x7b\x7b quick_start \x7d\x7d)\n" ++
    "\x7b% for example in examples %\x7d\n" ++
    "[\x7b\x7b example.title \x7d\x7d](\x7b\x7b example.path \x7d\x7d)\n" ++
    "\x7b% endfor %\x7d\n" ++
    "\n" ++
    "# API\n" ++
    "\x7b% for entry in entries %\x7d\n" ++
    "  * \x7b\x7b entry \x7d\x7d\n" ++
    "\x7b% endfor %\x7d\n")]

/-- The segments of the name of a template; a name may not lead out of the directory. -/
def segments (name : String) : Except Fault (List String) :=
  let found := Text.splitAt '/' name
  if found.contains ".." then .error (.template (.notFound name))
  else .ok (found.filter Path.isSegment)

/-- The text of a template of a project, if it has one. -/
def own? (t : FileTree) (directory : Option Path) (segments : List String) :
    Except Fault (Option String) :=
  match directory with
  | none => .ok none
  | some d =>
      let p : Path := { d with segments := d.segments ++ segments }
      match t.isFile p with
      | .ok true => (t.readText p).map some
      | _ => .ok none

/-- The text of a template by its name. -/
def source (t : FileTree) (directory : Option Path) (name : String) : Except Fault String := do
  let segments ← segments name
  match ← own? t directory segments with
  | some text => return text
  | none =>
      match packaged.lookup (Text.joinWith '/' segments) with
      | some text => return text
      | none => .error (.template (.notFound name))

/-- A rendered template without line ends at its end. -/
def render (t : FileTree) (directory : Option Path) (name : String) (context : Template.Context) :
    Except Fault String := do
  return Text.dropFinalFeeds (← Template.render (source t directory) context name)

/-! ## Pages -/

/-- A document with the lines of a text. -/
def page (path text : String) (linked : Bool) : Document :=
  ⟨path, (Text.lines text).map Line.scanned, linked⟩

/-- An example page as templates see it. -/
def exampleDatum (e : Example) : Template.Datum :=
  .record ("ExamplePage(title=" ++ Text.quoted e.title ++ ", path=" ++ Text.quoted e.path ++ ")")
    [("title", .plain (.string e.title)), ("path", .plain (.string e.path))]

/-- What the summary is rendered from. -/
def summaryContext (quickStart : Value) (examples : List Example) (entries : List Value) :
    Template.Context :=
  [("quick_start", .plain quickStart), ("examples", .list (examples.map exampleDatum)),
    ("entries", .plain (.list entries))]

/-- Where the link to the start of the book leads. -/
def quickStart : String := "README.md"

/-- The summary. -/
def summary (t : FileTree) (directory : Option Path) (context : Template.Context) :
    Except Fault Document := do
  return page Route.summaryFile (← render t directory summaryTemplate context) false

/-- The introduction to the enumerations. -/
def enumerations (t : FileTree) (directory : Option Path) : Except Fault Document := do
  return page Route.enumerationsFile (← render t directory enumerationsTemplate []) true

end Bindery.Pages
