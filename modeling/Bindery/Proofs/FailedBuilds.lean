import Bindery.Proofs.Compilation
import Bindery.Proofs.Rewriting

/-!
# Builds that fail

A build renders the whole book before it writes the first page. Until then it makes the directory of
the book with those above it and copies the introduction into it, and changes nothing else. So a
build that fails leaves every page as it was, unless what fails is making a directory for a page or
writing it.

Log entries go to the log file, if a session has one, whatever else happens to the files.
-/

namespace Bindery

namespace FileTree

/-- The place to which a path leads if it leads anywhere. -/
def placeOf (t : FileTree) (p : Path) : Place :=
  Path.settleFrom (if p.isAbsolute then [] else t.start.reverse) p.segments

theorem eq_placeOf {t : FileTree} {p : Path} {place : Place} (found : t.find p = .ok place) :
    place = t.placeOf p := by
  unfold find at found
  split at found
  · cases found
  · split at found
    · cases found
    · rw [follow_eq_ok found, placeOf]
      split <;> simp

theorem placeOf_congr {t u : FileTree} (start : u.start = t.start) (p : Path) :
    u.placeOf p = t.placeOf p := by
  rw [placeOf, placeOf, start]

/-- Is the place that of the path or of a path above it? -/
def IsOnWayTo (t : FileTree) (p : Path) (place : Place) : Prop :=
  ∃ names, names <+: p.segments ∧ place = t.placeOf ⟨p.anchor, names⟩

theorem IsOnWayTo.congr {t u : FileTree} (start : u.start = t.start) {p : Path} {place : Place}
    (way : u.IsOnWayTo p place) : t.IsOnWayTo p place := by
  obtain ⟨names, front, same⟩ := way
  exact ⟨names, front, same.trans (placeOf_congr start _)⟩

theorem IsOnWayTo.of_parent {t : FileTree} {p : Path} {place : Place}
    (above : t.IsOnWayTo p.parent place) : t.IsOnWayTo p place := by
  obtain ⟨names, front, same⟩ := above
  exact ⟨names, front.trans (List.dropLast_prefix _), same⟩

theorem append_eq_ok {t u : FileTree} {p : Path} {content : ByteArray}
    (appended : t.append p content = .ok u) :
    ∃ place stored, t.find p = .ok place ∧ u = t.store place stored := by
  obtain ⟨place, writable, result⟩ := Fault.bind_eq_ok_iff.mp appended
  obtain ⟨target, found, free⟩ := Fault.bind_eq_ok_iff.mp writable
  cases result
  split at free
  · cases free
  · cases free
    exact ⟨place, _, found, rfl⟩

end FileTree

/-! ## What a step changes -/

namespace Session

/-- Is the place that of the log file? -/
def LogsAt (s : Session) (place : Place) : Prop :=
  ∃ r p, s.reporting = some r ∧ r.file = some p ∧ place = s.files.placeOf p

/-- Does a step from one session to another leave everything but the log file as it was, except for
new directories at some places and some texts at others? -/
structure ChangesOnly (directories : Place → Prop) (texts : Place → ByteArray → Prop)
    (s after : Session) : Prop where
  reporting : after.reporting = s.reporting
  start : after.files.start = s.files.start
  at? : ∀ place, ¬ s.LogsAt place →
    after.files.at? place = s.files.at? place ∨
      (directories place ∧ s.files.at? place = none ∧
        after.files.at? place = some .directory) ∨
      ∃ content, texts place content ∧ after.files.at? place = some (.file content)

/-- Does a step leave everything but the log file as it was? -/
abbrev Logs (s after : Session) : Prop := ChangesOnly (fun _ => False) (fun _ _ => False) s after

namespace ChangesOnly

variable {directories more : Place → Prop} {texts others : Place → ByteArray → Prop}
  {s u v : Session}

theorem refl (s : Session) : ChangesOnly directories texts s s := ⟨rfl, rfl, fun _ _ => .inl rfl⟩

theorem logsAt_iff (changes : ChangesOnly directories texts s u) (place : Place) :
    u.LogsAt place ↔ s.LogsAt place := by
  unfold LogsAt
  simp only [changes.reporting, FileTree.placeOf_congr changes.start]

theorem mono (changes : ChangesOnly directories texts s u)
    (wider : ∀ place, directories place → more place)
    (longer : ∀ place content, texts place content → others place content) :
    ChangesOnly more others s u := by
  refine ⟨changes.reporting, changes.start, fun place unlogged => ?_⟩
  rcases changes.at? place unlogged with same | ⟨allowed, free, made⟩ | ⟨content, allowed, written⟩
  · exact .inl same
  · exact .inr (.inl ⟨wider place allowed, free, made⟩)
  · exact .inr (.inr ⟨content, longer place content allowed, written⟩)

theorem trans (first : ChangesOnly directories texts s u)
    (second : ChangesOnly directories texts u v) : ChangesOnly directories texts s v := by
  refine ⟨second.reporting.trans first.reporting, second.start.trans first.start, ?_⟩
  intro place unlogged
  rcases second.at? place ((first.logsAt_iff place).not.mpr unlogged) with
    same | ⟨allowed, free, made⟩ | written
  · rw [same]
    exact first.at? place unlogged
  · rcases first.at? place unlogged with same | ⟨-, -, made⟩ | ⟨content, -, written⟩
    · exact .inr (.inl ⟨allowed, same ▸ free, made⟩)
    · rw [free] at made
      cases made
    · rw [free] at written
      cases written
  · exact .inr (.inr written)

theorem of_logs (logs : s.Logs u) : ChangesOnly directories texts s u :=
  logs.mono (fun _ => False.elim) (fun _ _ => False.elim)

/-- What is stored at one place changes nothing elsewhere. -/
theorem of_store {place : Place} {stored : Stored}
    (allowed : s.LogsAt place ∨ place ≠ [] ∧
      ((directories place ∧ s.files.at? place = none ∧ stored = .directory) ∨
        ∃ content, texts place content ∧ stored = .file content)) :
    ChangesOnly directories texts s { s with files := s.files.store place stored } := by
  refine ⟨rfl, rfl, fun other unlogged => ?_⟩
  by_cases same : other = place
  · subst same
    rcases allowed with logged | ⟨below, ⟨made, free, rfl⟩ | ⟨content, written, rfl⟩⟩
    · exact absurd logged unlogged
    · exact .inr (.inl ⟨made, free, FileTree.at?_store_self _ below _⟩)
    · exact .inr (.inr ⟨content, written, FileTree.at?_store_self _ below _⟩)
  · exact .inl (FileTree.at?_store_of_ne _ same _)

/-- A step and what follows it, if it goes on. -/
theorem bind {α β : Type} {r : Run α} {next : α → Run β}
    (first : ChangesOnly directories texts s (r.on s).1)
    (goesOn : ∀ a after, r.on s = (after, .ok a) →
      ChangesOnly directories texts after ((next a).on after).1) :
    ChangesOnly directories texts s ((r >>= next).on s).1 := by
  rw [Run.on_bind]
  cases ended : r.on s with
  | mk after outcome =>
      rw [ended] at first
      cases outcome with
      | error fault => exact first
      | ok a => exact first.trans (goesOn a after ended)

end ChangesOnly

/-! ## Steps of a build -/

theorem logs_appendToFile {s : Session} {r : Reporting} {p : Path}
    (reporting : s.reporting = some r) (file : r.file = some p) (e : Log.Entry) :
    s.Logs (s.appendToFile p e) := by
  unfold appendToFile
  split
  · next t appended =>
      obtain ⟨place, stored, found, rfl⟩ := FileTree.append_eq_ok appended
      exact .of_store (.inl ⟨r, p, reporting, file, FileTree.eq_placeOf found⟩)
  · exact .refl s

theorem logs_record (e : Log.Entry) (s : Session) : s.Logs (s.record e) := by
  unfold record
  dsimp only
  split
  · next threshold console p reporting =>
      split
      · exact ⟨rfl, rfl, fun _ _ => .inl rfl⟩
      · have appended := logs_appendToFile (s := { s with
          entries := s.entries ++ [e]
          console := s.console ++ consoleText s.reporting e }) reporting rfl e
        exact ⟨appended.reporting, appended.start, appended.at?⟩
  · exact ⟨rfl, rfl, fun _ _ => .inl rfl⟩

theorem logs_recordAll (es : List Log.Entry) (s : Session) : s.Logs (s.recordAll es) := by
  induction es generalizing s with
  | nil => exact .refl s
  | cons e rest ih => exact (logs_record e s).trans (ih (s.record e))

end Session

namespace Run

open Session (ChangesOnly)

theorem logs_log (level : Log.Level) (part message : String) (s : Session) :
    s.Logs ((log level part message).on s).1 := Session.logs_record _ s

/-- Making a directory makes new ones on the way to it. -/
theorem changesOnly_makeUpTo (p : Path) (above : Nat) (s : Session) :
    ChangesOnly (s.files.IsOnWayTo p) (fun _ _ => False) s ((makeUpTo p above).on s).1 := by
  have once (p : Path) (s : Session) : ChangesOnly (s.files.IsOnWayTo p) (fun _ _ => False) s
      ((change fun t => t.makeOneOrKeep p).on s).1 := by
    rw [on_change]
    cases made : s.files.makeOneOrKeep p with
    | error fault => exact .refl s
    | ok t =>
        rcases FileTree.makeOneOrKeep_eq_ok made with ⟨-, rfl⟩ | made
        · exact .refl s
        · obtain ⟨place, found, free, rfl⟩ := FileTree.makeOne_eq_ok made
          have below : place ≠ [] := by
            rintro rfl
            cases free
          have way : s.files.IsOnWayTo p place :=
            ⟨p.segments, List.prefix_rfl, FileTree.eq_placeOf found⟩
          exact .of_store (.inr ⟨below, .inl ⟨way, free, rfl⟩⟩)
  induction above generalizing p s with
  | zero => exact once p s
  | succ further ih =>
      rcases makeUpTo_cases p (further + 1) s with ⟨-, direct⟩ | ⟨_, path, counted, -, upwards⟩
      · rw [direct]
        exact once p s
      · cases counted
        rw [upwards]
        have parents := (ih p.parent s).mono (fun _ => FileTree.IsOnWayTo.of_parent) fun _ _ => id
        refine parents.bind fun _ after ended => ?_
        have left : after.files.start = s.files.start := by
          rw [ended] at parents
          exact parents.start
        exact (once p after).mono (fun _ => .congr left) fun _ _ => id

end Run

/-! ## Before the first page -/

theorem FileTree.copy_eq_ok {t u : FileTree} {source target : Path}
    (copied : t.copy source target = .ok u) :
    ∃ content, t.readBytes source = .ok content ∧ t.write target content = .ok u := by
  unfold copy at copied
  split at copied
  · cases copied
  · exact Fault.bind_eq_ok_iff.mp copied

theorem FileTree.readBytes_eq_ok {t : FileTree} {p : Path} {content : ByteArray}
    (read : t.readBytes p = .ok content) : t.at? (t.placeOf p) = some (.file content) := by
  obtain ⟨stored, there, -⟩ := Fault.bind_eq_ok_iff.mp read
  obtain ⟨place, found, -⟩ := Fault.bind_eq_ok_iff.mp there
  rw [← eq_placeOf found]
  exact (readBytes_eq_ok_iff found).mp read

namespace Compiler

open Session (ChangesOnly)

/-- The path of the introduction in the book. -/
def introduction (c : Compiler) : Path := c.directory / "README.md"

/-- The first steps of a build: the directory of the book is made. -/
def start (c : Compiler) (input : Path) : Run Unit := do
  Run.log .info component ("Compiling " ++ input.text ++ " into " ++ c.directory.text)
  Run.makeDirectory c.directory

/-- The texts of the pages of a record in a file. -/
def renderPages (c : Compiler) (input : Path) : Run (Table Path String) := do
  let root ← Run.ofExcept (Node.load (← Run.files) input)
  return (← c.process root).finalize.files

/-- All steps of a build before the first page is written: they give the texts of the pages. -/
def render (c : Compiler) (input : Path) (readme : Option Path) : Run (Table Path String) := do
  c.start input
  readme.forM c.copyReadme
  c.renderPages input

/-- A build renders the whole book, then writes the pages, and reports them. -/
theorem run_eq (c : Compiler) (input : Path) (readme : Option Path) :
    c.run input readme = do
      let written ← Book.writeFiles (← c.render input readme)
      Run.log .info component
        ("Wrote " ++ toString written.length ++ " files to " ++ c.directory.text)
      return written := by
  unfold run render renderPages start
  cases readme with
  | none => simp [Book.write]
  | some place => simp [Book.write]

theorem changesOnly_start (c : Compiler) (input : Path) (s : Session) :
    ChangesOnly (s.files.IsOnWayTo c.directory) (fun _ _ => False) s ((c.start input).on s).1 := by
  unfold start
  refine (ChangesOnly.of_logs (Run.logs_log _ _ _ s)).bind fun _ after ended => ?_
  have left := (Run.logs_log .info component
    ("Compiling " ++ input.text ++ " into " ++ c.directory.text) s).start
  rw [ended] at left
  exact (Run.changesOnly_makeUpTo c.directory _ after).mono (fun _ => .congr left) fun _ _ => id

theorem changesOnly_copyReadme (c : Compiler) (readme : Path) (s : Session) :
    ChangesOnly (fun _ => False)
      (fun place content => place = s.files.placeOf c.introduction ∧
        s.files.at? (s.files.placeOf readme) = some (.file content))
      s ((c.copyReadme readme).on s).1 := by
  unfold copyReadme
  rw [Run.on_bind, Run.on_files]
  dsimp only
  rw [Run.on_bind, Run.on_ofExcept]
  cases s.files.isFile readme with
  | error fault => exact .refl s
  | ok found =>
      cases found with
      | false => exact .of_logs (Run.logs_log _ _ _ s)
      | true =>
          dsimp only
          rw [if_pos rfl, Run.on_change]
          cases copied : s.files.copy readme (c.directory / "README.md") with
          | error fault => exact .refl s
          | ok t =>
              obtain ⟨content, read, written⟩ := FileTree.copy_eq_ok copied
              obtain ⟨place, found, free, rfl⟩ := FileTree.write_eq_ok written
              have below : place ≠ [] := by
                rintro rfl
                exact free rfl
              have introduces : place = s.files.placeOf c.introduction := FileTree.eq_placeOf found
              exact .of_store (.inr ⟨below, .inr ⟨content,
                ⟨introduces, FileTree.readBytes_eq_ok read⟩, rfl⟩⟩)

theorem on_copyReadme {c : Compiler} {readme : Path} {s : Session} {t : FileTree}
    (present : s.files.isFile readme = .ok true)
    (copied : s.files.copy readme c.introduction = .ok t) :
    (c.copyReadme readme).on s = ({ s with files := t }, .ok ()) := by
  unfold copyReadme
  rw [Run.on_bind, Run.on_files]
  dsimp only
  rw [Run.on_bind, Run.on_ofExcept, present]
  dsimp only
  rw [if_pos rfl, Run.on_change, ← introduction, copied]

theorem logs_renderPages (c : Compiler) (input : Path) (s : Session) :
    s.Logs ((c.renderPages input).on s).1 := by
  refine ChangesOnly.bind (.refl s) fun t asked same => ?_
  obtain rfl : s = asked := congrArg Prod.fst same
  refine ChangesOnly.bind (.refl s) fun root loaded same => ?_
  obtain rfl : s = loaded := congrArg Prod.fst same
  refine ChangesOnly.bind ?_ fun _ _ _ => .refl _
  rw [on_process]
  exact Session.logs_recordAll _ _

/-- Where the introduction stands in the book, with the text of the project's own one. -/
def IsIntroduction (c : Compiler) (readme : Option Path) (s : Session) (place : Place)
    (content : ByteArray) : Prop :=
  place = s.files.placeOf c.introduction ∧
    ∃ r, readme = some r ∧ (s.LogsAt (s.files.placeOf r) ∨
      s.files.at? (s.files.placeOf r) = some (.file content))

/-- Rendering a book makes its directory and copies its introduction, and nothing else. -/
theorem changesOnly_render (c : Compiler) (input : Path) (readme : Option Path) (s : Session) :
    ChangesOnly (s.files.IsOnWayTo c.directory) (c.IsIntroduction readme s) s
      ((c.render input readme).on s).1 := by
  have first := changesOnly_start c input s
  unfold render
  refine (first.mono (fun _ => id) fun _ _ => False.elim).bind fun _ opened ended => ?_
  rw [ended] at first
  have copies : ChangesOnly (s.files.IsOnWayTo c.directory) (c.IsIntroduction readme s) opened
      ((readme.forM c.copyReadme).on opened).1 := by
    cases readme with
    | none => exact .refl opened
    | some r =>
        refine (changesOnly_copyReadme c r opened).mono (fun _ => False.elim) ?_
        rintro place content ⟨same, there⟩
        refine ⟨same.trans (FileTree.placeOf_congr first.start _), r, rfl, ?_⟩
        rw [FileTree.placeOf_congr first.start] at there
        by_cases logged : s.LogsAt (s.files.placeOf r)
        · exact .inl logged
        · rcases first.at? _ logged with kept | ⟨-, -, made⟩ | ⟨_, never, -⟩
          · exact .inr (kept.symm.trans there)
          · rw [there] at made
            cases made
          · exact never.elim
  exact copies.bind fun _ copied _ => .of_logs (logs_renderPages c input copied)

/-- An introduction that was copied stays in the book. -/
theorem introduction_of_copied {c : Compiler} {input r : Path} {s opened : Session} {t : FileTree}
    (started : (c.start input).on s = (opened, .ok ()))
    (present : opened.files.isFile r = .ok true)
    (copied : opened.files.copy r c.introduction = .ok t) :
    ∃ content, opened.files.readBytes r = .ok content ∧
      (¬ s.LogsAt (s.files.placeOf c.introduction) →
        ((c.render input (some r)).on s).1.files.at? (s.files.placeOf c.introduction) =
          some (.file content)) := by
  have first := changesOnly_start c input s
  rw [started] at first
  have second := changesOnly_copyReadme c r opened
  rw [on_copyReadme present copied] at second
  have third := logs_renderPages c input { opened with files := t }
  have whole : (c.render input (some r)).on s =
      (c.renderPages input).on { opened with files := t } := by
    rw [render, Run.on_bind, started]
    dsimp only
    have copies : ((some r).forM c.copyReadme).on opened = ({ opened with files := t }, .ok ()) :=
      on_copyReadme present copied
    rw [Run.on_bind, copies]
  obtain ⟨content, read, written⟩ := FileTree.copy_eq_ok copied
  obtain ⟨place, found, free, rfl⟩ := FileTree.write_eq_ok written
  have target : place = s.files.placeOf c.introduction :=
    (FileTree.eq_placeOf found).trans (FileTree.placeOf_congr first.start _)
  subst target
  refine ⟨content, read, fun unlogged => ?_⟩
  have below : s.files.placeOf c.introduction ≠ [] := fun root => free (by rw [root]; rfl)
  have still := (second.logsAt_iff _).not.mpr ((first.logsAt_iff _).not.mpr unlogged)
  rw [whole]
  rcases third.at? _ still with kept | ⟨never, -⟩ | ⟨_, never, -⟩
  · exact kept.trans (FileTree.at?_store_self _ below _)
  · exact never.elim
  · exact never.elim

/-- Do the pages stop at one of them: behind those that could be written, its directory cannot be
made or the page itself cannot be written? -/
def StopsAtPage (pages : Table Path String) (s : Session) (cause : Fault)
    (after : Session) : Prop :=
  ∃ done p text rest written paths, pages = done ++ (p, text) :: rest ∧
    (Book.writeFiles done).on s = (written, .ok paths) ∧
      ((Run.makeDirectory p.parent).on written = (after, .error cause) ∨
        (Run.makeDirectory p.parent).on written = (after, .ok ()) ∧
          after.files.write p text.toUTF8 = .error cause)

theorem writeFile_eq_error {p : Path} {text : String} {s after : Session} {cause : Fault}
    (stopped : (Book.writeFile p text).on s = (after, .error cause)) :
    (Run.makeDirectory p.parent).on s = (after, .error cause) ∨
      (Run.makeDirectory p.parent).on s = (after, .ok ()) ∧
        after.files.write p text.toUTF8 = .error cause := by
  rw [Book.on_writeFile] at stopped
  split at stopped
  · next opened made =>
      split at stopped
      · cases stopped
      · next fault failed =>
          cases stopped
          exact .inr ⟨made, failed⟩
  · next opened fault failed =>
      cases stopped
      exact .inl failed

theorem stopsAtPage_of_writeFiles {pages : Table Path String} {s after : Session} {cause : Fault}
    (stopped : (Book.writeFiles pages).on s = (after, .error cause)) :
    StopsAtPage pages s cause after := by
  induction pages generalizing s with
  | nil => cases stopped
  | cons page rest ih =>
      obtain ⟨p, text⟩ := page
      rw [Book.on_writeFiles_cons] at stopped
      split at stopped
      · next opened q wrote =>
          cases ended : (Book.writeFiles rest).on opened with
          | mk final outcome =>
              rw [ended] at stopped
              cases outcome with
              | ok paths => cases stopped
              | error fault =>
                  cases stopped
                  obtain ⟨done, other, line, more, written, paths, rfl, before, fails⟩ := ih ended
                  refine ⟨(p, text) :: done, other, line, more, written, q :: paths, rfl, ?_, fails⟩
                  rw [Book.on_writeFiles_cons, wrote]
                  dsimp only
                  rw [before]
                  rfl
      · next opened fault failed =>
          cases stopped
          exact ⟨[], p, text, rest, s, [], rfl, rfl, writeFile_eq_error failed⟩

/-- A build that fails. It is the rendering that fails or, once it gave the pages, the writing of
one of them. Rendering makes the directory of the book and those above it and copies the
introduction, and leaves everything else but the log file as it was; so a build that fails in it
leaves all pages alone. An introduction that was copied has the text of the project's own one. -/
theorem failed_build_leaves_pages_alone (c : Compiler) (input : Path) (readme : Option Path)
    (s : Session) :
    (c.run input readme = do
      let written ← Book.writeFiles (← c.render input readme)
      Run.log .info component
        ("Wrote " ++ toString written.length ++ " files to " ++ c.directory.text)
      return written) ∧
    (∀ after cause, (c.run input readme).on s = (after, .error cause) →
      ((c.render input readme).on s = (after, .error cause) ∧
          s.ChangesOnly (s.files.IsOnWayTo c.directory) (c.IsIntroduction readme s) after) ∨
        ∃ rendered pages, (c.render input readme).on s = (rendered, .ok pages) ∧
          s.ChangesOnly (s.files.IsOnWayTo c.directory) (c.IsIntroduction readme s) rendered ∧
          StopsAtPage pages rendered cause after) ∧
    ∀ r opened copied, readme = some r → (c.start input).on s = (opened, .ok ()) →
      opened.files.isFile r = .ok true → opened.files.copy r c.introduction = .ok copied →
      ∃ content, opened.files.readBytes r = .ok content ∧
        (¬ s.LogsAt (s.files.placeOf c.introduction) →
          ((c.render input readme).on s).1.files.at? (s.files.placeOf c.introduction) =
            some (.file content)) := by
  have rendering := changesOnly_render c input readme s
  refine ⟨run_eq c input readme, ?_, ?_⟩
  · intro after cause failed
    rw [run_eq, Run.on_bind] at failed
    cases ended : (c.render input readme).on s with
    | mk rendered outcome =>
        rw [ended] at failed rendering
        cases outcome with
        | error fault =>
            cases failed
            exact .inl ⟨rfl, rendering⟩
        | ok pages =>
            refine .inr ⟨rendered, pages, rfl, rendering, stopsAtPage_of_writeFiles ?_⟩
            dsimp only at failed
            rw [Run.on_bind] at failed
            cases wrote : (Book.writeFiles pages).on rendered with
            | mk final result =>
                rw [wrote] at failed
                cases result with
                | ok paths => cases failed
                | error fault => exact failed
  · rintro r opened copied rfl started present copies
    exact introduction_of_copied started present copies

/-- A project with an introduction and nothing to compile. -/
def withoutRecord : Session :=
  .start ⟨[(["README.md"], .file "Hello".toUTF8)], []⟩ ""

/-- Is the result a fault of a missing file? -/
def isMissing {α : Type} : Except Fault α → Bool
  | .error (.file (.missing _)) => true
  | _ => false

theorem exists_of_isMissing {α : Type} {r : Except Fault α} (missing : isMissing r) :
    ∃ cause, r = .error cause := by
  cases r with
  | error cause => exact ⟨cause, rfl⟩
  | ok a => cases missing

/-- The build of a record that is not there makes the directory of the book and copies the
introduction, and leaves everything else alone. -/
theorem missing_record_leaves_pages_alone :
    let input : Path := ⟨.root, ["docs.json"]⟩
    let readme : Path := ⟨.root, ["README.md"]⟩
    let after := ((plain ["book"]).run input (some readme)).on withoutRecord
    isMissing after.2 ∧
      withoutRecord.ChangesOnly (withoutRecord.files.IsOnWayTo (plain ["book"]).directory)
        ((plain ["book"]).IsIntroduction (some readme) withoutRecord) after.1 ∧
      after.1.files.at? ["book", "README.md"] = some (.file "Hello".toUTF8) := by
  intro input readme after
  obtain ⟨-, fails, introduced⟩ :=
    failed_build_leaves_pages_alone (plain ["book"]) input (some readme) withoutRecord
  have missing : isMissing after.2 := by
    simp only [after, input, readme]
    decide +kernel
  have unrendered :
      isMissing (((plain ["book"]).render input (some readme)).on withoutRecord).2 := by
    simp only [input, readme]
    decide +kernel
  obtain ⟨cause, stopped⟩ := exists_of_isMissing missing
  rcases fails after.1 cause (Prod.ext rfl stopped) with
    ⟨rendering, changes⟩ | ⟨_, _, rendered, -⟩
  · refine ⟨missing, changes, ?_⟩
    have started : ((plain ["book"]).start input).on withoutRecord =
        ((((plain ["book"]).start input).on withoutRecord).1, .ok ()) :=
      Prod.ext rfl (eq_ok_of_toOption (by simp only [input]; decide +kernel))
    obtain ⟨content, read, stays⟩ := introduced readme _
      ⟨[(["README.md"], .file "Hello".toUTF8), (["book"], .directory),
        (["book", "README.md"], .file "Hello".toUTF8)], []⟩ rfl started
      (eq_ok_of_toOption (by simp only [input, readme]; decide +kernel))
      (eq_ok_of_toOption (by simp only [input, readme]; decide +kernel))
    have text : (((plain ["book"]).start input).on withoutRecord).1.files.readBytes readme =
        .ok "Hello".toUTF8 := eq_ok_of_toOption (by simp only [input, readme]; decide +kernel)
    have kept := stays (by rintro ⟨r, p, reporting, -⟩; cases reporting)
    rw [rendering, Except.ok.inj (read.symm.trans text)] at kept
    exact kept
  · rw [rendered] at unrendered
    cases unrendered

end Compiler

end Bindery
