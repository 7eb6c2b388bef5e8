import Bindery.Target
import Bindery.Proofs.Linking

/-!
# Hashes in the directory of a book

A target is written down as a path and taken apart again at its first hash. If the directory of the
book holds no hash, the link to the target leads there. If it holds one, the link is that to the
part before the hash, with the rest put behind it as text, so that it keeps its way only if it ends
with the name that the rest completes.
-/

namespace Bindery

/-! ## Targets taken apart at a hash -/

namespace Target

variable {s t : String}

theorem not_hash_of_free (free : '#' ∉ s.toList) : ∀ c ∈ s.toList, decide (c ≠ '#') := by
  intro c inside
  rw [decide_eq_true_iff]
  rintro rfl
  exact free inside

theorem file_of_free (free : '#' ∉ s.toList) : file s = s := by
  rw [file, List.takeWhile_eq_self_iff.mpr (not_hash_of_free free), String.ofList_toList]

theorem fragment_of_free (free : '#' ∉ s.toList) : fragment s = "" := by
  have whole := file_append_fragment s
  rw [file_of_free free] at whole
  exact String.append_eq_left_iff.mp whole

theorem not_mem_file (s : String) : '#' ∉ (file s).toList := by
  intro inside
  rw [file, String.toList_ofList] at inside
  have kept := List.mem_takeWhile_imp inside
  simp at kept

theorem free_slash_file (free : '/' ∉ s.toList) : '/' ∉ (file s).toList := by
  intro inside
  rw [file, String.toList_ofList] at inside
  exact free ((List.takeWhile_prefix _).subset inside)

theorem free_slash_fragment (free : '/' ∉ s.toList) : '/' ∉ (fragment s).toList := by
  intro inside
  rw [fragment, String.toList_ofList] at inside
  exact free ((List.dropWhile_suffix _).subset inside)

theorem fragment_of_hash (hash : '#' ∈ s.toList) :
    ∃ rest, (fragment s).toList = '#' :: rest := by
  rw [fragment, String.toList_ofList]
  cases found : s.toList.dropWhile (· ≠ '#') with
  | nil =>
      have all := List.dropWhile_eq_nil_iff.mp found '#' hash
      simp at all
  | cons c rest =>
      have stop := List.head?_dropWhile_not (· ≠ '#') s.toList
      rw [found] at stop
      obtain rfl : c = '#' := by simpa using stop
      exact ⟨rest, rfl⟩

/-- A text is taken apart where a hash comes first. -/
theorem file_append (free : '#' ∉ s.toList) {rest : List Char} (opens : t.toList = '#' :: rest) :
    file (s ++ t) = s ∧ fragment (s ++ t) = t := by
  have all := not_hash_of_free free
  constructor
  · rw [file, String.toList_append, List.takeWhile_append_of_pos all, opens,
      List.takeWhile_cons_of_neg (by simp), List.append_nil, String.ofList_toList]
  · rw [fragment, String.toList_append, List.dropWhile_append_of_pos all, opens,
      List.dropWhile_cons_of_neg (by simp), ← opens, String.ofList_toList]

/-! ## Paths as targets -/

theorem isAddress_text {p : Path} (absolute : p.isAbsolute) : isAddress p.text = false := by
  obtain ⟨rest, opens⟩ := Path.text_opens absolute
  rw [isAddress, opens]
  rfl

theorem free_joinWith {pieces : List String} (free : ∀ piece ∈ pieces, '#' ∉ piece.toList) :
    '#' ∉ (Text.joinWith '/' pieces).toList := by
  intro inside
  rw [Text.joinWith, String.toList_ofList] at inside
  rcases Text.mem_glue inside with same | ⟨cs, listed, inside⟩
  · cases same
  · obtain ⟨piece, present, rfl⟩ := List.mem_map.mp listed
    exact free piece present inside

theorem free_anchor (anchor : Anchor) : '#' ∉ anchor.text.toList := by
  cases anchor <;> decide

end Target

namespace Path

/-- The path from the root that ends before the hash of a segment. -/
def stem (before : List String) (name : String) : Path :=
  ⟨.root, before ++ [Target.file name].filter isSegment⟩

/-- The link to a stem with the rest of the path put behind it as text. -/
def splice (link : List String) (rest : String) (after : List String) : List String :=
  link.dropLast ++ (link.getLast?.getD "." ++ rest) :: after

/-- A target below a directory that is taken apart at the first hash of the directory: does the link
from a start to the part before the hash, with the rest put behind it, lead to the directory? -/
def keepsLinks (directory start : List String) : Bool :=
  match directory.dropWhile fun s => '#' ∉ s.toList with
  | [] => true
  | name :: after =>
      let before := directory.takeWhile fun s => '#' ∉ s.toList
      let link := linkFrom ⟨.root, start⟩ (stem before name)
      settle (start ++ splice link.segments (Target.fragment name) after) = settle directory

end Path

namespace Target

/-- The link to a path without a hash. -/
theorem seenFrom_of_free {p : Path} (absolute : p.isAbsolute) (read : Path.AreRead p.segments)
    (free : ∀ s ∈ p.segments, '#' ∉ s.toList) (book directory : Path) :
    seenFrom book directory p.text = (Path.linkFrom directory p).text := by
  have text : '#' ∉ p.text.toList := by
    rw [Path.text_of_absolute absolute, String.toList_append, List.mem_append, not_or]
    exact ⟨free_anchor p.anchor, free_joinWith free⟩
  have joined : book / p.text = p := by
    show book.join (Path.ofString p.text) = p
    rw [Path.ofString_text read, Path.join_of_absolute book absolute]
  rw [seenFrom, isAddress_text absolute, file_of_free text, fragment_of_free text, joined]
  exact String.append_empty

/-- The link to a path that is taken apart at its first hash. -/
theorem seenFrom_of_hash {p : Path} (absolute : p.isAbsolute) (read : Path.AreRead p.segments)
    {before after : List String} {name : String} (segments : p.segments = before ++ name :: after)
    (free : ∀ s ∈ before, '#' ∉ s.toList) (hash : '#' ∈ name.toList) (book directory : Path) :
    seenFrom book directory p.text =
      (Path.linkFrom directory (Path.stem before name)).text ++
        Text.joinWith '/' (fragment name :: after) := by
  obtain ⟨rest, opens⟩ := fragment_of_hash hash
  have text : p.text = p.anchor.text ++ Text.joinWith '/' (before ++ [file name]) ++
      Text.joinWith '/' (fragment name :: after) := by
    rw [Path.text_of_absolute absolute, segments]
    conv_lhs => rw [← file_append_fragment name]
    rw [Text.joinWith_append_cons, String.append_assoc]
  have front : '#' ∉ (p.anchor.text ++ Text.joinWith '/' (before ++ [file name])).toList := by
    rw [String.toList_append, List.mem_append, not_or]
    refine ⟨free_anchor p.anchor, free_joinWith ?_⟩
    intro piece listed
    rcases List.mem_append.mp listed with inside | last
    · exact free piece inside
    · rw [List.mem_singleton.mp last]
      exact not_mem_file name
  have back : ∃ more, (Text.joinWith '/' (fragment name :: after)).toList = '#' :: more := by
    rw [Text.joinWith, String.toList_ofList, List.map_cons, opens]
    cases after with
    | nil => exact ⟨rest, rfl⟩
    | cons next more => exact ⟨_, rfl⟩
  obtain ⟨more, back⟩ := back
  -- The first hash of the whole text is that of the name.
  have parts := file_append front back
  have joined : book / (p.anchor.text ++ Text.joinWith '/' (before ++ [file name])) =
      ⟨p.anchor, before ++ [file name].filter Path.isSegment⟩ := by
    show book.join (Path.ofString _) = _
    rw [segments] at read
    have first : Path.AreRead before := fun s inside => read s (List.mem_append_left _ inside)
    have slashes : ∀ piece ∈ before ++ [file name], '/' ∉ piece.toList := by
      intro piece listed
      rcases List.mem_append.mp listed with inside | last
      · exact (first piece inside).2
      · rw [List.mem_singleton.mp last]
        exact free_slash_file (read name (by simp)).2
    rw [Path.ofString_joinWith p.anchor (by simp) slashes, List.filter_append, first.filter_eq]
    · exact Path.join_of_absolute book absolute
    · intro next more same
      cases before with
      | nil =>
          have lengths := congrArg List.length same
          simp at lengths
      | cons s others =>
          obtain ⟨rfl, -⟩ := List.cons.inj same
          exact absurd (first "" List.mem_cons_self).1 (by decide)
  rw [← text] at parts
  rw [seenFrom, isAddress_text absolute, parts.1, parts.2, joined]
  rfl

end Target

/-! ## Where links lead -/

namespace Path

theorem isSegment_of_hash {s : String} (hash : '#' ∈ s.toList) : isSegment s := by
  by_contra no
  rw [isSegment, Bool.and_eq_true, not_and_or] at no
  rcases no with empty | dot
  · have none : s = "" := by simpa using empty
    rw [none] at hash
    cases hash
  · have one : s = "." := by simpa using dot
    rw [one] at hash
    revert hash
    decide

/-- The text of a link with more text behind it is read as a spliced link. -/
theorem ofString_text_append {link : Path} (relative : link.anchor = .relative)
    (read : AreRead link.segments) {rest : String} {after : List String} (hash : '#' ∈ rest.toList)
    (free : '/' ∉ rest.toList) (readAfter : AreRead after) :
    ofString (link.text ++ Text.joinWith '/' (rest :: after)) =
      ⟨.relative, splice link.segments rest after⟩ := by
  obtain ⟨anchor, segments⟩ := link
  obtain rfl : anchor = .relative := relative
  have parts : ∃ front last, segments.dropLast = front ∧ segments.getLast?.getD "." = last ∧
      AreRead front ∧ '/' ∉ last.toList ∧
      Path.text ⟨.relative, segments⟩ = Text.joinWith '/' (front ++ [last]) := by
    rcases List.eq_nil_or_concat' segments with rfl | ⟨front, last, rfl⟩
    · exact ⟨[], ".", rfl, rfl, by simp [AreRead], by decide, by decide⟩
    · refine ⟨front, last, by simp, by simp, fun s inside => read s ?_, (read last ?_).2, ?_⟩
      · exact List.mem_append_left _ inside
      · exact List.mem_append_right _ (List.mem_singleton_self _)
      · exact text_of_relative (List.append_ne_nil_of_right_ne_nil _ (List.cons_ne_nil _ _))
  obtain ⟨front, last, initial, final, readFront, slash, text⟩ := parts
  have named : isSegment (last ++ rest) ∧ '/' ∉ (last ++ rest).toList := by
    rw [String.toList_append, List.mem_append, not_or]
    refine ⟨isSegment_of_hash ?_, slash, free⟩
    rw [String.toList_append]
    exact List.mem_append_right _ hash
  have pieces : AreRead (front ++ (last ++ rest) :: after) := by
    intro s listed
    rcases List.mem_append.mp listed with inside | listed
    · exact readFront s inside
    · rcases List.mem_cons.mp listed with rfl | later
      · exact named
      · exact readAfter s later
  have back := ofString_text (p := ⟨.relative, front ++ (last ++ rest) :: after⟩) pieces
  rw [text_of_relative (by simp), Text.joinWith_append_cons, ← text] at back
  rw [back, splice, initial, final]

/-- A link leads to a path without a hash. -/
theorem normal_seenFrom_of_free {p : Path} (absolute : p.isAbsolute) (read : AreRead p.segments)
    (free : ∀ s ∈ p.segments, '#' ∉ s.toList) (book : Path) {start : Path}
    (rooted : start.anchor = p.anchor) :
    (start / Target.seenFrom book start p.text).normal = p.normal := by
  rw [Target.seenFrom_of_free absolute read free]
  show (start.join (ofString (linkFrom start p).text)).normal = _
  rw [ofString_text (areRead_linkFrom start read), join_of_relative start rfl, normal, normal,
    rooted, settle_linkFrom]

/-- A link leads to a path with a hash if the spliced link does. -/
theorem normal_seenFrom_of_hash {p : Path} (absolute : p.isAbsolute) (read : AreRead p.segments)
    {before after : List String} {name : String} (segments : p.segments = before ++ name :: after)
    (free : ∀ s ∈ before, '#' ∉ s.toList) (hash : '#' ∈ name.toList) (book : Path) {start : Path}
    (rooted : start.anchor = p.anchor) :
    (start / Target.seenFrom book start p.text).normal = p.normal ↔
      settle (start.segments ++
          splice (linkFrom start (stem before name)).segments (Target.fragment name) after) =
        settle p.segments := by
  have named := read name (by simp [segments])
  obtain ⟨rest, opens⟩ := Target.fragment_of_hash hash
  have target : AreRead (stem before name).segments := by
    intro s listed
    rcases List.mem_append.mp listed with inside | last
    · exact read s (segments ▸ List.mem_append_left _ inside)
    · rw [List.mem_filter, List.mem_singleton] at last
      exact ⟨last.2, last.1 ▸ Target.free_slash_file named.2⟩
  have behind : AreRead after := by
    intro s later
    exact read s (by simp [segments, later])
  rw [Target.seenFrom_of_hash absolute read segments free hash]
  show (start.join (ofString _)).normal = _ ↔ _
  rw [ofString_text_append rfl (areRead_linkFrom start target) (by simp [opens])
    (Target.free_slash_fragment named.2) behind, join_of_relative start rfl, normal, normal, rooted]
  simp

/-- A link to a path below a directory leads to the path exactly if links there keep their way
through the hashes of the directory. -/
theorem normal_seenFrom_iff {directory : Path} (absolute : directory.isAbsolute)
    (read : AreRead directory.segments) {route : List String} (readRoute : AreRead route)
    (plain : ".." ∉ route) (free : ∀ s ∈ route, '#' ∉ s.toList) (book : Path) {start : Path}
    (rooted : start.anchor = directory.anchor) :
    (start / Target.seenFrom book start
        (Path.text ⟨directory.anchor, directory.segments ++ route⟩)).normal =
      Path.normal ⟨directory.anchor, directory.segments ++ route⟩ ↔
      keepsLinks directory.segments start.segments := by
  have whole := List.takeWhile_append_dropWhile (p := fun s => decide ('#' ∉ s.toList))
    (l := directory.segments)
  have front : ∀ s ∈ directory.segments.takeWhile (fun s => '#' ∉ s.toList), '#' ∉ s.toList := by
    intro s inside
    simpa using List.mem_takeWhile_imp inside
  have target : AreRead (directory.segments ++ route) := read.append readRoute
  unfold keepsLinks
  split
  · next clean =>
      rw [clean, List.append_nil] at whole
      rw [whole] at front
      have leads := normal_seenFrom_of_free
        (p := ⟨directory.anchor, directory.segments ++ route⟩) absolute target
        (List.forall_mem_append.mpr ⟨front, free⟩) book rooted
      simp [leads]
  · next name after found =>
      have hash : '#' ∈ name.toList := by
        have stop := List.head?_dropWhile_not (fun s => decide ('#' ∉ s.toList)) directory.segments
        rw [found] at stop
        simpa using stop
      have segments : directory.segments ++ route =
          directory.segments.takeWhile (fun s => '#' ∉ s.toList) ++ name :: (after ++ route) := by
        conv_lhs => rw [← whole, found]
        simp
      rw [normal_seenFrom_of_hash (p := ⟨directory.anchor, directory.segments ++ route⟩) absolute
        target segments front hash book rooted]
      have spliced : ∀ link, splice link (Target.fragment name) (after ++ route) =
          splice link (Target.fragment name) after ++ route := by
        intro link
        simp [splice]
      rw [spliced, ← List.append_assoc, settle_append_of_no_dots _ plain,
        settle_append_of_no_dots _ plain, List.append_left_inj, decide_eq_true_iff]
      rfl

theorem keepsLinks_of_free {directory : List String} (free : ∀ s ∈ directory, '#' ∉ s.toList)
    (start : List String) : keepsLinks directory start := by
  have clean : directory.dropWhile (fun s => decide ('#' ∉ s.toList)) = [] :=
    List.dropWhile_eq_nil_iff.mpr fun s inside => decide_eq_true (free s inside)
  rw [keepsLinks, clean]

/-! ### Which hashes keep links -/

variable {before after : List String} {name : String}

theorem keepsLinks_append_cons (free : ∀ s ∈ before, '#' ∉ s.toList) (hash : '#' ∈ name.toList)
    (after start : List String) :
    keepsLinks (before ++ name :: after) start ↔
      settle (start ++ splice (linkFrom ⟨.root, start⟩ (stem before name)).segments
          (Target.fragment name) after) = settle (before ++ name :: after) := by
  have all : ∀ s ∈ before, decide ('#' ∉ s.toList) := fun s inside => decide_eq_true (free s inside)
  have first : (before ++ name :: after).takeWhile (fun s => decide ('#' ∉ s.toList)) = before := by
    rw [List.takeWhile_append_of_pos all, List.takeWhile_cons_of_neg (by simp [hash]),
      List.append_nil]
  have rest : (before ++ name :: after).dropWhile (fun s => decide ('#' ∉ s.toList)) =
      name :: after := by
    rw [List.dropWhile_append_of_pos all, List.dropWhile_cons_of_neg (by simp [hash])]
  rw [keepsLinks, rest]
  dsimp only
  rw [first, decide_eq_true_iff]

/-- A hash behind a name does no harm, unless the start lies where the name alone would lead. -/
theorem keepsLinks_of_named (free : ∀ s ∈ before, '#' ∉ s.toList) (hash : '#' ∈ name.toList)
    (filled : isSegment (Target.file name)) (named : Target.file name ≠ "..") (after : List String)
    {start : List String} (outside : ¬ settle before ++ [Target.file name] <+: settle start) :
    keepsLinks (before ++ name :: after) start := by
  have target : settle (stem before name).segments = settle before ++ [Target.file name] := by
    have kept : [Target.file name].filter isSegment = [Target.file name] := by simp [filled]
    rw [stem, kept]
    exact settle_append_of_no_dots before (by simpa using Ne.symm named)
  obtain ⟨shared, here, there⟩ := apart_spec (settle start) (settle (stem before name).segments)
  have link := segments_linkFrom ⟨.root, start⟩ (stem before name)
  dsimp only at link
  generalize apart (settle start) (settle (stem before name).segments) = parts at here there link
  obtain ⟨up, down⟩ := parts
  rw [target] at there
  -- The link goes down at the end, since the start does not lie below the name.
  rcases List.eq_nil_or_concat' down with rfl | ⟨down, last, rfl⟩
  · rw [List.append_nil] at there
    exact absurd (there ▸ here ▸ List.prefix_append _ _) outside
  · rw [← List.append_assoc] at there
    obtain ⟨initial, final⟩ := List.append_inj' there rfl
    obtain rfl := List.singleton_inj.mp final
    have plain : ".." ∉ down := by
      intro inside
      have settled := settle_no_dots before
      rw [initial] at settled
      exact settled (List.mem_append_right _ inside)
    have meet : settle (start ++ (up.map (fun _ => "..") ++ down)) = settle before := by
      rw [settle_up_down here plain, initial]
    have spliced : splice (linkFrom ⟨.root, start⟩ (stem before name)).segments
        (Target.fragment name) after = (up.map (fun _ => "..") ++ down) ++ name :: after := by
      rw [link, ← List.append_assoc, splice, List.dropLast_concat, List.getLast?_concat,
        Option.getD_some, Target.file_append_fragment]
    rw [keepsLinks_append_cons free hash, spliced, ← List.append_assoc]
    exact settle_append_congr meet _

/-- A link that only leads up has the rest of the target behind its last step. -/
theorem settle_splice_ups {start shared up : List String} {s rest : String}
    (here : settle start = shared ++ s :: up) (plain : ".." ∉ (".." ++ rest) :: after) :
    settle (start ++ splice ((s :: up).map fun _ => "..") rest after) =
      shared ++ s :: (".." ++ rest) :: after := by
  have ups : (s :: up).map (fun _ => "..") = up.map (fun _ => "..") ++ [".."] := by
    rw [List.map_const', List.map_const', List.length_cons, List.replicate_succ']
  have back : settle (start ++ up.map (fun _ => "..")) = shared ++ [s] := by
    have undone := settle_up_down (here.trans (List.append_cons _ _ _))
      (List.not_mem_nil : ".." ∉ [])
    rwa [List.append_nil, List.append_nil] at undone
  rw [ups, splice, List.dropLast_concat, List.getLast?_concat, Option.getD_some,
    ← List.append_assoc, settle_append_of_no_dots _ plain, back, List.append_assoc]
  rfl

theorem keepsLinks_of_above_iff (free : ∀ s ∈ before, '#' ∉ s.toList) (hash : '#' ∈ name.toList)
    (plain : ".." ∉ after) {start up : List String} {s : String}
    (here : settle start = settle (stem before name).segments ++ s :: up) :
    keepsLinks (before ++ name :: after) start ↔
      settle (stem before name).segments ++ s :: (".." ++ Target.fragment name) :: after =
        settle (before ++ name :: after) := by
  obtain ⟨rest, opens⟩ := Target.fragment_of_hash hash
  have doubled : ".." ∉ (".." ++ Target.fragment name) :: after := by
    rw [List.mem_cons, not_or]
    refine ⟨fun same => ?_, plain⟩
    have lengths := congrArg (fun s => s.toList.length) same
    simp [opens] at lengths
  rw [keepsLinks_append_cons free hash, segments_linkFrom_of_above here,
    settle_splice_ups here doubled]

/-- In a directory without double dots, and from straight below it, links keep their way exactly if
a segment stands before the first hash in its name, and no double dot at the root. -/
theorem keepsLinks_below_iff (free : ∀ s ∈ before, '#' ∉ s.toList) (hash : '#' ∈ name.toList)
    {more : List String} (plain : ".." ∉ before ++ name :: (after ++ more)) :
    keepsLinks (before ++ name :: after) (before ++ name :: after ++ more) ↔
      isSegment (Target.file name) ∧ (Target.file name = ".." → before ≠ []) := by
  have start : settle (before ++ name :: after ++ more) = before ++ name :: (after ++ more) := by
    rw [List.append_assoc]
    exact settle_of_no_dots plain
  have goal : settle (before ++ name :: after) = before ++ name :: after := by
    refine settle_of_no_dots fun inside => plain ?_
    rw [← List.cons_append, ← List.append_assoc]
    exact List.mem_append_left _ inside
  rw [List.mem_append, List.mem_cons, List.mem_append, not_or, not_or, not_or] at plain
  obtain ⟨front, -, back, -⟩ := plain
  -- Where the stem settles in front of the name, the link arrives below the name.
  have lost : settle (stem before name).segments = before →
      ¬ keepsLinks (before ++ name :: after) (before ++ name :: after ++ more) := by
    intro target
    rw [keepsLinks_of_above_iff free hash back (start.trans (by rw [target])), target, goal]
    intro same
    have lengths := congrArg List.length same
    simp at lengths
  by_cases filled : isSegment (Target.file name)
  · have stem_eq : (stem before name).segments = before ++ [Target.file name] := by
      simp [stem, filled]
    by_cases named : Target.file name = ".."
    · rw [named] at stem_eq
      rcases List.eq_nil_or_concat' before with rfl | ⟨init, last, rfl⟩
      · have target : settle (stem [] name).segments = [] := by rw [stem_eq]; rfl
        simpa [filled, named] using lost target
      · have target : settle (stem (init ++ [last]) name).segments = init := by
          have up : ascent [".."] = 0 + 1 := rfl
          have down : descent [".."] = [] := rfl
          rw [stem_eq, settle_append, settle_of_no_dots front, up, down, List.append_nil,
            List.rdrop_concat_succ, List.rdrop_zero]
        have here : settle (init ++ [last] ++ name :: after ++ more) =
            settle (stem (init ++ [last]) name).segments ++ last :: (name :: (after ++ more)) := by
          rw [start, target, List.append_assoc]
          rfl
        have whole := Target.file_append_fragment name
        rw [named] at whole
        rw [keepsLinks_of_above_iff free hash back here, target, goal, whole, List.append_assoc]
        simp [filled]
    · have outside : ¬ settle before ++ [Target.file name] <+:
          settle (before ++ name :: after ++ more) := by
        rw [start, settle_of_no_dots front, List.prefix_append_right_inj, List.cons_prefix_cons]
        rintro ⟨same, -⟩
        have clean := Target.not_mem_file name
        rw [same] at clean
        exact clean hash
      have kept := keepsLinks_of_named free hash filled named after outside
      exact iff_of_true kept ⟨filled, fun dots => absurd dots named⟩
  · have target : settle (stem before name).segments = before := by
      have empty : (stem before name).segments = before := by simp [stem, filled]
      rw [empty, settle_of_no_dots front]
    simpa [filled] using lost target

end Path

end Bindery
