import Bindery.Text.Blank
import Bindery.Text.Lines
import Bindery.Yaml.Lexeme

/-!
# Texts of plain lines

A text whose lines have a plain word as key and a plain word as value is scanned line by line: the
first one opens a block mapping, each one gives its key and its value, and the mapping ends with the
text. The words are taken to be free of every character that has a meaning of its own.
-/

namespace Bindery

theorem Text.feeds_of_not_mem {cs : List Char} (none : '\r' ∉ cs) : feeds cs = cs := by
  induction cs with
  | nil => rfl
  | cons c rest ih =>
      obtain ⟨differ, others⟩ := not_or.mp (mt List.mem_cons.mpr none)
      rw [feeds, if_neg (Ne.symm differ), ih others]
      rintro _ rfl
      exact absurd rfl differ

namespace Yaml

/-! ## Words -/

/-- Does the character stand for nothing but itself, also at the start of a word or a line? -/
def isFree (c : Char) : Bool :=
  isAllowed c && !isGap (some c) && c != '\ufeff' && c != '.' &&
    !"-?:,[]\x7b\x7d#&*!|>'\"%@\x60".toList.contains c

/-- A word without a character that has a meaning of its own. -/
def IsWord (w : List Char) : Prop := w ≠ [] ∧ ∀ c ∈ w, isFree c

instance (w : List Char) : Decidable (IsWord w) :=
  decidable_of_iff (w ≠ [] ∧ w.all isFree) (by rw [List.all_eq_true, IsWord])

theorem ne_of_isFree {c other : Char} (free : isFree c) (special : isFree other = false) :
    c ≠ other := by
  rintro rfl
  exact absurd free (by simp [special])

theorem isGap_of_isFree {c : Char} (free : isFree c) : isGap (some c) = false := by
  simp only [isFree, Bool.and_eq_true, Bool.not_eq_true'] at free
  exact free.1.1.1.2

theorem isBreak_of_isFree {c : Char} (free : isFree c) : isBreak c = false := by
  have noGap := isGap_of_isFree free
  rw [isGap, Bool.or_eq_false_iff] at noGap
  exact noGap.2

theorem isAllowed_of_isFree {c : Char} (free : isFree c) : isAllowed c := by
  simp only [isFree, Bool.and_eq_true] at free
  exact free.1.1.1.1

theorem IsWord.exists_cons {w : List Char} (word : IsWord w) :
    ∃ c rest, w = c :: rest ∧ isFree c := by
  obtain ⟨filled, free⟩ := word
  cases w with
  | nil => exact absurd rfl filled
  | cons c rest => exact ⟨c, rest, rfl, free c List.mem_cons_self⟩

theorem IsWord.getLast?_ne {w : List Char} (word : IsWord w) : w.getLast? ≠ some '\n' := fun last =>
  absurd (word.2 _ (List.mem_of_getLast? last)) (by decide)

/-- Does a line that may hold a key begin here, or does the text end? -/
def BeginsLine (rest : List Char) : Prop := ∀ c ∈ rest.head?, isFree c

namespace Cursor

theorem step_of_free {c : Char} (free : isFree c) (rest : List Char) (offset line column : Nat) :
    step ⟨c :: rest, offset, line, column⟩ = ⟨rest, offset + 1, line, column + 1⟩ := by
  have wide : c ≠ '\ufeff' := ne_of_isFree free (by decide)
  simp [step, isBreak_of_isFree free, wide]

theorem skip_word {w : List Char} (free : ∀ c ∈ w, isFree c) (rest : List Char)
    (offset line column : Nat) :
    skip ⟨w ++ rest, offset, line, column⟩ w.length =
      ⟨rest, offset + w.length, line, column + w.length⟩ := by
  induction w generalizing offset column with
  | nil => rfl
  | cons c more ih =>
      rw [List.forall_mem_cons] at free
      rw [List.cons_append, List.length_cons, skip, step_of_free free.1, ih free.2]
      congr 1 <;> omega

/-- Nothing is passed over before a character that is no space, comment or line end. -/
theorem dropComment_of_head {c : Cursor} {ch : Char} {rest : List Char} (next : c.rest = ch :: rest)
    (noSpace : ch ≠ ' ') (noComment : ch ≠ '#') : c.dropComment = c := by
  have unspaced : c.dropSpaces = c := by
    rw [dropSpaces, dropWhile, span, next, List.takeWhile_cons_of_neg (by simpa using noSpace)]
    rfl
  rw [dropComment, unspaced]
  exact if_neg (by simpa [Cursor.next, next] using noComment)

theorem lineBreak?_of_head {c : Cursor} {ch : Char} {rest : List Char} (next : c.rest = ch :: rest)
    (noBreak : isBreak ch = false) : c.lineBreak? = none := by
  unfold lineBreak?
  rw [next]
  split
  · next same =>
      cases same
      cases noBreak
  · next same =>
      cases same
      have noSeparator : ¬(ch = '\u2028' ∨ ch = '\u2029') := by
        rintro (rfl | rfl) <;> cases noBreak
      rw [if_neg noSeparator, if_neg (by simp [noBreak])]
  · rfl

theorem atMark_of_begins {rest : List Char} (begins : BeginsLine rest) {mark : Char}
    (special : isFree mark = false) (offset line column : Nat) :
    atMark ⟨rest, offset, line, column⟩ mark = false := by
  cases rest with
  | nil => rfl
  | cons c more =>
      have differ : c ≠ mark := ne_of_isFree (begins c rfl) special
      cases more with
      | nil => simp [atMark]
      | cons d others => simp [atMark, differ]

theorem atSeparator_of_begins {rest : List Char} (begins : BeginsLine rest)
    (offset line column : Nat) : atSeparator ⟨rest, offset, line, column⟩ = false := by
  rw [atSeparator, atMark_of_begins begins (by decide), atMark_of_begins begins (by decide)]
  rfl

theorem lineBreak?_of_begins {rest : List Char} (begins : BeginsLine rest)
    (offset line column : Nat) : lineBreak? ⟨rest, offset, line, column⟩ = none := by
  cases rest with
  | nil => rfl
  | cons c more => exact lineBreak?_of_head rfl (isBreak_of_isFree (begins c rfl))

end Cursor

/-! ## Plain text -/

namespace Plain

theorem word_append {w : List Char} (free : ∀ c ∈ w, isFree c) {stop : List Char}
    (ends : word false stop = []) : word false (w ++ stop) = w := by
  induction w with
  | nil => exact ends
  | cons c more ih =>
      rw [List.forall_mem_cons] at free
      have noColon : c ≠ ':' := ne_of_isFree free.1 (by decide)
      rw [List.cons_append, word, isGap_of_isFree free.1, ih free.2]
      simp [noColon]

/-- Nothing stands between a word and a colon. -/
theorem gap_colon (rest : List Char) (offset line column : Nat) :
    gap ⟨':' :: rest, offset, line, column⟩ =
      ([], false, ⟨':' :: rest, offset, line, column⟩) := rfl

/-- A line end before a line reads as a space. -/
theorem gap_feed {rest : List Char} (begins : BeginsLine rest) (offset line column : Nat) :
    gap ⟨'\n' :: rest, offset, line, column⟩ = ([' '], true, ⟨rest, offset + 1, line + 1, 0⟩) := by
  have noSpace : Cursor.next ⟨rest, offset + 1, line + 1, 0⟩ ≠ some ' ' := fun space =>
    absurd (begins ' ' space) (by decide)
  have ended : breaks (rest.length + 1) ⟨rest, offset + 1, line + 1, 0⟩ [] =
      (some [], ⟨rest, offset + 1, line + 1, 0⟩) := by
    rw [breaks, if_neg noSpace, Cursor.lineBreak?_of_begins begins]
  have broken : Cursor.lineBreak? ⟨'\n' :: rest, offset, line, column⟩ =
      some ('\n', ⟨rest, offset + 1, line + 1, 0⟩) := rfl
  have unspaced : Cursor.span ⟨'\n' :: rest, offset, line, column⟩ (· = ' ') =
      ([], ⟨'\n' :: rest, offset, line, column⟩) := rfl
  simp only [gap, unspaced, broken, Cursor.atSeparator_of_begins begins, ended]
  rfl

/-- A word is read up to a colon with a space behind it. -/
theorem read_key {w : List Char} (isWord : IsWord w) (indent : Int) (rest : List Char)
    (offset line column : Nat) :
    read false indent ⟨w ++ ':' :: ' ' :: rest, offset, line, column⟩ =
      (String.ofList w, false,
        ⟨':' :: ' ' :: rest, offset + w.length, line, column + w.length⟩) := by
  obtain ⟨c, more, rfl, free⟩ := isWord.exists_cons
  have found : word false (c :: more ++ ':' :: ' ' :: rest) = c :: more :=
    word_append isWord.2 (by simp [word, isGap])
  have noComment : c ≠ '#' := ne_of_isFree free (by decide)
  have after := Cursor.skip_word isWord.2 (':' :: ' ' :: rest) offset line column
  rw [read, words]
  simp only [found, after, gap_colon]
  simp [Cursor.next, noComment]

/-- A word is read up to the end of its line, and on to the next line. -/
theorem read_value {w : List Char} (isWord : IsWord w) (indent : Nat) {rest : List Char}
    (begins : BeginsLine rest) (offset line column : Nat) :
    read false indent ⟨w ++ '\n' :: rest, offset, line, column⟩ =
      (String.ofList w, true, ⟨rest, offset + w.length + 1, line + 1, 0⟩) := by
  obtain ⟨c, more, rfl, free⟩ := isWord.exists_cons
  have found : word false (c :: more ++ '\n' :: rest) = c :: more :=
    word_append isWord.2 (by simp [word, isGap, isBreak])
  have noComment : c ≠ '#' := ne_of_isFree free (by decide)
  have after := Cursor.skip_word isWord.2 ('\n' :: rest) offset line column
  rw [read, words]
  simp only [found, after, gap_feed begins]
  simp [Cursor.next, noComment]

end Plain

/-! ## Lines -/

/-- A line with a word as key and a word as value. -/
def line (entry : List Char × List Char) : List Char :=
  entry.1 ++ ':' :: ' ' :: (entry.2 ++ ['\n'])

/-- The text of lines. -/
def ofLines (lines : List (List Char × List Char)) : String := String.ofList (lines.flatMap line)

/-- The lexemes of a line. -/
def lineLexemes (entry : List Char × List Char) : List Lexeme :=
  [.key, .scalar (String.ofList entry.1) true, .value, .scalar (String.ofList entry.2) true]

/-- A line whose parts are words. The key is not so far from its colon that it is given up. -/
structure IsLine (entry : List Char × List Char) : Prop where
  key : IsWord entry.1
  value : IsWord entry.2
  short : entry.1.length ≤ 1024

instance (entry : List Char × List Char) : Decidable (IsLine entry) :=
  decidable_of_iff (IsWord entry.1 ∧ IsWord entry.2 ∧ entry.1.length ≤ 1024)
    ⟨fun ⟨key, value, short⟩ => ⟨key, value, short⟩,
      fun isLine => ⟨isLine.key, isLine.value, isLine.short⟩⟩

namespace Progress

/-- The state before a line, inside the mapping of the lines or before it. -/
def beforeLine (inside : Bool) (found : List Lexeme) (rest : List Char) (offset line : Nat) :
    Progress where
  cursor := ⟨rest, offset, line, 0⟩
  found := found.toArray
  depth := 0
  indent := if inside then 0 else -1
  outer := if inside then [-1] else []
  keyAllowed := true
  places := []

/-- The state before the colon of a line. -/
def beforeColon (inside : Bool) (found : List Lexeme) (key rest : List Char) (offset line : Nat) :
    Progress where
  cursor := ⟨':' :: ' ' :: rest, offset + key.length, line, key.length⟩
  found := found.toArray.push (.scalar (String.ofList key) true)
  depth := 0
  indent := if inside then 0 else -1
  outer := if inside then [-1] else []
  keyAllowed := false
  places := [(0, ⟨found.length, inside, offset, line, 0⟩)]

/-- The state before the value of a line. -/
def beforeValue (found : List Lexeme) (rest : List Char) (offset line column : Nat) : Progress where
  cursor := ⟨' ' :: rest, offset, line, column⟩
  found := found.toArray
  depth := 0
  indent := 0
  outer := [-1]
  keyAllowed := false
  places := []

/-- A step to the next lexeme. -/
theorem run_succ {fuel : Nat} {p q after : Progress} {c : Char}
    (here : (toNext (p.cursor.rest.length + 1) p).dropStale = .ok q)
    (kept : q.unwind q.cursor.column = q) (next : q.cursor.next = some c)
    (advances : q.advance c = .ok after) : run (fuel + 1) p = run fuel after := by
  have follows : p.following = .ok (after, true) := by
    simp only [following, here, bind, Except.bind, kept, next, advances]
    rfl
  rw [run, follows]

theorem toNext_succ {p : Progress} {c : Cursor} {ch : Char} {rest : List Char}
    (dropped : p.cursor.dropComment = c) (next : c.rest = ch :: rest)
    (noBreak : isBreak ch = false) (fuel : Nat) :
    toNext (fuel + 1) p = { p with cursor := c } := by
  rw [toNext, dropped, Cursor.lineBreak?_of_head next noBreak]

theorem toNext_of_head {p : Progress} {ch : Char} {rest : List Char}
    (next : p.cursor.rest = ch :: rest) (noSpace : ch ≠ ' ') (noComment : ch ≠ '#')
    (noBreak : isBreak ch = false) (fuel : Nat) : toNext (fuel + 1) p = p :=
  toNext_succ (Cursor.dropComment_of_head next noSpace noComment) next noBreak fuel

/-- A word that is free of special characters is a plain scalar. -/
theorem advance_of_isFree {p : Progress} {ch : Char} {rest : List Char}
    (next : p.cursor.rest = ch :: rest) (free : isFree ch) : p.advance ch = p.plain := by
  have differ : ∀ other, isFree other = false → ch ≠ other := fun other => ne_of_isFree free
  have begins : BeginsLine p.cursor.rest := by
    rw [next]
    rintro c ⟨⟩
    exact free
  have noMark : ∀ mark, isFree mark = false → p.cursor.atMark mark = false :=
    fun mark special => Cursor.atMark_of_begins begins special _ _ _
  have starts : p.startsPlain := by
    have noIndicator : "-?:,[]\x7b\x7d#&*!|>'\"%@\x60".toList.contains ch = false := by
      simp only [isFree, Bool.and_eq_true, Bool.not_eq_true'] at free
      exact free.2
    rw [startsPlain, Cursor.next, next, List.head?_cons]
    dsimp only
    rw [isGap_of_isFree free, noIndicator]
    rfl
  unfold advance
  simp only [differ '%' (by decide), noMark '-' (by decide), noMark '.' (by decide),
    differ '[' (by decide), differ '\x7b' (by decide), differ ']' (by decide),
    differ '\x7d' (by decide), differ ',' (by decide), differ '-' (by decide),
    differ '?' (by decide), differ ':' (by decide), differ '*' (by decide),
    differ '&' (by decide), differ '!' (by decide), differ '|' (by decide),
    differ '>' (by decide), differ '\'' (by decide), differ '"' (by decide), starts]
  simp

theorem plain_eq_ok {p q : Progress} {text : String} {broken : Bool} {c : Cursor}
    (kept : p.keepPlace = .ok q)
    (read : Plain.read q.inFlow q.indent q.cursor = (text, broken, c)) :
    p.plain = .ok { q.putAt (.scalar text true) c with keyAllowed := broken } := by
  simp only [plain, kept, bind, Except.bind, read]
  rfl

theorem run_key {inside : Bool} {found : List Lexeme} {key : List Char} (word : IsWord key)
    (fuel : Nat) (rest : List Char) (offset line : Nat) :
    run (fuel + 1) (beforeLine inside found (key ++ ':' :: ' ' :: rest) offset line) =
      run fuel (beforeColon inside found key rest offset line) := by
  obtain ⟨c, more, rfl, free⟩ := word.exists_cons
  refine run_succ (q := beforeLine inside found (c :: more ++ ':' :: ' ' :: rest) offset line)
    (c := c) ?_ ?_ rfl ?_
  · rw [toNext_of_head rfl (ne_of_isFree free (by decide)) (ne_of_isFree free (by decide))
      (isBreak_of_isFree free)]
    rfl
  · cases inside <;> rfl
  · rw [advance_of_isFree rfl free, plain]
    have kept : (beforeLine inside found (c :: more ++ ':' :: ' ' :: rest) offset line).keepPlace =
        .ok { beforeLine inside found (c :: more ++ ':' :: ' ' :: rest) offset line with
          places := [(0, ⟨found.length, inside, offset, line, 0⟩)] } := by
      cases inside <;> rfl
    exact plain_eq_ok kept (Plain.read_key word _ rest offset line 0) |>.trans (by
      rw [Nat.zero_add]
      rfl)

theorem advance_colon {p : Progress} {rest : List Char}
    (next : p.cursor.rest = ':' :: ' ' :: rest) : p.advance ':' = p.valueMark := by
  have noMark : ∀ mark, mark ≠ ':' → p.cursor.atMark mark = false := by
    intro mark differ
    rw [Cursor.atMark, next]
    cases rest <;> simp [Ne.symm differ]
  have spaced : isGap p.cursor.second = true := by
    rw [Cursor.second, next]
    rfl
  unfold advance
  simp [noMark '-' (by decide), noMark '.' (by decide), spaced]

/-- Inside the mapping of the lines no collection ends behind the first column. -/
theorem unwind_inside {p : Progress} (flat : p.depth = 0) (indent : p.indent = 0)
    (outer : p.outer = [-1]) : p.unwind p.cursor.column = p := by
  have further : ¬(p.cursor.column : Int) < 0 := by omega
  rw [unwind, inFlow, flat, outer, unwindTo, indent, if_neg further]
  rfl

theorem run_colon {inside : Bool} {found : List Lexeme} {key : List Char}
    (short : key.length ≤ 1024) (fuel : Nat) (rest : List Char) (offset line : Nat) :
    run (fuel + 1) (beforeColon inside found key rest offset line) =
      run fuel (beforeValue (found ++ (if inside then [] else [.blockMappingStart]) ++
        [.key, .scalar (String.ofList key) true, .value]) rest (offset + key.length + 1) line
        (key.length + 1)) := by
  refine run_succ (q := beforeColon inside found key rest offset line) (c := ':') ?_ ?_ rfl ?_
  · rw [toNext_of_head rfl (by decide) (by decide) (by decide)]
    have fresh : ¬offset + 1024 < offset + key.length := by omega
    simp [dropStale, isStale, beforeColon, fresh]
  · cases inside with
    | false => rfl
    | true => exact unwind_inside rfl rfl rfl
  · rw [advance_colon rfl]
    cases inside with
    | false =>
        simp [valueMark, beforeColon, beforeValue, insertAt, inFlow, putAt, Cursor.step]
        rfl
    | true =>
        simp [valueMark, beforeColon, beforeValue, insertAt, inFlow, putAt, Cursor.step]
        rfl

theorem run_value {found : List Lexeme} {value : List Char} (word : IsWord value) (fuel : Nat)
    {rest : List Char} (begins : BeginsLine rest) (offset line column : Nat) :
    run (fuel + 1) (beforeValue found (value ++ '\n' :: rest) offset line column) =
      run fuel (beforeLine true (found ++ [.scalar (String.ofList value) true]) rest
        (offset + value.length + 2) (line + 1)) := by
  obtain ⟨c, more, rfl, free⟩ := word.exists_cons
  have noSpace : c ≠ ' ' := ne_of_isFree free (by decide)
  have noComment : c ≠ '#' := ne_of_isFree free (by decide)
  let q : Progress := { beforeValue found (c :: more ++ '\n' :: rest) offset line column with
    cursor := ⟨c :: more ++ '\n' :: rest, offset + 1, line, column + 1⟩ }
  have dropped : Cursor.dropComment ⟨' ' :: (c :: more ++ '\n' :: rest), offset, line, column⟩ =
      q.cursor := by
    have narrow : isBreak ' ' = false := by decide
    simp [Cursor.dropComment, Cursor.dropSpaces, Cursor.dropWhile, Cursor.span, Cursor.skip,
      Cursor.step, Cursor.next, noSpace, noComment, narrow, q]
  refine run_succ (q := q) (c := c) ?_ (unwind_inside rfl rfl rfl) rfl ?_
  · rw [toNext_succ dropped rfl (isBreak_of_isFree free)]
    rfl
  · rw [advance_of_isFree rfl free]
    refine (plain_eq_ok (q := q) rfl (Plain.read_value word 0 begins _ line _)).trans ?_
    have behind : offset + 1 + (c :: more).length + 1 = offset + (c :: more).length + 2 := by omega
    rw [behind, beforeLine, ← List.push_toArray]
    rfl

/-- What the first line opens. -/
def opening (inside : Bool) : List Lexeme := if inside then [] else [.blockMappingStart]

/-- A line adds its lexemes. -/
theorem run_line (inside : Bool) (found : List Lexeme) {entry : List Char × List Char}
    (isLine : IsLine entry) (fuel : Nat) {rest : List Char} (begins : BeginsLine rest)
    (offset number : Nat) :
    ∃ after, run (fuel + 3) (beforeLine inside found (line entry ++ rest) offset number) =
      run fuel (beforeLine true (found ++ opening inside ++ lineLexemes entry) rest after
        (number + 1)) := by
  obtain ⟨key, value⟩ := entry
  have text : line (key, value) ++ rest = key ++ ':' :: ' ' :: (value ++ '\n' :: rest) := by
    simp [line]
  rw [text, run_key isLine.key, run_colon isLine.short, run_value isLine.value _ begins,
    List.append_assoc]
  exact ⟨_, rfl⟩

/-- Behind the last line the mapping ends. -/
theorem run_end (fuel : Nat) (found : List Lexeme) (offset number : Nat) :
    run (fuel + 1) (beforeLine true found [] offset number) =
      ⟨found ++ [.blockEnd, .streamEnd], .malformed⟩ := by
  show Lexed.mk ((found.toArray.push .blockEnd).push .streamEnd).toList .malformed = _
  simp

theorem beginsLine_lines {lines : List (List Char × List Char)}
    (each : ∀ entry ∈ lines, IsLine entry) : BeginsLine (lines.flatMap line) := by
  cases lines with
  | nil => exact nofun
  | cons entry rest =>
      obtain ⟨c, more, key, free⟩ := (each entry List.mem_cons_self).key.exists_cons
      rw [List.flatMap_cons, line, key]
      rintro _ ⟨⟩
      exact free

/-- The lines add their lexemes one after another. -/
theorem run_lines {lines : List (List Char × List Char)} (each : ∀ entry ∈ lines, IsLine entry)
    (fuel : Nat) (found : List Lexeme) (offset number : Nat) :
    run (fuel + 1 + 3 * lines.length) (beforeLine true found (lines.flatMap line) offset number) =
      ⟨found ++ lines.flatMap lineLexemes ++ [.blockEnd, .streamEnd], .malformed⟩ := by
  -- Each line leaves the state before the next one, with its lexemes added and three steps spent.
  induction lines generalizing found offset number with
  | nil =>
      simp only [List.flatMap_nil, List.append_nil]
      exact run_end fuel found offset number
  | cons entry rest ih =>
      obtain ⟨isLine, others⟩ := List.forall_mem_cons.mp each
      obtain ⟨after, stepped⟩ := run_line true found isLine
        (fuel + 1 + 3 * rest.length) (beginsLine_lines others) offset number
      have counts : fuel + 1 + 3 * (entry :: rest).length = fuel + 1 + 3 * rest.length + 3 := by
        rw [List.length_cons]
        omega
      rw [counts, List.flatMap_cons, stepped, ih others, List.flatMap_cons]
      simp [opening]

end Progress

theorem three_le_length_line (entry : List Char × List Char) : 3 ≤ (line entry).length := by
  simp only [line, List.length_append, List.length_cons, List.length_nil]
  omega

theorem three_mul_le_length_lines (lines : List (List Char × List Char)) :
    3 * lines.length ≤ (lines.flatMap line).length := by
  induction lines with
  | nil => exact Nat.le_refl 0
  | cons entry rest ih =>
      have here := three_le_length_line entry
      rw [List.flatMap_cons, List.length_append, List.length_cons]
      omega

/-- What stands in lines besides the characters of words. -/
theorem mem_lines {lines : List (List Char × List Char)} (each : ∀ entry ∈ lines, IsLine entry)
    {c : Char} (listed : c ∈ lines.flatMap line) : isFree c ∨ c ∈ [':', ' ', '\n'] := by
  obtain ⟨entry, known, inLine⟩ := List.mem_flatMap.mp listed
  have isLine := each entry known
  simp only [line, List.mem_append, List.mem_cons, List.not_mem_nil, or_false] at inLine
  rcases inLine with inKey | rfl | rfl | inValue | rfl
  · exact .inl (isLine.key.2 c inKey)
  · exact .inr (by decide)
  · exact .inr (by decide)
  · exact .inl (isLine.value.2 c inValue)
  · exact .inr (by decide)

theorem all_isAllowed_lines {lines : List (List Char × List Char)}
    (each : ∀ entry ∈ lines, IsLine entry) : (lines.flatMap line).all isAllowed := by
  have marks : [':', ' ', '\n'].all isAllowed := by decide
  exact List.all_eq_true.mpr fun c listed =>
    (mem_lines each listed).elim isAllowed_of_isFree (List.all_eq_true.mp marks c)

/-- The lexemes of a text of lines. -/
theorem lexemes_ofLines {lines : List (List Char × List Char)} (filled : lines ≠ [])
    (each : ∀ entry ∈ lines, IsLine entry) :
    lexemes (ofLines lines) =
      ⟨.blockMappingStart :: (lines.flatMap lineLexemes ++ [.blockEnd, .streamEnd]),
        .malformed⟩ := by
  have noMark : (lines.flatMap line).head? ≠ some '\ufeff' := fun marked =>
    absurd (Progress.beginsLine_lines each '\ufeff' marked) (by decide)
  have long := three_mul_le_length_lines lines
  rw [lexemes, ofLines, String.toList_ofList]
  dsimp only
  rw [if_pos (all_isAllowed_lines each), if_neg noMark]
  -- The first line opens the mapping, and the others are read inside it.
  obtain ⟨first, rest, rfl⟩ := List.exists_cons_of_ne_nil filled
  obtain ⟨isLine, others⟩ := List.forall_mem_cons.mp each
  obtain ⟨extra, fuel⟩ := Nat.exists_eq_add_of_le long
  have counts : ((first :: rest).flatMap line).length + 1 =
      extra + 1 + 3 * rest.length + 3 := by
    rw [fuel, List.length_cons]
    omega
  obtain ⟨after, stepped⟩ := Progress.run_line false [] isLine (extra + 1 + 3 * rest.length)
    (Progress.beginsLine_lines others) 0 0
  have start : Progress.start ((first :: rest).flatMap line) =
      Progress.beforeLine false [] (line first ++ rest.flatMap line) 0 0 := rfl
  rw [counts, start, stepped, Progress.run_lines others]
  rfl

/-! ## Texts of lines -/

theorem withFeeds_ofLines {lines : List (List Char × List Char)}
    (each : ∀ entry ∈ lines, IsLine entry) : Text.withFeeds (ofLines lines) = ofLines lines := by
  have noReturn : '\r' ∉ lines.flatMap line := by
    intro listed
    rcases mem_lines each listed with free | mark
    · exact absurd free (by decide)
    · exact absurd mark (by decide)
  rw [Text.withFeeds, ofLines, String.toList_ofList, Text.feeds_of_not_mem noReturn]

theorem isBlankText_ofLines {lines : List (List Char × List Char)} (filled : lines ≠ []) :
    Text.isBlankText (ofLines lines) = false := by
  obtain ⟨first, rest, rfl⟩ := List.exists_cons_of_ne_nil filled
  have colon : ':' ∈ (first :: rest).flatMap line :=
    List.mem_flatMap.mpr ⟨first, List.mem_cons_self, by simp [line]⟩
  rw [Text.isBlankText, ofLines, String.toList_ofList, List.all_eq_false]
  exact ⟨':', colon, by decide⟩

end Yaml

end Bindery
