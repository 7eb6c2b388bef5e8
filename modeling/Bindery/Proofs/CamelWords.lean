import Bindery.Proofs.TextPatterns
import Bindery.Text.CamelCase

/-!
# Words of camel case

The words of camel case are the matches of a pattern that is tried alternative by alternative: a run
of at least two capitals gives characters back until what follows ends it, a capital with small
letters, capitals, digits. The alternatives overlap, and the end of a run of capitals is told by
word characters of every script. For all that the search leaves out no letter and no digit of ASCII
and takes none twice, so that camel case changes nothing but the size of letters and what stands
between words.
-/

namespace Bindery.Text

/-! ## The pattern of words -/

namespace Pattern

/-- What may follow a run of capitals: a capital of another word, a digit, a line or the end of a
word. -/
def afterCapitals : Pattern :=
  choice (sequence (one Char.isUpper) (run 1 Char.isLower))
    (choice (one Char.isDigit) (choice (one (· = '_')) boundary))

/-- The words of camel case. -/
def camelWord : Pattern :=
  choice (sequence (run 2 Char.isUpper) (ahead afterCapitals))
    (choice (sequence (maybe (one Char.isUpper)) (run 1 Char.isLower))
      (choice (run 1 Char.isUpper) (run 1 Char.isDigit)))

end Pattern

/-! ## Letters -/

theorem isUpper_iff {c : Char} : c.isUpper ↔ 65 ≤ c.toNat ∧ c.toNat ≤ 90 := by
  have bounds : c.isUpper = decide (c.val ≥ 65 ∧ c.val ≤ 90) := rfl
  rw [bounds, decide_eq_true_eq, ge_iff_le, UInt32.le_iff_toNat_le, UInt32.le_iff_toNat_le]
  rfl

theorem isLower_iff {c : Char} : c.isLower ↔ 97 ≤ c.toNat ∧ c.toNat ≤ 122 := by
  have bounds : c.isLower = (decide (c.val ≥ 97) && decide (c.val ≤ 122)) := rfl
  rw [bounds, Bool.and_eq_true, decide_eq_true_eq, decide_eq_true_eq, ge_iff_le,
    UInt32.le_iff_toNat_le, UInt32.le_iff_toNat_le]
  rfl

theorem isDigit_iff {c : Char} : c.isDigit ↔ 48 ≤ c.toNat ∧ c.toNat ≤ 57 := by
  simp only [Char.isDigit, Bool.and_eq_true, decide_eq_true_eq, ge_iff_le, UInt32.le_iff_toNat_le]
  rfl

theorem isAlphanum_eq (c : Char) : c.isAlphanum = (c.isUpper || c.isLower || c.isDigit) := rfl

/-- A capital is a word character and neither small nor a digit nor a line. -/
theorem of_isUpper {c : Char} (capital : c.isUpper) :
    isWord c ∧ c.isLower = false ∧ c.isDigit = false ∧ c ≠ '_' := by
  have word : isWord c := isWord_of_isAlphanum (by simp [isAlphanum_eq, capital])
  have noLine : c ≠ '_' := by
    rintro rfl
    cases capital
  rw [isUpper_iff] at capital
  refine ⟨word, ?_, ?_, noLine⟩
  · rw [← Bool.not_eq_true, isLower_iff]
    omega
  · rw [← Bool.not_eq_true, isDigit_iff]
    omega

/-- A small letter is a word character and neither a capital nor a digit nor a line. -/
theorem of_isLower {c : Char} (small : c.isLower) :
    isWord c ∧ c.isUpper = false ∧ c.isDigit = false ∧ c ≠ '_' := by
  have word : isWord c := isWord_of_isAlphanum (by simp [isAlphanum_eq, small])
  have noLine : c ≠ '_' := by
    rintro rfl
    cases small
  rw [isLower_iff] at small
  refine ⟨word, ?_, ?_, noLine⟩
  · rw [← Bool.not_eq_true, isUpper_iff]
    omega
  · rw [← Bool.not_eq_true, isDigit_iff]
    omega

/-! ## Tries of words -/

namespace Pattern

variable (before : Option Char) (cs : List Char)

/-- Behind a capital, another one ends a word if it begins a new one. -/
theorem lengths_afterCapitals_of_isUpper {c d : Char} (capital : c.isUpper) (next : d.isUpper)
    (rest : List Char) :
    afterCapitals.lengths (some c) (d :: rest) = [] ↔ rest.head?.any Char.isLower = false := by
  obtain ⟨word, -, -, -⟩ := of_isUpper capital
  obtain ⟨nextWord, -, noDigit, noLine⟩ := of_isUpper next
  have shown : afterCapitals.lengths (some c) (d :: rest) =
      ((run 1 Char.isLower).lengths (some d) rest).map (1 + ·) := by
    simp [afterCapitals, word, next, nextWord, noDigit, noLine]
  rw [shown, List.map_eq_nil_iff, lengths_run_eq_nil_iff]

/-- Behind a capital, a small letter does not end a word. -/
theorem lengths_afterCapitals_of_isLower {c d : Char} (capital : c.isUpper) (next : d.isLower)
    (rest : List Char) : afterCapitals.lengths (some c) (d :: rest) = [] := by
  obtain ⟨word, -, -, -⟩ := of_isUpper capital
  obtain ⟨nextWord, noCapital, noDigit, noLine⟩ := of_isLower next
  simp [afterCapitals, word, nextWord, noCapital, noDigit, noLine]

/-- Does a word of capitals end behind the first `n` characters? -/
def endsAfter (before : Option Char) (cs : List Char) (n : Nat) : Bool :=
  !(afterCapitals.lengths ((cs.take n).getLast?.or before) (cs.drop n)).isEmpty

/-- Of the runs of at least two capitals behind which a word ends the longest one is taken. -/
theorem head?_lengths_capitals :
    ((sequence (run 2 Char.isUpper) (ahead afterCapitals)).lengths before cs).head? =
      (List.range' 2 ((cs.takeWhile Char.isUpper).length - 1)).reverse.find?
        (endsAfter before cs) := by
  have count : (cs.takeWhile Char.isUpper).length + 1 - 2 =
      (cs.takeWhile Char.isUpper).length - 1 := by omega
  rw [lengths_sequence, List.head?_flatMap, lengths_run, count, List.find?_eq_findSome?_guard]
  congr 1
  funext n
  rw [lengths_ahead, Option.guard, endsAfter]
  cases afterCapitals.lengths ((cs.take n).getLast?.or before) (cs.drop n) <;> simp

variable {before cs}

/-- Inside a run of capitals a word ends only before the last one, and only if that one has small
letters behind it. -/
theorem endsAfter_of_lt {n : Nat} (inside : n + 1 < (cs.takeWhile Char.isUpper).length) :
    endsAfter before cs (n + 1) =
      (decide (n + 2 = (cs.takeWhile Char.isUpper).length) &&
        (cs.dropWhile Char.isUpper).head?.any Char.isLower) := by
  obtain ⟨c, capital, -, last⟩ := drop_eq_cons_of_lt (Nat.lt_of_succ_lt inside)
  obtain ⟨d, next, split, -⟩ := drop_eq_cons_of_lt inside
  have ends : endsAfter before cs (n + 1) = (cs.drop (n + 2)).head?.any Char.isLower := by
    rw [endsAfter, last, split, Option.some_or]
    have empty := lengths_afterCapitals_of_isUpper capital next (cs.drop (n + 2))
    rw [← List.isEmpty_iff, ← Bool.not_eq_true] at empty
    rw [Bool.eq_iff_iff, Bool.not_eq_true', ← Bool.not_eq_true, empty, not_not]
  rw [ends]
  by_cases final : n + 2 = (cs.takeWhile Char.isUpper).length
  · rw [decide_eq_true final, Bool.true_and, ← drop_length_takeWhile, final]
  · have more : n + 2 < (cs.takeWhile Char.isUpper).length := by omega
    obtain ⟨e, another, split, -⟩ := drop_eq_cons_of_lt more
    rw [decide_eq_false final, Bool.false_and, split, List.head?_cons, Option.any_some,
      (of_isUpper another).2.1]

/-- Before a small letter a run of capitals does not end a word. -/
theorem endsAfter_length_of_small {n : Nat} (all : n + 1 = (cs.takeWhile Char.isUpper).length)
    (small : (cs.dropWhile Char.isUpper).head?.any Char.isLower) :
    endsAfter before cs (n + 1) = false := by
  have inside : n < (cs.takeWhile Char.isUpper).length := by omega
  obtain ⟨c, capital, -, last⟩ := drop_eq_cons_of_lt inside
  rw [endsAfter, last, all, drop_length_takeWhile, Option.some_or]
  cases follows : cs.dropWhile Char.isUpper with
  | nil => simp [follows] at small
  | cons d rest =>
      rw [follows] at small
      rw [lengths_afterCapitals_of_isLower capital (by simpa using small)]
      rfl

/-- With at least two capitals at the start, those of them that end a word are taken: all but the
last one before small letters, and otherwise all of them or none. -/
theorem head?_lengths_capitals_of_small {n : Nat}
    (capitals : (cs.takeWhile Char.isUpper).length = n + 2)
    (small : (cs.dropWhile Char.isUpper).head?.any Char.isLower) :
    ((sequence (run 2 Char.isUpper) (ahead afterCapitals)).lengths before cs).head? =
      if n = 0 then none else some (n + 1) := by
  rw [head?_lengths_capitals, capitals, Nat.add_sub_cancel_right (n := n + 1) (m := 1),
    List.range'_1_concat, List.reverse_concat, Nat.add_comm 2 n,
    List.find?_cons_of_neg (by rw [endsAfter_length_of_small capitals.symm small]; decide)]
  cases n with
  | zero => rfl
  | succ m =>
      have ends : endsAfter before cs (m + 2) := by
        rw [endsAfter_of_lt (by omega), capitals, small]
        simp
      rw [List.range'_1_concat, List.reverse_concat, Nat.add_comm 2 m,
        List.find?_cons_of_pos ends, if_neg (by omega)]

theorem head?_lengths_capitals_of_not_small
    (none : (cs.dropWhile Char.isUpper).head?.any Char.isLower = false) :
    ∀ n ∈ ((sequence (run 2 Char.isUpper) (ahead afterCapitals)).lengths before cs).head?,
      n = (cs.takeWhile Char.isUpper).length := by
  rw [head?_lengths_capitals]
  intro n found
  have ends := List.find?_some found
  have listed := List.mem_of_find?_eq_some found
  rw [List.mem_reverse, List.mem_range'_1] at listed
  obtain ⟨m, rfl⟩ : ∃ m, n = m + 1 := ⟨n - 1, by omega⟩
  by_contra other
  rw [endsAfter_of_lt (by omega), none, Bool.and_false] at ends
  cases ends

/-- Small letters are taken with the capital before them, unless there are several. -/
theorem head?_lengths_capitalised :
    ((sequence (maybe (one Char.isUpper)) (run 1 Char.isLower)).lengths before cs).head? =
      if (cs.takeWhile Char.isUpper).length ≤ 1 ∧
          ((cs.dropWhile Char.isUpper).takeWhile Char.isLower).length ≠ 0 then
        some ((cs.takeWhile Char.isUpper).length +
          ((cs.dropWhile Char.isUpper).takeWhile Char.isLower).length)
      else none := by
  rw [head?_lengths_maybe_sequence, head?_lengths_one_sequence, head?_lengths_run,
    head?_lengths_run]
  cases cs with
  | nil => rfl
  | cons c rest =>
      cases capital : c.isUpper with
      | false => cases small : c.isLower <;> simp [capital, small]
      | true =>
          have noSmall := (of_isUpper capital).2.1
          cases rest with
          | nil => simp [capital, noSmall]
          | cons d more =>
              cases next : d.isUpper with
              | false => by_cases small : d.isLower <;> simp [capital, noSmall, next, small]
              | true => simp [capital, noSmall, next, (of_isUpper next).2.1]

/-! ## Words -/

/-- The length of a word is that of the first match that is tried. -/
theorem head?_lengths_camelWord (before : Option Char) (cs : List Char) :
    (camelWord.lengths before cs).head? =
      if CamelCase.wordLength cs = 0 then none else some (CamelCase.wordLength cs) := by
  rw [camelWord, head?_lengths_choice, head?_lengths_choice, head?_lengths_choice,
    head?_lengths_capitalised, head?_lengths_run, head?_lengths_run, CamelCase.wordLength,
    drop_length_takeWhile]
  have small := head?_any_eq_decide Char.isLower (cs.dropWhile Char.isUpper)
  have few := head?_lengths_capitals before cs
  -- By the capitals at the start, and then by the small letters behind them.
  match capitals : (cs.takeWhile Char.isUpper).length,
    smalls : ((cs.dropWhile Char.isUpper).takeWhile Char.isLower).length with
  | 0, s =>
      rw [capitals] at few
      rw [few]
      cases s <;> simp
  | 1, s =>
      rw [capitals] at few
      rw [few]
      cases s <;> simp [Nat.add_comm]
  | k + 2, 0 =>
      rw [smalls] at small
      have taken := @head?_lengths_capitals_of_not_small before cs small
      rw [capitals] at taken
      cases tried :
          ((sequence (run 2 Char.isUpper) (ahead afterCapitals)).lengths before cs).head? with
      | none => simp
      | some n =>
          obtain rfl := taken n tried
          simp
  | k + 2, s + 1 =>
      rw [smalls] at small
      rw [head?_lengths_capitals_of_small capitals small]
      cases k <;> simp

end Pattern

namespace CamelCase

/-- The words are the matches of the pattern. -/
theorem words_eq_found (before : Option Char) (cs : List Char) :
    words cs = Pattern.camelWord.found before cs := by
  induction cs using words.induct generalizing before with
  | case1 => rw [words, Pattern.found]
  | case2 c rest none ih =>
      rw [words, none, Pattern.found, Pattern.head?_lengths_camelWord, if_pos none]
      exact ih _
  | case3 c rest n word ih =>
      rw [words, word, Pattern.found, Pattern.head?_lengths_camelWord, if_neg (by omega), word]
      exact congrArg _ (ih _)

/-! ## Letters and digits -/

/-- A word is a run of digits, or ends within capitals with small letters behind them. -/
theorem wordLength_le (cs : List Char) :
    wordLength cs = (cs.takeWhile Char.isDigit).length ∨
      wordLength cs ≤ (cs.takeWhile Char.isUpper).length +
        ((cs.dropWhile Char.isUpper).takeWhile Char.isLower).length := by
  rw [wordLength, drop_length_takeWhile]
  split <;> omega

/-- A word holds letters and digits of ASCII alone. -/
theorem isAlphanum_of_mem_word {cs : List Char} {c : Char}
    (listed : c ∈ cs.take (wordLength cs)) : c.isAlphanum := by
  rcases wordLength_le cs with digits | letters
  · rw [digits, ← List.prefix_iff_eq_take.mp (List.takeWhile_prefix _)] at listed
    have digit := List.all_eq_true.mp List.all_takeWhile _ listed
    simp [isAlphanum_eq, digit]
  · have together : cs.take ((cs.takeWhile Char.isUpper).length +
        ((cs.dropWhile Char.isUpper).takeWhile Char.isLower).length) =
        cs.takeWhile Char.isUpper ++ (cs.dropWhile Char.isUpper).takeWhile Char.isLower := by
      rw [List.take_add, drop_length_takeWhile,
        ← List.prefix_iff_eq_take.mp (List.takeWhile_prefix _),
        ← List.prefix_iff_eq_take.mp (List.takeWhile_prefix _)]
    have inside := List.take_subset_take_left cs letters listed
    rw [together, List.mem_append] at inside
    rcases inside with capital | small
    · have capital := List.all_eq_true.mp List.all_takeWhile _ capital
      simp [isAlphanum_eq, capital]
    · have small := List.all_eq_true.mp List.all_takeWhile _ small
      simp [isAlphanum_eq, small]

/-- Where no word begins there is neither a letter nor a digit. -/
theorem not_isAlphanum_of_wordLength {c : Char} {rest : List Char}
    (none : wordLength (c :: rest) = 0) : c.isAlphanum = false := by
  rw [wordLength, drop_length_takeWhile] at none
  have digit := head?_any_eq_decide Char.isDigit (c :: rest)
  have capital := head?_any_eq_decide Char.isUpper (c :: rest)
  have small := head?_any_eq_decide Char.isLower ((c :: rest).dropWhile Char.isUpper)
  -- Only without any capital and any small letter is a word missing.
  match capitals : ((c :: rest).takeWhile Char.isUpper).length,
    smalls : (((c :: rest).dropWhile Char.isUpper).takeWhile Char.isLower).length with
  | 0, 0 =>
      rw [capitals, smalls] at none
      have digits : ((c :: rest).takeWhile Char.isDigit).length = 0 := none
      rw [capitals] at capital
      rw [smalls] at small
      rw [digits] at digit
      have noCapital : c.isUpper = false := by simpa using capital
      rw [List.dropWhile_cons_of_neg (by simp [noCapital])] at small
      have noSmall : c.isLower = false := by simpa using small
      have noDigit : c.isDigit = false := by simpa using digit
      simp [isAlphanum_eq, noCapital, noSmall, noDigit]
  | 0, s + 1 | k + 1, 0 | 1, s + 1 | 2, s + 1 | k + 3, s + 1 => simp [capitals, smalls] at none

/-- The words together are the letters and the digits of the text. -/
theorem flatten_words (cs : List Char) : (words cs).flatten = cs.filter Char.isAlphanum := by
  induction cs using words.induct with
  | case1 => rw [words]; rfl
  | case2 c rest none ih =>
      rw [words, none, ih, List.filter_cons_of_neg (by simp [not_isAlphanum_of_wordLength none])]
  | case3 c rest n word ih =>
      have taken : (c :: rest.take n).filter Char.isAlphanum = c :: rest.take n := by
        rw [List.filter_eq_self]
        intro d listed
        have inside : d ∈ (c :: rest).take (wordLength (c :: rest)) := by rwa [word]
        exact isAlphanum_of_mem_word inside
      rw [words, word, List.flatten_cons, ih]
      conv_rhs => rw [← List.take_append_drop (n + 1) (c :: rest)]
      rw [List.filter_append]
      exact congrArg (· ++ _) taken.symm

theorem isAlphanum_of_mem_words {cs word : List Char} (listed : word ∈ words cs) :
    ∀ c ∈ word, c.isAlphanum := by
  intro c inside
  have together : c ∈ (words cs).flatten := List.mem_flatten.mpr ⟨word, listed, inside⟩
  rw [flatten_words] at together
  exact (List.mem_filter.mp together).2

theorem ne_nil_of_mem_words {cs word : List Char} (listed : word ∈ words cs) : word ≠ [] := by
  induction cs using words.induct with
  | case1 => simp [words] at listed
  | case2 c rest none ih =>
      rw [words, none] at listed
      exact ih listed
  | case3 c rest n found ih =>
      rw [words, found] at listed
      rcases List.mem_cons.mp listed with rfl | later
      · exact List.cons_ne_nil _ _
      · exact ih later

/-! ## The size of letters -/

/-- What holds of every letter and digit of ASCII, one after the other. -/
theorem forall_isAlphanum (holds : Char → Bool)
    (each : (List.range 128).all fun n => !(Char.ofNat n).isAlphanum || holds (Char.ofNat n))
    {c : Char} (alphanum : c.isAlphanum) : holds c := by
  have ascii : c.toNat < 128 := by
    simp only [isAlphanum_eq, Bool.or_eq_true, isUpper_iff, isLower_iff,
      isDigit_iff] at alphanum
    omega
  have here := List.all_eq_true.mp each c.toNat (List.mem_range.mpr ascii)
  rw [Char.ofNat_toNat, alphanum] at here
  simpa using here

theorem toLower_toUpper {c : Char} (alphanum : c.isAlphanum) : c.toUpper.toLower = c.toLower := by
  have facts := forall_isAlphanum (fun c => c.toUpper.toLower == c.toLower)
    (by decide +kernel) alphanum
  exact eq_of_beq facts

theorem isLower_or_isDigit_toLower {c : Char} (alphanum : c.isAlphanum) :
    c.toLower.isLower || c.toLower.isDigit :=
  forall_isAlphanum (fun c => c.toLower.isLower || c.toLower.isDigit) (by decide +kernel) alphanum

theorem toLower_toLower {c : Char} (alphanum : c.isAlphanum) : c.toLower.toLower = c.toLower := by
  have facts := forall_isAlphanum (fun c => c.toLower.toLower == c.toLower)
    (by decide +kernel) alphanum
  exact eq_of_beq facts

theorem toLower_small {word : List Char} (alphanum : ∀ c ∈ word, c.isAlphanum) :
    (small word).map Char.toLower = word.map Char.toLower := by
  rw [small, List.map_map]
  exact List.map_congr_left fun c listed => toLower_toLower (alphanum c listed)

theorem toLower_capitalised {word : List Char} (alphanum : ∀ c ∈ word, c.isAlphanum) :
    (capitalised word).map Char.toLower = word.map Char.toLower := by
  cases word with
  | nil => rfl
  | cons c rest =>
      have first := toLower_toUpper (alphanum c List.mem_cons_self)
      have others := toLower_small fun d listed => alphanum d (List.mem_cons_of_mem _ listed)
      rw [capitalised, List.map_cons, List.map_cons, first, others]

/-- Put together, words change nothing but the size of their letters. -/
theorem toLower_join {found : List (List Char)}
    (alphanum : ∀ word ∈ found, ∀ c ∈ word, c.isAlphanum) :
    (join found).map Char.toLower = found.flatten.map Char.toLower := by
  cases found with
  | nil => rfl
  | cons word more =>
      have later : (more.map capitalised).map (List.map Char.toLower) =
          more.map (List.map Char.toLower) := by
        rw [List.map_map]
        exact List.map_congr_left fun other listed =>
          toLower_capitalised (alphanum other (List.mem_cons_of_mem _ listed))
      rw [join, List.map_append, List.map_flatten, later, toLower_small (alphanum word
        List.mem_cons_self), List.flatten_cons, List.map_append, List.map_flatten]

/-- The first word is small. -/
theorem head?_join {found : List (List Char)}
    (alphanum : ∀ word ∈ found, ∀ c ∈ word, c.isAlphanum)
    (filled : ∀ word ∈ found, word ≠ []) :
    (join found).head?.all fun c => c.isLower || c.isDigit := by
  cases found with
  | nil => rfl
  | cons word more =>
      cases word with
      | nil => exact absurd rfl (filled [] List.mem_cons_self)
      | cons c rest =>
          have first := alphanum (c :: rest) List.mem_cons_self c List.mem_cons_self
          simpa [join, small] using isLower_or_isDigit_toLower first

end CamelCase

/-- Camel case is made of the matches of the pattern of its words. But for the size of letters it
holds the letters and digits of ASCII that the text holds, in their order; it is empty exactly if
there are none; and it begins with a small letter or a digit. -/
theorem camelCase_keeps_letters_and_digits (s : String) :
    camelCase s = String.ofList (CamelCase.join (Pattern.camelWord.found none s.toList)) ∧
      (camelCase s).toList.map Char.toLower =
        (s.toList.filter Char.isAlphanum).map Char.toLower ∧
      (camelCase s = "" ↔ s.toList.filter Char.isAlphanum = []) ∧
      (camelCase s).toList.head?.all fun c => c.isLower || c.isDigit := by
  have alphanum : ∀ word ∈ CamelCase.words s.toList, ∀ c ∈ word, c.isAlphanum :=
    fun word => CamelCase.isAlphanum_of_mem_words
  have kept : (camelCase s).toList.map Char.toLower =
      (s.toList.filter Char.isAlphanum).map Char.toLower := by
    rw [camelCase, String.toList_ofList, CamelCase.toLower_join alphanum, CamelCase.flatten_words]
  refine ⟨?_, kept, ?_, ?_⟩
  · rw [camelCase, CamelCase.words_eq_found none]
  · rw [← String.toList_eq_nil_iff, ← List.map_eq_nil_iff (f := Char.toLower), kept,
      List.map_eq_nil_iff]
  · rw [camelCase, String.toList_ofList]
    exact CamelCase.head?_join alphanum fun word => CamelCase.ne_nil_of_mem_words

/-- Two capitals before small letters stay together, and of three the last one is given back. -/
example : Pattern.camelWord.found none "ABc ABCd x1_é2".toList =
    ["AB".toList, "c".toList, "AB".toList, "Cd".toList, "x".toList, "1".toList, "2".toList] := by
  cbv

end Bindery.Text
