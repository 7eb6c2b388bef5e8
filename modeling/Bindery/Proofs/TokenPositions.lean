import Bindery.Proofs.Scanning
import Bindery.Proofs.TextPatterns

/-!
# Where tokens stand

The scanner gives one token for each position at which a word stands in brackets, from left to right
and again where a word comes again. A word holds no bracket, so that what stands in a token opens no
other one, and a bracket that opens no token hides none behind it. A search that tries the pattern of
tokens at each position and goes on behind what it took therefore finds the same tokens.
-/

namespace Bindery.Token

/-! ## Positions -/

/-- Does the word stand in brackets behind the first `i` characters? -/
def StandsAt (cs : List Char) (i : Nat) (w : String) : Prop :=
  IsWord w ∧ ∃ before after, before.length = i ∧ cs = before ++ bracketed w ++ after

/-- The tokens of the characters with their positions, of which the first is `i`. -/
def positionsFrom (i : Nat) : List Char → List (Nat × String)
  | [] => []
  | c :: rest =>
      if c = '[' then ((closed? rest).map (i, ·)).toList ++ positionsFrom (i + 1) rest
      else positionsFrom (i + 1) rest

theorem map_snd_positionsFrom (i : Nat) (cs : List Char) :
    (positionsFrom i cs).map Prod.snd = scanChars cs := by
  induction cs generalizing i with
  | nil => rfl
  | cons c rest ih =>
      rw [positionsFrom, scanChars]
      split
      · rw [List.map_append, ih]
        cases closed? rest <;> rfl
      · exact ih _

theorem standsAt_zero_iff {c : Char} {rest : List Char} {w : String} :
    StandsAt (c :: rest) 0 w ↔ c = '[' ∧ closed? rest = some w := by
  rw [closed?_eq_some_iff, StandsAt]
  constructor
  · rintro ⟨word, before, after, empty, whole⟩
    rw [List.length_eq_zero_iff.mp empty, List.nil_append, bracketed, List.cons_append,
      List.append_assoc] at whole
    obtain ⟨rfl, rfl⟩ := List.cons.inj whole
    exact ⟨rfl, word, after, rfl⟩
  · rintro ⟨rfl, word, after, rfl⟩
    exact ⟨word, [], after, rfl, by simp [bracketed]⟩

theorem standsAt_succ_iff {c : Char} {rest : List Char} {i : Nat} {w : String} :
    StandsAt (c :: rest) (i + 1) w ↔ StandsAt rest i w := by
  refine and_congr_right fun _ => ?_
  constructor
  · rintro ⟨before, after, counted, whole⟩
    obtain ⟨d, more, rfl⟩ := List.exists_cons_of_length_eq_add_one counted
    exact ⟨more, after, Nat.succ.inj counted, (List.cons.inj whole).2⟩
  · rintro ⟨before, after, rfl, rfl⟩
    exact ⟨c :: before, after, rfl, rfl⟩

/-- A token is listed at each position at which it stands, and at no other one. -/
theorem mem_positionsFrom_iff {i j : Nat} {cs : List Char} {w : String} :
    (j, w) ∈ positionsFrom i cs ↔ ∃ k, j = i + k ∧ StandsAt cs k w := by
  induction cs generalizing i with
  | nil =>
      refine iff_of_false List.not_mem_nil ?_
      rintro ⟨k, -, -, before, after, -, whole⟩
      simp [bracketed] at whole
  | cons c rest ih =>
      have first : (j, w) ∈ positionsFrom i (c :: rest) ↔
          (j = i ∧ StandsAt (c :: rest) 0 w) ∨ (j, w) ∈ positionsFrom (i + 1) rest := by
        rw [positionsFrom, standsAt_zero_iff]
        split
        · next opens =>
            rw [List.mem_append, Option.mem_toList, Option.map_eq_some_iff]
            simp [opens, and_comm, eq_comm]
        · next other => simp [other]
      rw [first, ih]
      constructor
      · rintro (⟨rfl, stands⟩ | ⟨k, rfl, stands⟩)
        · exact ⟨0, rfl, stands⟩
        · exact ⟨k + 1, by omega, standsAt_succ_iff.mpr stands⟩
      · rintro ⟨k, rfl, stands⟩
        cases k with
        | zero => exact .inl ⟨rfl, stands⟩
        | succ k => exact .inr ⟨k, by omega, standsAt_succ_iff.mp stands⟩

theorem positionsFrom_append_of_not_bracket {front : List Char} (free : ∀ c ∈ front, c ≠ '[')
    (i : Nat) (rest : List Char) :
    positionsFrom i (front ++ rest) = positionsFrom (i + front.length) rest := by
  induction front generalizing i with
  | nil => rfl
  | cons c more ih =>
      rw [List.cons_append, positionsFrom, if_neg (free c List.mem_cons_self),
        ih fun d listed => free d (List.mem_cons_of_mem _ listed), List.length_cons,
        Nat.add_right_comm, Nat.add_assoc]

/-- A word and the bracket behind it open no token. -/
theorem IsWord.ne_of_mem {w : String} (word : IsWord w) :
    ∀ c ∈ w.toList ++ [']'], c ≠ '[' := by
  rintro c listed rfl
  rcases List.mem_append.mp listed with inside | last
  · exact absurd (word.2 '[' inside) (by rw [Text.isWord_openBracket]; exact Bool.false_ne_true)
  · exact absurd (List.mem_singleton.mp last) (by decide)

/-- Each token ends before the next one begins. -/
theorem pairwise_positionsFrom (i : Nat) (cs : List Char) :
    (positionsFrom i cs).Pairwise fun a b => a.1 + (bracketed a.2).length ≤ b.1 := by
  induction cs generalizing i with
  | nil => exact .nil
  | cons c rest ih =>
      rw [positionsFrom]
      split
      · cases closes : closed? rest with
        | none => exact ih _
        | some w =>
            refine List.pairwise_cons.mpr ⟨fun b later => ?_, ih _⟩
            -- The next token stands behind the closing bracket of this one.
            obtain ⟨word, after, rfl⟩ := closed?_eq_some_iff.mp closes
            rw [List.append_cons, positionsFrom_append_of_not_bracket word.ne_of_mem] at later
            obtain ⟨k, behind, -⟩ := mem_positionsFrom_iff.mp later
            simp only [behind, bracketed, List.length_cons]
            omega
      · exact ih _

/-! ## The pattern of tokens -/

/-- An opening bracket, a run of word characters and a closing bracket. -/
def pattern : Text.Pattern :=
  .sequence (.one (· = '[')) (.sequence (.run 1 Text.isWord) (.one (· = ']')))

open Text.Pattern (lengths_sequence lengths_one lengths_run)

/-- Of a run of word characters none is given back: what it would give back is no bracket. -/
theorem lengths_closing (before : Option Char) (cs : List Char) :
    (Text.Pattern.sequence (.run 1 Text.isWord) (.one (· = ']'))).lengths before cs =
      ((closed? cs).map fun w => w.length + 1).toList := by
  rw [lengths_sequence, lengths_run, Nat.add_sub_cancel, closed?, ← Text.drop_length_takeWhile]
  simp only [lengths_one]
  cases run : (cs.takeWhile Text.isWord).length with
  | zero =>
      have none : cs.takeWhile Text.isWord = [] := List.length_eq_zero_iff.mp run
      rw [none]
      split <;> rfl
  | succ n =>
      have shorter : ∀ m ∈ (List.range' 1 n).reverse,
          ((if (cs.drop m).head?.any (· = ']') then [1] else []).map (m + ·)) = [] := by
        intro m listed
        rw [List.mem_reverse, List.mem_range'_1] at listed
        have inside : m < (cs.takeWhile Text.isWord).length := by omega
        obtain ⟨c, word, split, -⟩ := Text.drop_eq_cons_of_lt inside
        have unclosed : c ≠ ']' := by
          rintro rfl
          cases word.symm.trans Text.isWord_closeBracket
        simp [split, unclosed]
      rw [List.range'_concat, List.reverse_append, List.flatMap_append,
        List.flatMap_eq_nil_iff.mpr shorter]
      have filled : (cs.takeWhile Text.isWord).isEmpty = false := by
        rw [List.isEmpty_eq_false_iff, ← List.length_pos_iff, run]
        exact Nat.succ_pos n
      rw [Nat.one_mul, Nat.add_comm 1 n, filled, List.append_nil, List.reverse_singleton,
        List.flatMap_singleton]
      cases cs.drop (n + 1) with
      | nil => rfl
      | cons c after =>
          by_cases closing : c = ']'
          · subst closing
            simp [run]
          · simp [closing]

/-- The pattern matches where a token opens, in one way. -/
theorem lengths_pattern (before : Option Char) (c : Char) (rest : List Char) :
    pattern.lengths before (c :: rest) =
      if c = '[' then ((closed? rest).map fun w => (bracketed w).length).toList else [] := by
  rw [pattern, lengths_sequence, lengths_one, List.head?_cons, Option.any_some]
  by_cases opens : c = '['
  · subst opens
    rw [if_pos rfl, decide_eq_true rfl, if_pos rfl, List.flatMap_singleton, lengths_closing,
      List.drop_one, List.tail_cons]
    cases closed? rest with
    | none => rfl
    | some w => simp [bracketed, Nat.add_comm 1, ← String.length_toList]
  · simp [opens]

/-- Where the pattern matches, it takes a token with its brackets. -/
theorem eq_bracketed_append_of_lengths {before : Option Char} {c : Char} {rest : List Char}
    {n : Nat} (matched : (pattern.lengths before (c :: rest)).head? = some n) :
    ∃ w after, IsWord w ∧ c :: rest = bracketed w ++ after ∧ (bracketed w).length = n := by
  rw [lengths_pattern] at matched
  split at matched
  · next opens =>
      subst opens
      cases closes : closed? rest with
      | none =>
          rw [closes] at matched
          cases matched
      | some w =>
          obtain ⟨word, after, rfl⟩ := closed?_eq_some_iff.mp closes
          rw [closes] at matched
          exact ⟨w, after, word, by simp [bracketed], Option.some.inj matched⟩
  · cases matched

/-- The search for tokens goes on behind a token. -/
theorem scanChars_bracketed_append {w : String} (word : IsWord w) (after : List Char) :
    scanChars (bracketed w ++ after) = w :: scanChars after := by
  have closes : closed? (w.toList ++ ']' :: after) = some w :=
    closed?_eq_some_iff.mpr ⟨word, after, rfl⟩
  have behind : scanChars (w.toList ++ ']' :: after) = scanChars after := by
    rw [List.append_cons, scanChars_append_of_not_bracket word.ne_of_mem]
  rw [bracketed, List.cons_append, List.append_assoc, List.singleton_append, scanChars,
    if_pos rfl, closes, behind]
  rfl

/-- The matches of the pattern are the tokens in their brackets. -/
theorem found_pattern (before : Option Char) (cs : List Char) :
    pattern.found before cs = (scanChars cs).map bracketed := by
  induction before, cs using Text.Pattern.found.induct pattern with
  | case1 before =>
      rw [Text.Pattern.found]
      rfl
  | case2 before c rest n matched ih =>
      obtain ⟨w, after, word, whole, length⟩ := eq_bracketed_append_of_lengths matched
      have taken : c :: rest.take n = bracketed w := by
        rw [← List.take_succ_cons, whole, List.take_left' length]
      have left : rest.drop n = after := by
        rw [← List.drop_succ_cons (a := c), whole, List.drop_left' length]
      rw [Text.Pattern.found, matched]
      dsimp only
      rw [ih, taken, left, whole, scanChars_bracketed_append word, List.map_cons]
  | case3 before c rest unmatched ih =>
      have unopened : scanChars (c :: rest) = scanChars rest := by
        by_cases opens : c = '['
        · subst opens
          have unclosed : closed? rest = none := by
            rw [Option.eq_none_iff_forall_ne_some]
            intro w closes
            refine unmatched (w.toList ++ [']']).length ?_
            rw [lengths_pattern, if_pos rfl, closes]
            rfl
          rw [scanChars, if_pos rfl, unclosed]
          rfl
        · exact scanChars_cons_of_ne opens rest
      rw [Text.Pattern.found, unopened, ← ih]
      split
      · next matched => exact (unmatched _ matched).elim
      · rfl

/-- The scanner gives, from left to right and with repetitions, the words that stand in brackets at
the positions of a text: at each such position one token, none elsewhere, and none that reaches into
the next one. So a search for the pattern of tokens, which goes on behind each match, misses none. -/
theorem scan_finds_token_at_each_position (text : String) :
    ∃ found : List (Nat × String), scan text = found.map Prod.snd ∧
      (∀ i w, (i, w) ∈ found ↔ StandsAt text.toList i w) ∧
      (found.Pairwise fun a b => a.1 + (bracketed a.2).length ≤ b.1) ∧
      pattern.found none text.toList = found.map fun token => bracketed token.2 := by
  refine ⟨positionsFrom 0 text.toList, ?_, fun i w => ?_, pairwise_positionsFrom 0 _, ?_⟩
  · exact (map_snd_positionsFrom 0 _).symm
  · rw [mem_positionsFrom_iff]
    simp
  · rw [found_pattern, ← map_snd_positionsFrom 0, List.map_map]
    rfl

/-- A bracket within another one may open a token; blanks and ends of texts close none. -/
example : positionsFrom 0 "[a[b]][b] [ c][é".toList = [(2, "b"), (6, "b")] := by decide

end Bindery.Token
