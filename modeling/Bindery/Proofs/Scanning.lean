import Bindery.Text.Lines
import Bindery.Token

/-!
# What the token scanner finds

A token of a text is a word in brackets anywhere in it, and every word in brackets is found. So a
text that is put between other texts keeps all its tokens. No token reaches across a separator, so
that texts joined by separators have the tokens of the texts and no others.
-/

namespace Bindery.Token

/-- Can the text be a token? It is a run of word characters that is not empty. -/
def IsWord (w : String) : Prop := w ≠ "" ∧ ∀ c ∈ w.toList, Text.isWord c

instance (w : String) : Decidable (IsWord w) :=
  decidable_of_iff (w ≠ "" ∧ w.toList.all Text.isWord) (by rw [IsWord, List.all_eq_true])

/-- The characters of a word in brackets. -/
def bracketed (w : String) : List Char := '[' :: (w.toList ++ [']'])

/-! ## Words in brackets -/

theorem takeWhile_isWord {cs : List Char} (word : ∀ c ∈ cs, Text.isWord c) (after : List Char) :
    (cs ++ ']' :: after).takeWhile Text.isWord = cs := by
  rw [List.takeWhile_append_of_pos word, List.takeWhile_cons, Text.isWord_closeBracket]
  simp

theorem dropWhile_isWord {cs : List Char} (word : ∀ c ∈ cs, Text.isWord c) (after : List Char) :
    (cs ++ ']' :: after).dropWhile Text.isWord = ']' :: after := by
  rw [List.dropWhile_append_of_pos word, List.dropWhile_cons, Text.isWord_closeBracket]
  simp

/-- What stands behind a closed token has no effect on it. -/
theorem closed?_append_close {word : List Char} (isWord : ∀ c ∈ word, Text.isWord c)
    (after : List Char) :
    closed? (word ++ ']' :: after) = if word.isEmpty then none else some (String.ofList word) := by
  unfold closed?
  rw [takeWhile_isWord isWord, dropWhile_isWord isWord]
  rfl

theorem closed?_eq_some_iff {cs : List Char} {w : String} :
    closed? cs = some w ↔ IsWord w ∧ ∃ after, cs = w.toList ++ ']' :: after := by
  constructor
  · intro closed
    unfold closed? at closed
    split at closed
    · next after stop =>
        dsimp only at closed
        split at closed
        · cases closed
        · next filled =>
            obtain rfl := Option.some.inj closed
            refine ⟨⟨?_, ?_⟩, after, ?_⟩
            · intro empty
              exact filled (by simpa using congrArg String.toList empty)
            · intro c present
              rw [String.toList_ofList] at present
              exact List.all_eq_true.mp List.all_takeWhile c present
            · rw [String.toList_ofList, ← stop, List.takeWhile_append_dropWhile]
    · cases closed
  · rintro ⟨⟨filled, word⟩, after, rfl⟩
    have nonempty : w.toList.isEmpty = false := by
      simpa using fun empty => filled (String.toList_inj.mp empty)
    rw [closed?_append_close word]
    simp [nonempty]

theorem mem_scanChars_iff {cs : List Char} {w : String} :
    w ∈ scanChars cs ↔ IsWord w ∧ bracketed w <:+: cs := by
  induction cs with
  | nil => simp [scanChars, bracketed]
  | cons c rest ih =>
      -- A token stands at the first character or in the rest.
      have here : bracketed w <+: c :: rest ↔
          c = '[' ∧ ∃ after, rest = w.toList ++ ']' :: after := by
        constructor
        · rintro ⟨after, whole⟩
          rw [bracketed, List.cons_append, List.append_assoc] at whole
          obtain ⟨rfl, rfl⟩ := List.cons.inj whole
          exact ⟨rfl, after, rfl⟩
        · rintro ⟨rfl, after, rfl⟩
          exact ⟨after, by simp [bracketed]⟩
      rw [List.infix_cons_iff, here, and_or_left]
      by_cases opens : c = '['
      · simp only [scanChars, opens, if_true, List.mem_append, Option.mem_toList, ih,
          closed?_eq_some_iff, true_and]
      · simp only [scanChars, opens, if_false, ih, false_and, and_false, false_or]

/-- The tokens of a text are the words that stand in brackets in it. -/
theorem mem_scan_iff {text w : String} :
    w ∈ scan text ↔ IsWord w ∧ bracketed w <:+: text.toList := mem_scanChars_iff

/-! ## Tokens of joined texts -/

/-- A word is not closed beyond a character that neither goes on with it nor closes it. -/
theorem closed?_append_cons {stop : Char} (noWord : Text.isWord stop = false)
    (unclosed : stop ≠ ']') (front rest : List Char) :
    closed? (front ++ stop :: rest) = closed? front := by
  have halt : (stop :: rest).dropWhile Text.isWord = stop :: rest := by
    rw [List.dropWhile_cons, noWord]
    rfl
  unfold closed?
  rw [List.dropWhile_append, List.takeWhile_append, halt]
  cases left : front.dropWhile Text.isWord with
  | nil =>
      rw [List.isEmpty_nil, if_pos rfl]
      split
      · next same => exact absurd (List.cons.inj same).1 unclosed
      · rfl
  | cons c more =>
      -- The word ends inside the front, so that what follows the front is not looked at.
      have shorter : (front.takeWhile Text.isWord).length ≠ front.length := by
        intro same
        have whole := congrArg List.length
          (List.takeWhile_append_dropWhile (p := Text.isWord) (l := front))
        rw [left, List.length_append, same] at whole
        simp at whole
      rw [if_neg shorter, if_neg (by simp), List.cons_append]
      by_cases closing : c = ']'
      · subst closing
        rfl
      · simp [closing]

/-- No token reaches across a character that neither stands in words nor closes a token. -/
theorem scanChars_append_cons {stop : Char} (noWord : Text.isWord stop = false)
    (unclosed : stop ≠ ']') (front rest : List Char) :
    scanChars (front ++ stop :: rest) = scanChars front ++ scanChars (stop :: rest) := by
  induction front with
  | nil => rfl
  | cons c more ih =>
      rw [List.cons_append, scanChars, scanChars, closed?_append_cons noWord unclosed, ih]
      split
      · rw [List.append_assoc]
      · rfl

theorem scanChars_cons_of_ne {c : Char} (other : c ≠ '[') (rest : List Char) :
    scanChars (c :: rest) = scanChars rest := by
  rw [scanChars, if_neg other]

/-- Does the character keep the tokens before it and behind it apart? -/
def isSeparator (c : Char) : Bool := !Text.isWord c && c != '[' && c != ']'

theorem scanChars_append_separator {c : Char} (separates : isSeparator c)
    (front rest : List Char) :
    scanChars (front ++ c :: rest) = scanChars front ++ scanChars rest := by
  simp only [isSeparator, Bool.and_eq_true, Bool.not_eq_true', bne_iff_ne] at separates
  obtain ⟨⟨noWord, notOpening⟩, notClosing⟩ := separates
  rw [scanChars_append_cons noWord notClosing, scanChars_cons_of_ne notOpening]

theorem scanChars_glue {c : Char} (separates : isSeparator c) (pieces : List (List Char)) :
    scanChars (Text.glue c pieces) = pieces.flatMap scanChars := by
  induction pieces with
  | nil => rfl
  | cons piece rest ih =>
      rw [List.flatMap_cons, ← ih]
      cases rest with
      | nil => exact (List.append_nil _).symm
      | cons next more => rw [Text.glue, scanChars_append_separator separates]

theorem scan_joinWith {c : Char} (separates : isSeparator c) (texts : List String) :
    scan (Text.joinWith c texts) = texts.flatMap scan := by
  rw [scan, Text.joinWith, String.toList_ofList, scanChars_glue separates, List.flatMap_map]
  rfl

theorem scan_joinLines (lines : List String) :
    scan (Text.joinLines lines) = lines.flatMap scan := scan_joinWith (by decide) lines

end Bindery.Token
