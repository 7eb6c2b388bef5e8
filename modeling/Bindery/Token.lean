import Bindery.Text.Word

/-!
# Reference tokens

A reference token is a run of word characters between an opening and a closing bracket. The scanner
finds the tokens of a text from left to right.
-/

namespace Bindery.Token

/-- The token that opens with the bracket before these characters, if they close it. -/
def closed? (cs : List Char) : Option String :=
  match cs.dropWhile Text.isWord with
  | ']' :: _ =>
      let word := cs.takeWhile Text.isWord
      if word.isEmpty then none else some (String.ofList word)
  | _ => none

/-- The tokens of the characters in order. A token holds no bracket, so that the search may go on
right behind each opening bracket. -/
def scanChars : List Char → List String
  | [] => []
  | c :: rest =>
      if c = '[' then (closed? rest).toList ++ scanChars rest else scanChars rest

/-- The reference tokens of a text in order of appearance. -/
def scan (text : String) : List String := scanChars text.toList

theorem scanChars_append_of_not_bracket {front : List Char} (h : ∀ c ∈ front, c ≠ '[')
    (rest : List Char) : scanChars (front ++ rest) = scanChars rest := by
  induction front with
  | nil => rfl
  | cons c more ih =>
      have head : c ≠ '[' := h c (by simp)
      simp [scanChars, head, ih fun d hd => h d (by simp [hd])]

end Bindery.Token
