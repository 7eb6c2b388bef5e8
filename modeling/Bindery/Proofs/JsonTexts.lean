import Bindery.Json.Reader
import Bindery.Json.Writer
import Bindery.Proofs.Grouping
import Bindery.Proofs.Spelling

/-!
# Texts that are read back from JSON

A text between its quotes is read back whatever characters are in it: each escape is read as the
character that was escaped, and no character is taken for half of another one. An object of texts
is read back entry by entry; where a key came twice, it keeps its first place and its last text.
What is written holds no control characters.
-/

namespace Bindery

theorem Text.intercalate_eq_joinWith {sep : String} {c : Char} (single : sep.toList = [c])
    (texts : List String) : sep.intercalate texts = joinWith c texts := by
  rw [← String.toList_inj, joinWith, String.toList_ofList]
  induction texts with
  | nil => rfl
  | cons first rest ih =>
      cases rest with
      | nil => rw [String.intercalate_singleton, List.map_singleton, glue]
      | cons second more =>
          rw [String.intercalate_cons_cons, String.toList_append, String.toList_append, single, ih,
            List.append_assoc]
          rfl

/-- A mapping from texts to texts. -/
def Value.ofTexts (texts : List (String × String)) : Value :=
  .map (texts.map fun entry => (.string entry.1, .string entry.2))

/-- Texts are equal as keys exactly if they are equal. -/
theorem Value.ofEntries_texts (texts : List (String × String)) :
    ofEntries (texts.map fun entry => (.string entry.1, .string entry.2)) =
      ofTexts (Table.ofList texts) := by
  have keyed : Table.ofList (texts.map fun entry => (Key.mk (.string entry.1), string entry.2)) =
      (Table.ofList texts).map fun entry => (Key.mk (.string entry.1), string entry.2) := by
    have renamed := Table.ofList_mapKeys (f := fun k => Key.mk (.string k)) (fun _ _ => rfl)
      (texts.map fun entry => (entry.1, string entry.2))
    rwa [Table.ofList_map, List.map_map, List.map_map] at renamed
  rw [ofEntries, List.map_map]
  refine congrArg map ((congrArg (List.map _) keyed).trans ?_)
  rw [List.map_map]
  rfl

namespace Json

/-! ## What is written -/

theorem toList_quote_append (s : String) (rest : List Char) :
    (quote false s).toList ++ rest = '"' :: (s.toList.flatMap (escape false) ++ '"' :: rest) := by
  rw [quote, String.toList_ofList, List.cons_append, List.append_assoc, List.singleton_append]

theorem toList_entry (key s : String) :
    (Layout.compact.entry (key, quote false s)).toList =
      (quote false key).toList ++ ':' :: (quote false s).toList := by
  simp [Layout.entry, Layout.compact]

theorem writeEntries_strings (entries : List (String × String)) :
    writeEntries .compact (entries.map fun entry => (.string entry.1, .string entry.2)) =
      entries.map fun entry => (entry.1, quote false entry.2) := by
  induction entries with
  | nil => rfl
  | cons entry rest ih =>
      rw [List.map_cons, List.map_cons, writeEntries, ih, write]
      rfl

/-- The characters between the braces of an object of texts. -/
def inside (texts : List (String × String)) : List Char :=
  Text.glue ',' (texts.map fun entry =>
    (Layout.compact.entry (entry.1, quote false entry.2)).toList)

theorem inside_cons_cons (entry next : String × String) (more : List (String × String)) :
    inside (entry :: next :: more) =
      (Layout.compact.entry (entry.1, quote false entry.2)).toList ++
        ',' :: inside (next :: more) := rfl

theorem exists_inside_append (entry : String × String) (more : List (String × String))
    (rest : List Char) : ∃ left, inside (entry :: more) ++ rest = '"' :: left := by
  have first (after : List Char) : ∃ left,
      (Layout.compact.entry (entry.1, quote false entry.2)).toList ++ after = '"' :: left := by
    rw [toList_entry, List.append_assoc, toList_quote_append]
    exact ⟨_, rfl⟩
  cases more with
  | nil => exact first rest
  | cons next others =>
      rw [inside_cons_cons, List.append_assoc]
      exact first _

theorem length_le_inside (texts : List (String × String)) :
    texts.length ≤ (inside texts).length := by
  induction texts with
  | nil => exact Nat.le_refl 0
  | cons entry more ih =>
      cases more with
      | nil =>
          obtain ⟨left, opens⟩ := exists_inside_append entry [] []
          rw [List.append_nil] at opens
          simp [opens]
      | cons next others =>
          rw [inside_cons_cons, List.length_append]
          simp only [List.length_cons] at ih ⊢
          omega

theorem toList_write_ofTexts (texts : List (String × String)) :
    (write .compact (.ofTexts texts)).toList = '\x7b' :: (inside texts ++ ['\x7d']) := by
  rw [Value.ofTexts, write, writeEntries_strings, if_neg (by decide), Layout.join,
    Text.intercalate_eq_joinWith (c := ',') rfl]
  simp [inside, Text.joinWith, Function.comp_def]

theorem le_of_mem_escape {c d : Char} (listed : d ∈ escape false c) : 32 ≤ d.toNat := by
  have digits : ∀ n < 32, (unitEscape n).all fun d => 32 ≤ d.toNat := by decide
  have letter {e : Char} (high : 32 ≤ e.toNat) (present : d ∈ ['\\', e]) : 32 ≤ d.toNat := by
    rcases List.mem_pair.mp present with rfl | rfl
    · decide
    · exact high
  unfold escape at listed
  split_ifs at listed with quote feed back tab bell form control
  · rcases quote with rfl | rfl <;> exact letter (by decide) listed
  · exact letter (by decide) listed
  · exact letter (by decide) listed
  · exact letter (by decide) listed
  · exact letter (by decide) listed
  · exact letter (by decide) listed
  · have low : c.toNat < 32 := by simpa using control
    rw [numberEscape, if_pos (by omega)] at listed
    simpa using List.all_eq_true.mp (digits _ low) d listed
  · rw [List.mem_singleton] at listed
    simpa [listed] using control

theorem le_of_mem_quote {s : String} {c : Char} (listed : c ∈ (quote false s).toList) :
    32 ≤ c.toNat := by
  rw [← List.append_nil (quote false s).toList, toList_quote_append, List.mem_cons,
    List.mem_append, List.mem_singleton, List.mem_flatMap] at listed
  rcases listed with rfl | ⟨d, -, escaped⟩ | rfl
  · decide
  · exact le_of_mem_escape escaped
  · decide

/-- An object of texts is written on one line, without control characters. -/
theorem le_of_mem_write_ofTexts {texts : List (String × String)} {c : Char}
    (listed : c ∈ (write .compact (.ofTexts texts)).toList) : 32 ≤ c.toNat := by
  rw [toList_write_ofTexts, List.mem_cons, List.mem_append, List.mem_singleton] at listed
  rcases listed with rfl | inner | rfl
  · decide
  · rcases Text.mem_glue inner with rfl | ⟨cs, written, present⟩
    · decide
    · obtain ⟨entry, -, rfl⟩ := List.mem_map.mp written
      rw [toList_entry, List.mem_append, List.mem_cons] at present
      rcases present with key | rfl | text
      · exact le_of_mem_quote key
      · decide
      · exact le_of_mem_quote text
  · decide

/-! ## Texts read back -/

theorem hex_of_control {n : Nat} (control : n < 32) :
    Text.hex 4 n = ['0', '0', (n / 16).digitChar, (n % 16).digitChar] ∧
      unit? '0' '0' (n / 16).digitChar (n % 16).digitChar = some n := by
  have each : ∀ n < 32, Text.hex 4 n = ['0', '0', (n / 16).digitChar, (n % 16).digitChar] ∧
      unit? '0' '0' (n / 16).digitChar (n % 16).digitChar = some n := by decide
  exact each n control

theorem textBody_cons (opened : Nat) (units : List Nat) {c : Char} (rest : List Char)
    (unquoted : c ≠ '"') (unescaped : c ≠ '\\') (uncontrolled : 32 ≤ c.toNat) :
    textBody opened units (c :: rest) = textBody opened (c.toNat :: units) rest := by
  rw [textBody, if_neg (Nat.not_lt.mpr uncontrolled)]
  · exact unquoted
  all_goals
    intros
    exact unescaped ‹_›

/-- Every escape is read as the character that it was written for. An escape of four digits is only
read where a character follows, the closing quote at the latest. -/
theorem textBody_append_escape (opened : Nat) (units : List Nat) (c next : Char)
    (rest : List Char) :
    textBody opened units (escape false c ++ next :: rest) =
      textBody opened (c.toNat :: units) (next :: rest) := by
  unfold escape
  split_ifs with quote feed back tab bell form control
  · rcases quote with rfl | rfl <;> simp [textBody, letterEscape?]
  · simp [textBody, letterEscape?, feed]
  · simp [textBody, letterEscape?, back]
  · simp [textBody, letterEscape?, tab]
  · simp [textBody, letterEscape?, bell]
  · simp [textBody, letterEscape?, form]
  · have low : c.toNat < 32 := by simpa using control
    obtain ⟨digits, back⟩ := hex_of_control low
    rw [numberEscape, if_pos (by omega), unitEscape, digits]
    simp [textBody, back]
  · rw [not_or] at quote
    exact textBody_cons opened units _ quote.1 quote.2 (by simpa using control)

theorem ofUnits_map_toNat (cs : List Char) : ofUnits (cs.map Char.toNat) = cs := by
  induction cs with
  | nil => rfl
  | cons c rest ih =>
      cases rest with
      | nil => rw [List.map_cons, List.map_nil, ofUnits, Char.ofNat_toNat]
      | cons d more =>
          -- The numbers of characters leave out those that halves have.
          have noHalf : ¬(0xD800 ≤ c.toNat ∧ c.toNat < 0xDC00) := by
            have valid : c.toNat.isValidChar := c.valid
            rw [Nat.isValidChar] at valid
            omega
          rw [List.map_cons, List.map_cons, ofUnits,
            if_neg fun halves => noHalf ⟨halves.1, halves.2.1⟩, Char.ofNat_toNat]
          exact congrArg (c :: ·) ih

theorem textBody_flatMap_escape (opened : Nat) (units : List Nat) (cs rest : List Char) :
    textBody opened units (cs.flatMap (escape false) ++ '"' :: rest) =
      .ok (String.ofList (ofUnits (units.reverse ++ cs.map Char.toNat)), rest) := by
  induction cs generalizing units with
  | nil => simp [textBody]
  | cons c more ih =>
      have filled : more.flatMap (escape false) ++ '"' :: rest ≠ [] := by simp
      obtain ⟨next, left, behind⟩ := List.exists_cons_of_ne_nil filled
      rw [List.flatMap_cons, List.append_assoc, behind, textBody_append_escape, ← behind, ih]
      simp

/-- What is written between quotes is read back behind the first of them. -/
theorem textBody_quoted (opened : Nat) (s : String) (rest : List Char) :
    textBody opened [] (s.toList.flatMap (escape false) ++ '"' :: rest) = .ok (s, rest) := by
  rw [textBody_flatMap_escape, List.reverse_nil, List.nil_append, ofUnits_map_toNat,
    String.ofList_toList]

theorem value_quote_append (fuel : Nat) (s : String) (rest : List Char) :
    value (fuel + 1) ((quote false s).toList ++ rest) = .ok (.string s, rest) := by
  rw [toList_quote_append, value, textBody_quoted]
  rfl

/-! ## Objects of texts read back -/

theorem skip_inside_append (entry : String × String) (more : List (String × String))
    (rest : List Char) :
    skip (inside (entry :: more) ++ rest) = inside (entry :: more) ++ rest := by
  obtain ⟨left, same⟩ := exists_inside_append entry more rest
  rw [same]
  rfl

/-- An entry is read as its key and its text, and what comes after it decides how to go on. -/
theorem entries_entry_append (fuel : Nat) (before : List (Value × Value)) (key s : String)
    (after : List Char) :
    entries (fuel + 2) before ((Layout.compact.entry (key, quote false s)).toList ++ after) =
      match skip after with
      | '\x7d' :: rest =>
          .ok (Value.ofEntries ((.string key, .string s) :: before).reverse, rest)
      | ',' :: rest => entries (fuel + 1) ((.string key, .string s) :: before) (skip rest)
      | other => failAt .expectedComma other := by
  have colon (cs : List Char) : skip (':' :: cs) = ':' :: cs := rfl
  have opening : skip ((quote false s).toList ++ after) = (quote false s).toList ++ after := by
    rw [toList_quote_append]
    rfl
  rw [toList_entry, List.append_assoc, List.cons_append, toList_quote_append, entries,
    textBody_quoted]
  simp only [bind, Except.bind, colon, opening, value_quote_append]
  rfl

theorem entries_inside (entry : String × String) (more : List (String × String)) {fuel : Nat}
    (enough : more.length + 2 ≤ fuel) (before : List (Value × Value)) (rest : List Char) :
    entries fuel before (inside (entry :: more) ++ '\x7d' :: rest) =
      .ok (Value.ofEntries (before.reverse ++
        (entry :: more).map fun entry => (.string entry.1, .string entry.2)), rest) := by
  -- Each entry takes one step, and the text of the last one takes another.
  obtain ⟨fuel, rfl⟩ := Nat.exists_eq_add_of_le' (Nat.le_of_add_left_le enough)
  induction more generalizing entry fuel before with
  | nil =>
      have closing : skip ('\x7d' :: rest) = '\x7d' :: rest := rfl
      have single : inside [entry] =
          (Layout.compact.entry (entry.1, quote false entry.2)).toList := rfl
      rw [single, entries_entry_append, closing]
      simp
  | cons next others ih =>
      obtain ⟨fuel, rfl⟩ := Nat.exists_eq_add_of_le' (show 1 ≤ fuel by simp at enough; omega)
      have comma (cs : List Char) : skip (',' :: cs) = ',' :: cs := rfl
      rw [inside_cons_cons, List.append_assoc, List.cons_append, entries_entry_append, comma]
      show entries (fuel + 2) _ (skip (inside (next :: others) ++ _)) = _
      rw [skip_inside_append, ih next _ fuel (by simpa using enough)]
      simp

theorem value_braces {texts : List (String × String)} {fuel : Nat}
    (enough : texts.length + 1 ≤ fuel) (rest : List Char) :
    value (fuel + 1) ('\x7b' :: (inside texts ++ '\x7d' :: rest)) =
      .ok (.ofTexts (Table.ofList texts), rest) := by
  cases texts with
  | nil => rfl
  | cons entry more =>
      have read := entries_inside entry more enough [] rest
      rw [List.reverse_nil, List.nil_append, Value.ofEntries_texts] at read
      obtain ⟨left, same⟩ := exists_inside_append entry more ('\x7d' :: rest)
      rw [← read, value, skip_inside_append, same]
      rfl

/-- An object of texts is read back: of entries with one key, the first has the place and the last
has the text. -/
theorem read_write_ofTexts (texts : List (String × String)) :
    read (write .compact (.ofTexts texts)) = .ok (.ofTexts (Table.ofList texts)) := by
  have opening (cs : List Char) : skip ('\x7b' :: cs) = '\x7b' :: cs := rfl
  have enough : texts.length + 1 ≤ 2 * ('\x7b' :: (inside texts ++ ['\x7d'])).length + 1 := by
    have := length_le_inside texts
    simp only [List.length_cons, List.length_append]
    omega
  rw [read, document, toList_write_ofTexts, if_neg (by simp), opening, value_braces enough]
  rfl

end Json

end Bindery
