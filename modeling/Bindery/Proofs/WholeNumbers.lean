import Bindery.Proofs.Drafting
import Bindery.Proofs.Spelling
import Bindery.Yaml.Build
import Mathlib.Data.List.TakeWhile
import Mathlib.Tactic.IntervalCases

/-!
# Whole numbers that cannot be built

A text with the form of a whole number is its digits in their base, once its sign, its underscores and
the mark of its base are taken away. What is left has a value unless no digit stands behind the mark,
or there are too many of them in base ten. The places of a number in base sixty are short.
-/

namespace Bindery.Yaml

/-! ## Results that fail under a condition -/

/-- Does the result fail in one way, and exactly if something holds? -/
structure FailsWhen {α : Type} (p : Prop) (failure : Failure) (r : Except Failure α) : Prop where
  fails : p → r = .error failure
  succeeds : ¬p → ∃ a, r = .ok a

namespace FailsWhen

variable {α β : Type} {p q : Prop} {failure : Failure} {r : Except Failure α}

theorem ite [Decidable p] (a : α) : FailsWhen p failure (if p then .error failure else .ok a) :=
  ⟨fun holds => if_pos holds, fun fails => ⟨a, if_neg fails⟩⟩

theorem ite_ok (b : Bool) (a : α) :
    FailsWhen (!b) failure (if b then .ok a else .error failure) := by
  cases b with
  | true => exact ⟨nofun, fun _ => ⟨a, rfl⟩⟩
  | false => exact ⟨fun _ => rfl, fun holds => absurd rfl holds⟩

theorem never (a : α) (absent : ¬p) : FailsWhen p failure (.ok a : Except Failure α) :=
  ⟨fun holds => absurd holds absent, fun _ => ⟨a, rfl⟩⟩

theorem of_exists (absent : ¬p) (built : ∃ a, r = .ok a) : FailsWhen p failure r :=
  ⟨fun holds => absurd holds absent, fun _ => built⟩

theorem congr (fails : FailsWhen p failure r) (same : p ↔ q) : FailsWhen q failure r :=
  ⟨fun holds => fails.fails (same.mpr holds), fun absent => fails.succeeds (mt same.mp absent)⟩

/-- What follows gives a result. -/
theorem bind (fails : FailsWhen p failure r) {next : α → Except Failure β}
    (goesOn : ∀ a, ∃ b, next a = .ok b) : FailsWhen p failure (r >>= next) := by
  constructor
  · intro holds
    rw [fails.fails holds]
    rfl
  · intro absent
    obtain ⟨a, done⟩ := fails.succeeds absent
    rw [done]
    exact goesOn a

theorem map (fails : FailsWhen p failure r) (f : α → β) : FailsWhen p failure (r.map f) := by
  constructor
  · intro holds
    rw [fails.fails holds]
    rfl
  · intro absent
    obtain ⟨a, done⟩ := fails.succeeds absent
    exact ⟨f a, by rw [done]; rfl⟩

theorem eq_error_iff (fails : FailsWhen p failure r) {e : Failure} :
    r = .error e ↔ e = failure ∧ p := by
  by_cases holds : p
  · rw [fails.fails holds, Except.error.injEq, eq_comm]
    exact (and_iff_left holds).symm
  · obtain ⟨a, done⟩ := fails.succeeds holds
    rw [done]
    exact ⟨nofun, fun ⟨_, found⟩ => absurd found holds⟩

end FailsWhen

/-! ## Digits -/

/-- The characters that are digits in some base up to sixteen. -/
def digitChars : List Char := "0123456789abcdefABCDEF".toList

theorem mem_digitChars_of_isHexDigit {c : Char} (hex : Quoted.isHexDigit c) : c ∈ digitChars := by
  have same : c = Char.ofNat c.toNat := (Char.ofNat_toNat c).symm
  have range : 48 ≤ c.toNat ∧ c.toNat ≤ 57 ∨ 97 ≤ c.toNat ∧ c.toNat ≤ 102 ∨
      65 ≤ c.toNat ∧ c.toNat ≤ 70 := by
    simp only [Quoted.isHexDigit, Char.isDigit, Bool.or_eq_true, Bool.and_eq_true,
      decide_eq_true_eq, Char.le_def, UInt32.le_iff_toNat_le, ge_iff_le] at hex
    have ends : '0'.val.toNat = 48 ∧ '9'.val.toNat = 57 ∧ 'a'.val.toNat = 97 ∧
        'f'.val.toNat = 102 ∧ 'A'.val.toNat = 65 ∧ 'F'.val.toNat = 70 := by decide
    simp only [Char.toNat]
    omega
  rw [same]
  generalize c.toNat = n at range
  rcases range with ⟨low, high⟩ | ⟨low, high⟩ | ⟨low, high⟩ <;> interval_cases n <;> decide

theorem isDigit_of_le {c high : Char} (low : '0' ≤ c) (below : c ≤ high) (least : high ≤ '9') :
    c.isDigit := by
  have ends : '0'.val.toNat = 48 ∧ '9'.val.toNat = 57 := by decide
  simp only [Char.isDigit, Bool.and_eq_true, decide_eq_true_eq, Char.le_def,
    UInt32.le_iff_toNat_le, ge_iff_le] at *
  omega

/-- What holds of every digit in base sixteen. -/
theorem forall_isHexDigit {P : Char → Prop} [DecidablePred P]
    (all : digitChars.all fun c => decide (P c)) {c : Char} (hex : Quoted.isHexDigit c) : P c :=
  of_decide_eq_true (List.all_eq_true.mp all c (mem_digitChars_of_isHexDigit hex))

theorem isHexDigit_of_isDigit {c : Char} (digit : c.isDigit) : Quoted.isHexDigit c := by
  rw [Quoted.isHexDigit, digit]
  rfl

namespace Number

/-! ## Whole numbers -/

/-- Characters that mean themselves inside a number. -/
theorem plain_of_ascii {cs : List Char} (ascii : ∀ c ∈ cs, c.toNat < 127 ∧ isSpace c = false) :
    plain cs = cs := by
  have same : (cs.map fun c =>
      if c.toNat < 127 then c
      else if Text.isBlank c then ' '
      else (Text.decimal? c).getD c) = cs :=
    (List.map_congr_left fun c listed => if_pos (ascii c listed).1).trans (List.map_id' cs)
  have kept (ds : List Char) (inside : ds ⊆ cs) : ds.dropWhile isSpace = ds := by
    cases ds with
    | nil => rfl
    | cons c rest =>
        rw [List.dropWhile_cons_of_neg]
        rw [(ascii c (inside List.mem_cons_self)).2]
        exact Bool.false_ne_true
  rw [plain, same, kept cs (List.Subset.refl _),
    kept cs.reverse (List.reverse_subset.mpr (List.Subset.refl _)), List.reverse_reverse]

/-- What a digit in a base is and is not. -/
theorem of_isDigitIn {base : Nat} {c : Char} (digit : isDigitIn base c) :
    (c.toNat < 127 ∧ isSpace c = false) ∧ c ≠ '+' ∧ c ≠ '-' ∧
      ¬((base = 2 ∧ c.toLower = 'b') ∨ (base = 8 ∧ c.toLower = 'o') ∨
        (base = 16 ∧ c.toLower = 'x')) := by
  obtain ⟨hex, small⟩ := (Bool.and_eq_true _ _).mp digit
  have facts : digitChars.all fun c => decide
      (((c.toNat < 127 ∧ isSpace c = false) ∧ c ≠ '+' ∧ c ≠ '-') ∧
        (Decimal.digitValue c < 2 → c.toLower ≠ 'b') ∧ c.toLower ≠ 'o' ∧ c.toLower ≠ 'x') := by
    decide
  obtain ⟨⟨ascii, noPlus, noMinus⟩, two, eight, sixteen⟩ := forall_isHexDigit facts hex
  refine ⟨ascii, noPlus, noMinus, ?_⟩
  rintro (⟨rfl, mark⟩ | ⟨rfl, mark⟩ | ⟨rfl, mark⟩)
  · exact two (of_decide_eq_true small) mark
  · exact eight mark
  · exact sixteen mark

theorem unsigned_of_head {c : Char} (rest : List Char) (noPlus : c ≠ '+') (noMinus : c ≠ '-') :
    TypeTag.unsigned (c :: rest) = c :: rest := by
  unfold TypeTag.unsigned
  split
  · next same => exact absurd (List.cons.inj same).1 noPlus
  · next same => exact absurd (List.cons.inj same).1 noMinus
  · rfl

theorem dropMark_of_digits {base : Nat} {cs : List Char} (digits : ∀ c ∈ cs, isDigitIn base c) :
    dropMark base cs = cs := by
  unfold dropMark
  split
  · next c rest =>
      have second := digits c (List.mem_cons_of_mem _ List.mem_cons_self)
      exact if_neg (of_isDigitIn second).2.2.2
  · rfl

/-- Digits of a base are a number unless there are none, or too many of base ten. -/
theorem whole_of_digits {base : Nat} {cs : List Char} (digits : ∀ c ∈ cs, isDigitIn base c) :
    whole base cs =
      if cs = [] ∨ (base = 10 ∧ Decimal.digitLimit < cs.length) then .error badNumber
      else .ok (Decimal.natOfBase base cs) := by
  have same : plain cs = cs := plain_of_ascii fun c listed => (of_isDigitIn (digits c listed)).1
  have bare : TypeTag.unsigned cs = cs := by
    cases cs with
    | nil => rfl
    | cons c rest =>
        have first := of_isDigitIn (digits c List.mem_cons_self)
        exact unsigned_of_head rest first.2.1 first.2.2.1
  have positive : cs.head? ≠ some '-' := by
    cases cs with
    | nil => exact nofun
    | cons c rest =>
        rw [List.head?_cons, ne_eq, Option.some.injEq]
        exact (of_isDigitIn (digits c List.mem_cons_self)).2.2.1
  have allDigits : cs.all (isDigitIn base) := List.all_eq_true.mpr digits
  unfold whole
  dsimp only
  rw [same, bare, dropMark_of_digits digits, allDigits, if_neg positive]
  simp

theorem withoutLines_cons {c : Char} (filled : c ≠ '_') (rest : List Char) :
    withoutLines (c :: rest) = c :: withoutLines rest :=
  List.filter_cons_of_pos (decide_eq_true filled)

theorem withoutLines_append (cs more : List Char) :
    withoutLines (cs ++ more) = withoutLines cs ++ withoutLines more :=
  List.filter_append ..

/-- What the sign and the underscores of a number leave. -/
theorem signed_withoutLines {cs rest : List Char} {c : Char}
    (behind : TypeTag.unsigned cs = c :: rest) (filled : c ≠ '_') (noPlus : c ≠ '+')
    (noMinus : c ≠ '-') : (signed (withoutLines cs)).2 = c :: withoutLines rest := by
  have kept := withoutLines_cons filled rest
  unfold TypeTag.unsigned at behind
  split at behind
  · next more =>
      rw [behind]
      exact kept
  · next more =>
      rw [behind]
      exact kept
  · rw [behind, kept]
    exact unsigned_of_head _ noPlus noMinus

theorem mem_withoutLines {cs : List Char} {c : Char} (listed : c ∈ withoutLines cs) :
    c ∈ cs ∧ c ≠ '_' := by
  obtain ⟨inside, kept⟩ := List.mem_filter.mp listed
  exact ⟨inside, of_decide_eq_true kept⟩

theorem withoutLines_eq_nil_iff {cs : List Char} :
    withoutLines cs = [] ↔ cs.all (· == '_') := by
  rw [withoutLines, List.filter_eq_nil_iff, List.all_eq_true]
  exact forall_congr' fun c => imp_congr_right fun _ => by simp

/-- A part of a number in base sixty: one digit or two. -/
def IsPlace (part : List Char) : Prop :=
  part ≠ [] ∧ part.length ≤ 2 ∧ ∀ c ∈ part, c.isDigit

theorem isPlace_one {a : Char} (digit : a.isDigit) : IsPlace [a] := by
  refine ⟨List.cons_ne_nil _ _, Nat.le_succ 1, fun c listed => ?_⟩
  rwa [List.mem_singleton.mp listed]

theorem isPlace_two {a b : Char} (first : a.isDigit) (second : b.isDigit) : IsPlace [a, b] := by
  refine ⟨List.cons_ne_nil _ _, Nat.le_refl 2, fun c listed => ?_⟩
  rcases List.mem_cons.mp listed with rfl | later
  · exact first
  · rwa [List.mem_singleton.mp later]

/-- The places behind the first part of a number in base sixty, and what may follow them. -/
theorem exists_places {last : List Char → Bool} {fuel : Nat} {cs : List Char}
    (form : TypeTag.isSixties last fuel cs) :
    ∃ parts tail, cs = parts.flatMap (':' :: ·) ++ tail ∧ parts ≠ [] ∧
      (∀ part ∈ parts, IsPlace part) ∧ last tail := by
  induction fuel generalizing cs with
  | zero => cases form
  | succ fuel ih =>
      have extend {part rest : List Char} (place : IsPlace part)
          (goesOn : last rest || TypeTag.isSixties last fuel rest) :
          ∃ parts tail, ':' :: part ++ rest = parts.flatMap (':' :: ·) ++ tail ∧ parts ≠ [] ∧
            (∀ part ∈ parts, IsPlace part) ∧ last tail := by
        rcases (Bool.or_eq_true _ _).mp goesOn with ends | more
        · refine ⟨[part], rest, by simp, List.cons_ne_nil _ _, fun other listed => ?_, ends⟩
          rwa [List.mem_singleton.mp listed]
        · obtain ⟨parts, tail, rfl, -, places, ends⟩ := ih more
          refine ⟨part :: parts, tail, by simp, List.cons_ne_nil _ _, fun other listed => ?_, ends⟩
          rcases List.mem_cons.mp listed with rfl | later
          · exact place
          · exact places other later
      unfold TypeTag.isSixties at form
      split at form
      · next a b rest =>
          split at form
          · next small =>
              exact extend (isPlace_two (isDigit_of_le small.1 small.2.1 (by decide)) small.2.2) form
          · obtain ⟨digit, goesOn⟩ := (Bool.and_eq_true _ _).mp form
            exact extend (isPlace_one digit) goesOn
      · next a =>
          obtain ⟨digit, ends⟩ := (Bool.and_eq_true _ _).mp form
          exact extend (isPlace_one digit) ((Bool.or_eq_true _ _).mpr (.inl ends))
      · cases form

theorem cut_places {first : List Char} (free : ':' ∉ first) {parts : List (List Char)}
    (others : ∀ part ∈ parts, ':' ∉ part) :
    Text.cut ':' (first ++ parts.flatMap (':' :: ·)) = first :: parts := by
  induction parts generalizing first with
  | nil =>
      rw [List.flatMap_nil, List.append_nil]
      exact Text.cut_of_free free
  | cons part rest ih =>
      rw [List.flatMap_cons, List.cons_append, Text.cut_append_cons free,
        ih (others part List.mem_cons_self) fun p later => others p (List.mem_cons_of_mem _ later)]

/-- A whole number of a form without a value: one with no digit behind the mark of its base, or with
too many digits. -/
def lacksInt (cs : List Char) : Bool :=
  match TypeTag.unsigned cs with
  | '0' :: 'b' :: rest | '0' :: 'x' :: rest => rest.all (· == '_')
  | '0' :: _ => false
  | ds => Decimal.digitLimit < (withoutLines (ds.takeWhile TypeTag.isDigitOrLine)).length

theorem isDigitIn_ten {c : Char} (digit : c.isDigit) : isDigitIn 10 c := by
  have facts : digitChars.all fun c => decide (c.isDigit → isDigitIn 10 c) := by decide
  exact forall_isHexDigit facts (isHexDigit_of_isDigit digit) digit

theorem isDigitIn_eight {c : Char} (low : '0' ≤ c) (high : c ≤ '7') : isDigitIn 8 c := by
  have facts : digitChars.all fun c => decide (c ≤ '7' → isDigitIn 8 c) := by decide
  exact forall_isHexDigit facts
    (isHexDigit_of_isDigit (isDigit_of_le low high (by decide))) high

theorem isDigitIn_sixteen {c : Char} (hex : Quoted.isHexDigit c) : isDigitIn 16 c := by
  have facts : digitChars.all fun c => decide (isDigitIn 16 c) := by decide
  exact forall_isHexDigit facts hex

/-- Digits of a base with underscores between them. -/
theorem failsWhen_whole (base : Nat) {cs : List Char}
    (digits : ∀ c ∈ cs, c ≠ '_' → isDigitIn base c) :
    FailsWhen (cs.all (· == '_') ∨ (base = 10 ∧ Decimal.digitLimit < (withoutLines cs).length))
      badNumber (whole base (withoutLines cs)) := by
  rw [whole_of_digits fun c listed =>
    digits c (mem_withoutLines listed).1 (mem_withoutLines listed).2]
  refine (FailsWhen.ite _).congr ?_
  rw [withoutLines_eq_nil_iff]

theorem isDigit_of_isDigitOrLine {c : Char} (ofForm : TypeTag.isDigitOrLine c) (filled : c ≠ '_') :
    c.isDigit := by
  rcases (Bool.or_eq_true _ _).mp ofForm with digit | line
  · exact digit
  · exact absurd (beq_iff_eq.mp line) filled

theorem magnitude_of_ne_zero {c : Char} (rest : List Char) (noZero : c ≠ '0') :
    magnitude (c :: rest) =
      if (c :: rest).contains ':' then
        ((Text.cut ':' (c :: rest)).mapM (whole 10)).map ofSixties
      else whole 10 (c :: rest) := by
  unfold magnitude
  split
  · next none => cases none
  · next zero => exact absurd (List.cons.inj zero).1 noZero
  · next zero => exact absurd (List.cons.inj zero).1 noZero
  · next zero => exact absurd (List.cons.inj zero).1 noZero
  · next zero => exact absurd (List.cons.inj zero).1 noZero
  · rfl

theorem withoutLines_of_free {cs : List Char} (free : '_' ∉ cs) : withoutLines cs = cs :=
  List.filter_eq_self.mpr fun _ listed =>
    decide_eq_true fun same => free (same ▸ listed)

theorem ne_of_isDigit {c other : Char} (digit : c.isDigit) (none : other.isDigit = false) :
    c ≠ other := by
  rintro rfl
  rw [none] at digit
  cases digit

theorem IsPlace.not_mem {part : List Char} (place : IsPlace part) {c : Char}
    (none : c.isDigit = false) : c ∉ part :=
  fun listed => ne_of_isDigit (place.2.2 c listed) none rfl

theorem not_mem_places {parts : List (List Char)} (places : ∀ part ∈ parts, IsPlace part) :
    '_' ∉ parts.flatMap (':' :: ·) := by
  intro listed
  obtain ⟨part, inside, at_part⟩ := List.mem_flatMap.mp listed
  rcases List.mem_cons.mp at_part with same | later
  · cases same
  · exact (places part inside).not_mem rfl later

theorem IsPlace.whole_eq_ok {part : List Char} (place : IsPlace part) :
    whole 10 part = .ok (Decimal.natOfBase 10 part) := by
  rw [whole_of_digits fun c listed => isDigitIn_ten (place.2.2 c listed), if_neg]
  rintro (empty | ⟨-, long⟩)
  · exact place.1 empty
  · exact absurd (Nat.lt_of_lt_of_le long place.2.1) (by decide)

theorem exists_mapM_whole {parts : List (List Char)} (places : ∀ part ∈ parts, IsPlace part) :
    ∃ ns, parts.mapM (whole 10) = .ok ns := by
  have each : ∀ part ∈ parts, ∃ n, whole 10 part = .ok n := fun part listed =>
    ⟨_, (places part listed).whole_eq_ok⟩
  obtain ⟨ns, done⟩ := exists_forall₂_iff.mpr each
  exact ⟨ns, mapM_eq_ok_iff.mpr done⟩

/-- A number that does not begin with a zero lacks a value if its first part is too long. -/
theorem failsWhen_magnitude_of_ne_zero {c : Char} {rest : List Char} (digit : c.isDigit)
    (noZero : c ≠ '0')
    (form : (rest.dropWhile TypeTag.isDigitOrLine).isEmpty ||
      TypeTag.isSixties List.isEmpty (rest.dropWhile TypeTag.isDigitOrLine).length
        (rest.dropWhile TypeTag.isDigitOrLine)) :
    FailsWhen (Decimal.digitLimit <
        (withoutLines ((c :: rest).takeWhile TypeTag.isDigitOrLine)).length)
      badNumber (magnitude (c :: withoutLines rest)) := by
  have noLine : c ≠ '_' := ne_of_isDigit digit rfl
  have start : TypeTag.isDigitOrLine c := by rw [TypeTag.isDigitOrLine, digit]; rfl
  have parted : rest = rest.takeWhile TypeTag.isDigitOrLine ++
      rest.dropWhile TypeTag.isDigitOrLine := List.takeWhile_append_dropWhile.symm
  have leading : ∀ d ∈ rest.takeWhile TypeTag.isDigitOrLine, TypeTag.isDigitOrLine d :=
    fun d listed => List.mem_takeWhile_imp listed
  rw [List.takeWhile_cons_of_pos start]
  generalize rest.takeWhile TypeTag.isDigitOrLine = first at *
  generalize rest.dropWhile TypeTag.isDigitOrLine = more at *
  subst parted
  have digits : ∀ d ∈ c :: first, d ≠ '_' → isDigitIn 10 d := by
    intro d listed filled
    rcases List.mem_cons.mp listed with rfl | later
    · exact isDigitIn_ten digit
    · exact isDigitIn_ten (isDigit_of_isDigitOrLine (leading d later) filled)
  have ofFirst := (failsWhen_whole 10 digits).congr (q := Decimal.digitLimit <
    (withoutLines (c :: first)).length) (by simp [noLine])
  have free : ':' ∉ withoutLines (c :: first) := by
    intro listed
    obtain ⟨inside, filled⟩ := mem_withoutLines listed
    exact absurd (digits _ inside filled) (by decide)
  have whole_lead : c :: withoutLines (first ++ more) =
      withoutLines (c :: first) ++ withoutLines more := by
    rw [withoutLines_cons noLine, withoutLines_append, List.cons_append]
  rw [magnitude_of_ne_zero _ noZero, whole_lead]
  rcases (Bool.or_eq_true _ _).mp form with ended | sixties
  · rw [List.isEmpty_iff.mp ended, show withoutLines [] = [] from rfl, List.append_nil,
      if_neg (by simpa using free)]
    exact ofFirst
  · obtain ⟨parts, tail, rfl, filled, places, ends⟩ := exists_places sixties
    rw [List.isEmpty_iff.mp ends, List.append_nil, withoutLines_of_free (not_mem_places places),
      cut_places free fun part listed => (places part listed).not_mem rfl, List.mapM_cons]
    obtain ⟨ns, done⟩ := exists_mapM_whole places
    have parted : (withoutLines (c :: first) ++ parts.flatMap (':' :: ·)).contains ':' := by
      obtain ⟨part, others, rfl⟩ := List.exists_cons_of_ne_nil filled
      simp
    rw [if_pos parted, done]
    exact (ofFirst.bind fun n => ⟨n :: ns, rfl⟩).map _

/-- A number that begins with a zero and has no other mark is one of octal digits. -/
theorem exists_magnitude_of_octal {rest : List Char}
    (octal : ∀ c ∈ rest, c ≠ '_' → '0' ≤ c ∧ c ≤ '7') :
    ∃ n, magnitude ('0' :: withoutLines rest) = .ok n := by
  have digits : ∀ c ∈ withoutLines rest, isDigitIn 8 c := by
    intro c listed
    obtain ⟨inside, filled⟩ := mem_withoutLines listed
    obtain ⟨low, high⟩ := octal c inside filled
    exact isDigitIn_eight low high
  cases left : withoutLines rest with
  | nil => exact ⟨0, rfl⟩
  | cons d more =>
      rw [left] at digits
      have first := digits d List.mem_cons_self
      have zeroFirst : ∀ c ∈ '0' :: d :: more, isDigitIn 8 c := by
        intro c listed
        rcases List.mem_cons.mp listed with rfl | later
        · decide
        · exact digits c later
      refine ⟨Decimal.natOfBase 8 ('0' :: d :: more), ?_⟩
      unfold magnitude
      split
      · next none => cases none
      · next zero => cases zero
      · next binary =>
          cases binary
          cases first
      · next hexadecimal =>
          cases hexadecimal
          cases first
      · rw [whole_of_digits zeroFirst]
        simp
      · next noZero => exact absurd rfl (noZero _)

/-- A whole number of a form is built unless it lacks a value. -/
theorem failsWhen_magnitude {cs : List Char} (form : TypeTag.isInt cs) :
    FailsWhen (lacksInt cs) badNumber (magnitude (signed (withoutLines cs)).2) := by
  unfold TypeTag.isInt at form
  unfold lacksInt
  split at form
  · next zero =>
      rw [zero, signed_withoutLines zero (by decide) (by decide) (by decide)]
      exact .never _ nofun
  · next rest binary =>
      obtain ⟨-, digits⟩ := (Bool.and_eq_true _ _).mp form
      rw [binary, signed_withoutLines binary (by decide) (by decide) (by decide)]
      refine FailsWhen.congr (failsWhen_whole 2 fun c listed filled => ?_) (by simp)
      have one := List.all_eq_true.mp digits c listed
      simp only [Bool.or_eq_true, beq_iff_eq, filled, or_false] at one
      rcases one with rfl | rfl <;> decide
  · next rest hexadecimal =>
      obtain ⟨-, digits⟩ := (Bool.and_eq_true _ _).mp form
      rw [hexadecimal, signed_withoutLines hexadecimal (by decide) (by decide) (by decide)]
      refine FailsWhen.congr (failsWhen_whole 16 fun c listed filled => ?_) (by simp)
      have one := List.all_eq_true.mp digits c listed
      simp only [Bool.or_eq_true, beq_iff_eq, filled, or_false] at one
      refine isDigitIn_sixteen ?_
      simpa only [Quoted.isHexDigit, Bool.or_eq_true] using one
  · next zero rest noZero noBinary noHexadecimal octal =>
      have digits (c : Char) (listed : c ∈ rest) (filled : c ≠ '_') : '0' ≤ c ∧ c ≤ '7' := by
        have one := List.all_eq_true.mp form c listed
        simpa [filled] using one
      obtain ⟨n, done⟩ := exists_magnitude_of_octal digits
      rw [octal, signed_withoutLines octal (by decide) (by decide) (by decide), done]
      refine .never _ ?_
      split
      · next same => exact absurd (List.cons.inj same).2 (noBinary _)
      · next same => exact absurd (List.cons.inj same).2 (noHexadecimal _)
      · exact Bool.false_ne_true
      · next noMark => exact absurd rfl (noMark _)
  · next c rest _ _ _ noZero other =>
      obtain ⟨digit, behind⟩ := (Bool.and_eq_true _ _).mp form
      rw [other, signed_withoutLines other (ne_of_isDigit digit rfl) (ne_of_isDigit digit rfl)
        (ne_of_isDigit digit rfl)]
      refine (failsWhen_magnitude_of_ne_zero digit noZero behind).congr ?_
      split
      · next same => exact absurd (List.cons.inj same).1 noZero
      · next same => exact absurd (List.cons.inj same).1 noZero
      · next same => exact absurd (List.cons.inj same).1 noZero
      · exact decide_eq_true_iff.symm
  · cases form

theorem failsWhen_int {text : String} (form : TypeTag.isInt text.toList) :
    FailsWhen (lacksInt text.toList) badNumber (int text) :=
  (failsWhen_magnitude form).map _

end Number

end Bindery.Yaml
