import Bindery.Proofs.WholeNumbers

/-!
# Floats that cannot be built

A text with the form of a float is one of the words for infinity and for no number, or a decimal, or
a number in base sixty whose last part is a decimal. All of them have a value, but a number in base
sixty stops a build if it has so many parts that the unit of its first one is larger than every float.
-/

namespace Bindery.Yaml.Number

/-! ## Decimals -/

theorem toLower_of_isDigit {c : Char} (digit : c.isDigit) : c.toLower = c := by
  have facts : digitChars.all fun c => decide (c.isDigit → c.toLower = c) := by decide
  exact forall_isHexDigit facts (isHexDigit_of_isDigit digit) digit

/-- Small letters are no marks: what stands before the letters in the alphabet stays. -/
theorem toLower_eq_iff {c mark : Char} (low : mark.toNat < 65) : c.toLower = mark ↔ c = mark := by
  have ends : 'A'.val.toNat = 65 ∧ 'Z'.val.toNat = 90 ∧ ('a'.val - 'A'.val).toNat = 32 := by decide
  unfold Char.toLower
  split
  · next upper =>
      simp only [ge_iff_le, UInt32.le_iff_toNat_le] at upper
      simp only [Char.toNat] at low
      constructor
      · intro same
        have shifted := congrArg (fun c => c.val.toNat) same
        simp only [UInt32.toNat_add] at shifted
        omega
      · rintro rfl
        omega
  · rfl

theorem ascii_of_isDigit {c : Char} (digit : c.isDigit) : c.toNat < 127 ∧ isSpace c = false :=
  (of_isDigitIn (isDigitIn_ten digit)).1

/-- Behind the fraction of a float: nothing, or an exponent with a sign. -/
def IsPower (power : List Char) : Prop :=
  power = [] ∨ ∃ sign digits, power = 'e' :: sign :: digits ∧ (sign = '+' ∨ sign = '-') ∧
    digits ≠ [] ∧ ∀ c ∈ digits, c.isDigit

theorem IsPower.ascii {power : List Char} (ofPower : IsPower power) :
    ∀ c ∈ power, c.toNat < 127 ∧ isSpace c = false := by
  intro c listed
  rcases ofPower with rfl | ⟨sign, digits, rfl, ofSign, -, digit⟩
  · cases listed
  · rcases List.mem_cons.mp listed with rfl | later
    · decide
    · rcases List.mem_cons.mp later with rfl | inside
      · rcases ofSign with rfl | rfl <;> decide
      · exact ascii_of_isDigit (digit c inside)

theorem IsPower.takeWhile_eq_nil {power : List Char} (ofPower : IsPower power) :
    power.takeWhile Char.isDigit = [] := by
  rcases ofPower with rfl | ⟨sign, digits, rfl, -⟩ <;> rfl

theorem IsPower.dropWhile_eq_self {power : List Char} (ofPower : IsPower power) :
    power.dropWhile Char.isDigit = power := by
  rcases ofPower with rfl | ⟨sign, digits, rfl, -⟩ <;> rfl

theorem exists_decimal_of_digits {ds : List Char} (filled : ds ≠ [])
    (digits : ∀ c ∈ ds, c.isDigit) : ∃ x, decimal ds = .ok x := by
  have same : plain ds = ds := plain_of_ascii fun c listed => ascii_of_isDigit (digits c listed)
  have noSign : TypeTag.unsigned ds = ds := by
    obtain ⟨c, rest, rfl⟩ := List.exists_cons_of_ne_nil filled
    have digit := digits c List.mem_cons_self
    exact unsigned_of_head rest (ne_of_isDigit digit rfl) (ne_of_isDigit digit rfl)
  unfold decimal
  dsimp only
  rw [same, noSign, List.takeWhile_eq_self_iff.mpr digits, List.dropWhile_eq_nil_iff.mpr digits]
  split
  · exact ⟨_, rfl⟩
  · split
    · exact ⟨_, rfl⟩
    · rw [if_neg (by simp [filled])]
      exact ⟨_, rfl⟩

theorem exists_decimal_of_point {ds fraction power : List Char} (digits : ∀ c ∈ ds, c.isDigit)
    (places : ∀ c ∈ fraction, c.isDigit) (filled : ds ≠ [] ∨ fraction ≠ [])
    (ofPower : IsPower power) : ∃ x, decimal (ds ++ '.' :: (fraction ++ power)) = .ok x := by
  have same : plain (ds ++ '.' :: (fraction ++ power)) = ds ++ '.' :: (fraction ++ power) := by
    refine plain_of_ascii fun c listed => ?_
    rcases List.mem_append.mp listed with first | later
    · exact ascii_of_isDigit (digits c first)
    · rcases List.mem_cons.mp later with rfl | behind
      · decide
      · rcases List.mem_append.mp behind with inside | last
        · exact ascii_of_isDigit (places c inside)
        · exact ofPower.ascii c last
  have noSign : TypeTag.unsigned (ds ++ '.' :: (fraction ++ power)) =
      ds ++ '.' :: (fraction ++ power) := by
    cases ds with
    | nil => rfl
    | cons c rest =>
        have digit := digits c List.mem_cons_self
        exact unsigned_of_head _ (ne_of_isDigit digit rfl) (ne_of_isDigit digit rfl)
  have parted : Number.fraction ('.' :: (fraction ++ power)) = (fraction, power) := by
    show ((fraction ++ power).takeWhile _, (fraction ++ power).dropWhile _) = _
    rw [List.takeWhile_append_of_pos places, List.dropWhile_append_of_pos places,
      ofPower.takeWhile_eq_nil, ofPower.dropWhile_eq_self, List.append_nil]
  have before : (ds ++ '.' :: (fraction ++ power)).takeWhile Char.isDigit = ds := by
    rw [List.takeWhile_append_of_pos digits, List.takeWhile_cons_of_neg (by decide),
      List.append_nil]
  have behind : (ds ++ '.' :: (fraction ++ power)).dropWhile Char.isDigit =
      '.' :: (fraction ++ power) := by
    rw [List.dropWhile_append_of_pos digits, List.dropWhile_cons_of_neg (by decide)]
  unfold decimal
  dsimp only
  rw [same, noSign, before, behind, parted]
  split
  · exact ⟨_, rfl⟩
  · split
    · exact ⟨_, rfl⟩
    · rw [if_neg (by simpa using fun empty => filled.resolve_left (not_not.mpr empty))]
      rcases ofPower with rfl | ⟨sign, more, rfl, ofSign, some, digit⟩
      · exact ⟨_, rfl⟩
      · have bareMore : TypeTag.unsigned (sign :: more) = more := by
          rcases ofSign with rfl | rfl <;> rfl
        dsimp only
        rw [bareMore, if_pos ⟨by decide, by simpa using some, List.all_eq_true.mpr digit⟩]
        exact ⟨_, rfl⟩

/-- Putting parts together fails if the unit of the last one is larger than every float. -/
theorem failsWhen_sixtiesFrom (unit : Nat) (sum : Float) (parts : List Float) :
    FailsWhen (parts ≠ [] ∧ floatBound ≤ unit * 60 ^ (parts.length - 1))
      (.fault (.value .tooLarge)) (sixtiesFrom unit sum parts) := by
  induction parts generalizing unit sum with
  | nil => exact .never _ fun found => found.1 rfl
  | cons part rest ih =>
      rw [sixtiesFrom]
      by_cases large : floatBound ≤ unit
      · rw [if_pos large]
        have more : floatBound ≤ unit * 60 ^ ((part :: rest).length - 1) :=
          large.trans (Nat.le_mul_of_pos_right _ (Nat.pow_pos (by decide)))
        exact ⟨fun _ => rfl, fun few => absurd ⟨List.cons_ne_nil _ _, more⟩ few⟩
      · rw [if_neg large]
        refine (ih _ _).congr ?_
        cases rest with
        | nil => simpa using large
        | cons next others =>
            have longer : unit * 60 * 60 ^ others.length = unit * 60 ^ (others.length + 1) := by
              rw [Nat.pow_succ, Nat.mul_assoc, Nat.mul_comm 60]
            simp [longer]

/-- The powers of sixty that are larger than every float. -/
theorem floatBound_le_iff {n : Nat} : floatBound ≤ 60 ^ n ↔ 174 ≤ n := by
  constructor
  · intro large
    by_contra few
    have small : 60 ^ n ≤ 60 ^ 173 := Nat.pow_le_pow_right (by decide) (by omega)
    exact absurd (large.trans small) (by decide +kernel)
  · intro many
    exact le_trans (by decide +kernel : floatBound ≤ 60 ^ 174)
      (Nat.pow_le_pow_right (by decide) many)

/-- A float with too many parts in base sixty. -/
def lacksFloat (cs : List Char) : Bool := 174 ≤ cs.count ':'

/-- What the sign and the underscores of a float leave, in small letters. -/
def bare (cs : List Char) : List Char := (signed ((withoutLines cs).map Char.toLower)).2

theorem unsigned_map_toLower (cs : List Char) :
    TypeTag.unsigned (cs.map Char.toLower) = (TypeTag.unsigned cs).map Char.toLower := by
  cases cs with
  | nil => rfl
  | cons c rest =>
      by_cases plus : c = '+'
      · rw [plus]
        rfl
      · by_cases minus : c = '-'
        · rw [minus]
          rfl
        · rw [unsigned_of_head rest plus minus, List.map_cons]
          exact unsigned_of_head _ (mt (toLower_eq_iff (by decide)).mp plus)
            (mt (toLower_eq_iff (by decide)).mp minus)

theorem bare_eq {cs rest : List Char} {c : Char} (behind : TypeTag.unsigned cs = c :: rest)
    (ofNumber : c.isDigit ∨ c = '.') : bare cs = c :: (withoutLines rest).map Char.toLower := by
  have facts : c ≠ '_' ∧ c ≠ '+' ∧ c ≠ '-' ∧ c.toLower = c := by
    rcases ofNumber with digit | rfl
    · exact ⟨ne_of_isDigit digit rfl, ne_of_isDigit digit rfl, ne_of_isDigit digit rfl,
        toLower_of_isDigit digit⟩
    · decide
  obtain ⟨filled, noPlus, noMinus, small⟩ := facts
  have left : TypeTag.unsigned (withoutLines cs) = c :: withoutLines rest :=
    signed_withoutLines behind filled noPlus noMinus
  rw [bare, signed, unsigned_map_toLower, left, List.map_cons, small]

theorem lower_digits {cs : List Char} (digits : ∀ c ∈ cs, TypeTag.isDigitOrLine c) :
    (withoutLines cs).map Char.toLower = withoutLines cs ∧
      ∀ c ∈ withoutLines cs, c.isDigit := by
  have only (c : Char) (listed : c ∈ withoutLines cs) : c.isDigit := by
    obtain ⟨inside, filled⟩ := mem_withoutLines listed
    exact isDigit_of_isDigitOrLine (digits c inside) filled
  refine ⟨?_, only⟩
  exact (List.map_congr_left fun c listed => toLower_of_isDigit (only c listed)).trans
    (List.map_id' _)

theorem IsPower.not_mem_colon {power : List Char} (ofPower : IsPower power) : ':' ∉ power := by
  rcases ofPower with rfl | ⟨sign, digits, rfl, ofSign, -, digit⟩
  · exact List.not_mem_nil
  · intro listed
    rcases List.mem_cons.mp listed with same | later
    · cases same
    · rcases List.mem_cons.mp later with same | inside
      · subst same
        rcases ofSign with same | same <;> cases same
      · cases digit _ inside

theorem not_mem_of_digits {cs : List Char} (digits : ∀ c ∈ cs, c.isDigit) : ':' ∉ cs :=
  fun listed => nomatch digits _ listed

theorem isPower_of_isExponent {cs : List Char} (form : TypeTag.isExponent cs) :
    IsPower ((withoutLines cs).map Char.toLower) := by
  unfold TypeTag.isExponent at form
  split at form
  · exact .inl rfl
  · next e sign digits =>
      simp only [Bool.and_eq_true, Bool.or_eq_true, beq_iff_eq, List.all_eq_true] at form
      obtain ⟨⟨⟨mark, ofSign⟩, filled⟩, digit⟩ := form
      have noLines : withoutLines digits = digits :=
        withoutLines_of_free fun listed => absurd (digit _ listed) (by decide)
      have small : digits.map Char.toLower = digits :=
        (List.map_congr_left fun c listed => toLower_of_isDigit (digit c listed)).trans
          (List.map_id' _)
      have start : withoutLines (e :: sign :: digits) = e :: sign :: withoutLines digits := by
        rcases mark with rfl | rfl <;> rcases ofSign with rfl | rfl <;> rfl
      refine .inr ⟨sign, digits, ?_, ofSign, by simpa using filled, digit⟩
      rw [start, noLines, List.map_cons, List.map_cons, small]
      rcases mark with rfl | rfl <;> rcases ofSign with rfl | rfl <;> rfl
  · cases form

/-- The fraction of a float in small letters. -/
theorem exists_fraction {exponent : Bool} {cs : List Char} (form : TypeTag.isFraction exponent cs) :
    ∃ rest places power, cs = '.' :: rest ∧
      (withoutLines cs).map Char.toLower = '.' :: (places ++ power) ∧ (∀ c ∈ places, c.isDigit) ∧
      IsPower power ∧ (exponent = false → power = []) ∧
      (rest.head?.any Char.isDigit → places ≠ []) := by
  unfold TypeTag.isFraction at form
  split at form
  · next rest =>
      have parted : rest = rest.takeWhile TypeTag.isDigitOrLine ++
          rest.dropWhile TypeTag.isDigitOrLine := List.takeWhile_append_dropWhile.symm
      have leading : ∀ d ∈ rest.takeWhile TypeTag.isDigitOrLine, TypeTag.isDigitOrLine d :=
        fun d listed => List.mem_takeWhile_imp listed
      obtain ⟨small, digits⟩ := lower_digits leading
      refine ⟨rest, withoutLines (rest.takeWhile TypeTag.isDigitOrLine),
        (withoutLines (rest.dropWhile TypeTag.isDigitOrLine)).map Char.toLower, rfl, ?_, digits,
        ?_, ?_, ?_⟩
      · rw [← small, ← List.map_append, ← withoutLines_append, ← parted,
          withoutLines_cons (by decide)]
        rfl
      · rcases (Bool.or_eq_true _ _).mp form with ended | powered
        · rw [List.isEmpty_iff.mp ended]
          exact .inl rfl
        · exact isPower_of_isExponent ((Bool.and_eq_true _ _).mp powered).2
      · rintro rfl
        have ended : (rest.dropWhile TypeTag.isDigitOrLine).isEmpty := by simpa using form
        rw [List.isEmpty_iff.mp ended]
        rfl
      · intro digit
        cases rest with
        | nil => cases digit
        | cons d more =>
            have first : d.isDigit := by simpa using digit
            rw [List.takeWhile_cons_of_pos (by rw [TypeTag.isDigitOrLine, first]; rfl),
              withoutLines_cons (ne_of_isDigit first rfl)]
            exact List.cons_ne_nil _ _
  · cases form

/-- Where the sign leaves something, something was written. -/
theorem isEmpty_eq_false_of_bare {cs found : List Char} (left : bare cs = found)
    (filled : found ≠ []) : ((withoutLines cs).map Char.toLower).isEmpty = false := by
  rw [List.isEmpty_eq_false_iff]
  intro empty
  rw [bare, empty] at left
  exact filled left.symm

/-- A float is built if what its sign and its underscores leave is a decimal, or is no number. -/
theorem exists_float {text : String} {found : List Char}
    (left : bare text.toList = found)
    (filled : found ≠ []) (free : ':' ∉ found)
    (built : found = ".inf".toList ∨ found = ".nan".toList ∨ ∃ x, decimal found = .ok x) :
    ∃ x, float text = .ok x := by
  have written := isEmpty_eq_false_of_bare left filled
  rw [bare] at left
  unfold float
  dsimp only
  rw [left, if_neg (Bool.eq_false_iff.mp written)]
  rcases built with rfl | rfl | ⟨x, done⟩
  · exact ⟨_, if_pos rfl⟩
  · exact ⟨_, (if_neg (by decide)).trans (if_pos rfl)⟩
  · rw [done]
    split
    · exact ⟨_, rfl⟩
    · split
      · exact ⟨_, rfl⟩
      · rw [if_neg (by simpa using free)]
        exact ⟨_, rfl⟩

theorem exists_mapM_decimal {parts : List (List Char)}
    (each : ∀ part ∈ parts, ∃ x, decimal part = .ok x) :
    ∃ xs, parts.mapM decimal = .ok xs ∧ xs.length = parts.length := by
  obtain ⟨xs, done⟩ := exists_forall₂_iff.mpr each
  exact ⟨xs, mapM_eq_ok_iff.mpr done, done.length_eq.symm⟩

/-- A float in base sixty is built unless it has too many parts. -/
theorem failsWhen_float_of_parts {text : String} {first : List Char} {parts : List (List Char)}
    (left : bare text.toList = first ++ parts.flatMap (':' :: ·))
    (filled : parts ≠ []) (free : ∀ part ∈ first :: parts, ':' ∉ part)
    (each : ∀ part ∈ first :: parts, ∃ x, decimal part = .ok x) :
    FailsWhen (174 ≤ parts.length) (.fault (.value .tooLarge)) (float text) := by
  have parted : ':' ∈ first ++ parts.flatMap (':' :: ·) := by
    obtain ⟨part, others, rfl⟩ := List.exists_cons_of_ne_nil filled
    simp
  have apart : Text.cut ':' (first ++ parts.flatMap (':' :: ·)) = first :: parts :=
    cut_places (free first List.mem_cons_self) fun part listed =>
      free part (List.mem_cons_of_mem _ listed)
  obtain ⟨xs, done, many⟩ := exists_mapM_decimal each
  have written := isEmpty_eq_false_of_bare left (List.ne_nil_of_mem parted)
  rw [bare] at left
  unfold float
  dsimp only
  rw [left, if_neg (Bool.eq_false_iff.mp written),
    if_neg (fun same => absurd (same ▸ parted) (by decide)),
    if_neg (fun same => absurd (same ▸ parted) (by decide)),
    if_pos (List.contains_iff_mem.mpr parted), apart, done]
  have put := failsWhen_sixtiesFrom 1 0.0 xs.reverse
  refine (put.congr ?_).bind fun sum => ⟨_, rfl⟩
  rw [List.length_reverse, many, Nat.one_mul, List.length_cons, Nat.add_sub_cancel,
    floatBound_le_iff]
  refine and_iff_right fun none => ?_
  rw [List.reverse_eq_nil_iff.mp none] at many
  cases many

/-- Small letters, underscores and signs are no separators of parts. -/
theorem count_bare (cs : List Char) : (bare cs).count ':' = cs.count ':' := by
  have ofSign (ds : List Char) : (TypeTag.unsigned ds).count ':' = ds.count ':' := by
    unfold TypeTag.unsigned
    split
    · exact (List.count_cons_of_ne (by decide)).symm
    · exact (List.count_cons_of_ne (by decide)).symm
    · rfl
  refine (ofSign _).trans ?_
  induction cs with
  | nil => rfl
  | cons c rest ih =>
      by_cases line : c = '_'
      · rw [line]
        exact ih.trans (List.count_cons_of_ne (by decide)).symm
      · rw [withoutLines_cons line, List.map_cons, List.count_cons, List.count_cons, ih]
        simp [toLower_eq_iff]

/-- Nothing but an exponent follows the point of a float. -/
theorem not_mem_point {ds places power : List Char} (digits : ∀ c ∈ ds, c.isDigit)
    (more : ∀ c ∈ places, c.isDigit) (ofPower : IsPower power) :
    ':' ∉ ds ++ '.' :: (places ++ power) := by
  simp only [List.mem_append, List.mem_cons, not_or]
  exact ⟨not_mem_of_digits digits, by decide, not_mem_of_digits more, ofPower.not_mem_colon⟩

/-- A float that is left as something without parts is built. -/
theorem failsWhen_float_of_free {text : String} {found : List Char}
    (left : bare text.toList = found)
    (filled : found ≠ []) (free : ':' ∉ found)
    (built : found = ".inf".toList ∨ found = ".nan".toList ∨ ∃ x, decimal found = .ok x) :
    FailsWhen (174 ≤ (bare text.toList).count ':') (.fault (.value .tooLarge)) (float text) := by
  refine .of_exists ?_ (exists_float left filled free built)
  rw [left, List.count_eq_zero.mpr free]
  decide

theorem map_toLower_places {parts : List (List Char)} (places : ∀ part ∈ parts, IsPlace part) :
    (parts.flatMap (':' :: ·)).map Char.toLower = parts.flatMap (':' :: ·) := by
  refine (List.map_congr_left fun c listed => ?_).trans (List.map_id' _)
  obtain ⟨part, inside, at_part⟩ := List.mem_flatMap.mp listed
  rcases List.mem_cons.mp at_part with rfl | later
  · rfl
  · exact toLower_of_isDigit ((places part inside).2.2 c later)

theorem count_places {first : List Char} {parts : List (List Char)}
    (free : ∀ part ∈ first :: parts, ':' ∉ part) :
    (first ++ parts.flatMap (':' :: ·)).count ':' = parts.length := by
  rw [List.count_append, List.count_eq_zero.mpr (free first List.mem_cons_self), Nat.zero_add]
  have others : ∀ part ∈ parts, ':' ∉ part :=
    fun part listed => free part (List.mem_cons_of_mem _ listed)
  clear free
  induction parts with
  | nil => rfl
  | cons part rest ih =>
      have later := ih fun other listed => others other (List.mem_cons_of_mem _ listed)
      rw [List.flatMap_cons, List.count_append, later, List.count_cons_self,
        List.count_eq_zero.mpr (others part List.mem_cons_self), List.length_cons, Nat.add_comm,
        Nat.zero_add]

/-- A number in base sixty, behind the digits of its first part. -/
theorem failsWhen_float_of_sixties {text : String} {fuel : Nat} {ds more : List Char}
    (filled : ds ≠ []) (digits : ∀ c ∈ ds, c.isDigit)
    (left : bare text.toList = ds ++ (withoutLines more).map Char.toLower)
    (sixties : TypeTag.isSixties (TypeTag.isFraction false) fuel more) :
    FailsWhen (174 ≤ (bare text.toList).count ':') (.fault (.value .tooLarge)) (float text) := by
  obtain ⟨parts, tail, rfl, some, placed, ends⟩ := exists_places sixties
  obtain ⟨_, places, power, -, point, placesDigits, ofPower, plain, -⟩ := exists_fraction ends
  obtain ⟨init, last, rfl⟩ := (List.eq_nil_or_concat' parts).resolve_left some
  have initPlaced : ∀ part ∈ init, IsPlace part :=
    fun part listed => placed part (List.mem_append_left _ listed)
  have lastPlaced : IsPlace last := placed last (List.mem_append_right _ List.mem_cons_self)
  -- The fraction belongs to the last part.
  have whole : (withoutLines ((init ++ [last]).flatMap (':' :: ·) ++ tail)).map Char.toLower =
      (init ++ [last ++ '.' :: places]).flatMap (':' :: ·) := by
    rw [withoutLines_append, withoutLines_of_free (not_mem_places placed), List.map_append, point,
      map_toLower_places placed, plain rfl]
    simp
  rw [whole] at left
  have free : ∀ part ∈ ds :: (init ++ [last ++ '.' :: places]), ':' ∉ part := by
    intro part listed
    rcases List.mem_cons.mp listed with rfl | later
    · exact not_mem_of_digits digits
    · rcases List.mem_append.mp later with inside | ended
      · exact (initPlaced part inside).not_mem rfl
      · rw [List.mem_singleton.mp ended, ← List.append_nil places]
        exact not_mem_point lastPlaced.2.2 placesDigits (.inl rfl)
  have each : ∀ part ∈ ds :: (init ++ [last ++ '.' :: places]), ∃ x, decimal part = .ok x := by
    intro part listed
    rcases List.mem_cons.mp listed with rfl | later
    · exact exists_decimal_of_digits filled digits
    · rcases List.mem_append.mp later with inside | ended
      · exact exists_decimal_of_digits (initPlaced part inside).1 (initPlaced part inside).2.2
      · rw [List.mem_singleton.mp ended, ← List.append_nil places]
        exact exists_decimal_of_point lastPlaced.2.2 placesDigits (.inl lastPlaced.1) (.inl rfl)
  rw [left, count_places free]
  exact failsWhen_float_of_parts left (by simp) free each

/-- A float that begins with a digit. -/
theorem failsWhen_float_of_digit {text : String} {d : Char} {rest : List Char}
    (behind : TypeTag.unsigned text.toList = d :: rest) (digit : d.isDigit)
    (form : TypeTag.isFraction true (rest.dropWhile TypeTag.isDigitOrLine) ||
      TypeTag.isSixties (TypeTag.isFraction false) (rest.dropWhile TypeTag.isDigitOrLine).length
        (rest.dropWhile TypeTag.isDigitOrLine)) :
    FailsWhen (174 ≤ (bare text.toList).count ':') (.fault (.value .tooLarge)) (float text) := by
  have parted : rest = rest.takeWhile TypeTag.isDigitOrLine ++
      rest.dropWhile TypeTag.isDigitOrLine := List.takeWhile_append_dropWhile.symm
  have leading : ∀ c ∈ rest.takeWhile TypeTag.isDigitOrLine, TypeTag.isDigitOrLine c :=
    fun c listed => List.mem_takeWhile_imp listed
  have left := bare_eq behind (.inl digit)
  generalize rest.takeWhile TypeTag.isDigitOrLine = first at *
  generalize rest.dropWhile TypeTag.isDigitOrLine = more at *
  obtain ⟨small, firstDigits⟩ := lower_digits leading
  have digits : ∀ c ∈ d :: withoutLines first, c.isDigit := by
    intro c listed
    rcases List.mem_cons.mp listed with rfl | later
    · exact digit
    · exact firstDigits c later
  rw [parted, withoutLines_append, List.map_append, small, ← List.cons_append] at left
  rcases (Bool.or_eq_true _ _).mp form with fractional | sixties
  · obtain ⟨_, places, power, -, point, placesDigits, ofPower, -, -⟩ := exists_fraction fractional
    rw [point] at left
    have built := exists_decimal_of_point digits placesDigits (.inl (List.cons_ne_nil _ _)) ofPower
    exact failsWhen_float_of_free left (by simp) (not_mem_point digits placesDigits ofPower)
      (.inr (.inr built))
  · exact failsWhen_float_of_sixties (List.cons_ne_nil _ _) digits left sixties

/-- A float of a form is built unless it has too many parts in base sixty. -/
theorem failsWhen_float {text : String} (form : TypeTag.isFloat text.toList) :
    FailsWhen (lacksFloat text.toList) (.fault (.value .tooLarge)) (float text) := by
  unfold lacksFloat
  rw [← count_bare, decide_eq_true_iff]
  unfold TypeTag.isFloat at form
  dsimp only at form
  split at form
  · next infinite =>
      have word : ∃ rest, TypeTag.unsigned text.toList = '.' :: rest ∧
          '.' :: (withoutLines rest).map Char.toLower = ".inf".toList := by
        rcases infinite with same | same | same
        · exact ⟨"inf".toList, by simpa using congrArg String.toList same, rfl⟩
        · exact ⟨"Inf".toList, by simpa using congrArg String.toList same, rfl⟩
        · exact ⟨"INF".toList, by simpa using congrArg String.toList same, rfl⟩
      obtain ⟨rest, behind, small⟩ := word
      have left := (bare_eq behind (.inr rfl)).trans small
      exact failsWhen_float_of_free left (by decide) (by decide) (.inl rfl)
  · split at form
    · next point =>
        rcases (Bool.or_eq_true _ _).mp form with noNumber | fractional
        · have word : text = ".nan" ∨ text = ".NaN" ∨ text = ".NAN" := by
            simpa [or_assoc] using noNumber
          have left : bare text.toList = ".nan".toList := by
            rcases word with rfl | rfl | rfl <;> rfl
          exact failsWhen_float_of_free left (by decide) (by decide) (.inr (.inl rfl))
        · split at fractional
          · next d rest same =>
              obtain ⟨digit, fractional⟩ := (Bool.and_eq_true _ _).mp fractional
              obtain ⟨_, places, power, opened, small, placesDigits, ofPower, -, some⟩ :=
                exists_fraction fractional
              have filled : places ≠ [] := by
                refine some ?_
                rw [← (List.cons.inj (same.symm.trans opened)).2]
                exact digit
              have left : bare text.toList = '.' :: (places ++ power) := by
                rw [bare, small]
                rfl
              have empty : ∀ c ∈ ([] : List Char), c.isDigit := fun c listed => nomatch listed
              have built := exists_decimal_of_point empty placesDigits (.inr filled) ofPower
              have free := not_mem_point empty placesDigits ofPower
              exact failsWhen_float_of_free left (List.cons_ne_nil _ _) free (.inr (.inr built))
          · cases fractional
    · next d rest noPoint other =>
        obtain ⟨digit, behind⟩ := (Bool.and_eq_true _ _).mp form
        exact failsWhen_float_of_digit other digit behind
    · cases form

end Bindery.Yaml.Number
