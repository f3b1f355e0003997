import Nexa.Store.ExactDecimal

namespace Nexa

open RegularExpression List

@[simp]
theorem charDigit_digitChar : ∀ digit, charDigit (digitChar digit) = digit := by decide

theorem digitChar_charDigit : ∀ char ∈ ['0', '1', '2', '3', '4', '5', '6', '7', '8', '9'],
    digitChar (charDigit char) = char := by
  intro char member
  simp only [mem_cons, not_mem_nil, or_false] at member
  rcases member with rfl | rfl | rfl | rfl | rfl | rfl | rfl | rfl | rfl | rfl <;> rfl

theorem digitChar_injective : Function.Injective digitChar := Function.LeftInverse.injective charDigit_digitChar

theorem digitChar_mem : ∀ digit, digitChar digit ∈ ['0', '1', '2', '3', '4', '5', '6', '7', '8', '9'] := by decide

theorem digitChar_mem_nonzero : ∀ digit, digit ≠ 0 ->
    digitChar digit ∈ ['1', '2', '3', '4', '5', '6', '7', '8', '9'] := by decide

theorem charDigit_ne_zero : ∀ char ∈ ['1', '2', '3', '4', '5', '6', '7', '8', '9'],
    charDigit char ≠ 0 := by
  intro char member
  simp only [mem_cons, not_mem_nil, or_false] at member
  rcases member with rfl | rfl | rfl | rfl | rfl | rfl | rfl | rfl | rfl <;> decide

theorem digitChar_ne_colon : ∀ digit, digitChar digit ≠ ':' := by decide

theorem digitChar_ne_minus : ∀ digit, digitChar digit ≠ '-' := by decide

theorem digitsText_injective : Function.Injective digitsText := digitChar_injective.list_map

@[simp]
theorem map_charDigit_digitsText (digits : List (Fin 10)) : (digitsText digits).map charDigit = digits := by
  simp [digitsText, Function.comp_def]

theorem digitsText_head (digits : List (Fin 10)) : (digitsText digits).head? ≠ some '-' := by
  cases digits with
  | nil => simp [digitsText]
  | cons first rest => simp [digitsText, digitChar_ne_minus]

theorem colon_notMem_digitsText (digits : List (Fin 10)) : ':' ∉ digitsText digits := by
  simp [digitsText, digitChar_ne_colon]

theorem digitsText_eq_zero {digits : List (Fin 10)} : digitsText digits = ['0'] <-> digits = [0] :=
  ⟨fun same => digitsText_injective (same.trans (by decide)), fun same => same ▸ by decide⟩

theorem natText_eq (number : Nat) : natText number = digitsText (natDigits number) := by
  rw [natText, natDigits]
  split_ifs
  · decide
  · simp [digitsText, Function.comp_def]

theorem textNat_digitsText (digits : List (Fin 10)) :
    textNat (digitsText digits) = Nat.ofDigits 10 (digits.map Fin.val).reverse := by
  have general : ∀ total, (digitsText digits).foldl (fun total char => 10 * total + (charDigit char : Nat)) total =
      Nat.ofDigits 10 (digits.map Fin.val).reverse + 10 ^ digits.length * total := by
    induction digits with
    | nil => simp [digitsText]
    | cons first rest ih =>
      intro total
      have tail := ih (10 * total + first)
      simp only [digitsText] at tail
      simp only [digitsText, map_cons, foldl_cons, charDigit_digitChar, tail, reverse_cons,
        Nat.ofDigits_append, Nat.ofDigits_singleton, length_reverse, length_map,
        length_cons, pow_succ]
      ring
  simpa [textNat, Positional.value] using general 0

theorem natDigits_val {number : Nat} (positive : number ≠ 0) :
    ((natDigits number).map Fin.val).reverse = Nat.digits 10 number := by
  rw [natDigits, if_neg positive, List.map_map, ← map_reverse, reverse_reverse]
  refine (map_congr_left fun digit member => ?_).trans (map_id _)
  exact Nat.mod_eq_of_lt (Nat.digits_lt_base (by decide) member)

theorem canonical_natDigits (number : Nat) : CanonicalDigits (natDigits number) := by
  by_cases zero : number = 0
  · exact .inl (by simp [natDigits, zero])
  · have nonempty : Nat.digits 10 number ≠ [] := Nat.digits_ne_nil_iff_ne_zero.2 zero
    refine .inr ⟨Fin.ofNat 10 ((Nat.digits 10 number).getLast nonempty), ?_, ?_⟩
    · simp [natDigits, zero, head?_reverse, getLast?_eq_some_getLast nonempty]
    · have small := Nat.digits_lt_base (b := 10) (by decide) (getLast_mem nonempty)
      have leading := Nat.getLast_digit_ne_zero 10 zero
      intro same
      have rest := congrArg Fin.val same
      simp only [Fin.val_ofNat, Nat.mod_eq_of_lt small] at rest
      exact leading rest

theorem natDigits_textNat {digits : List (Fin 10)} (canonical : CanonicalDigits digits) :
    natDigits (textNat (digitsText digits)) = digits := by
  rcases canonical with rfl | ⟨first, head, counts⟩
  · decide
  · cases digits with
    | nil => simp at head
    | cons leading rest =>
      obtain rfl : leading = first := by simpa using head
      have bounded : ∀ digit ∈ (((leading :: rest).map Fin.val).reverse), digit < 10 := by
        intro digit member
        rw [mem_reverse, mem_map] at member
        obtain ⟨source, _, rfl⟩ := member
        exact source.isLt
      have last : ∀ nonempty : ((leading :: rest).map Fin.val).reverse ≠ [],
          (((leading :: rest).map Fin.val).reverse).getLast nonempty ≠ 0 := by
        intro nonempty
        simpa [Fin.val_eq_zero_iff] using counts
      have expansion := Nat.digits_ofDigits 10 (by decide) _ bounded last
      rw [← textNat_digitsText] at expansion
      have positive : textNat (digitsText (leading :: rest)) ≠ 0 := by
        intro zero
        rw [zero] at expansion
        simp at expansion
      have same := (natDigits_val positive).trans expansion
      rw [reverse_inj] at same
      exact Fin.val_injective.list_map same

theorem textNat_natText (number : Nat) : textNat (natText number) = number := by
  rw [natText_eq, textNat_digitsText]
  by_cases zero : number = 0
  · subst zero
    decide
  · rw [natDigits_val zero, Nat.ofDigits_digits]

variable {text : Text}

theorem textInt_of_head (unsigned : text.head? ≠ some '-') : textInt text = textNat text := by
  unfold textInt
  split
  · simp at unsigned
  · rfl

theorem natText_head (number : Nat) : (natText number).head? ≠ some '-' := by
  rw [natText_eq]
  exact digitsText_head _

theorem textInt_intText (number : Int) : textInt (intText number) = number := by
  rw [intText]
  split_ifs with negative
  · change -(textNat (natText number.natAbs) : Int) = number
    rw [textNat_natText]
    omega
  · rw [textInt_of_head (natText_head _), textNat_natText]
    omega

theorem colon_notMem_natText (number : Nat) : ':' ∉ natText number := by
  rw [natText_eq]
  exact colon_notMem_digitsText _

theorem colon_notMem_intText (number : Int) : ':' ∉ intText number := by
  rw [intText]
  split_ifs
  · simp [colon_notMem_natText]
  · exact colon_notMem_natText _

theorem intText_unsigned (number : Int) :
    (if (intText number).head? = some '-' then (intText number).tail else intText number) =
      natText number.natAbs := by
  rw [intText]
  split_ifs with negative minus minus
  · rfl
  · simp at minus
  · exact absurd minus (natText_head _)
  · rfl

theorem intText_ltrim (number : Int) : (intText number).dropWhile (· = '-') = natText number.natAbs := by
  have plain : (natText number.natAbs).dropWhile (· = '-') = natText number.natAbs := by
    cases digits : natText number.natAbs with
    | nil => rfl
    | cons first rest =>
      have head := natText_head number.natAbs
      rw [digits] at head
      exact dropWhile_cons_of_neg (by simpa using head)
  rw [intText]
  split_ifs
  · rw [dropWhile_cons_of_pos (by simp), plain]
  · exact plain

theorem natText_length {number width : Nat} (positive : 0 < width) (small : number < 10 ^ width) :
    (natText number).length ≤ width := by
  rw [natText]
  split_ifs
  · exact positive
  · rw [length_map, length_reverse]
    exact Nat.digits_length_le_iff (by decide) _ |>.2 small

theorem mem_char {char : Char} : text ∈ (RegularExpression.char char).matches' <-> text = [char] :=
  Iff.rfl

theorem mem_oneOf {chars : List Char} : text ∈ (oneOf chars).matches' <-> ∃ char ∈ chars, text = [char] := by
  induction chars with
  | nil => simp [oneOf]
  | cons first rest ih =>
    change text ∈ (RegularExpression.char first + oneOf rest).matches' <-> _
    rw [matches'_add, Language.mem_add, mem_char, ih]
    simp

theorem mem_anyDigits : text ∈ anyDigit.star.matches' <-> ∃ digits, text = digitsText digits := by
  rw [matches'_star, Language.mem_kstar]
  constructor
  · rintro ⟨parts, rfl, inside⟩
    induction parts with
    | nil => exact ⟨[], rfl⟩
    | cons part rest ih =>
      obtain ⟨digits, same⟩ := ih fun other member => inside other (mem_cons_of_mem _ member)
      obtain ⟨char, member, rfl⟩ := mem_oneOf.1 (inside part mem_cons_self)
      refine ⟨charDigit char :: digits, ?_⟩
      rw [flatten_cons, same, digitsText, digitsText, map_cons, digitChar_charDigit char member]
      rfl
  · rintro ⟨digits, rfl⟩
    refine ⟨digits.map fun digit => [digitChar digit], ?_, ?_⟩
    · induction digits with
      | nil => rfl
      | cons first rest ih =>
        rw [map_cons, flatten_cons, ← ih]
        rfl
    · intro part member
      obtain ⟨digit, _, rfl⟩ := mem_map.1 member
      exact mem_oneOf.2 ⟨_, digitChar_mem digit, rfl⟩

theorem mem_counting :
    text ∈ (nonzeroDigit * anyDigit.star).matches' <->
      ∃ first rest, first ≠ 0 ∧ text = digitsText (first :: rest) := by
  rw [matches'_mul, Language.mem_mul]
  constructor
  · rintro ⟨leading, nonzero, more, digits, rfl⟩
    obtain ⟨char, member, rfl⟩ := mem_oneOf.1 nonzero
    obtain ⟨rest, rfl⟩ := mem_anyDigits.1 digits
    refine ⟨charDigit char, rest, charDigit_ne_zero char member, ?_⟩
    have digit : char ∈ ['0', '1', '2', '3', '4', '5', '6', '7', '8', '9'] := mem_cons_of_mem _ member
    rw [digitsText, digitsText, map_cons, digitChar_charDigit char digit]
    rfl
  · rintro ⟨first, rest, counts, rfl⟩
    exact ⟨_, mem_oneOf.2 ⟨_, digitChar_mem_nonzero first counts, rfl⟩, _, mem_anyDigits.2 ⟨rest, rfl⟩, rfl⟩

theorem mem_digits :
    text ∈ (RegularExpression.char '0' + nonzeroDigit * anyDigit.star).matches' <->
      ∃ digits, CanonicalDigits digits ∧ text = digitsText digits := by
  rw [matches'_add, Language.mem_add, mem_counting, mem_char]
  constructor
  · rintro (rfl | ⟨first, rest, counts, rfl⟩)
    · exact ⟨[0], .inl rfl, by decide⟩
    · exact ⟨first :: rest, .inr ⟨first, rfl, counts⟩, rfl⟩
  · rintro ⟨digits, rfl | ⟨first, head, counts⟩, rfl⟩
    · exact .inl (by decide)
    · cases digits with
      | nil => simp at head
      | cons leading rest =>
        obtain rfl : leading = first := by simpa using head
        exact .inr ⟨leading, rest, counts, rfl⟩

theorem natText_counting {number : Nat} (positive : number ≠ 0) :
    ∃ first rest, first ≠ 0 ∧ natText number = digitsText (first :: rest) := by
  rcases canonical_natDigits number with zero | ⟨first, head, counts⟩
  · have value := textNat_natText number
    rw [natText_eq, zero] at value
    exact absurd (value.symm.trans (by decide)) positive
  · cases digits : natDigits number with
    | nil => simp [digits] at head
    | cons leading rest =>
      obtain rfl : leading = first := by simpa [digits] using head
      exact ⟨leading, rest, counts, by rw [natText_eq, digits]⟩

theorem counting_natText {first : Fin 10} (counts : first ≠ 0) (rest : List (Fin 10)) :
    ∃ number, number ≠ 0 ∧ natText number = digitsText (first :: rest) := by
  have same := natDigits_textNat (.inr ⟨first, rfl, counts⟩ : CanonicalDigits (first :: rest))
  refine ⟨textNat (digitsText (first :: rest)), ?_, by rw [natText_eq, same]⟩
  intro zero
  rw [zero] at same
  exact counts (List.cons.inj same).1.symm

theorem mem_exponent :
    text ∈ (RegularExpression.char '0' + (1 + RegularExpression.char '-') * nonzeroDigit *
        anyDigit.star).matches' <-> ∃ exponent : Int, text = intText exponent := by
  rw [matches'_add, Language.mem_add, mem_char, matches'_mul, matches'_mul, mul_assoc, ← matches'_mul,
    Language.mem_mul]
  constructor
  · rintro (rfl | ⟨sign, signed, digits, counting, rfl⟩)
    · exact ⟨0, by decide⟩
    · obtain ⟨first, rest, counts, rfl⟩ := mem_counting.1 counting
      obtain ⟨number, positive, same⟩ := counting_natText counts rest
      rw [matches'_add, Language.mem_add, mem_char, matches'_epsilon, Language.mem_one] at signed
      rcases signed with rfl | rfl
      · refine ⟨number, ?_⟩
        rw [intText, if_neg (by omega), Int.natAbs_natCast, same, nil_append]
      · refine ⟨-number, ?_⟩
        rw [intText, if_pos (by omega), Int.natAbs_neg, Int.natAbs_natCast, same]
        rfl
  · rintro ⟨exponent, rfl⟩
    by_cases zero : exponent = 0
    · subst zero
      exact .inl (by decide)
    · obtain ⟨first, rest, counts, same⟩ := natText_counting (Int.natAbs_ne_zero.2 zero)
      have counting := mem_counting.2 ⟨first, rest, counts, rfl⟩
      rw [intText, same]
      split_ifs
      · exact .inr ⟨['-'], .inr rfl, _, counting, rfl⟩
      · exact .inr ⟨[], .inl rfl, _, counting, rfl⟩

theorem mem_sign : text ∈ (oneOf ['0', '1']).matches' <-> ∃ sign : Fin 2, text = natText sign := by
  rw [mem_oneOf]
  constructor
  · rintro ⟨char, member, rfl⟩
    rcases mem_pair.1 member with rfl | rfl
    · exact ⟨0, by decide⟩
    · exact ⟨1, by decide⟩
  · rintro ⟨sign, rfl⟩
    obtain rfl | rfl : sign = 0 ∨ sign = 1 := by omega
    · exact ⟨'0', by decide, by decide⟩
    · exact ⟨'1', by decide, by decide⟩

theorem pattern_iff :
    exactDecimalPattern.rmatch text = true <->
      ∃ sign digits exponent, CanonicalDigits digits ∧ text = tupleText sign digits exponent := by
  rw [rmatch_iff_matches', exactDecimalPattern]
  simp only [matches'_mul (_ * _ * _ * _), matches'_mul (_ * _ * _), matches'_mul (_ * _),
    matches'_mul (oneOf _), Language.mem_mul, mem_digits, mem_exponent, mem_sign, mem_char]
  constructor
  · rintro ⟨_, ⟨_, ⟨_, ⟨_, ⟨sign, rfl⟩, _, rfl, rfl⟩, _, ⟨digits, canonical, rfl⟩, rfl⟩, _, rfl, rfl⟩, _,
      ⟨exponent, rfl⟩, rfl⟩
    exact ⟨sign, digits, exponent, canonical, by simp [tupleText]⟩
  · rintro ⟨sign, digits, exponent, canonical, rfl⟩
    exact ⟨_, ⟨_, ⟨_, ⟨_, ⟨sign, rfl⟩, _, rfl, rfl⟩, _, ⟨digits, canonical, rfl⟩, rfl⟩, _, rfl, rfl⟩, _,
      ⟨exponent, rfl⟩, by simp [tupleText]⟩

theorem tupleText_split (sign : Fin 2) (digits : List (Fin 10)) (exponent : Int) :
    (tupleText sign digits exponent).splitOn ':' = [natText sign, digitsText digits, intText exponent] := by
  have joined : tupleText sign digits exponent =
      [':'].intercalate [natText sign, digitsText digits, intText exponent] := by
    simp [tupleText, List.intercalate]
  rw [joined, splitOn_intercalate ':' _ (by simp)]
  intro part member
  simp only [mem_cons, not_mem_nil, or_false] at member
  rcases member with rfl | rfl | rfl
  · exact colon_notMem_natText _
  · exact colon_notMem_digitsText _
  · exact colon_notMem_intText _

section

variable (sign : Fin 2) (digits : List (Fin 10)) (exponent : Int)

@[simp]
theorem splitPart_sign : splitPart (tupleText sign digits exponent) 1 = natText sign := by
  rw [splitPart, tupleText_split]
  rfl

@[simp]
theorem splitPart_digits : splitPart (tupleText sign digits exponent) 2 = digitsText digits := by
  rw [splitPart, tupleText_split]
  rfl

@[simp]
theorem splitPart_exponent : splitPart (tupleText sign digits exponent) 3 = intText exponent := by
  rw [splitPart, tupleText_split]
  rfl

end

end Nexa
