import Mathlib.Data.Char
import Mathlib.Data.List.Lex
import Nexa.Store.DecimalTexts

namespace Nexa

open Outcome List Positional

section

variable {exponent : Int}

theorem exponent_width (low : minEtiny ≤ exponent) (high : exponent ≤ maxEmax) :
    (natText exponent.natAbs).length ≤ exponentWidth := by
  have width : exponentWidth = 19 := by decide +kernel
  rw [width]
  refine natText_length (by decide) ?_
  rw [minEtiny] at low
  rw [maxEmax] at high
  omega

theorem parseDecimalExponent_eq_ok {parsed : Int} :
    parseDecimalExponent (intText exponent) = .ok parsed <->
      (minEtiny ≤ exponent ∧ exponent ≤ maxEmax) ∧ exponent = parsed := by
  simp only [parseDecimalExponent, intText_unsigned, textInt_intText, bind_eq_ok, require_eq_ok, pure_eq_ok,
    exists_const]
  exact ⟨fun parsed => parsed.2, fun inside => ⟨exponent_width inside.1.1 inside.1.2, inside⟩⟩

end

variable {digits : List (Fin 10)}

theorem canonicalDigits_eq (canonical : CanonicalDigits digits) : canonicalDigits digits = digits := by
  rcases canonical with rfl | ⟨first, head, counts⟩
  · decide
  · cases digits with
    | nil => simp at head
    | cons leading rest =>
      obtain rfl : leading = first := by simpa using head
      rw [canonicalDigits, dropWhile_cons_of_neg (by simpa using counts)]

theorem ofTuple_eq_some {sign : Fin 2} {exponent : Int} {value : FiniteDecimal} (canonical : CanonicalDigits digits) :
    FiniteDecimal.ofTuple sign digits exponent = some value <->
      value.sign = sign ∧ value.digits = digits ∧ value.exponent = exponent := by
  have same := canonicalDigits_eq canonical
  rw [FiniteDecimal.ofTuple]
  constructor
  · intro built
    split_ifs at built with representable
    obtain rfl := Option.some.inj built
    exact ⟨rfl, same, rfl⟩
  · rintro ⟨rfl, rfl, rfl⟩
    rw [dif_pos (same.symm ▸ value.representable)]
    cases value
    simp only [same]

theorem FiniteDecimal.text_eq (value : FiniteDecimal) :
    value.text = tupleText value.sign value.digits value.exponent :=
  rfl

variable {text : Text}

theorem decimalToDb_eq_ok {value : FiniteDecimal} :
    decimalToDb (.finite value) = .ok text <-> value.negative = false ∧ value.text = text := by
  obtain ⟨_, low, high, _⟩ := value.representable
  simp only [decimalToDb, bind_eq_ok, require_eq_ok, parseDecimalExponent_eq_ok, pure_eq_ok, exists_const,
    low, high, true_and]
  simp

theorem decimalParts_tupleText (sign : Fin 2) (digits : List (Fin 10)) (exponent : Int) :
    decimalParts (tupleText sign digits exponent) =
      some (natText sign, digitsText digits, intText exponent) := by
  rw [decimalParts, tupleText_split]

theorem decimalFromDb_eq_ok {value : FiniteDecimal} :
    decimalFromDb text = .ok value <-> value.negative = false ∧ value.text = text := by
  simp only [decimalFromDb, bind_eq_ok, require_eq_ok, orFail_eq_ok, pure_eq_ok, exists_const]
  constructor
  · rintro ⟨accepted, parts, split, exponent, parsed, decoded, built, nonnegative, rfl⟩
    obtain ⟨sign, digits, power, canonical, rfl⟩ := pattern_iff.1 accepted
    rw [decimalParts_tupleText, Option.some.injEq] at split
    subst split
    obtain ⟨_, rfl⟩ := parseDecimalExponent_eq_ok.1 parsed
    rw [map_charDigit_digitsText, textNat_natText, ofTuple_eq_some canonical] at built
    obtain ⟨sameSign, sameDigits, sameExponent⟩ := built
    refine ⟨nonnegative, ?_⟩
    rw [FiniteDecimal.text_eq, sameSign, sameDigits, sameExponent, Fin.ofNat_val_eq_self]
  · rintro ⟨nonnegative, rfl⟩
    obtain ⟨_, low, high, _⟩ := value.representable
    refine ⟨pattern_iff.2 ⟨_, _, _, value.canonical, rfl⟩, _, decimalParts_tupleText _ _ _, value.exponent,
      parseDecimalExponent_eq_ok.2 ⟨⟨low, high⟩, rfl⟩, value, ?_, nonnegative, rfl⟩
    rw [map_charDigit_digitsText, textNat_natText, ofTuple_eq_some value.canonical]
    exact ⟨(Fin.ofNat_val_eq_self _).symm, rfl, rfl⟩

theorem nexaDecimalIsValid_tupleText {sign : Fin 2} {exponent : Int} (canonical : CanonicalDigits digits) :
    nexaDecimalIsValid (tupleText sign digits exponent) = true <->
      minEtiny ≤ exponent ∧ exponent ≤ maxEmax ∧
        (digits = [0] ∨ exponent + digits.length - 1 ≤ maxEmax) := by
  have accepted := pattern_iff.2 ⟨sign, digits, exponent, canonical, rfl⟩
  have length : (digitsText digits).length = digits.length := length_map _
  simp only [nexaDecimalIsValid, accepted, if_true, splitPart_digits, splitPart_exponent, intText_ltrim,
    toBigint, textInt_intText, digitsText_eq_zero, length]
  by_cases inside : minEtiny ≤ exponent ∧ exponent ≤ maxEmax
  · have short := not_lt.2 (exponent_width inside.1 inside.2)
    have big : -2 ^ 63 ≤ exponent ∧ exponent < 2 ^ 63 := by
      simp only [minEtiny, maxEmax] at inside
      omega
    simp only [short, if_false, big, and_self, if_true, inside, true_and, decide_eq_true_eq]
  · have outside : ¬(minEtiny ≤ exponent ∧ exponent ≤ maxEmax ∧
        (digits = [0] ∨ exponent + digits.length - 1 ≤ maxEmax)) := fun held => inside ⟨held.1, held.2.1⟩
    simp only [outside, iff_false]
    split_ifs <;> simp [inside]

theorem nexaDecimalIsValid_iff (short : text.length ≤ maxPrec) :
    nexaDecimalIsValid text = true <-> ∃ value : FiniteDecimal, value.text = text := by
  constructor
  · intro valid
    have accepted : exactDecimalPattern.rmatch text = true := by
      by_contra refused
      simp [nexaDecimalIsValid, refused] at valid
    obtain ⟨sign, digits, exponent, canonical, rfl⟩ := pattern_iff.1 accepted
    obtain ⟨low, high, adjusted⟩ := (nexaDecimalIsValid_tupleText canonical).1 valid
    have precision : digits.length ≤ maxPrec := by
      refine le_trans ?_ short
      simp only [tupleText, digitsText, length_append, length_cons, length_map]
      omega
    exact ⟨⟨sign, digits, exponent, canonical, precision, low, high, adjusted⟩, rfl⟩
  · rintro ⟨value, rfl⟩
    exact (nexaDecimalIsValid_tupleText value.canonical).2 value.representable.2

theorem nexaDecimalIsNonnegative_iff (short : text.length ≤ maxPrec) :
    nexaDecimalIsNonnegative text = true <->
      ∃ value : FiniteDecimal, value.negative = false ∧ value.text = text := by
  have sign : ∀ sign : Fin 2, natText sign = ['0'] <-> ¬sign = 1 := by decide
  rw [nexaDecimalIsNonnegative, decide_eq_true_eq, nexaDecimalIsValid_iff short]
  constructor
  · rintro ⟨⟨value, rfl⟩, unsigned⟩
    refine ⟨value, ?_, rfl⟩
    rw [FiniteDecimal.text_eq, splitPart_sign, splitPart_digits, digitsText_eq_zero, sign] at unsigned
    rw [FiniteDecimal.negative, decide_eq_false_iff_not, not_and_or, not_ne_iff]
    exact unsigned
  · rintro ⟨value, nonnegative, rfl⟩
    refine ⟨⟨value, rfl⟩, ?_⟩
    rw [FiniteDecimal.negative, decide_eq_false_iff_not, not_and_or, not_ne_iff] at nonnegative
    rw [FiniteDecimal.text_eq, splitPart_sign, splitPart_digits, digitsText_eq_zero, sign]
    exact nonnegative

def charWeight (char : Char) : Nat := charDigit char

def textMagnitude (text : Text) : ℚ := scaled 10 charWeight (splitPart text 2) (textInt (splitPart text 3))

def textValue (text : Text) : ℚ := if textNat (splitPart text 1) = 1 then -textMagnitude text else textMagnitude text

def ordering (left right : ℚ) : Int := if left < right then -1 else if right < left then 1 else 0

theorem ordering_neg (left right : ℚ) : ordering (-left) (-right) = -ordering left right := by
  simp only [ordering, neg_lt_neg_iff]
  rcases lt_trichotomy left right with less | same | more
  · simp [less, less.not_gt]
  · simp [same]
  · simp [more, more.not_gt]

theorem ordering_of_lt {left right : ℚ} (less : left < right) : ordering left right = -1 := if_pos less

theorem ordering_of_gt {left right : ℚ} (more : right < left) : ordering left right = 1 := by
  rw [ordering, if_neg more.not_gt, if_pos more]

theorem ordering_self (value : ℚ) : ordering value value = 0 := by simp [ordering]

theorem charWeight_lt (char : Char) : charWeight char < 10 := (charDigit char).isLt

theorem charWeight_increases {others : List (Fin 10)} :
    ∀ char ∈ digitsText digits, ∀ other ∈ digitsText others, char < other ->
      charWeight char < charWeight other := by
  have table : ∀ digit other : Fin 10, digitChar digit < digitChar other ->
      charWeight (digitChar digit) < charWeight (digitChar other) := by decide
  intro char member other inside
  obtain ⟨digit, _, rfl⟩ := mem_map.1 member
  obtain ⟨next, _, rfl⟩ := mem_map.1 inside
  exact table digit next

def trimmedText (digits : List (Fin 10)) : Text := (digitsText digits).rdropWhile (· = '0')

theorem fraction_trimmedText (digits : List (Fin 10)) :
    fraction 10 charWeight (trimmedText digits) =
      fraction 10 charWeight (digitsText digits) := by
  refine fraction_rdropWhile ?_ _
  intro char zero
  rw [of_decide_eq_true zero]
  decide

theorem trimmedText_trimmed (digits : List (Fin 10)) : Trimmed charWeight (trimmedText digits) := by
  refine trimmed_rdropWhile ?_
  have table : ∀ digit : Fin 10, digitChar digit ≠ '0' -> charWeight (digitChar digit) ≠ 0 := by decide
  intro char member counts
  obtain ⟨digit, _, rfl⟩ := mem_map.1 member
  exact table digit (by simpa using counts)

theorem mem_of_mem_trimmedText {char : Char} (member : char ∈ trimmedText digits) : char ∈ digitsText digits :=
  ( rdropWhile_prefix _ _).subset member

theorem fraction_lt_of_trimmedText {left right : List (Fin 10)} (before : trimmedText left < trimmedText right) :
    fraction 10 charWeight (digitsText left) <
      fraction 10 charWeight (digitsText right) := by
  rw [← fraction_trimmedText left, ← fraction_trimmedText right]
  refine fraction_lt_of_lex (by decide) (fun char _ => charWeight_lt char) ?_
    (trimmedText_trimmed right) before
  intro char member other inside
  exact charWeight_increases char (mem_of_mem_trimmedText member) other (mem_of_mem_trimmedText inside)

theorem digitsText_length (digits : List (Fin 10)) : (digitsText digits).length = digits.length := length_map _

theorem scaled_lt_of_adjusted {small large : List (Fin 10)} {low high : Int} {digit : Fin 10}
    (head : digit ∈ large.head?) (counts : digit ≠ 0)
    (smaller : low + small.length - 1 < high + large.length - 1) :
    scaled 10 charWeight (digitsText small) low <
      scaled 10 charWeight (digitsText large) high := by
  have weight : ∀ digit : Fin 10, digit ≠ 0 -> charWeight (digitChar digit) ≠ 0 := by decide
  cases large with
  | nil => simp at head
  | cons leading rest =>
    obtain rfl : leading = digit := by simpa using head
    refine scaled_lt_of_magnitude (by decide) (fun char _ => charWeight_lt char)
      (weight leading counts) ?_
    rw [digitsText_length]
    simp only [length_cons, length_map] at smaller ⊢
    omega

theorem compareMagnitudes_eq {left right : List (Fin 10)} (low high : Int) {first second : Fin 10}
    (leftHead : first ∈ left.head?) (rightHead : second ∈ right.head?) (leftCounts : first ≠ 0)
    (rightCounts : second ≠ 0) :
    compareMagnitudes (low + left.length - 1, trimmedText left) (high + right.length - 1, trimmedText right) =
      ordering (scaled 10 charWeight (digitsText left) low)
        (scaled 10 charWeight (digitsText right) high) := by
  rw [compareMagnitudes]
  rcases lt_trichotomy (low + left.length - 1) (high + right.length - 1) with less | level | more
  · rw [if_pos less, ordering_of_lt (scaled_lt_of_adjusted rightHead rightCounts less)]
  · have same : low + (digitsText left).length = high + (digitsText right).length := by
      rw [digitsText_length, digitsText_length]
      omega
    rw [if_neg level.not_lt, if_neg level.not_gt]
    -- The magnitudes agree, so the digits decide, like words of a dictionary.
    rcases lt_trichotomy (trimmedText left) (trimmedText right) with before | equal | after
    · rw [if_pos before, ordering_of_lt (scaled_lt_of_fraction (by decide) same
        (fraction_lt_of_trimmedText before))]
    · have fractions := congrArg (fraction 10 charWeight) equal
      rw [fraction_trimmedText, fraction_trimmedText] at fractions
      rw [if_neg equal.not_lt, if_neg equal.not_gt, scaled_eq_of_fraction (by decide) same fractions, ordering_self]
    · rw [if_neg after.not_gt, if_pos after, ordering_of_gt
        (scaled_lt_of_fraction (by decide) same.symm (fraction_lt_of_trimmedText after))]
  · rw [if_neg more.not_gt, if_pos more, ordering_of_gt (scaled_lt_of_adjusted leftHead leftCounts more)]

theorem textMagnitude_tupleText (sign : Fin 2) (digits : List (Fin 10)) (exponent : Int) :
    textMagnitude (tupleText sign digits exponent) =
      scaled 10 charWeight (digitsText digits) exponent := by
  rw [textMagnitude, splitPart_digits, splitPart_exponent, textInt_intText]

theorem textMagnitude_zero (sign : Fin 2) (exponent : Int) : textMagnitude (tupleText sign [0] exponent) = 0 := by
  have zero : value 10 charWeight (digitsText [0]) = 0 := by decide
  rw [textMagnitude_tupleText, scaled, zero, Nat.cast_zero, zero_mul]

theorem textMagnitude_pos (sign : Fin 2) (exponent : Int) {digit : Fin 10}
    (head : digit ∈ digits.head?) (counts : digit ≠ 0) :
    0 < textMagnitude (tupleText sign digits exponent) := by
  have weight : ∀ digit : Fin 10, digit ≠ 0 -> charWeight (digitChar digit) ≠ 0 := by decide
  rw [textMagnitude_tupleText, scaled_eq (by decide)]
  cases digits with
  | nil => simp at head
  | cons leading rest =>
    obtain rfl : leading = digit := by simpa using head
    have above : (0 : ℚ) < fraction 10 charWeight (digitsText (leading :: rest)) :=
      lt_of_lt_of_le (by norm_num) (le_fraction (by decide) (weight leading counts))
    positivity

theorem textValue_tupleText (sign : Fin 2) (digits : List (Fin 10)) (exponent : Int) :
    textValue (tupleText sign digits exponent) = if sign = 1 then -textMagnitude (tupleText sign digits exponent)
      else textMagnitude (tupleText sign digits exponent) := by
  have sign_eq : (sign : Nat) = 1 <-> sign = 1 := by
    revert sign
    decide
  rw [textValue, splitPart_sign, textNat_natText]
  simp only [sign_eq]

theorem valid_tupleText (valid : nexaDecimalIsValid text = true) :
    ∃ sign digits exponent, CanonicalDigits digits ∧ text = tupleText sign digits exponent := by
  refine pattern_iff.1 ?_
  by_contra refused
  simp [nexaDecimalIsValid, refused] at valid

section

variable {sign : Fin 2} {digits : List (Fin 10)} {exponent : Int}

theorem nexaDecimalAdjustedExponent_eq (valid : nexaDecimalIsValid (tupleText sign digits exponent) = true)
    (nonzero : digits ≠ [0]) :
    nexaDecimalAdjustedExponent (tupleText sign digits exponent) = .ok (exponent + digits.length - 1) := by
  simp only [nexaDecimalAdjustedExponent, bind_eq_ok, require_eq_ok, pure_eq_ok, exists_const,
    splitPart_digits, splitPart_exponent, textInt_intText, digitsText_eq_zero, nonzero, if_false,
    digitsText_length, and_true]
  exact valid

theorem nexaDecimalNormalizedSignificand_eq
    (valid : nexaDecimalIsValid (tupleText sign digits exponent) = true) (nonzero : digits ≠ [0]) :
    nexaDecimalNormalizedSignificand (tupleText sign digits exponent) = .ok (trimmedText digits) := by
  simp only [nexaDecimalNormalizedSignificand, bind_eq_ok, require_eq_ok, pure_eq_ok, exists_const,
    splitPart_digits, digitsText_eq_zero, nonzero, if_false]
  exact ⟨valid, rfl⟩

end

theorem head_ne_zero (canonical : CanonicalDigits digits) (nonzero : digits ≠ [0]) :
    ∃ digit ∈ digits.head?, digit ≠ 0 :=
  canonical.resolve_left nonzero

theorem nexaDecimalCompare_eq {left right : Text} (leftValid : nexaDecimalIsValid left = true)
    (rightValid : nexaDecimalIsValid right = true) :
    nexaDecimalCompare left right = .ok (ordering (textValue left) (textValue right)) := by
  obtain ⟨sign, digits, exponent, canonical, rfl⟩ := valid_tupleText leftValid
  obtain ⟨otherSign, others, other, otherCanonical, rfl⟩ := valid_tupleText rightValid
  have signs : ∀ sign : Fin 2, (sign : Nat) = 1 <-> sign = 1 := by decide
  rw [nexaDecimalCompare, require, if_pos ⟨leftValid, rightValid⟩]
  simp only [splitPart_sign, splitPart_digits, textNat_natText, digitsText_eq_zero, decide_eq_true_eq, signs,
    textValue_tupleText]
  by_cases leftZero : digits = [0]
  · subst leftZero
    by_cases rightZero : others = [0]
    · subst rightZero
      simp only [and_self, if_true, textMagnitude_zero, neg_zero, ite_self, ordering_self]
      rfl
    · obtain ⟨digit, head, counts⟩ := head_ne_zero otherCanonical rightZero
      have above := textMagnitude_pos otherSign other head counts
      simp only [rightZero, and_false, if_false, if_true, textMagnitude_zero, neg_zero, ite_self]
      split_ifs
      · rw [ordering_of_gt (neg_lt_zero.2 above)]
        rfl
      · rw [ordering_of_lt above]
        rfl
  · obtain ⟨digit, head, counts⟩ := head_ne_zero canonical leftZero
    have above := textMagnitude_pos sign exponent head counts
    by_cases rightZero : others = [0]
    · subst rightZero
      simp only [leftZero, false_and, if_false, if_true, textMagnitude_zero, neg_zero, ite_self]
      split_ifs
      · rw [ordering_of_lt (neg_lt_zero.2 above)]
        rfl
      · rw [ordering_of_gt above]
        rfl
    · obtain ⟨next, otherHead, otherCounts⟩ := head_ne_zero otherCanonical rightZero
      have otherAbove := textMagnitude_pos otherSign other otherHead otherCounts
      simp only [leftZero, rightZero, false_and, if_false, nexaDecimalAdjustedExponent_eq leftValid leftZero,
        nexaDecimalAdjustedExponent_eq rightValid rightZero,
        nexaDecimalNormalizedSignificand_eq leftValid leftZero,
        nexaDecimalNormalizedSignificand_eq rightValid rightZero, ne_eq, Fin.val_inj]
      by_cases sameSign : sign = otherSign
      · subst sameSign
        have magnitudes := compareMagnitudes_eq exponent other head otherHead counts otherCounts
        rw [← textMagnitude_tupleText sign, ← textMagnitude_tupleText sign] at magnitudes
        simp only [not_true, if_false]
        split_ifs
        · rw [ordering_neg, ← magnitudes]
          rfl
        · rw [← magnitudes]
          rfl
      · simp only [sameSign, not_false_eq_true, if_true]
        split_ifs with negative otherNegative
        · exact absurd (negative.trans otherNegative.symm) sameSign
        · rw [ordering_of_lt ((neg_lt_zero.2 above).trans otherAbove)]
          rfl
        · rw [ordering_of_gt ((neg_lt_zero.2 otherAbove).trans above)]
          rfl
        · exact absurd (by omega) sameSign

theorem longText_valid : nexaDecimalIsValid longText = true := by
  refine (nexaDecimalIsValid_tupleText (.inr ⟨1, rfl, by decide⟩)).2 ⟨by decide, by decide, .inr ?_⟩
  rw [length_cons, length_replicate]
  decide

theorem longText_refused (value : FiniteDecimal) : value.text ≠ longText := by
  intro same
  have digits := congrArg (splitPart · 2) same
  simp only [FiniteDecimal.text_eq, longText, splitPart_digits] at digits
  have length := congrArg List.length (digitsText_injective digits)
  have precision := value.representable.1
  rw [length, length_cons, length_replicate] at precision
  omega

/-- The check for validity accepts texts that the decoder refuses: negative numbers, and too many digits. -/
theorem validity_beyond_decoder :
    nexaDecimalIsValid ['1', ':', '5', ':', '0'] = true ∧
      decimalFromDb ['1', ':', '5', ':', '0'] = .error notNonnegative ∧
      nexaDecimalIsValid longText = true ∧ ∀ value, decimalFromDb longText ≠ .ok value := by
  refine ⟨by decide +kernel, by decide +kernel, longText_valid, fun value decoded => ?_⟩
  exact longText_refused value (decimalFromDb_eq_ok.1 decoded).2

/-- The codec is inverse both ways, the checks accept what it decodes, and the comparison is that of the numbers. -/
theorem exact_decimals :
    (∀ value : FiniteDecimal, value.negative = false ->
        ∃ text, decimalToDb (.finite value) = .ok text ∧ decimalFromDb text = .ok value) ∧
      (∀ text value, decimalFromDb text = .ok value -> decimalToDb (.finite value) = .ok text) ∧
      (∀ text : Text, text.length ≤ maxPrec ->
        (nexaDecimalIsNonnegative text = true <-> ∃ value, decimalFromDb text = .ok value) ∧
          (nexaDecimalIsValid text = true <->
            (∃ value, decimalFromDb text = .ok value) ∨
              ∃ value : FiniteDecimal, value.negative = true ∧ value.text = text)) ∧
      ∀ left right, nexaDecimalIsValid left = true -> nexaDecimalIsValid right = true ->
        nexaDecimalCompare left right = .ok (ordering (textValue left) (textValue right)) := by
  refine ⟨?_, ?_, ?_, ?_⟩
  · intro value nonnegative
    exact ⟨value.text, decimalToDb_eq_ok.2 ⟨nonnegative, rfl⟩, decimalFromDb_eq_ok.2 ⟨nonnegative, rfl⟩⟩
  · intro text value decoded
    exact decimalToDb_eq_ok.2 (decimalFromDb_eq_ok.1 decoded)
  · intro text short
    simp only [decimalFromDb_eq_ok]
    refine ⟨nexaDecimalIsNonnegative_iff short, ?_⟩
    rw [nexaDecimalIsValid_iff short, ← exists_or]
    refine exists_congr fun value => ?_
    cases value.negative <;> simp
  · intro left right
    exact nexaDecimalCompare_eq

end Nexa
