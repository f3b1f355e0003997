import Mathlib.Computability.RegularExpressions
import Mathlib.Data.Nat.Digits.Lemmas
import Nexa.Shared.Outcome
import Nexa.Shared.Positional

namespace Nexa

open Outcome

abbrev Text := List Char

def maxPrec : Nat := 999999999999999999

def maxEmax : Int := 999999999999999999

def minEtiny : Int := -1999999999999999997

def CanonicalDigits (digits : List (Fin 10)) : Prop := digits = [0] ∨ ∃ first ∈ digits.head?, first ≠ 0

instance (digits : List (Fin 10)) : Decidable (CanonicalDigits digits) := instDecidableOr

def Representable (digits : List (Fin 10)) (exponent : Int) : Prop :=
  digits.length ≤ maxPrec ∧ minEtiny ≤ exponent ∧ exponent ≤ maxEmax ∧
    (digits = [0] ∨ exponent + digits.length - 1 ≤ maxEmax)

instance (digits : List (Fin 10)) (exponent : Int) : Decidable (Representable digits exponent) := instDecidableAnd

structure FiniteDecimal where
  sign : Fin 2
  digits : List (Fin 10)
  exponent : Int
  canonical : CanonicalDigits digits
  representable : Representable digits exponent
deriving DecidableEq

inductive PyDecimal where
  | finite (value : FiniteDecimal)
  | special
deriving DecidableEq

def FiniteDecimal.negative (value : FiniteDecimal) : Bool := value.sign = 1 ∧ value.digits ≠ [0]

def canonicalDigits (digits : List (Fin 10)) : List (Fin 10) := match digits.dropWhile (· = 0) with
  | [] => [0]
  | first :: rest => first :: rest

theorem canonicalDigits_canonical (digits : List (Fin 10)) : CanonicalDigits (canonicalDigits digits) := by
  rw [canonicalDigits]
  cases kept : digits.dropWhile (· = 0) with
  | nil => exact .inl rfl
  | cons first rest =>
    refine .inr ⟨first, rfl, ?_⟩
    have nonempty : digits.dropWhile (· = 0) ≠ [] := by simp [kept]
    simpa [kept] using List.head_dropWhile_not (· = (0 : Fin 10)) nonempty

def FiniteDecimal.ofTuple (sign : Fin 2) (digits : List (Fin 10)) (exponent : Int) : Option FiniteDecimal :=
  if representable : Representable (canonicalDigits digits) exponent then
    some ⟨sign, canonicalDigits digits, exponent, canonicalDigits_canonical digits, representable⟩
  else none

def digitChar (digit : Fin 10) : Char := Char.ofNat ('0'.toNat + digit)

def charDigit (char : Char) : Fin 10 := Fin.ofNat 10 (char.toNat - '0'.toNat)

def natText (number : Nat) : Text :=
  if number = 0 then ['0'] else (Nat.digits 10 number).reverse.map fun digit => digitChar (Fin.ofNat 10 digit)

def intText (number : Int) : Text := if number < 0 then '-' :: natText number.natAbs else natText number.natAbs

def textNat (text : Text) : Nat := Positional.value 10 (fun char => (charDigit char : Nat)) text

def textInt : Text -> Int
  | '-' :: rest => -(textNat rest)
  | text => textNat text

def digitsText (digits : List (Fin 10)) : Text := digits.map digitChar

def natDigits (number : Nat) : List (Fin 10) :=
  if number = 0 then [0] else (Nat.digits 10 number).reverse.map (Fin.ofNat 10)

def tupleText (sign : Fin 2) (digits : List (Fin 10)) (exponent : Int) : Text :=
  natText sign ++ ':' :: (digitsText digits ++ ':' :: intText exponent)

def oneOf (chars : List Char) : RegularExpression Char := (chars.map RegularExpression.char).foldr (· + ·) 0

def nonzeroDigit : RegularExpression Char := oneOf ['1', '2', '3', '4', '5', '6', '7', '8', '9']

def anyDigit : RegularExpression Char := oneOf ['0', '1', '2', '3', '4', '5', '6', '7', '8', '9']

/-- `^[01]:(?:0|[1-9][0-9]*):(?:0|-?[1-9][0-9]*)$`, the same in Python and in the database. -/
def exactDecimalPattern : RegularExpression Char :=
  oneOf ['0', '1'] * .char ':' * (.char '0' + nonzeroDigit * anyDigit.star) * .char ':' *
    (.char '0' + (1 + .char '-') * nonzeroDigit * anyDigit.star)

structure PersistenceValueError where
  message : String
deriving DecidableEq

def outsideDomain : PersistenceValueError := ⟨"Decimal exponent is outside Python's supported domain"⟩

def notCanonical : PersistenceValueError := ⟨"Database value is not a canonical exact Decimal"⟩

def notDecodable : PersistenceValueError := ⟨"Database value is not a decodable exact Decimal"⟩

def notNonnegative : PersistenceValueError := ⟨"Scheduler persistence values must be finite and non-negative"⟩

def exponentWidth : Nat := (natText minEtiny.natAbs).length

def parseDecimalExponent (exponentText : Text) : Except PersistenceValueError Int := do
  let unsigned := if exponentText.head? = some '-' then exponentText.tail else exponentText
  require (unsigned.length ≤ exponentWidth) outsideDomain
  let exponent := textInt exponentText
  require (minEtiny ≤ exponent ∧ exponent ≤ maxEmax) outsideDomain
  return exponent

def FiniteDecimal.text (value : FiniteDecimal) : Text :=
  natText value.sign ++ ':' :: (value.digits.map digitChar ++ ':' :: intText value.exponent)

def decimalToDb : PyDecimal -> Except PersistenceValueError Text
  | .special => .error notNonnegative
  | .finite value => do
    require (value.negative = false) notNonnegative
    let _ ← parseDecimalExponent (intText value.exponent)
    return value.text

/-- The three parts of a text; `value.split(":")` yields three for what the pattern accepts. -/
def decimalParts (value : Text) : Option (Text × Text × Text) := match value.splitOn ':' with
  | [signText, digitsText, exponentText] => some (signText, digitsText, exponentText)
  | _ => none

def decimalFromDb (value : Text) : Except PersistenceValueError FiniteDecimal := do
  require (exactDecimalPattern.rmatch value = true) notCanonical
  let (signText, digitsText, exponentText) ← orFail notCanonical (decimalParts value)
  let exponent ← parseDecimalExponent exponentText
  let decoded ← orFail notDecodable
    (FiniteDecimal.ofTuple (Fin.ofNat 2 (textNat signText)) (digitsText.map charDigit) exponent)
  require (decoded.negative = false) notNonnegative
  return decoded

def longText : Text := tupleText 0 (1 :: List.replicate maxPrec 0) 0

def splitPart (encoded : Text) (index : Nat) : Text := (encoded.splitOn ':').getD (index - 1) []

def toBigint (text : Text) : Option Int :=
  if -2 ^ 63 ≤ textInt text ∧ textInt text < 2 ^ 63 then some (textInt text) else none

def nexaDecimalIsValid (encoded : Text) : Bool :=
  if exactDecimalPattern.rmatch encoded then
    let exponentText := splitPart encoded 3
    if exponentWidth < (exponentText.dropWhile (· = '-')).length then false
    else
      match toBigint exponentText with
      | none => false
      | some exponentValue =>
        if minEtiny ≤ exponentValue ∧ exponentValue ≤ maxEmax then
          let digits := splitPart encoded 2
          digits = ['0'] ∨ exponentValue + digits.length - 1 ≤ maxEmax
        else false
  else false

def nexaDecimalIsNonnegative (encoded : Text) : Bool :=
  nexaDecimalIsValid encoded ∧ (splitPart encoded 1 = ['0'] ∨ splitPart encoded 2 = ['0'])

def invalidEncoding : PersistenceValueError := ⟨"invalid exact decimal encoding"⟩

def nexaDecimalAdjustedExponent (encoded : Text) : Except PersistenceValueError Int := do
  require (nexaDecimalIsValid encoded = true) invalidEncoding
  let digits := splitPart encoded 2
  return if digits = ['0'] then 0 else textInt (splitPart encoded 3) + digits.length - 1

def nexaDecimalNormalizedSignificand (encoded : Text) : Except PersistenceValueError Text := do
  require (nexaDecimalIsValid encoded = true) invalidEncoding
  let digits := splitPart encoded 2
  return if digits = ['0'] then ['0'] else digits.rdropWhile (· = '0')

/-- Of magnitudes that are not zero: exponents first, then the digits as texts. -/
def compareMagnitudes (left right : Int × Text) : Int := if left.1 < right.1 then -1
  else if right.1 < left.1 then 1
  else if left.2 < right.2 then -1
  else if right.2 < left.2 then 1
  else 0

def nexaDecimalCompare (leftValue rightValue : Text) : Except PersistenceValueError Int := do
  require (nexaDecimalIsValid leftValue = true ∧ nexaDecimalIsValid rightValue = true) invalidEncoding
  let leftSign := textNat (splitPart leftValue 1)
  let rightSign := textNat (splitPart rightValue 1)
  let leftZero : Bool := splitPart leftValue 2 = ['0']
  let rightZero : Bool := splitPart rightValue 2 = ['0']
  if leftZero ∧ rightZero then return 0
  else if leftZero then return if rightSign = 1 then 1 else -1
  else if rightZero then return if leftSign = 1 then -1 else 1
  else if leftSign ≠ rightSign then return if leftSign = 1 then -1 else 1
  else do
    let leftExponent ← nexaDecimalAdjustedExponent leftValue
    let rightExponent ← nexaDecimalAdjustedExponent rightValue
    let leftSignificand ← nexaDecimalNormalizedSignificand leftValue
    let rightSignificand ← nexaDecimalNormalizedSignificand rightValue
    let magnitudeComparison := compareMagnitudes (leftExponent, leftSignificand) (rightExponent, rightSignificand)
    return if leftSign = 1 then -magnitudeComparison else magnitudeComparison

end Nexa
