import Mathlib.Data.Nat.Digits.Defs

namespace Numerals

open List

def text (number : Nat) : List Char := Nat.toDigits 10 number

def push (total : Nat) (character : Char) : Option Nat :=
  if character.isDigit then some (10 * total + (character.toNat - 48)) else none

def value? (letters : List Char) : Option Nat := if letters = [] then none else letters.foldlM push 0

theorem text_ne_nil (number : Nat) : text number ≠ [] := Nat.toDigits_ne_nil

theorem isDigit_of_mem_text {number : Nat} {character : Char} (member : character ∈ text number) :
    character.isDigit = true :=
  Nat.isDigit_of_mem_toDigits (by decide) (by decide) member

theorem head_text_ne_zero {number : Nat} (positive : number ≠ 0) {character : Char}
    (head : (text number).head? = some character) : character ≠ '0' := by
  -- The first digit is that of the number without its last one, down to a single digit.
  induction number using Nat.strongRecOn with
  | ind number ih =>
    rw [text] at head
    by_cases small : number < 10
    · rw [Nat.toDigits_of_lt_base small] at head
      have same : number.digitChar = character := by simpa using head
      have closed : ∀ digit < 10, digit ≠ 0 -> Nat.digitChar digit ≠ '0' := by decide
      rw [<- same]
      exact closed number small positive
    · have split : Nat.toDigits 10 number = Nat.toDigits 10 (number / 10) ++ [(number % 10).digitChar] :=
        Nat.toDigits_of_base_le (by decide) (by omega)
      have front : (Nat.toDigits 10 (number / 10)).head? = some character := by
        obtain ⟨first, digits, shape⟩ := exists_cons_of_ne_nil (text_ne_nil (number / 10))
        rw [text] at shape
        rw [split, shape] at head
        rw [shape]
        exact head
      exact ih (number / 10) (by omega) (by omega) front

theorem length_text_le {number digits : Nat} (positive : 0 < digits) (small : number < 10 ^ digits) :
    (text number).length ≤ digits := by
  induction digits generalizing number with
  | zero => omega
  | succ digits ih =>
    by_cases single : number < 10
    · rw [text, Nat.toDigits_of_lt_base single]
      simp
    · have split : Nat.toDigits 10 number = Nat.toDigits 10 (number / 10) ++ [(number % 10).digitChar] :=
        Nat.toDigits_of_base_le (by decide) (by omega)
      have fewer : number / 10 < 10 ^ digits := by
        rw [Nat.pow_succ] at small
        omega
      have more : 0 < digits := by
        rcases Nat.eq_zero_or_pos digits with rfl | positive
        · simp at fewer
          omega
        · exact positive
      have front := ih more fewer
      rw [text] at front ⊢
      rw [split, length_append, length_singleton]
      omega

theorem push_digitChar {digit : Nat} (small : digit < 10) (total : Nat) :
    push total digit.digitChar = some (10 * total + digit) := by
  rw [push, Nat.isDigit_digitChar, if_pos (decide_eq_true small), Nat.toNat_digitChar_of_lt_ten small]
  congr 2
  omega

theorem foldlM_text (number : Nat) : (text number).foldlM push 0 = some number := by
  -- The last digit is pushed on the number that the digits before it make.
  induction number using Nat.strongRecOn with
  | ind number ih =>
    rw [text]
    by_cases small : number < 10
    · simp [Nat.toDigits_of_lt_base small, push_digitChar small]
    · have split := Nat.toDigits_of_base_le (b := 10) (n := number) (by decide) (by omega)
      have front := ih (number / 10) (by omega)
      rw [text] at front
      rw [split, foldlM_append, front]
      simp [push_digitChar (Nat.mod_lt number (by decide))]
      omega

theorem value?_text (number : Nat) : value? (text number) = some number := by
  rw [value?, if_neg (text_ne_nil number), foldlM_text]

end Numerals
