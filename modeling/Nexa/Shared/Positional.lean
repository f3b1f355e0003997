import Mathlib.Algebra.Order.Field.Rat
import Mathlib.Algebra.Order.Field.Power
import Mathlib.Data.List.DropRight
import Mathlib.Data.Nat.Digits.Defs
import Mathlib.Tactic.FieldSimp
import Mathlib.Tactic.Linarith
import Mathlib.Tactic.Positivity
import Mathlib.Tactic.Ring

namespace Positional

open List

variable {α : Type} (base : Nat) (weight : α -> Nat)

def value (digits : List α) : Nat := digits.foldl (fun total digit => base * total + weight digit) 0

def fraction : List α -> ℚ
  | [] => 0
  | digit :: rest => (weight digit + fraction rest) / base

def scaled (digits : List α) (exponent : Int) : ℚ := value base weight digits * (base : ℚ) ^ exponent

def Trimmed (digits : List α) : Prop := ∀ digit ∈ digits.getLast?, weight digit ≠ 0

variable {base weight}

theorem value_foldl (weight : α -> Nat) (positive : 0 < base) (digits : List α) (total : Nat) :
    ((digits.foldl (fun total digit => base * total + weight digit) total : Nat) : ℚ) =
      (total + fraction base weight digits) * base ^ digits.length := by
  have nonzero : (base : ℚ) ≠ 0 := by exact_mod_cast positive.ne.symm
  induction digits generalizing total with
  | nil => simp [fraction]
  | cons digit rest ih =>
    rw [foldl_cons, ih, fraction, length_cons]
    push_cast
    field_simp
    ring

theorem value_eq (positive : 0 < base) (digits : List α) :
    (value base weight digits : ℚ) = fraction base weight digits * base ^ digits.length := by
  rw [value, value_foldl weight positive digits 0, Nat.cast_zero, zero_add]

theorem scaled_eq (positive : 0 < base) (digits : List α) (exponent : Int) :
    scaled base weight digits exponent =
      fraction base weight digits * (base : ℚ) ^ (exponent + digits.length) := by
  have nonzero : (base : ℚ) ≠ 0 := by exact_mod_cast positive.ne.symm
  rw [scaled, value_eq positive, zpow_add₀ nonzero, zpow_natCast]
  ring

theorem fraction_nonneg (base : Nat) (weight : α -> Nat) (digits : List α) : 0 ≤ fraction base weight digits := by
  induction digits with
  | nil => exact le_refl _
  | cons digit rest ih =>
    rw [fraction]
    positivity

theorem fraction_lt_one (positive : 0 < base) {digits : List α}
    (bounded : ∀ digit ∈ digits, weight digit < base) : fraction base weight digits < 1 := by
  have above : (0 : ℚ) < base := by exact_mod_cast positive
  induction digits with
  | nil => simp [fraction]
  | cons digit rest ih =>
    have tail := ih fun other member => bounded other (mem_cons_of_mem _ member)
    have head : (weight digit : ℚ) + 1 ≤ base := by
      exact_mod_cast bounded digit mem_cons_self
    rw [fraction, div_lt_one above]
    linarith

variable {digit : α}

theorem le_fraction (positive : 0 < base) {rest : List α} (counts : weight digit ≠ 0) :
    (base : ℚ)⁻¹ ≤ fraction base weight (digit :: rest) := by
  have above : (0 : ℚ) < base := by exact_mod_cast positive
  have head : (1 : ℚ) ≤ weight digit := by exact_mod_cast Nat.one_le_iff_ne_zero.2 counts
  have tail := fraction_nonneg base weight rest
  rw [fraction, inv_eq_one_div]
  gcongr
  linarith

theorem fraction_concat (silent : weight digit = 0) (digits : List α) :
    fraction base weight (digits ++ [digit]) = fraction base weight digits := by
  induction digits with
  | nil => simp [fraction, silent]
  | cons first rest ih => rw [cons_append, fraction, ih, fraction]

theorem fraction_rdropWhile {drops : α -> Bool} (silent : ∀ digit, drops digit = true -> weight digit = 0)
    (digits : List α) :
    fraction base weight (digits.rdropWhile drops) = fraction base weight digits := by
  induction digits using List.reverseRecOn with
  | nil => simp
  | append_singleton rest digit ih =>
    by_cases dropped : drops digit = true
    · rw [rdropWhile_concat_pos _ _ _ dropped, ih, fraction_concat (silent digit dropped)]
    · rw [rdropWhile_concat_neg _ _ _ dropped]

theorem trimmed_rdropWhile {drops : α -> Bool} {digits : List α}
    (counts : ∀ digit ∈ digits, drops digit = false -> weight digit ≠ 0) :
    Trimmed weight (digits.rdropWhile drops) := by
  intro digit last
  obtain ⟨nonempty, rfl⟩ := mem_getLast?_eq_getLast last
  refine counts _ (( rdropWhile_prefix drops digits).subset (getLast_mem nonempty)) ?_
  simpa using rdropWhile_last_not drops digits nonempty

theorem Trimmed.tail {rest : List α} (trimmed : Trimmed weight (digit :: rest)) : Trimmed weight rest := by
  intro other last
  cases rest with
  | nil => simp at last
  | cons next more => exact trimmed other (by rw [getLast?_cons_cons]; exact last)

theorem Trimmed.fraction_pos (positive : 0 < base) {rest : List α}
    (trimmed : Trimmed weight (digit :: rest)) : 0 < fraction base weight (digit :: rest) := by
  have above : (0 : ℚ) < base := by exact_mod_cast positive
  induction rest generalizing digit with
  | nil =>
    have counts : weight digit ≠ 0 := trimmed digit (by simp)
    have head : (0 : ℚ) < weight digit := by exact_mod_cast Nat.pos_of_ne_zero counts
    rw [fraction]
    have tail := fraction_nonneg base weight ([] : List α)
    positivity
  | cons next more ih =>
    have tail := ih trimmed.tail
    rw [fraction]
    positivity

variable {left right : List α}

section

variable [LT α]

theorem fraction_lt_of_lex (positive : 0 < base) (bounded : ∀ digit ∈ left, weight digit < base)
    (increases : ∀ digit ∈ left, ∀ other ∈ right, digit < other -> weight digit < weight other)
    (trimmed : Trimmed weight right) (before : List.Lex (· < ·) left right) :
    fraction base weight left < fraction base weight right := by
  have above : (0 : ℚ) < base := by exact_mod_cast positive
  induction before with
  | nil => exact trimmed.fraction_pos positive
  | @rel digit rest other more smaller =>
    have gap : (weight digit : ℚ) + 1 ≤ weight other := by
      exact_mod_cast increases digit mem_cons_self other mem_cons_self smaller
    have low := fraction_lt_one positive fun next member => bounded next (mem_cons_of_mem digit member)
    have high := fraction_nonneg base weight more
    rw [fraction, fraction]
    gcongr ?_ / _
    linarith
  | @cons digit rest more _ ih =>
    have tail := ih (fun next member => bounded next (mem_cons_of_mem _ member))
      (fun next member other inside =>
        increases next (mem_cons_of_mem _ member) other (mem_cons_of_mem _ inside))
      trimmed.tail
    rw [fraction, fraction]
    gcongr

end

theorem scaled_lt_of_magnitude (big : 1 < base) {low high : Int}
    (bounded : ∀ digit ∈ left, weight digit < base) (counts : weight digit ≠ 0)
    (smaller : low + left.length < high + (digit :: right).length) :
    scaled base weight left low < scaled base weight (digit :: right) high := by
  have positive : 0 < base := Nat.zero_lt_of_lt big
  have above : (0 : ℚ) < base := by exact_mod_cast positive
  have one : (1 : ℚ) ≤ base := by exact_mod_cast positive
  rw [scaled_eq positive, scaled_eq positive]
  calc fraction base weight left * (base : ℚ) ^ (low + left.length)
      < 1 * (base : ℚ) ^ (low + left.length) := by
        gcongr
        exact fraction_lt_one positive bounded
    _ ≤ 1 * (base : ℚ) ^ (high + (digit :: right).length - 1) := by
        gcongr
        omega
    _ = (base : ℚ)⁻¹ * (base : ℚ) ^ (high + (digit :: right).length) := by
        rw [zpow_sub_one₀ above.ne.symm]
        ring
    _ ≤ fraction base weight (digit :: right) * (base : ℚ) ^ (high + (digit :: right).length) := by
        gcongr
        exact le_fraction positive counts

theorem scaled_lt_of_fraction (positive : 0 < base) {low high : Int} (same : low + left.length = high + right.length)
    (smaller : fraction base weight left < fraction base weight right) :
    scaled base weight left low < scaled base weight right high := by
  have above : (0 : ℚ) < base := by exact_mod_cast positive
  rw [scaled_eq positive, scaled_eq positive, same]
  gcongr

theorem scaled_eq_of_fraction (positive : 0 < base) {low high : Int} (same : low + left.length = high + right.length)
    (equal : fraction base weight left = fraction base weight right) :
    scaled base weight left low = scaled base weight right high := by
  rw [scaled_eq positive, scaled_eq positive, same, equal]

end Positional
