import Mathlib.Data.Rat.Floor

namespace TokenBucket

open List

structure Policy where
  capacity : ℚ
  rate : ℚ
  one_le : 1 ≤ capacity
  positive : 0 < rate

structure Bucket where
  tokens : ℚ
  last : ℚ

variable (policy : Policy)

def level (bucket : Bucket) (now : ℚ) : ℚ :=
  max 0 (min policy.capacity (bucket.tokens + max 0 (now - bucket.last) * policy.rate))

def take (bucket : Bucket) (now : ℚ) : Bucket := ⟨level policy bucket now - 1, now⟩

def takes (bucket : Bucket) (times : List ℚ) : Bucket := times.foldl (take policy) bucket

def Admits : Bucket -> List ℚ -> Prop
  | _, [] => True
  | bucket, now :: later => 1 ≤ level policy bucket now ∧ Admits (take policy bucket now) later

def wait (tokens : ℚ) : Nat := max 1 ((1 - tokens) / policy.rate).ceil.toNat

theorem level_le (bucket : Bucket) (now : ℚ) : level policy bucket now ≤ policy.capacity :=
  max_le (zero_le_one.trans policy.one_le) (min_le_left _ _)

variable {policy}

theorem level_full (last now : ℚ) : level policy ⟨policy.capacity, last⟩ now = policy.capacity := by
  have more : 0 ≤ max 0 (now - last) * policy.rate := mul_nonneg (le_max_left _ _) policy.positive.le
  rw [level, min_eq_left (by linarith), max_eq_right (zero_le_one.trans policy.one_le)]

variable {bucket : Bucket}

theorem level_le_refill (solvent : 0 ≤ bucket.tokens) {now : ℚ} (later : bucket.last ≤ now) :
    level policy bucket now ≤ bucket.tokens + (now - bucket.last) * policy.rate := by
  have elapsed : 0 ≤ now - bucket.last := sub_nonneg.mpr later
  rw [level, max_eq_right elapsed]
  exact max_le (add_nonneg solvent (mul_nonneg elapsed policy.positive.le)) (min_le_right _ _)

theorem admits_append {times : List ℚ} {now : ℚ} :
    Admits policy bucket (times ++ [now]) <->
      Admits policy bucket times ∧ 1 ≤ level policy (takes policy bucket times) now := by
  induction times generalizing bucket with
  | nil => simp [Admits, takes]
  | cons first times ih => simp [Admits, ih, takes, and_assoc]

theorem takes_append (bucket : Bucket) (times : List ℚ) (now : ℚ) :
    takes policy bucket (times ++ [now]) = take policy (takes policy bucket times) now := by
  simp [takes]

def upTo (finish : ℚ) (times : List ℚ) : List ℚ := times.filter fun time => time ≤ finish

theorem length_upTo_le {times : List ℚ} {finish : ℚ} (solvent : 0 ≤ bucket.tokens)
    (sorted : (bucket.last :: times).Pairwise (· ≤ ·)) (admits : Admits policy bucket times)
    (order : bucket.last ≤ finish) :
    ((upTo finish times).length : ℚ) ≤ bucket.tokens + (finish - bucket.last) * policy.rate := by
  induction times generalizing bucket with
  | nil =>
    have refill : 0 ≤ (finish - bucket.last) * policy.rate := mul_nonneg (sub_nonneg.mpr order) policy.positive.le
    simp only [upTo, filter_nil, length_nil, Nat.cast_zero]
    linarith
  | cons first times ih =>
    obtain ⟨enough, others⟩ := admits
    rw [pairwise_cons] at sorted
    have later : bucket.last ≤ first := sorted.1 first (by simp)
    by_cases within : first ≤ finish
    · have rest := ih (sub_nonneg.mpr enough) sorted.2 others within
      have refill : level policy bucket first ≤ _ := level_le_refill solvent later
      simp only [upTo, filter_cons, within, decide_true, if_true, length_cons, Nat.cast_add, Nat.cast_one] at rest ⊢
      simp only [take] at rest
      linarith
    · -- The list is sorted, so nothing in it is within the time.
      have none : upTo finish (first :: times) = [] := by
        rw [upTo, filter_eq_nil_iff]
        intro time member
        have after : first ≤ time := by
          rcases mem_cons.mp member with rfl | inside
          · exact le_rfl
          · exact (pairwise_cons.mp sorted.2).1 time inside
        simp only [decide_eq_true_eq, not_le]
        linarith
      have refill : 0 ≤ (finish - bucket.last) * policy.rate := mul_nonneg (sub_nonneg.mpr order) policy.positive.le
      rw [none]
      simp only [length_nil, Nat.cast_zero]
      linarith

def within (start finish : ℚ) (times : List ℚ) : List ℚ := times.filter fun time => start ≤ time ∧ time ≤ finish

theorem length_within_le {times : List ℚ} {start finish : ℚ} (sorted : times.Pairwise (· ≤ ·))
    (admits : Admits policy bucket times) (order : start ≤ finish) :
    ((within start finish times).length : ℚ) ≤ policy.capacity + policy.rate * (finish - start) := by
  have refill : 0 ≤ policy.rate * (finish - start) := mul_nonneg policy.positive.le (sub_nonneg.mpr order)
  have room := policy.one_le
  induction times generalizing bucket with
  | nil =>
    simp only [within, filter_nil, length_nil, Nat.cast_zero]
    linarith
  | cons first times ih =>
    obtain ⟨enough, others⟩ := admits
    rw [pairwise_cons] at sorted
    by_cases early : first < start
    · have outside : within start finish (first :: times) = within start finish times := by
        simp [within, not_le.mpr early]
      rw [outside]
      exact ih sorted.2 others
    · by_cases late : finish < first
      · have none : within start finish (first :: times) = [] := by
          rw [within, filter_eq_nil_iff]
          intro time member
          have after : first ≤ time := by
            rcases mem_cons.mp member with rfl | inside
            · exact le_rfl
            · exact sorted.1 time inside
          simp only [decide_eq_true_eq, not_and, not_le]
          intro _
          linarith
        rw [none]
        simp only [length_nil, Nat.cast_zero]
        linarith
      · -- From the first request of the window on, the rest lives off what that request left.
        have rest := length_upTo_le (sub_nonneg.mpr enough) (pairwise_cons.mpr sorted) others
          (not_lt.mp late)
        have split : within start finish (first :: times) = first :: upTo finish times := by
          have same : within start finish times = upTo finish times := by
            apply filter_congr
            intro time member
            have after := sorted.1 time member
            have inside : start ≤ time := by linarith
            simp [inside]
          rw [<- same]
          simp [within, not_lt.mp early, not_lt.mp late]
        have top := level_le policy bucket first
        have shorter : (finish - first) * policy.rate ≤ policy.rate * (finish - start) := by
          rw [mul_comm]
          exact mul_le_mul_of_nonneg_left (by linarith) policy.positive.le
        rw [split]
        simp only [length_cons, Nat.cast_add, Nat.cast_one, take] at rest ⊢
        linarith

theorem level_eq_of_lt (solvent : 0 ≤ bucket.tokens) {now : ℚ} (later : bucket.last ≤ now)
    (refused : level policy bucket now < 1) :
    level policy bucket now = bucket.tokens + (now - bucket.last) * policy.rate := by
  have elapsed : 0 ≤ now - bucket.last := sub_nonneg.mpr later
  have held : 0 ≤ bucket.tokens + (now - bucket.last) * policy.rate :=
    add_nonneg solvent (mul_nonneg elapsed policy.positive.le)
  have room := policy.one_le
  rw [level, max_eq_right elapsed] at refused ⊢
  have below : min policy.capacity (bucket.tokens + (now - bucket.last) * policy.rate) < 1 :=
    (max_lt_iff.mp refused).2
  rcases min_lt_iff.mp below with capped | short
  · linarith
  · rw [min_eq_right (by linarith), max_eq_right held]

theorem one_le_level_of_waited (solvent : 0 ≤ bucket.tokens) {now later : ℚ}
    (asked : bucket.last ≤ now) (refused : level policy bucket now < 1)
    (waited : now + wait policy (level policy bucket now) ≤ later) : 1 ≤ level policy bucket later := by
  have own := level_eq_of_lt solvent asked refused
  have room := policy.one_le
  generalize level policy bucket now = tokens at own refused waited
  have delay : (1 - tokens) / policy.rate ≤ wait policy tokens := by
    have up : (1 - tokens) / policy.rate ≤ (((1 - tokens) / policy.rate).ceil.toNat : ℚ) :=
      Rat.le_ceil.trans (by exact_mod_cast Int.self_le_toNat _)
    exact up.trans (by exact_mod_cast le_max_right _ _)
  have gained : 1 - tokens ≤ (later - now) * policy.rate := by
    rw [div_le_iff₀ policy.positive] at delay
    exact delay.trans (mul_le_mul_of_nonneg_right (by linarith) policy.positive.le)
  have elapsed : 0 ≤ later - bucket.last := by
    have delayed : (0 : ℚ) ≤ wait policy tokens := Nat.cast_nonneg _
    linarith
  have reached : 1 ≤ bucket.tokens + (later - bucket.last) * policy.rate := by
    calc 1 ≤ tokens + (later - now) * policy.rate := by linarith
      _ = bucket.tokens + (later - bucket.last) * policy.rate := by rw [own]; ring
  rw [level, max_eq_right elapsed]
  exact le_max_of_le_right (le_min room reached)

end TokenBucket
