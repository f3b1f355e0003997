import Mathlib.Algebra.BigOperators.Group.List.Basic
import Mathlib.Data.List.Nodup
import Mathlib.Tactic.Common
import Mathlib.Tactic.Ring

namespace Locking

open List

/-- Rows are found by one key. An insert also takes the keys of the other unique constraints. -/
class Keyed (Row : Type) (Key : outParam Type) where
  key : Row -> Key
  uniques : Row -> List Key

inductive Change (Key Row : Type) where
  | put (row : Row)
  | erase (key : Key)

variable {Key Row : Type} [Keyed Row Key] [DecidableEq Key]

def lookup (rows : List Row) (key : Key) : Option Row := rows.find? fun row => Keyed.key row = key

def clashes (row other : Row) : Bool :=
  Keyed.key other = Keyed.key row ∨ ∃ unique ∈ Keyed.uniques other, unique ∈ Keyed.uniques row

def Change.key : Change Key Row -> Key
  | .put row => Keyed.key row
  | .erase key => key

def Change.apply (rows : List Row) : Change Key Row -> List Row
  | .put row =>
    if (lookup rows (Keyed.key row)).isSome then
      rows.map fun other => if Keyed.key other = Keyed.key row then row else other
    else rows ++ [row]
  | .erase key => rows.filter fun row => Keyed.key row ≠ key

def applyAll (rows : List Row) (changes : List (Change Key Row)) : List Row := changes.foldl Change.apply rows

omit [DecidableEq Key] in
@[simp]
theorem key_put (row : Row) : (Change.put row).key = Keyed.key row := rfl

omit [DecidableEq Key] in
@[simp]
theorem key_erase (key : Key) : (Change.erase key : Change Key Row).key = key := rfl

@[simp]
theorem applyAll_nil (rows : List Row) : applyAll rows [] = rows := rfl

@[simp]
theorem applyAll_cons (rows : List Row) (change : Change Key Row) (rest : List (Change Key Row)) :
    applyAll rows (change :: rest) = applyAll (change.apply rows) rest := rfl

theorem applyAll_append (rows : List Row) (first second : List (Change Key Row)) :
    applyAll rows (first ++ second) = applyAll (applyAll rows first) second := by
  simp [applyAll]

variable {rows : List Row} {key : Key} {row : Row}

theorem key_of_lookup (found : lookup rows key = some row) : Keyed.key row = key := by
  simpa using find?_some found

theorem mem_of_lookup (found : lookup rows key = some row) : row ∈ rows :=
  mem_of_find?_eq_some found

theorem lookup_eq_none : lookup rows key = none <-> ∀ row ∈ rows, Keyed.key row ≠ key := by
  simp [lookup]

def replaced (rows : List Row) (row : Row) : List Row :=
  rows.map fun other => if Keyed.key other = Keyed.key row then row else other

theorem mem_replaced_same {old : Row} (member : old ∈ rows)
    (same : Keyed.key old = Keyed.key row) : row ∈ replaced rows row :=
  mem_map.2 ⟨old, member, if_pos same⟩

theorem mem_replaced_other {old : Row} (member : old ∈ rows)
    (other : Keyed.key old ≠ Keyed.key row) : old ∈ replaced rows row :=
  mem_map.2 ⟨old, member, if_neg other⟩

theorem apply_put_of_some {old : Row} (found : lookup rows (Keyed.key row) = some old) :
    (Change.put row).apply rows = replaced rows row := by
  simp [Change.apply, replaced, found]

theorem apply_put_of_none (absent : lookup rows (Keyed.key row) = none) :
    (Change.put row).apply rows = rows ++ [row] := by
  simp [Change.apply, absent]

theorem lookup_replaced (rows : List Row) (row : Row) (key : Key) :
    lookup (replaced rows row) key =
      if Keyed.key row = key then (lookup rows key).map fun _ => row else lookup rows key := by
  unfold replaced
  induction rows with
  | nil => simp [lookup]
  | cons first rest ih =>
    by_cases same : Keyed.key first = Keyed.key row
    · by_cases wanted : Keyed.key row = key
      · simp [lookup, same, wanted]
      · simp_all [lookup]
    · by_cases wanted : Keyed.key first = key
      · have other : Keyed.key row ≠ key := fun equal => same (wanted.trans equal.symm)
        simp_all [lookup]
      · simp_all [lookup]

theorem lookup_put (rows : List Row) (row : Row) (key : Key) :
    lookup ((Change.put row).apply rows) key = if Keyed.key row = key then some row else lookup rows key := by
  cases found : lookup rows (Keyed.key row) with
  | none =>
    rw [apply_put_of_none found]
    simp only [lookup, find?_append] at found ⊢
    by_cases same : Keyed.key row = key
    · subst same
      simp [found]
    · simp [same]
  | some old =>
    rw [apply_put_of_some found, lookup_replaced]
    by_cases same : Keyed.key row = key
    · subst same
      simp [found]
    · simp [same]

theorem lookup_erase (rows : List Row) (erased key : Key) :
    lookup ((Change.erase erased).apply rows) key = if erased = key then none else lookup rows key := by
  induction rows with
  | nil => simp [lookup, Change.apply]
  | cons first rest ih =>
    simp only [lookup, Change.apply] at ih ⊢
    by_cases gone : Keyed.key first = erased
    · by_cases same : erased = key
      · simp_all
      · simp_all
    · by_cases wanted : Keyed.key first = key
      · have other : erased ≠ key := fun same => gone (wanted.trans same.symm)
        simp_all
      · simp_all

@[simp]
theorem lookup_put_same (rows : List Row) (row : Row) :
    lookup ((Change.put row).apply rows) (Keyed.key row) = some row := by
  simp [lookup_put]

theorem lookup_put_other (rows : List Row) (other : Keyed.key row ≠ key) :
    lookup ((Change.put row).apply rows) key = lookup rows key := by
  simp [lookup_put, other]

variable {others : List Row}

theorem lookup_apply_congr (same : lookup rows key = lookup others key)
    (change : Change Key Row) : lookup (change.apply rows) key = lookup (change.apply others) key := by
  cases change with
  | put row => simp [lookup_put, same]
  | erase erased => simp [lookup_erase, same]

theorem lookup_applyAll_congr (same : lookup rows key = lookup others key) (changes : List (Change Key Row)) :
    lookup (applyAll rows changes) key = lookup (applyAll others changes) key := by
  induction changes generalizing rows others with
  | nil => exact same
  | cons change rest ih => exact ih (lookup_apply_congr same change)

variable {change : Change Key Row}

theorem lookup_apply_other (other : change.key ≠ key) : lookup (change.apply rows) key = lookup rows key := by
  cases change with
  | put row => exact lookup_put_other rows other
  | erase erased => simpa [lookup_erase] using fun same => absurd same other

def Distinct (rows : List Row) : Prop := (rows.map Keyed.key).Nodup

theorem Distinct.lookup (distinct : Distinct rows) (member : row ∈ rows) :
    lookup rows (Keyed.key row) = some row := by
  cases found : Locking.lookup rows (Keyed.key row) with
  | none => exact absurd rfl (lookup_eq_none.1 found row member)
  | some other =>
    have same := inj_on_of_nodup_map distinct (mem_of_lookup found) member (key_of_lookup found)
    rw [same]

theorem Distinct.apply (distinct : Distinct rows) (change : Change Key Row) : Distinct (change.apply rows) := by
  cases change with
  | erase key => exact List.Nodup.sublist (filter_sublist.map _) distinct
  | put row =>
    cases found : Locking.lookup rows (Keyed.key row) with
    | some old =>
      have keys : (replaced rows row).map Keyed.key = rows.map Keyed.key := by
        unfold replaced
        rw [map_map]
        refine map_congr_left fun other _ => ?_
        by_cases same : Keyed.key other = Keyed.key row <;> simp [same]
      rw [apply_put_of_some found]
      unfold Distinct
      rwa [keys]
    | none =>
      rw [apply_put_of_none found]
      unfold Distinct
      rw [map_append, map_cons, map_nil, nodup_append']
      refine ⟨distinct, nodup_singleton _, ?_⟩
      simpa using lookup_eq_none.1 found

theorem Distinct.applyAll (distinct : Distinct rows) (changes : List (Change Key Row)) :
    Distinct (applyAll rows changes) := by
  induction changes generalizing rows with
  | nil => exact distinct
  | cons change rest ih => exact ih (distinct.apply change)

section

def total (weight : Row -> Int) (rows : List Row) : Int := (rows.map weight).sum

omit [Keyed Row Key] [DecidableEq Key] in
theorem total_sub (first second : Row -> Int) (rows : List Row) :
    total (fun row => first row - second row) rows = total first rows - total second rows := by
  induction rows with
  | nil => rfl
  | cons row rest ih =>
    simp only [total, map_cons, sum_cons] at ih ⊢
    omega

theorem total_eq_lookup {weight : Row -> Int} (distinct : Distinct rows)
    (weightless : ∀ row : Row, Keyed.key row ≠ key -> weight row = 0) :
    total weight rows = (lookup rows key).elim 0 weight := by
  induction rows with
  | nil => rfl
  | cons first rest ih =>
    obtain ⟨absent, distinct⟩ := nodup_cons.1 distinct
    have step := ih distinct
    simp only [total, map_cons, sum_cons] at step ⊢
    by_cases same : Keyed.key first = key
    · have none_left : lookup rest key = none :=
        lookup_eq_none.2 fun row member equal => absent (same ▸ equal ▸ mem_map_of_mem member)
      have found : lookup (first :: rest) key = some first := by simp [lookup, same]
      rw [none_left] at step
      rw [found, step]
      simp
    · have other : lookup (first :: rest) key = lookup rest key := by simp [lookup, same]
      rw [other, weightless first same, step]
      simp

theorem total_replaced (weight : Row -> Int) {old : Row} (distinct : Distinct rows)
    (found : lookup rows (Keyed.key row) = some old) :
    total weight (replaced rows row) = total weight rows - weight old + weight row := by
  induction rows with
  | nil => simp [lookup] at found
  | cons first rest ih =>
    obtain ⟨fresh, distinct⟩ := nodup_cons.1 distinct
    by_cases same : Keyed.key first = Keyed.key row
    · have unchanged : replaced rest row = rest := by
        refine (map_congr_left fun other member => ?_).trans (map_id rest)
        have different : Keyed.key other ≠ Keyed.key row := fun equal =>
          fresh (mem_map.2 ⟨other, member, equal.trans same.symm⟩)
        simp [different]
      simp only [lookup, find?_cons, same, decide_true, Option.some.injEq] at found
      subst found
      simp only [replaced] at unchanged
      simp only [replaced, total, map_cons, sum_cons, same, if_true, unchanged]
      ring
    · have later : lookup rest (Keyed.key row) = some old := by
        simpa [lookup, same] using found
      have step := ih distinct later
      simp only [replaced, total, map_cons, sum_cons, same, if_false] at step ⊢
      rw [step]
      ring

theorem total_put (weight : Row -> Int) (row : Row) (distinct : Distinct rows) :
    total weight ((Change.put row).apply rows) =
      total weight rows - (lookup rows (Keyed.key row)).elim 0 weight + weight row := by
  cases found : lookup rows (Keyed.key row) with
  | some old => rw [apply_put_of_some found, total_replaced weight distinct found, Option.elim_some]
  | none => simp [apply_put_of_none found, total]

theorem total_erase (weight : Row -> Int) (key : Key) (distinct : Distinct rows) :
    total weight ((Change.erase key).apply rows) = total weight rows - (lookup rows key).elim 0 weight := by
  induction rows with
  | nil => simp [total, Change.apply, lookup]
  | cons first rest ih =>
    obtain ⟨absent, distinct⟩ := nodup_cons.1 distinct
    have step := ih distinct
    by_cases same : Keyed.key first = key
    · -- No other row has this key, so the rest stays as it is.
      have none_left : lookup rest key = none :=
        lookup_eq_none.2 fun row member equal => absent (same ▸ equal ▸ mem_map_of_mem member)
      simp only [none_left, Option.elim_none, sub_zero, total, Change.apply] at step
      have found : lookup (first :: rest) key = some first := by simp [lookup, same]
      rw [found]
      simp [total, Change.apply, same, ← step]
    · simp only [total, Change.apply] at step
      have other : lookup (first :: rest) key = lookup rest key := by simp [lookup, same]
      rw [other]
      simp only [total, Change.apply, filter_cons, ne_eq, same, not_false_eq_true, decide_true, if_true,
        map_cons, sum_cons, step]
      ring

def Change.weight (weight : Row -> Int) : Change Key Row -> Int
  | .put row => weight row
  | .erase _ => 0

theorem total_apply (weight : Row -> Int) (change : Change Key Row) (distinct : Distinct rows) :
    total weight (change.apply rows) =
      total weight rows - (lookup rows change.key).elim 0 weight + change.weight weight := by
  cases change with
  | put row => exact total_put weight row distinct
  | erase key => rw [total_erase weight key distinct]; simp [Change.weight]

theorem total_applyAll_congr (weight : Row -> Int) {changes : List (Change Key Row)}
    (distinct : Distinct rows) (apart : Distinct others)
    (same : ∀ change ∈ changes, lookup rows change.key = lookup others change.key ∨
      ∀ row, Keyed.key row = change.key -> weight row = 0) :
    total weight (applyAll rows changes) - total weight rows =
      total weight (applyAll others changes) - total weight others := by
  induction changes generalizing rows others with
  | nil => simp
  | cons change rest ih =>
    obtain ⟨first, later⟩ := forall_mem_cons.1 same
    have step := ih (distinct.apply change) (apart.apply change) fun other member =>
      (later other member).imp_left fun equal => lookup_apply_congr equal change
    have replaced : (lookup rows change.key).elim 0 weight = (lookup others change.key).elim 0 weight := by
      obtain equal | weightless := first
      · rw [equal]
      · have nothing : ∀ rows : List Row, (lookup rows change.key).elim 0 weight = 0 := by
          intro rows
          cases found : lookup rows change.key with
          | none => rfl
          | some row => exact weightless row (key_of_lookup found)
        rw [nothing, nothing]
    simp only [applyAll_cons]
    rw [total_apply weight change distinct] at step
    rw [total_apply weight change apart] at step
    omega

end

variable {place : Key}

section

variable (guard : Key -> Option Key)

def under (place : Key) (rows : List Row) : List Row := rows.filter fun row => guard (Keyed.key row) = some place

variable {guard}

theorem lookup_under (guarded : guard key = some place) (rows : List Row) :
    lookup (under guard place rows) key = lookup rows key := by
  simp only [lookup, under, find?_filter]
  congr 1
  funext row
  by_cases same : Keyed.key row = key <;> simp [same, guarded]

theorem under_apply_foreign (foreign : guard change.key ≠ some place)
    (rows : List Row) : under guard place (change.apply rows) = under guard place rows := by
  cases change with
  | erase key =>
    simp only [under, Change.apply, filter_filter]
    refine filter_congr fun row _ => ?_
    by_cases same : Keyed.key row = key
    · simp only [key_erase] at foreign
      simp [same, foreign]
    · simp [same]
  | put row =>
    simp only [key_put] at foreign
    cases found : lookup rows (Keyed.key row) with
    | none => simp [apply_put_of_none found, under, foreign]
    | some old =>
      rw [apply_put_of_some found]
      clear found
      unfold under replaced
      induction rows with
      | nil => rfl
      | cons first rest ih =>
        by_cases same : Keyed.key first = Keyed.key row
        · simp [same, foreign, ih]
        · simp [same, filter_cons, ih]

theorem under_apply_own (own : guard change.key = some place)
    (rows : List Row) : under guard place (change.apply rows) = change.apply (under guard place rows) := by
  cases change with
  | erase key =>
    simp only [under, Change.apply, filter_filter]
    exact filter_congr fun row _ => Bool.and_comm ..
  | put row =>
    simp only [key_put] at own
    have inside := lookup_under own rows
    cases found : lookup rows (Keyed.key row) with
    | none =>
      rw [apply_put_of_none found, apply_put_of_none (inside.trans found)]
      simp [under, own]
    | some old =>
      rw [apply_put_of_some found, apply_put_of_some (inside.trans found)]
      clear found inside
      unfold under replaced
      induction rows with
      | nil => rfl
      | cons first rest ih =>
        by_cases same : Keyed.key first = Keyed.key row
        · simp [same, own, ih]
        · by_cases kept : guard (Keyed.key first) = some place <;> simp [same, kept, ih]

theorem under_applyAll_congr
    (same : under guard place rows = under guard place others) (changes : List (Change Key Row)) :
    under guard place (applyAll rows changes) = under guard place (applyAll others changes) := by
  induction changes generalizing rows others with
  | nil => exact same
  | cons change rest ih =>
    refine ih ?_
    by_cases own : guard change.key = some place
    · rw [under_apply_own own, under_apply_own own, same]
    · rw [under_apply_foreign own, under_apply_foreign own, same]

theorem under_applyAll_foreign {changes : List (Change Key Row)}
    (foreign : ∀ change ∈ changes, guard change.key ≠ some place) (rows : List Row) :
    under guard place (applyAll rows changes) = under guard place rows := by
  induction changes generalizing rows with
  | nil => rfl
  | cons change rest ih =>
    obtain ⟨first, later⟩ := forall_mem_cons.1 foreign
    rw [applyAll_cons, ih later, under_apply_foreign first]

end

end Locking
