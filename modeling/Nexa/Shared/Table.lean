import Mathlib.Data.List.Nodup
import Mathlib.Data.List.Count

namespace Relational

variable {α β : Type}

def updateWhere (condition : α -> Bool) (change : α -> α) (rows : List α) : List α :=
  rows.map fun row => if condition row then change row else row

@[simp]
theorem updateWhere_nil (condition : α -> Bool) (change : α -> α) :
    updateWhere condition change [] = [] := rfl

@[simp]
theorem updateWhere_cons (condition : α -> Bool) (change : α -> α) (row : α) (rows : List α) :
    updateWhere condition change (row :: rows) =
      (if condition row then change row else row) :: updateWhere condition change rows := rfl

variable {condition : α -> Bool} {change : α -> α} {rows : List α}

theorem mem_updateWhere {row : α} :
    row ∈ updateWhere condition change rows <->
      ∃ old ∈ rows, (if condition old then change old else old) = row := by
  simp [updateWhere]

theorem updateWhere_eq_self (unselected : ∀ row ∈ rows, condition row = false) :
    updateWhere condition change rows = rows := by
  induction rows with
  | nil => rfl
  | cons row rest ih =>
    simp only [List.forall_mem_cons] at unselected
    simp [unselected.1, ih unselected.2]

theorem map_updateWhere (column : α -> β) (keeps : ∀ row, column (change row) = column row) (rows : List α) :
    (updateWhere condition change rows).map column = rows.map column := by
  induction rows with
  | nil => rfl
  | cons row rest ih => by_cases selected : condition row <;> simp [selected, keeps, ih]

theorem filter_updateWhere {kept : α -> Bool}
    (keeps : ∀ row ∈ rows, condition row = true -> kept (change row) = kept row) :
    (updateWhere condition change rows).filter kept =
      updateWhere condition change (rows.filter kept) := by
  induction rows with
  | nil => rfl
  | cons row rest ih =>
    simp only [List.forall_mem_cons] at keeps
    by_cases selected : condition row
    · have same := keeps.1 selected
      by_cases inside : kept row <;> simp [selected, inside, same, ih keeps.2]
    · by_cases inside : kept row <;> simp [selected, inside, ih keeps.2]

theorem filter_updateWhere_drop {kept : α -> Bool}
    (leaves : ∀ row ∈ rows, condition row = true -> kept (change row) = false) :
    (updateWhere condition change rows).filter kept =
      (rows.filter kept).filter fun row => !condition row := by
  induction rows with
  | nil => rfl
  | cons row rest ih =>
    simp only [List.forall_mem_cons] at leaves
    by_cases selected : condition row
    · have gone := leaves.1 selected
      by_cases inside : kept row <;> simp [selected, inside, gone, ih leaves.2]
    · by_cases inside : kept row <;> simp [selected, inside, ih leaves.2]

end Relational
