import Mathlib.Algebra.BigOperators.Group.List.Basic
import Mathlib.Algebra.Order.Ring.Rat
import Mathlib.Tactic.Ring

namespace Split

variable {α : Type}

def amounts (round : ℚ -> ℚ) (part : α -> ℚ) (total : ℚ) : ℚ -> List α -> List (α × ℚ)
  | _, [] => []
  | assigned, [item] => [(item, round (total - assigned))]
  | assigned, item :: next :: rest =>
    let amount := part item
    (item, amount) :: amounts round part total (round (assigned + amount)) (next :: rest)

end Split
