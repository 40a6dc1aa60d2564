import Mathlib.Data.List.Basic

namespace FirstMatch
open List

variable {α β γ : Type}

def first (covers : α → Bool) (label : α → Option γ) (items : List α) : Option γ := (items.find? covers).bind label

variable {covers : α → Bool} {label : α → Option γ}

theorem first_cons (a : α) (rest : List α) :
    first covers label (a :: rest) = if covers a then label a else first covers label rest := by
  unfold first
  rw [find?_cons]
  cases covers a <;> rfl

end FirstMatch
