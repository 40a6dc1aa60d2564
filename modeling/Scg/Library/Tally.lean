import Mathlib.Algebra.Order.Ring.Nat
import Mathlib.Algebra.BigOperators.Group.List.Basic
import Mathlib.Data.List.Perm.Basic
import Mathlib.Tactic.Common

namespace Tally

variable {α : Type} {measure : α → Nat}

def total (measure : α → Nat) (items : List α) : Nat := (items.map measure).sum

@[simp] theorem total_nil : total measure [] = 0 := rfl

@[simp] theorem total_cons (item : α) (items : List α) : total measure (item :: items) = measure item+total measure items := by
  simp [total]

@[simp] theorem total_append (first second : List α) :
    total measure (first ++ second) = total measure first+total measure second := by simp [total]

theorem total_perm (same : items.Perm other) : total measure items = total measure other :=
  (same.map measure).sum_eq

theorem total_erase (measure : α → Nat) (at_i : items[i]? = some old) :
    total measure (items.eraseIdx i)+measure old = total measure items := by
  obtain ⟨inside,rfl⟩ := List.getElem?_eq_some_iff.mp at_i
  rw [← total_perm (List.getElem_cons_eraseIdx_perm inside),total_cons,Nat.add_comm]

theorem total_set (measure : α → Nat) (at_i : items[i]? = some old) (new : α) :
    total measure (items.set i new)+measure old = total measure items+measure new := by
  have inside := (List.getElem?_eq_some_iff.mp at_i).1
  have erased := total_erase measure at_i
  rw [total_perm (List.set_perm_cons_eraseIdx inside new),total_cons]
  omega

theorem total_zero (none_has : ∀ item ∈ items, measure item = 0) : total measure items = 0 := by
  induction items with
  | nil => rfl
  | cons item items ih =>
    rw [total_cons,none_has item List.mem_cons_self,ih fun other present => none_has other (List.mem_cons_of_mem _ present)]

end Tally
