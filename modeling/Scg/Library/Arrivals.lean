import Mathlib.Tactic.Common

namespace Arrivals

-- Things that reach a party one after another. Each entry carries its delay after the one
-- before it, the first after the present, so every list is a possible schedule.
abbrev Schedule (α : Type) := List (Nat × α)

variable {α : Type}

def firstAt (schedule : Schedule α) : Option Nat := schedule.head?.map (·.1)

def arrived : Nat → Schedule α → List α
  | _,[] => []
  | span,(delay,a) :: rest => if delay ≤ span then a :: arrived (span-delay) rest else []

def nextAfter : Nat → Schedule α → Option Nat
  | _,[] => none
  | span,(delay,_) :: rest => if delay ≤ span then (nextAfter (span-delay) rest).map (delay+·) else some delay

theorem arrived_ne_nil :
    arrived span schedule ≠ [] ↔ ∃ instant, firstAt schedule = some instant ∧ instant ≤ span := by
  cases schedule with
  | nil => simp [arrived,firstAt]
  | cons entry rest =>
    unfold arrived firstAt
    split
    · rename_i soon
      simp [soon]
    · rename_i late
      simp [late]

theorem nextAfter_later (next : nextAfter span schedule = some instant) : span < instant := by
  induction schedule generalizing span instant with
  | nil => cases next
  | cons entry rest ih =>
    unfold nextAfter at next
    split at next
    · obtain ⟨later,found,rfl⟩ := Option.map_eq_some_iff.mp next
      have far := ih found
      omega
    · cases next
      omega

end Arrivals
