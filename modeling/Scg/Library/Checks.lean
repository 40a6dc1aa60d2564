import Mathlib.Tactic.Common

namespace Checks

def require (holds : Bool) (text : String) : Except String Unit :=
  if holds then .ok () else .error text

def each (check : Nat → α → Except ε Unit) : Nat → List α → Except ε Unit
  | _,[] => .ok ()
  | i,a :: rest => do
    check i a
    each check (i+1) rest

theorem bind_ok {f : α → Except ε β} (ran : (first >>= f) = .ok value) : ∃ a, first = .ok a ∧ f a = .ok value := by
  cases first with
  | error e => cases ran
  | ok a => exact ⟨a,rfl,ran⟩

theorem isOk_ok {value : Except ε α} (passed : value.isOk = true) : ∃ a, value = .ok a := by
  cases value with
  | error e => cases passed
  | ok a => exact ⟨a,rfl⟩

theorem accepts {run : Except ε α} {P : α → Prop} (accepted : run.isOk = true)
    (holds : ∀ a, run = .ok a → P a) : ∃ a, run = .ok a ∧ P a := by
  obtain ⟨a,ran⟩ := isOk_ok accepted
  exact ⟨a,ran,holds a ran⟩

theorem when_ok {p : Prop} [Decidable p] {run : Except ε α}
    (ran : (if p then run else .error e) = .ok a) : p ∧ run = .ok a := by
  split at ran
  · rename_i holds
    exact ⟨holds,ran⟩
  · cases ran

theorem unless_ok {p : Prop} [Decidable p] {run : Except ε α}
    (ran : (if p then .error e else run) = .ok a) : ¬ p ∧ run = .ok a := by
  rw [← ite_not] at ran
  exact when_ok ran

theorem require_ok (passed : require holds text = .ok ()) : holds = true :=
  (when_ok passed).1

theorem each_ok {check : Nat → α → Except ε Unit} (passed : each check i list = .ok ()) :
    ∀ a ∈ list, ∃ j, check j a = .ok () := by
  induction list generalizing i with
  | nil => exact fun _ absent => absurd absent List.not_mem_nil
  | cons first rest ih =>
    obtain ⟨_,checked,passed⟩ := bind_ok passed
    intro a present
    rcases List.mem_cons.mp present with rfl | present
    · exact ⟨i,checked⟩
    · exact ih passed a present

end Checks
