import Mathlib.Tactic.Common

namespace Precedence
open List

-- Every entry of a log that needs another finds it earlier in the log.
def Preceded (needs : α → Option α) (log : List α) : Prop :=
  ∀ before entry after, log = before ++ entry :: after → ∀ need, needs entry = some need → need ∈ before

variable {needs : α → Option α}

theorem preceded_nil : Preceded needs [] := by
  intro before entry after shape
  simp at shape

theorem Preceded.concat (ordered : Preceded needs log)
    (met : ∀ need, needs entry = some need → need ∈ log) : Preceded needs (log ++ [entry]) := by
  intro before found after shape need required
  rcases eq_nil_or_concat after with rfl | ⟨initial,last,rfl⟩
  · obtain ⟨rfl,tail⟩ := append_inj' shape rfl
    cases tail
    exact met need required
  · have rest : log = before ++ found :: initial := by
      rw [concat_eq_append,← cons_append,← append_assoc] at shape
      exact (append_inj' shape rfl).1
    exact ordered before found initial rest need required

theorem Preceded.free (ordered : Preceded needs log) (nothing : needs entry = none) :
    Preceded needs (log ++ [entry]) :=
  ordered.concat fun need required => by
    rw [nothing] at required
    cases required

def behind (guard : α) (guarded : α → Bool) (entry : α) : Option α := if guarded entry then some guard else none

section Behind
variable {guard : α} {guarded covers : α → Bool}

theorem preceded_behind (free : ∀ entry ∈ front, guarded entry = false) (present : guard ∈ front) :
    Preceded (behind guard guarded) (front ++ rest) := by
  intro before entry after shape need required
  obtain ⟨held,rfl⟩ : guarded entry = true ∧ guard = need := by simpa [behind] using required
  rcases append_eq_append_iff.mp shape with ⟨more,rfl,_⟩ | ⟨more,rfl,later⟩
  · exact mem_append_left _ present
  · cases more with
    | nil => simpa using present
    | cons first more =>
      cases later
      simp [free entry (by simp)] at held

theorem behind_mem (ordered : Preceded (behind guard guarded) (front ++ rest))
    (only : ∀ entry ∈ rest, guarded entry = true) (some' : rest ≠ []) : guard ∈ front := by
  cases rest with
  | nil => exact absurd rfl some'
  | cons entry later => exact ordered front entry later rfl guard (if_pos (only entry mem_cons_self))

theorem Preceded.found (ordered : Preceded (behind guard guarded) log) (covered : covers guard = true)
    (found : log.find? covers = some entry) : guarded entry = false := by
  obtain ⟨_,before,after,shape,missed⟩ := find?_eq_some_iff_append.mp found
  rw [← Bool.not_eq_true]
  intro held
  have present := ordered before entry after shape guard (if_pos held)
  exact absurd covered (by simpa using missed guard present)

end Behind

end Precedence
