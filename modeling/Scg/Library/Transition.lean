import Mathlib.Tactic.Common

namespace Transition
open Option

-- A system is given by its initial states and one executable step per action;
-- `none` is an action that is not enabled. Every interleaving is an action list.
structure System (S A : Type) where
  initial : S → Prop
  step : S → A → Option S

-- States reached by steps that each meet `guard` in the state they are taken in.
inductive ReachedWhen (M : System S A) (guard : S → A → Prop) : S → Prop where
  | initial : M.initial s → ReachedWhen M guard s
  | step : ReachedWhen M guard s → guard s action → M.step s action = some next →
      ReachedWhen M guard next

def Reached (M : System S A) : S → Prop := ReachedWhen M (fun _ _ => True)

variable {S A : Type} {M : System S A} {guard other : S → A → Prop}
theorem ReachedWhen.invariant {I : S → Prop}
    (start : ∀ s, M.initial s → I s)
    (preserved : ∀ s action next, I s → guard s action → M.step s action = some next → I next)
    (path : ReachedWhen M guard s) : I s := by
  induction path with
  | initial begun => exact start _ begun
  | step _ allowed ran ih => exact preserved _ _ _ ih allowed ran

theorem Reached.invariant {I : S → Prop}
    (start : ∀ s, M.initial s → I s)
    (preserved : ∀ s action next, I s → M.step s action = some next → I next)
    (path : Reached M s) : I s :=
  ReachedWhen.invariant start (fun s action next valid _ ran => preserved s action next valid ran) path

theorem ReachedWhen.weaken (weaker : ∀ s action, guard s action → other s action)
    (path : ReachedWhen M guard s) : ReachedWhen M other s := by
  induction path with
  | initial begun => exact .initial begun
  | step _ allowed ran ih => exact .step ih (weaker _ _ allowed) ran

theorem Reached.next (path : Reached M s) (ran : M.step s action = some after) : Reached M after :=
  ReachedWhen.step path trivial ran

def run (M : System S A) : S → List A → Option S
  | s,[] => some s
  | s,action :: rest => (M.step s action).bind (run M · rest)

theorem run_append (first second : List A) :
    run M s (first ++ second) = (run M s first).bind (run M · second) := by
  induction first generalizing s with
  | nil => rfl
  | cons action rest ih =>
    cases taken : M.step s action with
    | none => simp [run,taken]
    | some middle => simp [run,taken,ih]

theorem reached_run (path : Reached M s) (ran : run M s actions = some after) : Reached M after := by
  induction actions generalizing s with
  | nil => cases ran; exact path
  | cons action rest ih =>
    cases taken : M.step s action with
    | none => simp [run,taken] at ran
    | some middle => exact ih (path.next taken) (by simpa [run,taken] using ran)

theorem run_invariant {I : S → Prop} (preserved : ∀ s action next, I s → M.step s action = some next → I next)
    (valid : I s) (ran : run M s actions = some after) : I after := by
  induction actions generalizing s with
  | nil => cases ran; exact valid
  | cons action rest ih =>
    cases taken : M.step s action with
    | none => simp [run,taken] at ran
    | some middle => exact ih (preserved _ _ _ valid taken) (by simpa [run,taken] using ran)

def runChecked (M : System S A) (check : S → A → Bool) : S → List A → Option S
  | s,[] => some s
  | s,action :: rest => if check s action then (M.step s action).bind (runChecked M check · rest) else none

theorem reachedWhen_run {check : S → A → Bool} (sound : ∀ s action, check s action = true → guard s action)
    (path : ReachedWhen M guard s) (ran : runChecked M check s actions = some after) : ReachedWhen M guard after := by
  induction actions generalizing s with
  | nil => cases ran; exact path
  | cons action rest ih =>
    obtain ⟨checked,ran⟩ := ite_none_right_eq_some.mp ran
    cases taken : M.step s action with
    | none => simp [taken] at ran
    | some middle => exact ih (.step path (sound _ _ checked) taken) (by simpa [taken] using ran)

section Shows
variable {B : Type*} {view : S → B}

theorem run_shows (ran : (run M s actions).map view = some value) (begun : M.initial s) :
    ∃ after, Reached M after ∧ view after = value := by
  obtain ⟨after,reached,shown⟩ := map_eq_some_iff.mp ran
  exact ⟨after,reached_run (.initial begun) reached,shown⟩

theorem runChecked_shows {check : S → A → Bool} (sound : ∀ s action, check s action = true → guard s action)
    (ran : (runChecked M check s actions).map view = some value) (begun : M.initial s) :
    ∃ after, ReachedWhen M guard after ∧ view after = value := by
  obtain ⟨after,reached,shown⟩ := map_eq_some_iff.mp ran
  exact ⟨after,reachedWhen_run sound (.initial begun) reached,shown⟩

end Shows

-- A system beside a record of its run that no step reads.
def System.recording (M : System S A) (start : R) (note : S → A → R → R) : System (S × R) A where
  initial r := M.initial r.1 ∧ r.2 = start
  step r action := (M.step r.1 action).map fun next => (next,note r.1 action r.2)

theorem reached_recording {R : Type} {start : R} {note : S → A → R → R} :
    Reached M s ↔ ∃ record, Reached (M.recording start note) (s,record) := by
  constructor
  · intro path
    induction path with
    | initial begun => exact ⟨start,.initial ⟨begun,rfl⟩⟩
    | step _ _ ran ih =>
      obtain ⟨record,path⟩ := ih
      exact ⟨_,path.next (map_eq_some_iff.mpr ⟨_,ran,rfl⟩)⟩
  · intro ⟨record,path⟩
    generalize beside : (s,record) = r at path
    induction path generalizing s record with
    | initial begun =>
      subst beside
      exact .initial begun.1
    | step _ _ ran ih =>
      obtain ⟨next,taken,same⟩ := map_eq_some_iff.mp ran
      rw [←beside] at same
      cases same
      exact (ih _ rfl).next taken

end Transition
