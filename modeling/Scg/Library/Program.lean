import Mathlib.Tactic.Common

-- Programs that change a state and may fail; what a failed program has changed stays changed.
def Program (S E α : Type) : Type := S → Except E α × S

namespace Program

variable {S E α β : Type}

instance : Monad (Program S E) where
  pure a := fun s => (.ok a,s)
  bind first next := fun s =>
    match first s with
    | (.ok a,t) => next a t
    | (.error e,t) => (.error e,t)

def get : Program S E S := fun s => (.ok s,s)

def modify (f : S → S) : Program S E Unit := fun s => (.ok (),f s)

def fail (e : E) : Program S E α := fun s => (.error e,s)

def ofExcept (value : Except E α) : Program S E α := fun s => (value,s)

theorem ofExcept_ok_bind (a : α) (next : α → Program S E β) : (ofExcept (.ok a) >>= next) = next a := rfl

def attempt (program : Program S E α) : Program S E (Except E α) := fun s =>
  let (result,t) := program s
  (.ok result,t)

def when (condition : Bool) (program : Program S E Unit) : Program S E Unit :=
  if condition then program else pure ()

def ignore (program : Program S E α) : Program S E Unit := attempt program >>= fun _ => pure ()

def each (body : α → Program S E Unit) : List α → Program S E Unit
  | [] => pure ()
  | a :: rest => do
    body a
    each body rest

-- From a state with `P` a program ends with `Q`, or fails with `R`.
def Spec (P : S → Prop) (program : Program S E α) (Q : α → S → Prop) (R : E → S → Prop) : Prop :=
  ∀ s, P s →
    match program s with
    | (.ok a,t) => Q a t
    | (.error e,t) => R e t

variable {P P' : S → Prop} {Q Q' : α → S → Prop} {R R' : E → S → Prop}

theorem spec_pure (holds : ∀ s, P s → Q a s) : Spec P (pure a : Program S E α) Q R := holds

theorem spec_fail (holds : ∀ s, P s → R e s) : Spec P (fail e : Program S E α) Q R := holds

theorem spec_modify {f : S → S} {Q : Unit → S → Prop} (holds : ∀ s, P s → Q () (f s)) :
    Spec P (modify f : Program S E Unit) Q R := holds

theorem spec_bind {next : α → Program S E β} {Q : β → S → Prop} {M : α → S → Prop}
    (before : Spec P first M R) (after : ∀ a, Spec (M a) (next a) Q R) : Spec P (first >>= next) Q R := by
  intro s holds
  have middle := before s holds
  simp only [bind]
  generalize first s = ended at middle ⊢
  obtain ⟨result,t⟩ := ended
  cases result with
  | ok a => exact after a t middle
  | error e => exact middle

theorem spec_get_bind {next : S → Program S E α} (after : ∀ seen, P seen → Spec (fun s => s = seen) (next seen) Q R) :
    Spec P (get >>= next) Q R := by
  intro s holds
  exact after s holds s rfl

theorem spec_attempt_bind {next : Except E α → Program S E β} {M : α → S → Prop} {F : E → S → Prop}
    {Q : β → S → Prop} (inner : Spec P program M F) (ended : ∀ a, Spec (M a) (next (.ok a)) Q R)
    (failed : ∀ e, Spec (F e) (next (.error e)) Q R) : Spec P (attempt program >>= next) Q R := by
  intro s holds
  have result := inner s holds
  simp only [bind,attempt]
  generalize program s = outcome at result ⊢
  obtain ⟨value,t⟩ := outcome
  cases value with
  | ok a => exact ended a t result
  | error e => exact failed e t result

theorem Spec.weaken (spec : Spec P program Q R) (before : ∀ s, P' s → P s)
    (after : ∀ a s, Q a s → Q' a s) (failed : ∀ e s, R e s → R' e s) : Spec P' program Q' R' := by
  intro s holds
  have result := spec s (before s holds)
  generalize program s = ended at result ⊢
  obtain ⟨value,t⟩ := ended
  cases value with
  | ok a => exact after a t result
  | error e => exact failed e t result

theorem spec_fact {F : Prop} (spec : Spec P program Q R) :
    Spec (fun s => F ∧ P s) program (fun a s => F ∧ Q a s) (fun e s => F ∧ R e s) := by
  intro s ⟨fact,holds⟩
  exact (spec.weaken (fun _ holds => holds) (fun _ _ after => ⟨fact,after⟩) fun _ _ failed => ⟨fact,failed⟩) s holds

theorem spec_or (one : Spec P program Q R) (two : Spec P' program Q' R') :
    Spec (fun s => P s ∨ P' s) program (fun a s => Q a s ∨ Q' a s) (fun e s => R e s ∨ R' e s) := by
  intro s holds
  rcases holds with holds | holds
  · exact (one.weaken (fun _ holds => holds) (fun _ _ => .inl) fun _ _ => .inl) s holds
  · exact (two.weaken (fun _ holds => holds) (fun _ _ => .inr) fun _ _ => .inr) s holds

theorem spec_when {program : Program S E Unit} {Q : Unit → S → Prop}
    (taken : condition = true → Spec P program Q R) (skipped : condition = false → ∀ s, P s → Q () s) :
    Spec P (when condition program) Q R := by
  cases condition with
  | true => exact taken rfl
  | false => exact skipped rfl

theorem spec_ignore {Q : Unit → S → Prop}
    (inner : Spec P program (fun _ => Q ()) (fun _ => Q ())) : Spec P (ignore program) Q R :=
  spec_attempt_bind inner (fun _ => spec_pure fun _ holds => holds) fun _ => spec_pure fun _ holds => holds

theorem spec_ofExcept (ended : ∀ a, value = .ok a → ∀ s, P s → Q a s)
    (failed : ∀ e, value = .error e → ∀ s, P s → R e s) : Spec P (ofExcept value) Q R := by
  intro s holds
  cases value with
  | ok a => exact ended a rfl s holds
  | error e => exact failed e rfl s holds

theorem spec_each {body : α → Program S E Unit}
    (round : ∀ a ∈ items, Spec P (body a) (fun _ => P) R) : Spec P (each body items) (fun _ => P) R := by
  induction items with
  | nil => exact spec_pure fun _ holds => holds
  | cons a rest ih =>
    apply spec_bind (round a List.mem_cons_self)
    intro _
    exact ih fun other present => round other (List.mem_cons_of_mem _ present)

end Program
