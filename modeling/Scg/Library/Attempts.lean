import Mathlib.Tactic.Common

-- Items handed to a machine that may refuse any of them: up to the first refusal, or
-- one by one whatever becomes of each.
namespace Attempts
open List

variable {S α E : Type}

structure Ran (S α E : Type) where
  offered : List α
  sent : List α
  error : Option E
  after : S

def untilFailure (step : S → α → Option E × S) : S → List α → Ran S α E
  | s,[] => ⟨[],[],none,s⟩
  | s,x :: rest =>
    match step s x with
    | (some e,next) => ⟨[x],[],some e,next⟩
    | (none,next) =>
      let later := untilFailure step next rest
      ⟨x :: later.offered,x :: later.sent,later.error,later.after⟩

def each (step : S → α → Option E × S) : S → List α → List α × S
  | s,[] => ([],s)
  | s,x :: rest =>
    let later := each step (step s x).2 rest
    (if (step s x).1.isNone then x :: later.1 else later.1,later.2)

def Taken (step : S → α → Option E × S) (s : S) (xs : List α) : Prop :=
  ∀ before x after, xs = before ++ x :: after → after ≠ [] → (step (each step s before).2 x).1 = none

variable {step : S → α → Option E × S}

theorem untilFailure_refused (refused : (step s x).1 = some e) :
    untilFailure step s (x :: rest) = ⟨[x],[],some e,(step s x).2⟩ := by
  have met : step s x = (some e,(step s x).2) := Prod.ext refused rfl
  rw [untilFailure,met]

theorem untilFailure_taken (taken : (step s x).1 = none) :
    untilFailure step s (x :: rest) =
      ⟨x :: (untilFailure step (step s x).2 rest).offered,x :: (untilFailure step (step s x).2 rest).sent,
        (untilFailure step (step s x).2 rest).error,(untilFailure step (step s x).2 rest).after⟩ := by
  have met : step s x = (none,(step s x).2) := Prod.ext taken rfl
  rw [untilFailure,met]

theorem untilFailure_offers_front (xs : List α) (s : S) : (untilFailure step s xs).offered <+: xs := by
  induction xs generalizing s with
  | nil => exact prefix_refl _
  | cons x rest ih =>
    cases met : (step s x).1 with
    | none =>
      rw [untilFailure_taken met]
      exact (prefix_cons_inj x).mpr (ih _)
    | some e =>
      rw [untilFailure_refused met]
      exact ⟨rest,rfl⟩

theorem taken_cons : Taken step s (x :: rest) ↔ (rest ≠ [] → (step s x).1 = none) ∧ Taken step (step s x).2 rest := by
  constructor
  · intro all
    refine ⟨all [] x rest rfl,?_⟩
    intro before y after split more
    exact all (x :: before) y after (by rw [split]; rfl) more
  · rintro ⟨first,later⟩ before y after split more
    cases before with
    | nil =>
      obtain ⟨rfl,rfl⟩ := cons.inj split
      exact first more
    | cons head tail =>
      obtain ⟨rfl,tails⟩ := cons.inj split
      exact later tail y after tails more

theorem untilFailure_offers_iff (xs : List α) (s : S) : (untilFailure step s xs).offered = xs ↔ Taken step s xs := by
  induction xs generalizing s with
  | nil =>
    refine ⟨fun _ => ?_,fun _ => rfl⟩
    intro before x after split
    simp at split
  | cons x rest ih =>
    rw [taken_cons,← ih]
    cases met : (step s x).1 with
    | none => simp [untilFailure_taken met]
    | some e =>
      rw [untilFailure_refused met]
      cases rest with
      | nil => simp [untilFailure]
      | cons y more => simp

theorem untilFailure_sent (xs : List α) (s : S) (taken : Taken step s xs) :
    (untilFailure step s xs).sent = (each step s xs).1 := by
  induction xs generalizing s with
  | nil => rfl
  | cons x rest ih =>
    obtain ⟨first,later⟩ := taken_cons.mp taken
    cases met : (step s x).1 with
    | none => simp [untilFailure_taken met,each,met,ih _ later]
    | some e =>
      have last : rest = [] := by
        by_contra more
        have accepted := first more
        rw [met] at accepted
        cases accepted
      simp [untilFailure_refused met,each,met,last]

theorem untilFailure_limited_iff (limit : Nat) (xs : List α) (s : S) :
    (untilFailure step s (xs.take limit)).offered = xs ↔ xs.length ≤ limit ∧ Taken step s xs := by
  constructor
  · intro all
    have within : (untilFailure step s (xs.take limit)).offered.length ≤ (xs.take limit).length :=
      (untilFailure_offers_front _ s).length_le
    rw [all,length_take] at within
    have few : xs.length ≤ limit := by omega
    rw [take_of_length_le few] at all
    exact ⟨few,(untilFailure_offers_iff xs s).mp all⟩
  · rintro ⟨few,taken⟩
    rw [take_of_length_le few]
    exact (untilFailure_offers_iff xs s).mpr taken

end Attempts
