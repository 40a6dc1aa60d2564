import Scg.Library.Transition

namespace Transition

section Inevitable
variable (M : System S A) (own serves : A → Prop) (goal : S → Prop)

inductive Beside : S → S → Prop where
  | here : Beside s s
  | step : Beside s mid → ¬ own action → M.step mid action = some next → Beside s next

-- Whatever the others do, the owner is at its goal after finitely many of its own actions.
inductive Inevitable : S → Prop where
  | now : goal s → Inevitable s
  | later : (∀ mid, Beside M own s mid → ∃ action next, serves action ∧ M.step mid action = some next) →
      (∀ mid action next, Beside M own s mid → own action → M.step mid action = some next → Inevitable next) →
      Inevitable s

end Inevitable

variable {S A : Type} {own serves : A → Prop} {goal I : S → Prop}

theorem Beside.invariant (kept : ∀ s action next, I s → ¬ own action → M.step s action = some next → I next)
    (beside : Beside M own s mid) (holds : I s) : I mid := by
  induction beside with
  | here => exact holds
  | step _ other ran ih => exact kept _ _ _ ih other ran

theorem Inevitable.of_rank {T : Type} {below : T → T → Prop} (rank : S → T) (founded : WellFounded below)
    (kept : ∀ s action next, I s → M.step s action = some next → I next)
    (others : ∀ s action next, I s → ¬ goal s → ¬ own action → M.step s action = some next →
      rank next = rank s ∧ ¬ goal next)
    (enabled : ∀ s, I s → ¬ goal s → ∃ action next, serves action ∧ M.step s action = some next)
    (falls : ∀ s action next, I s → ¬ goal s → own action → M.step s action = some next →
      goal next ∨ below (rank next) (rank s))
    (holds : I s) : Inevitable M own serves goal s := by
  generalize ranked : rank s = r
  induction r using founded.induction generalizing s with
  | _ r ih =>
    by_cases done : goal s
    · exact .now done
    · have stays : ∀ mid, Beside M own s mid → (I mid ∧ ¬ goal mid) ∧ rank mid = r := by
        intro mid beside
        refine Beside.invariant (I := fun mid => (I mid ∧ ¬ goal mid) ∧ rank mid = r) ?_ beside ⟨⟨holds,done⟩,ranked⟩
        rintro s action next ⟨⟨holds,open_⟩,same⟩ other ran
        obtain ⟨equal,still⟩ := others s action next holds open_ other ran
        exact ⟨⟨kept s action next holds ran,still⟩,equal.trans same⟩
      refine .later ?_ ?_
      · intro mid beside
        obtain ⟨⟨there,open_⟩,_⟩ := stays mid beside
        exact enabled mid there open_
      · intro mid action next beside mine ran
        obtain ⟨⟨there,open_⟩,same⟩ := stays mid beside
        rcases falls mid action next there open_ mine ran with reached | less
        · exact .now reached
        · rw [same] at less
          exact ih _ less (kept mid action next there ran) rfl

end Transition
