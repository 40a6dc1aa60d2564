import Mathlib.Tactic.Common

namespace LeadingBits

variable {w : Nat}

def Agree (count : Nat) (a b : BitVec w) : Prop := ∀ i, i < count → a.getMsbD i = b.getMsbD i

theorem agree_zero (a b : BitVec w) : Agree 0 a b := by
  intro i below
  omega

theorem masked_bit (a : BitVec w) (count i : Nat) (bounded : count ≤ w) :
    (a &&& BitVec.allOnes w <<< (w-count)).getMsbD i = (a.getMsbD i && decide (i < count)) := by
  have inside : i+(w-count) < w ↔ i < count := by omega
  rw [BitVec.getMsbD_and,BitVec.getMsbD_shiftLeft,BitVec.getMsbD_allOnes,decide_eq_decide.mpr inside]

theorem masked_eq_iff (bounded : count ≤ w) (a b : BitVec w) :
    a &&& BitVec.allOnes w <<< (w-count) = b &&& BitVec.allOnes w <<< (w-count) ↔ Agree count a b := by
  constructor
  · intro same i below
    have bit := congrArg (BitVec.getMsbD · i) same
    simpa [masked_bit _ _ _ bounded,below] using bit
  · intro agree
    apply BitVec.eq_of_getMsbD_eq
    intro i _
    rw [masked_bit _ _ _ bounded,masked_bit _ _ _ bounded]
    by_cases below : i < count
    · rw [agree i below]
    · simp [below]

end LeadingBits
