import Mathlib.Algebra.Order.Ring.Nat
import Mathlib.Tactic.Common

-- Segments written in order by calls that may take less than they are given.
namespace ShortWrites
open List

variable {α E : Type}

-- What one call comes back with. A count stands for at most that many.
inductive Result (E : Type) where
  | wrote (count : Nat)
  | interrupted
  | failed (error : E)

def gather : Nat → List (List α) → List (List α)
  | _,[] => []
  | skip,segment :: rest =>
    if skip ≥ segment.length then gather (skip-segment.length) rest
    else if !(segment.drop skip).isEmpty then segment.drop skip :: gather 0 rest
    else gather 0 rest

theorem gather_length (skip : Nat) (segments : List (List α)) : (gather skip segments).length ≤ segments.length := by
  induction segments generalizing skip with
  | nil => exact Nat.le_refl _
  | cons segment rest ih =>
    simp only [gather]
    split
    · exact Nat.le_succ_of_le (ih _)
    · split
      · exact Nat.succ_le_succ (ih 0)
      · exact Nat.le_succ_of_le (ih 0)

theorem gather_flatten (skip : Nat) (segments : List (List α)) :
    (gather skip segments).flatten = segments.flatten.drop skip := by
  induction segments generalizing skip with
  | nil => simp [gather]
  | cons segment rest ih =>
    simp only [gather,flatten_cons]
    split
    · rename_i past
      rw [ih,drop_append,drop_of_length_le past,nil_append]
    · have short : skip ≤ segment.length := by omega
      rw [drop_append_of_le_length short]
      split
      · rw [flatten_cons,ih,drop_zero]
      · rename_i nothing
        have empty : segment.drop skip = [] := by simpa using nothing
        rw [empty,ih,drop_zero,nil_append]

-- A call after the other, with at most `limit` segments each, until all is written. No
-- answer is a call that never comes back.
def pour (limit : Nat) (nothing : E) (segments : List (List α)) (off : Nat) (written : List α) :
    List (Result E) → Option (Except E Unit × List (Result E) × List α)
  | [] => if off < segments.flatten.length then none else some (.ok (),[],written)
  | result :: rest =>
    if off < segments.flatten.length then
      match result with
      | .interrupted => pour limit nothing segments off written rest
      | .failed e => some (.error e,rest,written)
      | .wrote count =>
        let given := ((gather off segments).take limit).flatten
        let taken := min count given.length
        if taken = 0 then some (.error nothing,rest,written)
        else pour limit nothing segments (off+taken) (written ++ given.take taken) rest
    else some (.ok (),result :: rest,written)

variable {results : List (Result E)}

theorem given_eq (few : segments.length ≤ limit) : ((gather off segments).take limit).flatten = segments.flatten.drop off := by
  rw [take_of_length_le (Nat.le_trans (gather_length off segments) few),gather_flatten]

theorem pour_written (few : segments.length ≤ limit)
    (done : pour limit nothing segments off written results = some (.ok (),rest,out)) :
    out = written ++ segments.flatten.drop off := by
  induction results generalizing off written with
  | nil =>
    obtain ⟨all,done⟩ := Option.ite_none_left_eq_some.mp done
    cases done
    rw [drop_of_length_le (Nat.le_of_not_lt all),append_nil]
  | cons result later ih =>
    unfold pour at done
    split at done
    · cases result with
      | interrupted => exact ih done
      | failed e => cases done
      | wrote count =>
        simp only [given_eq few] at done
        split at done
        · cases done
        · have more := ih done
          rw [more,append_assoc,← drop_drop,take_append_drop]
    · rename_i all
      cases done
      rw [drop_of_length_le (Nat.le_of_not_lt all),append_nil]

def Result.counts : Result E → Nat
  | .wrote count => min count 1
  | _ => 0

def Result.moves : Result E → Prop
  | .wrote count => 0 < count
  | .interrupted => True
  | .failed _ => False

theorem pour_ends (few : segments.length ≤ limit) (moves : ∀ result ∈ results, result.moves)
    (enough : segments.flatten.length ≤ off+(results.map Result.counts).sum) :
    ∃ rest out, pour limit nothing segments off written results = some (.ok (),rest,out) ∧ rest <:+ results ∧
      (results.map Result.counts).sum ≤ (rest.map Result.counts).sum+(segments.flatten.length-off) := by
  induction results generalizing off written with
  | nil =>
    have all : ¬ off < segments.flatten.length := by simpa using enough
    exact ⟨[],written,if_neg all,suffix_refl _,by simp⟩
  | cons result later ih =>
    have others : ∀ result ∈ later, result.moves := fun other present => moves other (mem_cons_of_mem _ present)
    have here := moves result mem_cons_self
    rw [map_cons,sum_cons] at enough ⊢
    unfold pour
    split
    · cases result with
      | interrupted =>
        obtain ⟨rest,out,done,suffix,left⟩ := ih others (by simpa [Result.counts] using enough)
        refine ⟨rest,out,done,suffix.trans (suffix_cons _ _),?_⟩
        simpa [Result.counts] using left
      | failed e => exact here.elim
      | wrote count =>
        have positive : 0 < count := here
        simp only [given_eq few,length_drop,Result.counts] at enough ⊢
        rw [if_neg (by omega)]
        have further : segments.flatten.length ≤
            off+min count (segments.flatten.length-off)+(later.map Result.counts).sum := by omega
        obtain ⟨rest,out,done,suffix,left⟩ := ih others further
        exact ⟨rest,out,done,suffix.trans (suffix_cons _ _),by omega⟩
    · exact ⟨result :: later,written,rfl,suffix_refl _,by rw [map_cons,sum_cons]; omega⟩

end ShortWrites
