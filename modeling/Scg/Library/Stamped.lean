import Mathlib.Tactic.Common

namespace Stamped

structure Source (C T : Type) where
  contents : C
  stamp : T
  past : List T
  known : stamp ∈ past

variable {C T : Type} [DecidableEq T] {source next : Source C T} {contents : C} {stamp old : T}
variable {holds : C → Prop}

def Source.write (source : Source C T) (contents : C) (stamp : T) : Option (Source C T) :=
  if stamp ∈ source.past then none else some ⟨contents,stamp,stamp :: source.past,List.mem_cons_self⟩

theorem write_parts (wrote : source.write contents stamp = some next) :
    stamp ∉ source.past ∧ next.stamp = stamp ∧ next.past = stamp :: source.past := by
  obtain ⟨fresh,wrote⟩ := Option.ite_none_left_eq_some.mp wrote
  cases wrote
  exact ⟨fresh,rfl,rfl⟩

theorem write_past (wrote : source.write contents stamp = some next) (seen : old ∈ source.past) :
    old ∈ next.past ∧ next.stamp ≠ old := by
  obtain ⟨fresh,now,grown⟩ := write_parts wrote
  refine ⟨grown ▸ List.mem_cons_of_mem _ seen,?_⟩
  rintro rfl
  exact fresh (now ▸ seen)

def Current (source : Source C T) (stamp : T) (holds : C → Prop) : Prop :=
  stamp ∈ source.past ∧ (source.stamp = stamp → holds source.contents)

theorem Current.write (current : Current source old holds) (wrote : source.write contents stamp = some next) :
    Current next old holds :=
  ⟨(write_past wrote current.1).1,fun same => absurd same (write_past wrote current.1).2⟩

end Stamped
