import Scg.Networking.Host

namespace Scg.Networking
open List Function

namespace Chains

structure Clean (chain : String) (before : Chains) : Prop where
  absent : before chain = none
  unjumped : ∀ parent entries, before parent = some entries → .jump chain ∉ entries

-- A table with the chain in it, whatever it holds, and at most one jump to it from each
-- built-in chain; for the rest it is as it was.
structure Covered (chain : String) (before now : Chains) : Prop where
  present : ∃ entries, now chain = some entries
  rest : ∀ other, other ≠ chain → now other = before other ∨
    other ∈ builtIn ∧ now other = (before other).map (· ++ [.jump chain])

variable {now : Chains}

theorem covered_create (clean : Clean chain before) : Covered chain before (create chain before) := by
  unfold create
  rw [if_pos clean.absent]
  refine ⟨⟨[],update_self ..⟩,?_⟩
  intro other apart
  exact .inl (update_of_ne apart ..)

theorem clean_unjumped (clean : Clean chain before) : jumps chain parent before = false := by
  unfold jumps
  cases held : before parent with
  | none => rfl
  | some entries => simpa using clean.unjumped parent entries held

theorem create_unjumped (clean : Clean chain before) (apart : parent ≠ chain) :
    jumps chain parent (create chain before) = false := by
  unfold jumps create
  rw [if_pos clean.absent,update_of_ne apart]
  exact clean_unjumped clean

theorem append_unjumped (apart : parent ≠ other) (missing : jumps chain parent now = false) :
    jumps chain parent (append other entry now) = false := by
  unfold jumps append
  rwa [update_of_ne apart]

theorem covered_append (entry : Entry) (covered : Covered chain before now) :
    Covered chain before (append chain entry now) := by
  obtain ⟨entries,held⟩ := covered.present
  unfold append
  refine ⟨⟨entries ++ [entry],?_⟩,?_⟩
  · rw [update_self,held]
    rfl
  · intro other apart
    rw [update_of_ne apart]
    exact covered.rest other apart

theorem jumps_concat (entries : List Entry) : (some (entries ++ [.jump chain])).any (·.contains (.jump chain)) = true := by
  simp

theorem covered_jump (covered : Covered chain before now) (own : chain ∉ builtIn) (listed : parent ∈ builtIn)
    (missing : jumps chain parent now = false) : Covered chain before (append parent (.jump chain) now) := by
  have distinct : chain ≠ parent := fun same => own (same ▸ listed)
  unfold append
  refine ⟨?_,?_⟩
  · rw [update_of_ne distinct]
    exact covered.present
  · intro other apart
    by_cases same : other = parent
    · subst same
      rw [update_self]
      rcases covered.rest other apart with kept | ⟨_,added⟩
      · rw [kept]
        exact .inr ⟨listed,rfl⟩
      · -- The jump is there already, unless the table has no such chain at all.
        cases held : before other with
        | none =>
          rw [added,held]
          exact .inl rfl
        | some entries =>
          rw [jumps,added,held,Option.map_some,jumps_concat] at missing
          cases missing
    · rw [update_of_ne same]
      exact covered.rest other apart

theorem unjump_each (parents : List String) (distinct : parents.Nodup) (other : String) :
    (parents.foldl (fun chains parent => chains.unjump chain parent) now) other =
      if other ∈ parents then (now other).map (·.erase (.jump chain)) else now other := by
  induction parents generalizing now with
  | nil => rfl
  | cons parent parents ih =>
    obtain ⟨fresh,distinct⟩ := nodup_cons.mp distinct
    rw [foldl_cons,ih distinct]
    by_cases same : other = parent
    · subst same
      rw [if_neg fresh,if_pos mem_cons_self]
      exact update_self ..
    · have untouched : now.unjump chain parent other = now other := update_of_ne same ..
      rw [untouched]
      simp [same]

theorem erase_jump_concat (entries : List Entry) (absent : Entry.jump chain ∉ entries) :
    (entries ++ [Entry.jump chain]).erase (.jump chain) = entries := by
  rw [erase_append_right _ absent,erase_cons_head,append_nil]

theorem unjumped_rest (clean : Clean chain before) (covered : Covered chain before now) (other : String) (apart : other ≠ chain) :
    (builtIn.foldl (fun chains parent => chains.unjump chain parent) now) other = before other := by
  rw [unjump_each builtIn (by decide)]
  have erased : (before other).map (·.erase (.jump chain)) = before other := by
    cases held : before other with
    | none => rfl
    | some entries => rw [Option.map_some,erase_of_not_mem (clean.unjumped other entries held)]
  rcases covered.rest other apart with kept | ⟨listed,added⟩
  · rw [kept,erased]
    exact ite_self _
  · rw [if_pos listed,added]
    cases held : before other with
    | none => rfl
    | some entries =>
      simp only [Option.map_some]
      rw [erase_jump_concat entries (clean.unjumped other entries held)]

theorem covered_removed (clean : Clean chain before) (covered : Covered chain before now) (own : chain ∉ builtIn) :
    (((builtIn.foldl (fun chains parent => chains.unjump chain parent) now).flush chain).delete chain) = before := by
  have held : (builtIn.foldl (fun chains parent => chains.unjump chain parent) now) chain = now chain := by
    rw [unjump_each builtIn (by decide),if_neg own]
  have others := unjumped_rest clean covered
  generalize builtIn.foldl (fun chains parent => chains.unjump chain parent) now = bare at held others
  obtain ⟨entries,present⟩ := covered.present
  have empty : bare.flush chain chain = some [] := by
    unfold flush
    rw [update_self,held,present]
    rfl
  have rest : ∀ other, other ≠ chain → bare.flush chain other = before other := by
    intro other apart
    unfold flush
    rw [update_of_ne apart]
    exact others other apart
  have unreferenced : builtIn.all (fun parent => !jumps chain parent (bare.flush chain)) = true := by
    rw [all_eq_true]
    intro parent listed
    have apart : parent ≠ chain := fun same => own (same ▸ listed)
    rw [jumps,rest parent apart]
    exact congrArg (!·) (clean_unjumped clean)
  unfold delete
  rw [if_pos ⟨empty,unreferenced⟩]
  funext other
  by_cases same : other = chain
  · subst same
    rw [update_self,clean.absent]
  · rw [update_of_ne same,rest other same]

end Chains

end Scg.Networking
