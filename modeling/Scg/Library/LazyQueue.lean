import Scg.Library.Tables

-- A renewed stamp leaves its old record in the queue, skipped when it comes to the front.
structure LazyQueue (K S : Type) where
  table : AList fun _ : K => S
  queue : List (K × S)

namespace LazyQueue
open List AList

variable {K S : Type} [DecidableEq K] [DecidableEq S]

def evict (capacity : Nat) (table : AList fun _ : K => S) : List (K × S) → LazyQueue K S
  | [] => ⟨table,[]⟩
  | (key,stamp) :: rest =>
    if table.entries.length ≥ capacity then
      if table.lookup key = some stamp then evict capacity (table.erase key) rest else evict capacity table rest
    else ⟨table,(key,stamp) :: rest⟩

def insert (capacity : Nat) (lazy : LazyQueue K S) (key : K) (stamp : S) : LazyQueue K S :=
  let kept := if key ∈ lazy.table then lazy else evict capacity lazy.table lazy.queue
  ⟨kept.table.insert key stamp,kept.queue ++ [(key,stamp)]⟩

variable {table : AList fun _ : K => S} {queue : List (K × S)}
variable {key : K} {stamp : S}

omit [DecidableEq S] in
theorem mem_of_lookup (found : table.lookup key = some stamp) : key ∈ table :=
  lookup_isSome.mp (Option.isSome_of_eq_some found)

def Covered (lazy : LazyQueue K S) : Prop := ∀ key stamp, lazy.table.lookup key = some stamp → (key,stamp) ∈ lazy.queue

omit [DecidableEq S] in
theorem covered_skip (covered : Covered ⟨table,(key,stamp) :: queue⟩) (stale : table.lookup key ≠ some stamp) :
    Covered ⟨table,queue⟩ := by
  intro other old found
  rcases mem_cons.mp (covered other old found) with same | later
  · cases same
    exact absurd found stale
  · exact later

omit [DecidableEq S] in
theorem covered_erase (covered : Covered ⟨table,(key,stamp) :: queue⟩) : Covered ⟨table.erase key,queue⟩ := by
  intro other old found
  obtain ⟨apart,found⟩ := Tables.lookup_erase_some found
  rcases mem_cons.mp (covered other old found) with same | later
  · cases same
    exact absurd rfl apart
  · exact later

theorem evict_covered (covered : Covered ⟨table,queue⟩) : Covered (evict capacity table queue) := by
  induction queue generalizing table with
  | nil => exact covered
  | cons record rest ih =>
    simp only [evict]
    split
    · split
      · exact ih (covered_erase covered)
      · rename_i stale
        exact ih (covered_skip covered stale)
    · exact covered

theorem evict_lookup (found : (evict capacity table queue).table.lookup key = some stamp) :
    table.lookup key = some stamp := by
  induction queue generalizing table with
  | nil => exact found
  | cons record rest ih =>
    simp only [evict] at found
    split at found
    · split at found
      · exact (Tables.lookup_erase_some (ih found)).2
      · exact ih found
    · exact found

theorem evict_absent (absent : key ∉ table) : key ∉ (evict capacity table queue).table := by
  intro back
  obtain ⟨stamp,found⟩ := Option.isSome_iff_exists.mp (lookup_isSome.mpr back)
  exact absent (mem_of_lookup (evict_lookup found))

omit [DecidableEq S] in
theorem covered_nil (covered : Covered ⟨table,[]⟩) : table.entries.length = 0 := by
  rw [length_eq_zero_iff,eq_nil_iff_forall_not_mem]
  rintro ⟨key,stamp⟩ present
  exact absurd (covered key stamp (mem_lookup_iff.mpr present)) (by simp)

theorem evict_length (covered : Covered ⟨table,queue⟩) :
    (evict capacity table queue).table.entries.length = min table.entries.length (capacity-1) := by
  induction queue generalizing table with
  | nil =>
    rw [evict,covered_nil covered]
    omega
  | cons record rest ih =>
    simp only [evict]
    split
    · split
      · rename_i full live
        have gone := Tables.length_erase (mem_of_lookup live)
        rw [ih (covered_erase covered)]
        omega
      · rename_i stale
        exact ih (covered_skip covered stale)
    · change table.entries.length = _
      omega

theorem evict_suffix : (evict capacity table queue).queue <:+ queue := by
  induction queue generalizing table with
  | nil => exact suffix_refl _
  | cons record rest ih =>
    simp only [evict]
    split
    · split <;> exact ih.trans (suffix_cons _ _)
    · exact suffix_refl _

theorem evict_oldest [LT S] (covered : Covered ⟨table,queue⟩) (sorted : queue.Pairwise fun a b => a.2 < b.2)
    (held : table.lookup key = some stamp) (gone : (evict capacity table queue).table.lookup key = none)
    (kept : (evict capacity table queue).table.lookup other = some old) : stamp < old := by
  induction queue generalizing table with
  | nil =>
    rw [evict] at gone
    rw [gone] at held
    cases held
  | cons record rest ih =>
    obtain ⟨before,later⟩ := pairwise_cons.mp sorted
    simp only [evict] at gone kept
    split at gone
    · rename_i full
      rw [if_pos full] at kept
      split at gone
      · rename_i live
        rw [if_pos live] at kept
        by_cases same : key = record.1
        · have stamped : record.2 = stamp := Option.some.inj (live.symm.trans (same ▸ held))
          have record := covered_erase covered other old (evict_lookup kept)
          rw [← stamped]
          exact before _ record
        · exact ih (covered_erase covered) later (by rwa [lookup_erase_ne same]) gone kept
      · rename_i stale
        rw [if_neg stale] at kept
        exact ih (covered_skip covered stale) later held gone kept
    · rw [gone] at held
      cases held

theorem evict_surplus : (evict capacity table queue).queue.length+table.entries.length ≤
    queue.length+(evict capacity table queue).table.entries.length := by
  induction queue generalizing table with
  | nil => rw [evict]
  | cons record rest ih =>
    simp only [evict]
    split
    · split
      · rename_i full live
        have gone := Tables.length_erase (mem_of_lookup live)
        have later : (evict capacity (table.erase record.1) rest).queue.length+_ ≤ _ := ih
        rw [length_cons]
        omega
      · have later : (evict capacity table rest).queue.length+_ ≤ _ := ih
        rw [length_cons]
        omega
    · exact le_refl _

section Insert

theorem insert_eq : insert capacity lazy key stamp =
    ⟨(if key ∈ lazy.table then lazy else evict capacity lazy.table lazy.queue).table.insert key stamp,
      (if key ∈ lazy.table then lazy else evict capacity lazy.table lazy.queue).queue ++ [(key,stamp)]⟩ := rfl

omit [DecidableEq S] in
theorem Covered.push (covered : Covered lazy) : Covered ⟨lazy.table.insert key stamp,lazy.queue ++ [(key,stamp)]⟩ := by
  intro other old found
  by_cases same : other = key
  · subst same
    rw [lookup_insert] at found
    cases found
    exact mem_append_right _ mem_cons_self
  · rw [lookup_insert_ne same] at found
    exact mem_append_left _ (covered other old found)

theorem insert_covered (covered : Covered lazy) : Covered (insert capacity lazy key stamp) := by
  apply Covered.push
  split
  · exact covered
  · exact evict_covered covered

theorem insert_length (covered : Covered lazy) : (insert capacity lazy key stamp).table.entries.length =
    if key ∈ lazy.table then lazy.table.entries.length else min lazy.table.entries.length (capacity-1)+1 := by
  unfold insert
  by_cases held : key ∈ lazy.table
  · rw [if_pos held,if_pos held]
    exact Tables.length_insert_old held
  · rw [if_neg held,if_neg held,← evict_length covered]
    exact Tables.length_insert_new (evict_absent held)

theorem insert_sublist : (insert capacity lazy key stamp).queue.Sublist (lazy.queue ++ [(key,stamp)]) := by
  apply List.Sublist.append_right
  split
  · exact List.Sublist.refl _
  · exact evict_suffix.sublist

theorem insert_surplus (new : key ∉ lazy.table) : (insert capacity lazy key stamp).queue.length+lazy.table.entries.length ≤
    lazy.queue.length+(insert capacity lazy key stamp).table.entries.length := by
  have shrunk : _ ≤ lazy.queue.length+(evict capacity lazy.table lazy.queue).table.entries.length := evict_surplus
  rw [insert_eq,if_neg new]
  simp only [length_append,length_singleton,Tables.length_insert_new (evict_absent new)]
  omega

end Insert

end LazyQueue
