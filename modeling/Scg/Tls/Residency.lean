import Scg.Tls.Resumption
import Mathlib.Data.List.DropRight

namespace Scg.Tls
open List
variable {T : Type}

def SessionStore.insertAll (inserts : List (String × T)) : SessionStore T :=
  inserts.foldl (fun store entry => store.insert entry.1 entry.2) .empty

-- A residency begins with an insert that finds no entry under its key.
def beginning (run : SessionStore T × List String) (entry : String × T) : SessionStore T × List String :=
  (run.1.insert entry.1 entry.2,if entry.1 ∈ run.1.map then run.2 else run.2 ++ [entry.1])

def beginnings (inserts : List (String × T)) : List String := (inserts.foldl beginning (.empty,[])).2

structure Fifo (inserts : List (String × T)) (begun : List String) (store : SessionStore T) : Prop where
  nodup : store.order.Nodup
  keys : ∀ key, key ∈ store.order ↔ key ∈ store.map
  last : store.order = begun.rtake MAX_CACHED_SESSIONS
  latest : ∀ key der, store.get key = some der → inserts.reverse.lookup key = some der

namespace Fifo
theorem empty : Fifo ([] : List (String × T)) [] .empty where
  nodup := nodup_nil
  keys := by simp [SessionStore.empty]
  last := rfl
  latest := by simp [SessionStore.empty,SessionStore.get]

theorem rtake_snoc (some : 0 < n) (x : String) (xs : List String) :
    (xs ++ [x]).rtake n = if (xs.rtake n).length < n then xs.rtake n ++ [x] else (xs.rtake n).tail ++ [x] := by
  unfold rtake
  rw [length_drop,length_append,length_singleton]
  split_ifs with few
  · rw [show xs.length+1-n = 0 by omega,show xs.length-n = 0 by omega]
    rfl
  · rw [tail_drop,show xs.length+1-n = xs.length-n+1 by omega,drop_append_of_le_length (by omega)]

theorem bound (fifo : Fifo inserts begun store) : store.order.length ≤ MAX_CACHED_SESSIONS := by
  rw [fifo.last,rtake,length_drop]
  omega

theorem evict_fits {map : AList fun _ : String => T} (fits : order.length ≤ MAX_CACHED_SESSIONS) :
    SessionStore.evict map order = ⟨map,order⟩ := by
  cases order with
  | nil => rfl
  | cons key order => exact if_neg (Nat.not_lt_of_le fits)

-- With a full queue the new key takes the place of the first.
theorem evict_full {map : AList fun _ : String => T} (full : (first :: order).length = MAX_CACHED_SESSIONS) :
    SessionStore.evict map (first :: order ++ [key]) = ⟨map.erase first,order ++ [key]⟩ := by
  have rest : (order ++ [key]).length = MAX_CACHED_SESSIONS := by simpa using full
  have long : (first :: (order ++ [key])).length > MAX_CACHED_SESSIONS := by
    rw [length_cons,rest]
    exact Nat.lt_succ_self _
  rw [cons_append,SessionStore.evict,if_pos long,evict_fits (Nat.le_of_eq rest)]

theorem latest_insert (fifo : Fifo inserts begun store) (found : (store.insert key der).get other = some kept) :
    (inserts ++ [(key,der)]).reverse.lookup other = some kept := by
  rw [reverse_append,reverse_singleton,singleton_append]
  rcases get_insert found with ⟨rfl,rfl⟩ | ⟨different,earlier⟩
  · exact lookup_cons_self
  · rw [lookup_cons,beq_false_of_ne different]
    exact fifo.latest other kept earlier

theorem resident (fifo : Fifo inserts begun store) (found : key ∈ store.map) :
    Fifo (inserts ++ [(key,der)]) begun (store.insert key der) := by
  have kept : store.insert key der = {store with map := store.map.insert key der} := if_pos found
  refine ⟨?_,?_,?_,fun _ _ => fifo.latest_insert⟩ <;> rw [kept]
  · exact fifo.nodup
  · intro other
    rw [fifo.keys,AList.mem_insert]
    exact ⟨.inr,fun either => either.elim (fun same => same ▸ found) id⟩
  · exact fifo.last

theorem admitted (fifo : Fifo inserts begun store) (absent : key ∉ store.map) :
    Fifo (inserts ++ [(key,der)]) (begun ++ [key]) (store.insert key der) := by
  have put : store.insert key der = SessionStore.evict (store.map.insert key der) (store.order ++ [key]) := if_neg absent
  have fresh : key ∉ store.order := absent ∘ (fifo.keys key).mp
  have bound := fifo.bound
  have later := rtake_snoc (by decide : 0 < MAX_CACHED_SESSIONS) key begun
  rw [← fifo.last] at later
  have queued : (store.order ++ [key]).Nodup := concat_eq_append ▸ fifo.nodup.concat fresh
  have inserted : ∀ other, other ∈ store.order ++ [key] ↔ other ∈ store.map.insert key der := by
    intro other
    rw [mem_append,fifo.keys,AList.mem_insert,mem_singleton,or_comm]
  rcases Nat.lt_or_eq_of_le bound with room | full
  · rw [if_pos room] at later
    have whole : store.insert key der = ⟨store.map.insert key der,store.order ++ [key]⟩ :=
      put.trans (evict_fits (length_append ▸ room))
    refine ⟨?_,?_,?_,fun _ _ => fifo.latest_insert⟩ <;> rw [whole]
    · exact queued
    · exact inserted
    · exact later.symm
  · rw [if_neg (by omega)] at later
    obtain ⟨first,order,rest⟩ := exists_cons_of_length_eq_add_one full
    rw [rest] at put queued inserted later full
    have whole := put.trans (evict_full full)
    refine ⟨?_,?_,?_,fun _ _ => fifo.latest_insert⟩ <;> rw [whole]
    · exact (nodup_cons.mp queued).2
    · intro other
      rw [AList.mem_erase,← inserted,cons_append,mem_cons]
      have gone : first ∉ order ++ [key] := (nodup_cons.mp queued).1
      exact ⟨fun present => ⟨fun same => gone (same ▸ present),.inr present⟩,fun kept => kept.2.resolve_left kept.1⟩
    · exact later.symm

end Fifo

theorem run_store (inserts : List (String × T)) :
    (inserts.foldl beginning (.empty,[])).1 = SessionStore.insertAll inserts := by
  induction inserts using reverseRecOn with
  | nil => rfl
  | append_singleton inserts entry ih =>
    rw [SessionStore.insertAll,foldl_append,foldl_append,foldl_cons,beginning,ih]
    rfl

theorem fifo_insertAll (inserts : List (String × T)) :
    Fifo inserts (beginnings inserts) (SessionStore.insertAll inserts) := by
  rw [beginnings,← run_store]
  induction inserts using reverseRecOn with
  | nil => exact .empty
  | append_singleton inserts entry ih =>
    rw [foldl_append,foldl_cons,foldl_nil,beginning]
    split_ifs with found
    · exact ih.resident found
    · exact ih.admitted found

theorem store_fifo (inserts : List (String × T)) :
    let store : SessionStore T := SessionStore.insertAll inserts
    store.order.Nodup ∧ (∀ key, key ∈ store.order ↔ key ∈ store.map) ∧ store.order.length ≤ 256 ∧
      store.order = (beginnings inserts).rtake 256 ∧
      ∀ key, store.get key = if key ∈ store.order then inserts.reverse.lookup key else none := by
  have fifo := fifo_insertAll inserts
  refine ⟨fifo.nodup,fifo.keys,fifo.bound,fifo.last,fun key => ?_⟩
  split_ifs with retained
  · obtain ⟨der,found⟩ := Option.isSome_iff_exists.mp (AList.lookup_isSome.mpr ((fifo.keys key).mp retained))
    exact found.trans (fifo.latest key der found).symm
  · exact AList.lookup_eq_none.mpr (retained ∘ (fifo.keys key).mpr)

end Scg.Tls
