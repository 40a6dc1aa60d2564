import Scg.Policy.Classification
import Scg.Library.LazyQueue

namespace Scg.Policy
open Net List AList

variable {cache : TrafficCache}
def TrafficCache.lazy (cache : TrafficCache) : LazyQueue CacheKey Instant :=
  ⟨Tables.column (·.insertedAt) cache.map,cache.order⟩

theorem evict_lazy (maxEntries : Nat) (map : AList fun _ : CacheKey => CacheEntry) (order : List (CacheKey × Instant)) :
    LazyQueue.evict maxEntries (Tables.column (·.insertedAt) map) order =
      ⟨Tables.column (·.insertedAt) (TrafficCache.evict maxEntries map order).1,(TrafficCache.evict maxEntries map order).2⟩ := by
  induction order generalizing map with
  | nil => rfl
  | cons record rest ih =>
    simp only [LazyQueue.evict,TrafficCache.evict,Tables.length_column,Tables.lookup_column]
    split
    · split
      · rw [← Tables.column_erase,ih]
      · exact ih map
    · rfl

theorem insert_lazy (now : Instant) (id : UInt64) (appId : String) (trafficClass : TrafficClass) :
    (cache.insert now key id appId trafficClass).lazy = cache.lazy.insert cache.maxEntries key now := by
  unfold TrafficCache.insert LazyQueue.insert TrafficCache.lazy
  simp only [Tables.column_insert,Tables.mem_column,evict_lazy]
  split <;> rfl

theorem clear_lazy : cache.clear.lazy = ⟨∅,[]⟩ := rfl

theorem lookup_lazy (found : cache.map.lookup key = some entry) : cache.lazy.table.lookup key = some entry.insertedAt := by
  rw [TrafficCache.lazy,Tables.lookup_column,found]
  rfl

theorem length_lazy : cache.lazy.table.entries.length = cache.map.entries.length := Tables.length_column

inductive CacheOp where
  | insert (now : Instant) (key : CacheKey) (trafficId : UInt64) (appId : String) (trafficClass : TrafficClass)
  | get (now : Instant) (key : CacheKey)
  | clear

namespace CacheOp

def perform (cache : TrafficCache) : CacheOp → TrafficCache
  | .insert now key trafficId appId trafficClass => cache.insert now key trafficId appId trafficClass
  | .get _ _ => cache
  | .clear => cache.clear

def instant? : CacheOp → Option Instant
  | .insert now .. | .get now _ => some now
  | .clear => none

def record? : CacheOp → Option (CacheKey × Instant)
  | .insert now key .. => some (key,now)
  | _ => none

end CacheOp

def insertions (ops : List CacheOp) : List (CacheKey × Instant) := ops.filterMap (·.record?)

def latest (ops : List CacheOp) (key : CacheKey) : Option Instant :=
  (((insertions ops).filter (·.1 = key)).getLast?).map (·.2)

def TrafficCache.after (cache : TrafficCache) (ops : List CacheOp) : TrafficCache := ops.foldl CacheOp.perform cache

-- What holds of the cache after any operations, in whatever order its clock reads.
structure Tracks (maxEntries : Nat) (ops : List CacheOp) (cache : TrafficCache) : Prop where
  capacity : cache.maxEntries = maxEntries
  covered : cache.lazy.Covered
  small : cache.map.entries.length ≤ max maxEntries 1
  ordered : cache.order.Sublist (insertions ops)
  current : ∀ key entry, cache.map.lookup key = some entry → latest ops key = some entry.insertedAt

theorem new_tracks (maxEntries ttlSecs : Nat) : Tracks maxEntries [] (.new maxEntries ttlSecs) := by
  refine ⟨rfl,?_,Nat.zero_le _,List.Sublist.refl _,?_⟩
  · intro key stamp found
    cases found
  · intro key entry found
    cases found

theorem insertions_append (ops : List CacheOp) (op : CacheOp) :
    insertions (ops ++ [op]) = insertions ops ++ op.record?.toList := by
  cases found : op.record? <;> simp [insertions,found]

theorem latest_insert {id : UInt64} :
    latest (ops ++ [.insert now key id appId trafficClass]) other = if key = other then some now else latest ops other := by
  rw [latest,insertions_append]
  by_cases same : key = other
  · simp [CacheOp.record?,same]
  · simp [CacheOp.record?,same,latest]

theorem latest_other (silent : op.record? = none) : latest (ops ++ [op]) key = latest ops key := by
  rw [latest,insertions_append,silent,Option.toList_none,append_nil]
  rfl

theorem insert_small (covered : cache.lazy.Covered) (small : cache.map.entries.length ≤ max cache.maxEntries 1)
    (now : Instant) (id : UInt64) (appId : String) (trafficClass : TrafficClass) :
    (cache.insert now key id appId trafficClass).map.entries.length ≤ max cache.maxEntries 1 := by
  have counted : (cache.lazy.insert cache.maxEntries key now).table.entries.length = _ := LazyQueue.insert_length covered
  rw [← insert_lazy now id appId trafficClass,length_lazy,length_lazy] at counted
  rw [counted]
  split
  · exact small
  · omega

theorem perform_tracks (tracks : Tracks maxEntries ops cache) : Tracks maxEntries (ops ++ [op]) (op.perform cache) := by
  cases op with
  | insert now key id appId trafficClass =>
    refine ⟨tracks.capacity,?_,?_,?_,?_⟩
    · change (cache.insert now key id appId trafficClass).lazy.Covered
      rw [insert_lazy]
      exact LazyQueue.insert_covered tracks.covered
    · rw [← tracks.capacity]
      exact insert_small tracks.covered (tracks.capacity ▸ tracks.small) now id appId trafficClass
    · have longer : (cache.insert now key id appId trafficClass).lazy.queue.Sublist _ :=
        insert_lazy now id appId trafficClass ▸ LazyQueue.insert_sublist
      rw [insertions_append]
      exact longer.trans (tracks.ordered.append_right _)
    · intro other entry found
      rw [latest_insert]
      split
      · rename_i same
        subst same
        rw [CacheOp.perform,TrafficCache.insert,lookup_insert] at found
        cases found
        rfl
      · rename_i apart
        rcases insert_lookup found with ⟨same,_⟩ | old
        · exact absurd same.symm apart
        · exact tracks.current other entry old
  | get now key =>
    refine ⟨tracks.capacity,tracks.covered,tracks.small,?_,?_⟩
    · rw [insertions_append]
      simp only [CacheOp.record?,Option.toList_none,append_nil]
      exact tracks.ordered
    · intro other entry found
      rw [latest_other rfl]
      exact tracks.current other entry found
  | clear =>
    refine ⟨tracks.capacity,?_,Nat.zero_le _,nil_sublist _,?_⟩
    · intro key stamp found
      cases found
    · intro key entry found
      cases found

theorem after_append (cache : TrafficCache) (ops : List CacheOp) (op : CacheOp) :
    cache.after (ops ++ [op]) = op.perform (cache.after ops) := by
  rw [TrafficCache.after,foldl_append]
  rfl

theorem after_tracks (maxEntries ttlSecs : Nat) (ops : List CacheOp) :
    Tracks maxEntries ops ((TrafficCache.new maxEntries ttlSecs).after ops) := by
  induction ops using reverseRecOn with
  | nil => exact new_tracks maxEntries ttlSecs
  | append_singleton ops op ih =>
    rw [after_append]
    exact perform_tracks ih

theorem insertions_increase (clock : (ops.filterMap (·.instant?)).Pairwise (· ≤ ·))
    (distinct : ((insertions ops).map (·.2)).Nodup) : (insertions ops).Pairwise fun a b => a.2 < b.2 := by
  have same : (insertions ops).map (·.2) = ops.filterMap fun op => op.record?.map (·.2) := map_filterMap
  have read : ((insertions ops).map (·.2)).Sublist (ops.filterMap (·.instant?)) := by
    clear clock distinct same
    induction ops with
    | nil => exact List.Sublist.refl _
    | cons op ops ih =>
      cases op with
      | insert now key id appId trafficClass => exact ih.cons_cons now
      | get now key => exact ih.cons now
      | clear => exact ih
  have forward := (clock.sublist read).and distinct
  rw [pairwise_map] at forward
  exact forward.imp fun both => lt_of_le_of_ne both.1 both.2

theorem insert_gone {id : UInt64} (held : cache.map.lookup other = some entry)
    (gone : (cache.insert now key id appId trafficClass).map.lookup other = none) :
    key ∉ cache.map ∧ (TrafficCache.evict cache.maxEntries cache.map cache.order).1.lookup other = none := by
  unfold TrafficCache.insert at gone
  by_cases same : other = key
  · subst same
    rw [lookup_insert] at gone
    cases gone
  · rw [lookup_insert_ne same] at gone
    split at gone
    · rw [held] at gone
      cases gone
    · rename_i new
      exact ⟨new,gone⟩

theorem insert_kept {id : UInt64} (new : key ∉ cache.map) (held : cache.map.lookup other = some entry)
    (kept : (cache.insert now key id appId trafficClass).map.lookup other = some entry) :
    (TrafficCache.evict cache.maxEntries cache.map cache.order).1.lookup other = some entry := by
  have apart : other ≠ key := by
    intro same
    subst same
    rw [lookup_eq_none.mpr new] at held
    cases held
  rwa [TrafficCache.insert,lookup_insert_ne apart,if_neg new] at kept

theorem insert_oldest {id : UInt64}
    (covered : cache.lazy.Covered) (sorted : cache.order.Pairwise fun a b => a.2 < b.2)
    (held : cache.map.lookup key = some entry)
    (gone : (cache.insert now other id appId trafficClass).map.lookup key = none)
    (also : cache.map.lookup rest = some newer)
    (kept : (cache.insert now other id appId trafficClass).map.lookup rest = some newer) :
    entry.insertedAt < newer.insertedAt := by
  obtain ⟨new,evicted⟩ := insert_gone held gone
  have stays := insert_kept new also kept
  have out : (LazyQueue.evict cache.maxEntries cache.lazy.table cache.lazy.queue).table.lookup key = none := by
    rw [TrafficCache.lazy,evict_lazy,Tables.lookup_column,evicted]
    rfl
  have still : (LazyQueue.evict cache.maxEntries cache.lazy.table cache.lazy.queue).table.lookup rest =
      some newer.insertedAt := by
    rw [TrafficCache.lazy,evict_lazy,Tables.lookup_column,stays]
    rfl
  exact LazyQueue.evict_oldest covered sorted (lookup_lazy held) out still

structure OldestFirst (maxEntries : Nat) (ops : List CacheOp) (cache : TrafficCache) : Prop where
  bounded : cache.map.entries.length ≤ maxEntries
  recorded : ∀ key entry, cache.map.lookup key = some entry →
    (key,entry.insertedAt) ∈ cache.order ∧ latest ops key = some entry.insertedAt
  -- The loop of the next insert takes as many as it must and leaves room for the key.
  room : (TrafficCache.evict cache.maxEntries cache.map cache.order).1.entries.length < maxEntries
  least : (TrafficCache.evict cache.maxEntries cache.map cache.order).1.entries.length =
    min cache.map.entries.length (maxEntries-1)
  oldest : ((insertions ops).map (·.2)).Nodup → ∀ now key id appId trafficClass gone kept old newer,
    cache.map.lookup gone = some old → (cache.insert now key id appId trafficClass).map.lookup gone = none →
    cache.map.lookup kept = some newer → (cache.insert now key id appId trafficClass).map.lookup kept = some newer →
    old.insertedAt < newer.insertedAt

theorem evict_least (tracks : Tracks maxEntries ops cache) :
    (TrafficCache.evict cache.maxEntries cache.map cache.order).1.entries.length =
      min cache.map.entries.length (maxEntries-1) := by
  have counted : (LazyQueue.evict cache.maxEntries cache.lazy.table cache.lazy.queue).table.entries.length = _ :=
    LazyQueue.evict_length tracks.covered
  rw [TrafficCache.lazy,evict_lazy,Tables.length_column,Tables.length_column] at counted
  rwa [← tracks.capacity]

theorem cache_oldest_first (maxEntries ttlSecs : Nat) (positive : 1 ≤ maxEntries) (ops : List CacheOp)
    (clock : (ops.filterMap (·.instant?)).Pairwise (· ≤ ·)) :
    OldestFirst maxEntries ops ((TrafficCache.new maxEntries ttlSecs).after ops) := by
  have tracks := after_tracks maxEntries ttlSecs ops
  have least := evict_least tracks
  refine ⟨?_,?_,?_,least,?_⟩
  · have small := tracks.small
    omega
  · intro key entry found
    exact ⟨tracks.covered key _ (lookup_lazy found),tracks.current key entry found⟩
  · rw [least]
    omega
  · intro distinct now key id appId trafficClass gone kept old newer held out also still
    have sorted := (insertions_increase clock distinct).sublist tracks.ordered
    exact insert_oldest tracks.covered sorted held out also still

theorem cache_oldest_first_pair : 1 ≤ 1 ∧
    OldestFirst 1 [.insert 3 ⟨.v4 1 1,.v4 2 2⟩ 1 "a" .safety,.insert 5 ⟨.v4 3 3,.v4 2 2⟩ 2 "b" .safety]
      ((TrafficCache.new 1 60).after
        [.insert 3 ⟨.v4 1 1,.v4 2 2⟩ 1 "a" .safety,.insert 5 ⟨.v4 3 3,.v4 2 2⟩ 2 "b" .safety]) :=
  ⟨le_refl _,cache_oldest_first 1 60 (le_refl _) _ (by decide)⟩

end Scg.Policy
