import Scg.Policy.Decision

namespace Scg.Policy
open Net AList

variable {cache : TrafficCache}
theorem evict_lookup
    (found : (TrafficCache.evict maxEntries map order).1.lookup key = some entry) : map.lookup key = some entry := by
  induction order generalizing map with
  | nil => exact found
  | cons record rest ih =>
    obtain ⟨queued,queuedAt⟩ := record
    simp only [TrafficCache.evict] at found
    split at found
    · split at found
      · have kept := ih found
        by_cases same : key = queued
        · subst same
          rw [lookup_erase] at kept
          cases kept
        · rwa [lookup_erase_ne same] at kept
      · exact ih found
    · exact found

theorem insert_lookup {id : UInt64}
    (found : (cache.insert now other id appId trafficClass).map.lookup key = some entry) :
    key = other ∧ entry = ⟨id,appId,trafficClass,now⟩ ∨ cache.map.lookup key = some entry := by
  by_cases same : key = other
  · subst same
    simp only [TrafficCache.insert,lookup_insert,Option.some.injEq] at found
    exact .inl ⟨rfl,found.symm⟩
  · simp only [TrafficCache.insert,lookup_insert_ne same] at found
    split at found
    · exact .inr found
    · exact .inr (evict_lookup found)

-- What traffic is classified as; the traffic id only tells two flows apart.
def CompiledTrafficRule.label (rule : CompiledTrafficRule) : String × TrafficClass := (rule.appId,rule.trafficClass)

def CacheEntry.label (entry : CacheEntry) : String × TrafficClass := (entry.appId,entry.trafficClass)

def ClassificationResult.label (result : ClassificationResult) : String × TrafficClass :=
  (result.appId,result.trafficClass)

def TrafficAnalyzer.labels (analyzer : TrafficAnalyzer) (src dst : SocketAddr) : Option (String × TrafficClass) :=
  (analyzer.firstMatch src dst).map (·.label)

def Faithful (cache : TrafficCache) (analyzer : TrafficAnalyzer) : Prop :=
  ∀ key entry, cache.map.lookup key = some entry → analyzer.labels key.src key.dst = some entry.label

theorem labels_rules {one two : TrafficAnalyzer} (same : one.compiledRules = two.compiledRules) :
    one.labels = two.labels := by
  unfold TrafficAnalyzer.labels TrafficAnalyzer.firstMatch
  rw [same]

theorem get_lookup (found : cache.get now key = some entry) : cache.map.lookup key = some entry := by
  unfold TrafficCache.get at found
  split at found
  · rename_i stored
    split at found <;> cases found
    exact stored
  · cases found

theorem classify_cases (analyzer : TrafficAnalyzer) (cache : TrafficCache) (now : Instant) (src dst : SocketAddr) :
    (∃ entry, cache.map.lookup ⟨src,dst⟩ = some entry ∧ analyzer.classify cache now src dst =
      (some ⟨entry.trafficId,entry.appId,entry.trafficClass⟩,analyzer,cache)) ∨
    (∃ rule, analyzer.firstMatch src dst = some rule ∧ cache.get now ⟨src,dst⟩ = none ∧ analyzer.classify cache now src dst =
      (some ⟨analyzer.nextId,rule.appId,rule.trafficClass⟩,{analyzer with nextId := analyzer.nextId+1},
        cache.insert now ⟨src,dst⟩ analyzer.nextId rule.appId rule.trafficClass)) ∨
    (analyzer.firstMatch src dst = none ∧ analyzer.classify cache now src dst = (none,analyzer,cache)) := by
  cases cached : cache.get now ⟨src,dst⟩ with
  | some entry => exact .inl ⟨entry,get_lookup cached,by simp [TrafficAnalyzer.classify,cached]⟩
  | none =>
    cases first : analyzer.firstMatch src dst with
    | some rule => exact .inr (.inl ⟨rule,rfl,rfl,by simp [TrafficAnalyzer.classify,cached,first]⟩)
    | none => exact .inr (.inr ⟨rfl,by simp [TrafficAnalyzer.classify,cached,first]⟩)

theorem classify_labels (faithful : Faithful cache analyzer) (now : Instant) (src dst : SocketAddr) :
    (analyzer.classify cache now src dst).1.map (·.label) = analyzer.labels src dst := by
  rcases classify_cases analyzer cache now src dst with ⟨entry,stored,answer⟩ | ⟨rule,first,_,answer⟩ | ⟨first,answer⟩
  · rw [answer,faithful _ _ stored]
    rfl
  · rw [answer,TrafficAnalyzer.labels,first]
    rfl
  · rw [answer,TrafficAnalyzer.labels,first]
    rfl

theorem classify_faithful (faithful : Faithful cache analyzer) (now : Instant) (src dst : SocketAddr) :
    Faithful (analyzer.classify cache now src dst).2.2 (analyzer.classify cache now src dst).2.1 ∧
      (analyzer.classify cache now src dst).2.1.compiledRules = analyzer.compiledRules := by
  rcases classify_cases analyzer cache now src dst with ⟨entry,stored,answer⟩ | ⟨rule,first,_,answer⟩ | ⟨first,answer⟩
  · rw [answer]
    exact ⟨faithful,rfl⟩
  · rw [answer]
    refine ⟨?_,rfl⟩
    intro key entry found
    change analyzer.labels key.src key.dst = some entry.label
    rcases insert_lookup found with ⟨rfl,rfl⟩ | old
    · simp only [TrafficAnalyzer.labels,first]
      rfl
    · exact faithful key entry old
  · rw [answer]
    exact ⟨faithful,rfl⟩

theorem new_faithful (maxEntries ttl : Nat) (analyzer : TrafficAnalyzer) :
    Faithful (.new maxEntries ttl) analyzer := by
  intro key entry found
  simp [TrafficCache.new] at found

theorem clear_faithful (cache : TrafficCache) (analyzer : TrafficAnalyzer) : Faithful cache.clear analyzer := by
  intro key entry found
  simp [TrafficCache.clear] at found

end Scg.Policy
