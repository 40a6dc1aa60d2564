import Scg.Policy.CacheEviction
import Scg.Library.Transition

namespace Scg.Policy
open Net Transition List

structure Call where
  now : Instant
  src : SocketAddr
  dst : SocketAddr

def Call.key (call : Call) : CacheKey := ⟨call.src,call.dst⟩

structure Classifier where
  analyzer : TrafficAnalyzer
  cache : TrafficCache

def Classifier.new (std : Std) (rules : List TrafficRuleConfig) (maxEntries ttlSecs : Nat) : Classifier :=
  ⟨.new std rules,.new maxEntries ttlSecs⟩

def Classifier.classify (s : Classifier) (call : Call) : Classifier :=
  let (_,analyzer,cache) := s.analyzer.classify s.cache call.now call.src call.dst
  ⟨analyzer,cache⟩

def classifying (std : Std) (rules : List TrafficRuleConfig) (maxEntries ttlSecs : Nat) : System Classifier Call where
  initial s := s = .new std rules maxEntries ttlSecs
  step s call := some (s.classify call)

variable {s : Classifier} {maxEntries ttlSecs : Nat} {std : Std} {rules : List TrafficRuleConfig}

def Unexpired (s : Classifier) (call : Call) : Prop :=
  ∀ entry, s.cache.map.lookup call.key = some entry → call.now-entry.insertedAt < s.cache.ttl

theorem get_expired {cache : TrafficCache}
    (missed : cache.get now key = none) (held : cache.map.lookup key = some entry) : ¬ now-entry.insertedAt < cache.ttl := by
  intro good
  simp [TrafficCache.get,held,good] at missed

structure Compact (maxEntries : Nat) (cache : TrafficCache) : Prop where
  capacity : cache.maxEntries = maxEntries
  covered : cache.lazy.Covered
  small : cache.map.entries.length ≤ max maxEntries 1
  short : cache.order.length ≤ cache.map.entries.length

theorem insert_compact (compact : Compact maxEntries cache) (new : key ∉ cache.map)
    (now : Instant) (id : UInt64) (appId : String) (trafficClass : TrafficClass) :
    Compact maxEntries (cache.insert now key id appId trafficClass) := by
  have lazy : (cache.insert now key id appId trafficClass).lazy = _ := insert_lazy now id appId trafficClass
  refine ⟨compact.capacity,?_,?_,?_⟩
  · rw [lazy]
    exact LazyQueue.insert_covered compact.covered
  · rw [← compact.capacity]
    exact insert_small compact.covered (compact.capacity ▸ compact.small) now id appId trafficClass
  · have absent : key ∉ cache.lazy.table := by rwa [TrafficCache.lazy,Tables.mem_column]
    have shorter : (cache.lazy.insert cache.maxEntries key now).queue.length+_ ≤ _ := LazyQueue.insert_surplus absent
    have short := compact.short
    rw [← lazy,length_lazy,length_lazy] at shorter
    change (cache.insert now key id appId trafficClass).order.length+_ ≤ cache.order.length+_ at shorter
    omega

theorem classify_compact (compact : Compact maxEntries s.cache) (fresh : Unexpired s call) :
    Compact maxEntries (s.classify call).cache := by
  unfold Classifier.classify
  rcases classify_cases s.analyzer s.cache call.now call.src call.dst with
    ⟨entry,stored,answer⟩ | ⟨rule,first,missed,answer⟩ | ⟨first,answer⟩
  · rwa [answer]
  · rw [answer]
    apply insert_compact compact
    rw [← AList.lookup_eq_none,Option.eq_none_iff_forall_ne_some]
    intro entry held
    exact get_expired missed held (fresh entry held)
  · rwa [answer]

theorem new_compact (maxEntries ttlSecs : Nat) : Compact maxEntries (.new maxEntries ttlSecs) :=
  ⟨rfl,(new_tracks maxEntries ttlSecs).covered,Nat.zero_le _,le_refl _⟩

-- As long as no call renews an entry, the queue holds one record for each entry at most.
theorem queue_bounded (path : ReachedWhen (classifying std rules maxEntries ttlSecs) Unexpired s) :
    s.cache.order.length ≤ max maxEntries 1 := by
  have compact : Compact maxEntries s.cache := by
    refine ReachedWhen.invariant (I := fun s => Compact maxEntries s.cache) ?_ ?_ path
    · intro s begun
      subst begun
      exact new_compact maxEntries ttlSecs
    · intro s call next compact fresh ran
      cases ran
      exact classify_compact compact fresh
  exact compact.short.trans compact.small

def unexpired (s : Classifier) (call : Call) : Bool :=
  (s.cache.map.lookup call.key).all fun entry => call.now-entry.insertedAt < s.cache.ttl

theorem unexpired_sound (s : Classifier) (call : Call) (checked : unexpired s call = true) : Unexpired s call := by
  intro entry held
  simpa [unexpired,held] using checked

theorem queue_bounded_return : ∃ s, ReachedWhen (classifying .ipv4 [⟨"any","any","app",.safety⟩] 1 300) Unexpired s ∧
    s.cache.order.length = 1 ∧ s.cache.order.length ≤ max 1 1 := by
  have ran : (runChecked (classifying .ipv4 [⟨"any","any","app",.safety⟩] 1 300) unexpired
      (.new .ipv4 [⟨"any","any","app",.safety⟩] 1 300) [⟨0,.v4 1 1,.v4 2 2⟩,⟨7,.v4 1 1,.v4 2 2⟩]).map
      (·.cache.order.length) = some 1 := rfl
  obtain ⟨s,path,shown⟩ := runChecked_shows unexpired_sound ran rfl
  exact ⟨s,path,shown,queue_bounded path⟩

def everyTtl (ttl : Nat) (src dst : SocketAddr) (n : Nat) : List Call := (List.range n).map fun i => ⟨i*ttl,src,dst⟩

theorem everyTtl_clock (ttl : Nat) (src dst : SocketAddr) (n : Nat) :
    ((everyTtl ttl src dst n).map (·.now)).Pairwise (· ≤ ·) := by
  rw [everyTtl,map_map,pairwise_map]
  exact pairwise_lt_range.imp fun earlier => Nat.mul_le_mul_right ttl (Nat.le_of_lt earlier)

structure Renewed (ttl : Nat) (src dst : SocketAddr) (n : Nat) (s : Classifier) : Prop where
  length : s.cache.order.length = n
  held : n ≠ 0 → ⟨src,dst⟩ ∈ s.cache.map
  age : ∀ entry, s.cache.map.lookup ⟨src,dst⟩ = some entry → entry.insertedAt+ttl ≤ n*ttl
  limit : s.cache.ttl = ttl
  matched : ∃ rule, s.analyzer.firstMatch src dst = some rule

theorem classify_renews (renewed : Renewed ttl src dst n s) :
    Renewed ttl src dst (n+1) (s.classify ⟨n*ttl,src,dst⟩) := by
  obtain ⟨rule,first⟩ := renewed.matched
  have missed : s.cache.get (n*ttl) ⟨src,dst⟩ = none := by
    unfold TrafficCache.get
    split
    · rename_i entry found
      have age := renewed.age entry found
      have old := Nat.le_sub_of_add_le' age
      rw [renewed.limit,if_neg (Nat.not_lt.mpr old)]
    · rfl
  have ran : s.classify ⟨n*ttl,src,dst⟩ = ⟨{s.analyzer with nextId := s.analyzer.nextId+1},
      s.cache.insert (n*ttl) ⟨src,dst⟩ s.analyzer.nextId rule.appId rule.trafficClass⟩ := by
    simp only [Classifier.classify,TrafficAnalyzer.classify,missed,first]
  rw [ran]
  refine ⟨?_,?_,?_,renewed.limit,⟨rule,first⟩⟩
  · -- A held key is replaced without a look at the queue; before the first call the queue is empty.
    unfold TrafficCache.insert
    by_cases held : (⟨src,dst⟩ : CacheKey) ∈ s.cache.map
    · simp only [if_pos held,length_append,length_singleton,renewed.length]
    · have none : n = 0 := by
        by_contra later
        exact held (renewed.held later)
      have empty : s.cache.order = [] := length_eq_zero_iff.mp (renewed.length.trans none)
      simp only [if_neg held,empty,TrafficCache.evict,nil_append,length_singleton,none]
  · intro _
    exact (AList.mem_insert _).mpr (.inl rfl)
  · intro entry found
    rw [TrafficCache.insert,AList.lookup_insert] at found
    cases found
    rw [Nat.succ_mul]

theorem everyTtl_run (n : Nat) (begun : Renewed ttl src dst 0 s) :
    ∃ after, run (classifying std rules maxEntries ttlSecs) s (everyTtl ttl src dst n) = some after ∧
      Renewed ttl src dst n after := by
  induction n with
  | zero => exact ⟨s,rfl,begun⟩
  | succ n ih =>
    obtain ⟨after,ran,renewed⟩ := ih
    refine ⟨after.classify ⟨n*ttl,src,dst⟩,?_,classify_renews renewed⟩
    have longer : everyTtl ttl src dst (n+1) = everyTtl ttl src dst n ++ [⟨n*ttl,src,dst⟩] := by
      simp [everyTtl,range_succ]
    rw [longer,run_append,ran]
    rfl

theorem new_renewed (matched : ∃ rule, (TrafficAnalyzer.new std rules).firstMatch src dst = some rule) :
    Renewed (ttlSecs*10^9) src dst 0 (.new std rules maxEntries ttlSecs) := by
  refine ⟨rfl,fun later => absurd rfl later,?_,rfl,matched⟩
  intro entry found
  cases found

-- One rule for all traffic, one flow, and a call every five minutes: no bound holds.
theorem queue_unbounded : ¬ ∃ bound : Nat → Nat, ∀ std rules maxEntries ttlSecs calls after,
    (calls.map (·.now)).Pairwise (· ≤ ·) →
    run (classifying std rules maxEntries ttlSecs) (.new std rules maxEntries ttlSecs) calls = some after →
    after.cache.order.length ≤ bound maxEntries := by
  rintro ⟨bound,holds⟩
  have begun : Renewed (300*10^9) (.v4 1 1) (.v4 2 2) 0 (.new .ipv4 [⟨"any","any","app",.safety⟩] 1 300) :=
    new_renewed ⟨_,rfl⟩
  obtain ⟨after,ran,renewed⟩ := everyTtl_run (bound 1+1) begun
  have within := holds .ipv4 _ 1 300 _ after (everyTtl_clock _ _ _ _) ran
  rw [renewed.length] at within
  omega

end Scg.Policy
