import Mathlib.Data.List.AList
import Scg.Net.Address

namespace Scg.Policy
open Net

inductive TrafficClass where
  | normal | safety
  deriving DecidableEq,Repr

inductive PolicyAction where
  | allow | deny
  deriving DecidableEq,Repr

structure WhitelistEntry where
  source : String
  destination : String
  deriving DecidableEq

structure PolicyConfig where
  defaultAction : PolicyAction
  whitelist : List WhitelistEntry
  enforcePolicyOnSafety : Bool
  deriving DecidableEq

structure CompiledWhitelistEntry where
  source : AddressPattern
  destination : AddressPattern
  deriving DecidableEq

structure PolicyManager where
  defaultAction : PolicyAction
  entries : List CompiledWhitelistEntry
  enforcePolicyOnSafety : Bool
  deriving DecidableEq

-- Both compilers drop an entry whose source or destination does not parse.
def compilePair (std : Std) (source destination : String) : Option (AddressPattern × AddressPattern) :=
  match AddressPattern.parse std source,AddressPattern.parse std destination with
  | .ok source,.ok destination => some (source,destination)
  | _,_ => none

namespace PolicyManager

def new (std : Std) : Option PolicyConfig → PolicyManager
  | some cfg =>
    {defaultAction := cfg.defaultAction
     entries := cfg.whitelist.filterMap fun entry =>
       (compilePair std entry.source entry.destination).map fun (source,destination) => ⟨source,destination⟩
     enforcePolicyOnSafety := cfg.enforcePolicyOnSafety}
  | none => {defaultAction := .deny,entries := [],enforcePolicyOnSafety := false}

def checkAllowed (pm : PolicyManager) (src dst : SocketAddr) (trafficClass : TrafficClass) : Bool :=
  if trafficClass = .safety && !pm.enforcePolicyOnSafety then true
  else if pm.entries.isEmpty then pm.defaultAction == .allow
  else if pm.entries.any fun entry => entry.source.matchesAddr src && entry.destination.matchesAddr dst then true
  else pm.defaultAction == .allow

-- For a caller identified out of band only the destination is matched.
def checkAllowedDestination (pm : PolicyManager) (dst : SocketAddr) (trafficClass : TrafficClass) : Bool :=
  if trafficClass = .safety && !pm.enforcePolicyOnSafety then true
  else if pm.entries.isEmpty then pm.defaultAction == .allow
  else if pm.entries.any fun entry => entry.destination.matchesAddr dst then true
  else pm.defaultAction == .allow

def reload (std : Std) (pm : PolicyManager) (config : Option PolicyConfig) : PolicyManager :=
  let fresh := new std config
  {pm with
    defaultAction := fresh.defaultAction
    entries := fresh.entries
    enforcePolicyOnSafety := fresh.enforcePolicyOnSafety}

@[simp] theorem reload_eq (std : Std) (pm : PolicyManager) (config : Option PolicyConfig) :
    pm.reload std config = new std config := rfl

end PolicyManager

structure CacheKey where
  src : SocketAddr
  dst : SocketAddr
  deriving DecidableEq

-- Instants and durations are in nanoseconds of one monotonic clock.
abbrev Instant := Nat

structure CacheEntry where
  trafficId : UInt64
  appId : String
  trafficClass : TrafficClass
  insertedAt : Instant
  deriving DecidableEq

structure TrafficCache where
  map : AList fun _ : CacheKey => CacheEntry
  order : List (CacheKey × Instant)
  maxEntries : Nat
  ttl : Nat

namespace TrafficCache

def new (maxEntries ttlSecs : Nat) : TrafficCache :=
  {map := ∅,order := [],maxEntries := maxEntries,ttl := ttlSecs*10^9}

def get (cache : TrafficCache) (now : Instant) (key : CacheKey) : Option CacheEntry :=
  match cache.map.lookup key with
  | some entry => if now-entry.insertedAt < cache.ttl then some entry else none
  | none => none

-- A queue record that a later insert of its key superseded is skipped.
def evict (maxEntries : Nat) (map : AList fun _ : CacheKey => CacheEntry) :
    List (CacheKey × Instant) → (AList fun _ : CacheKey => CacheEntry) × List (CacheKey × Instant)
  | [] => (map,[])
  | (key,queuedAt) :: rest =>
    if map.entries.length ≥ maxEntries then
      if (map.lookup key).map (·.insertedAt) = some queuedAt then evict maxEntries (map.erase key) rest
      else evict maxEntries map rest
    else (map,(key,queuedAt) :: rest)

def insert (cache : TrafficCache) (now : Instant) (key : CacheKey) (trafficId : UInt64) (appId : String)
    (trafficClass : TrafficClass) : TrafficCache :=
  let (map,order) :=
    if key ∈ cache.map then (cache.map,cache.order) else evict cache.maxEntries cache.map cache.order
  {cache with map := map.insert key ⟨trafficId,appId,trafficClass,now⟩,order := order ++ [(key,now)]}

def clear (cache : TrafficCache) : TrafficCache := {cache with map := ∅,order := []}

end TrafficCache

structure TrafficRuleConfig where
  source : String
  destination : String
  appId : String
  trafficClass : TrafficClass
  deriving DecidableEq

structure CompiledTrafficRule where
  source : AddressPattern
  destination : AddressPattern
  appId : String
  trafficClass : TrafficClass
  deriving DecidableEq

-- The analyzer's own part; the cache is shared and passed beside it.
structure TrafficAnalyzer where
  compiledRules : List CompiledTrafficRule
  nextId : UInt64
  deriving DecidableEq

structure ClassificationResult where
  trafficId : UInt64
  appId : String
  trafficClass : TrafficClass
  deriving DecidableEq

namespace TrafficAnalyzer

def new (std : Std) (rules : List TrafficRuleConfig) : TrafficAnalyzer :=
  {compiledRules := rules.filterMap fun r =>
     (compilePair std r.source r.destination).map fun (source,destination) =>
       ⟨source,destination,r.appId,r.trafficClass⟩
   nextId := 1}

def firstMatch (analyzer : TrafficAnalyzer) (src dst : SocketAddr) : Option CompiledTrafficRule :=
  analyzer.compiledRules.find? fun rule => rule.source.matchesAddr src && rule.destination.matchesAddr dst

def classify (analyzer : TrafficAnalyzer) (cache : TrafficCache) (now : Instant) (src dst : SocketAddr) :
    Option ClassificationResult × TrafficAnalyzer × TrafficCache :=
  match cache.get now ⟨src,dst⟩ with
  | some entry => (some ⟨entry.trafficId,entry.appId,entry.trafficClass⟩,analyzer,cache)
  | none =>
    match analyzer.firstMatch src dst with
    | some rule =>
      (some ⟨analyzer.nextId,rule.appId,rule.trafficClass⟩,{analyzer with nextId := analyzer.nextId+1},
        cache.insert now ⟨src,dst⟩ analyzer.nextId rule.appId rule.trafficClass)
    | none => (none,analyzer,cache)

end TrafficAnalyzer

-- What every rule shares and reads at each check. Other rules classify through the
-- same cache, and a reload replaces the policy, between any two checks of one rule.
structure Gate where
  cache : TrafficCache
  analyzer : Option TrafficAnalyzer
  policyManager : Option PolicyManager

namespace Gate

def classOf (gate : Gate) (now : Instant) (fallback : TrafficClass) (src dst : SocketAddr) :
    TrafficClass × Gate :=
  match gate.analyzer with
  | none => (fallback,gate)
  | some analyzer =>
    let (result,analyzer,cache) := analyzer.classify gate.cache now src dst
    ((result.map (·.trafficClass)).getD fallback,{gate with cache := cache,analyzer := some analyzer})

-- `RuleContext::classify_and_check_policy`; `fallback` is the rule's own class.
def classifyAndCheckPolicy (gate : Gate) (now : Instant) (fallback : TrafficClass) (src dst : SocketAddr) :
    Bool × Gate :=
  let (trafficClass,gate) := gate.classOf now fallback src dst
  match gate.policyManager with
  | some pm => (pm.checkAllowed src dst trafficClass,gate)
  | none => (true,gate)

end Gate

end Scg.Policy
