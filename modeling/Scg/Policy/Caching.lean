import Scg.Policy.Classification
import Scg.Library.Thread
import Scg.Library.Transition

namespace Scg.Policy.Caching
open Net Interaction Transition List

-- The points of a call that other calls can come between: the cache's lock, the clock, the counter.
inductive Request where
  | get (key : CacheKey)
  | fetchAdd
  | now
  | insert (now : Instant) (key : CacheKey) (trafficId : UInt64) (appId : String) (trafficClass : TrafficClass)

def Reply : Request → Type
  | .get _ => Option CacheEntry
  | .fetchAdd => UInt64
  | .now => Instant
  | .insert .. => Unit

abbrev Running := Program Request Reply (Option ClassificationResult)

-- `Instant::now()` stands before the write lock in `insert`.
def remember (src dst : SocketAddr) (rule : CompiledTrafficRule) : Running :=
  .request .fetchAdd fun (id : UInt64) => .request .now fun (now : Instant) =>
    .request (.insert now ⟨src,dst⟩ id rule.appId rule.trafficClass) fun _ =>
      .ret (some ⟨id,rule.appId,rule.trafficClass⟩)

def lookedUp (analyzer : TrafficAnalyzer) (src dst : SocketAddr) : Option CacheEntry → Running
  | some entry => .ret (some ⟨entry.trafficId,entry.appId,entry.trafficClass⟩)
  | none =>
    match analyzer.firstMatch src dst with
    | some rule => remember src dst rule
    | none => .ret none

def classify (analyzer : TrafficAnalyzer) (src dst : SocketAddr) : Running :=
  .request (.get ⟨src,dst⟩) (lookedUp analyzer src dst)

structure World where
  cache : TrafficCache
  nextId : UInt64
  clock : Instant

def World.act : (op : Request) → World → Reply op × World
  | .get key,w => (w.cache.get w.clock key,w)
  | .fetchAdd,w => (w.nextId,{w with nextId := w.nextId+1})
  | .now,w => (w.clock,w)
  | .insert now key id appId trafficClass,w => ((),{w with cache := w.cache.insert now key id appId trafficClass})

-- A call that nothing comes between, at one instant, is `TrafficAnalyzer.classify`.
theorem classify_alone (analyzer : TrafficAnalyzer) (cache : TrafficCache) (now : Instant) (src dst : SocketAddr) :
    (classify analyzer src dst).play (fun w op => World.act op w) (fun _ => ([] : List Empty)) ⟨cache,analyzer.nextId,now⟩ =
      let (result,later,filled) := analyzer.classify cache now src dst
      (result,[],⟨filled,later.nextId,now⟩) := by
  cases found : cache.get now ⟨src,dst⟩ with
  | some entry => simp [classify,lookedUp,TrafficAnalyzer.classify,Program.play,World.act,found]
  | none =>
    cases first : analyzer.firstMatch src dst with
    | some rule => simp [classify,lookedUp,remember,TrafficAnalyzer.classify,Program.play,World.act,found,first]
    | none => simp [classify,lookedUp,TrafficAnalyzer.classify,Program.play,World.act,found,first]

structure Call where
  src : SocketAddr
  dst : SocketAddr
  running : Running

structure Answer where
  src : SocketAddr
  dst : SocketAddr
  result : Option ClassificationResult

structure Machine where
  world : World
  calls : List Call
  answers : List Answer

-- Any number of calls, each of which may wait at each of its points; the clock stands
-- wherever the step finds it.
inductive Action where
  | call (src dst : SocketAddr)
  | advance (index : Nat) (clock : Instant)
  | clear

def Machine.advance (m : Machine) (index : Nat) (clock : Instant) (call : Call) : Machine :=
  match call.running with
  | .ret result => {m with calls := m.calls.eraseIdx index,answers := m.answers ++ [⟨call.src,call.dst,result⟩]}
  | .request op next =>
    let (reply,world) := World.act op {m.world with clock := clock}
    {m with world := world,calls := m.calls.set index {call with running := next reply}}

def step (analyzer : TrafficAnalyzer) (m : Machine) : Action → Option Machine
  | .call src dst => some {m with calls := m.calls ++ [⟨src,dst,classify analyzer src dst⟩]}
  | .advance index clock => (m.calls[index]?).map (m.advance index clock)
  | .clear => some {m with world := {m.world with cache := m.world.cache.clear}}

def caching (analyzer : TrafficAnalyzer) (maxEntries ttlSecs : Nat) : System Machine Action where
  initial m := ∃ clock, m = ⟨⟨.new maxEntries ttlSecs,analyzer.nextId,clock⟩,[],[]⟩
  step := step analyzer

variable {m : Machine}

-- One call among others that leave nothing in the cache the rules would not say.
def thread (analyzer : TrafficAnalyzer) : Thread Request Reply World where
  act := World.act
  rely _ after := Faithful after.cache analyzer
  promise _ after := Faithful after.cache analyzer
  scope _ := True

def Right (analyzer : TrafficAnalyzer) (src dst : SocketAddr) (result : Option ClassificationResult) : Prop :=
  result.map (·.label) = analyzer.labels src dst

theorem insert_faithful (faithful : Faithful cache analyzer)
    (first : analyzer.firstMatch src dst = some rule) (now : Instant) (id : UInt64) :
    Faithful (cache.insert now ⟨src,dst⟩ id rule.appId rule.trafficClass) analyzer := by
  intro key entry found
  rcases insert_lookup found with ⟨rfl,rfl⟩ | old
  · rw [TrafficAnalyzer.labels,first]
    rfl
  · exact faithful key entry old

theorem remember_ends (faithful : Faithful w.cache analyzer) (first : analyzer.firstMatch src dst = some rule) :
    (thread analyzer).Ends (fun result _ => Right analyzer src dst result) (remember src dst rule) w := by
  intro _
  refine ⟨faithful,fun counted kept _ => ⟨kept,fun timed still _ => ?_⟩⟩
  refine ⟨insert_faithful still first _ _,fun _ _ => ?_⟩
  change Right analyzer src dst (some _)
  rw [Right,TrafficAnalyzer.labels,first]
  rfl

theorem classify_ends (faithful : Faithful w.cache analyzer) :
    (thread analyzer).Ends (fun result _ => Right analyzer src dst result) (classify analyzer src dst) w := by
  intro _
  refine ⟨faithful,fun after kept => ?_⟩
  change (thread analyzer).Ends _ (lookedUp analyzer src dst (w.cache.get w.clock ⟨src,dst⟩)) after
  cases found : w.cache.get w.clock ⟨src,dst⟩ with
  | some entry => exact (faithful _ entry (get_lookup found)).symm
  | none =>
    unfold lookedUp
    cases first : analyzer.firstMatch src dst with
    | some rule => exact remember_ends kept first
    | none =>
      change Right analyzer src dst none
      rw [Right,TrafficAnalyzer.labels,first]
      rfl

theorem lookedUp_within (found : Option CacheEntry) : (lookedUp analyzer src dst found).Within 3 := by
  unfold lookedUp
  split
  · trivial
  · split
    · exact fun _ _ _ => trivial
    · trivial

structure Truthful (analyzer : TrafficAnalyzer) (m : Machine) : Prop where
  faithful : Faithful m.world.cache analyzer
  calls : ∀ call ∈ m.calls, call.running.Within 4 ∧
    (thread analyzer).Waits (fun result _ => Right analyzer call.src call.dst result) call.running m.world
  answers : ∀ answer ∈ m.answers, Right analyzer answer.src answer.dst answer.result

theorem advance_truthful (truthful : Truthful analyzer m)
    (present : call ∈ m.calls) : Truthful analyzer (m.advance index clock call) := by
  obtain ⟨short,waits⟩ := truthful.calls call present
  unfold Machine.advance
  split
  · rename_i result ends
    rw [ends] at waits
    refine ⟨truthful.faithful,fun other left => truthful.calls other (mem_of_mem_eraseIdx left),?_⟩
    exact forall_mem_append.mpr ⟨truthful.answers,forall_mem_singleton.mpr (waits.result truthful.faithful)⟩
  · rename_i op next asks
    rw [asks] at waits short
    have later : (thread analyzer).Waits _ (.request op next) {m.world with clock := clock} := waits
    have rest := later.request truthful.faithful trivial
    refine ⟨rest.1,?_,truthful.answers⟩
    intro other left
    rcases mem_or_eq_of_mem_set left with old | rfl
    · exact truthful.calls other old
    · exact ⟨(short _).weaken,rest.2⟩

theorem step_truthful {next : Machine} (truthful : Truthful analyzer m) (ran : step analyzer m action = some next) :
    Truthful analyzer next := by
  cases action with
  | call src dst =>
    cases ran
    refine ⟨truthful.faithful,?_,truthful.answers⟩
    exact forall_mem_append.mpr ⟨truthful.calls,
      forall_mem_singleton.mpr ⟨lookedUp_within,fun _ faithful => classify_ends faithful⟩⟩
  | advance index clock =>
    obtain ⟨call,found,rfl⟩ := Option.map_eq_some_iff.mp ran
    exact advance_truthful truthful (mem_of_getElem? found)
  | clear =>
    cases ran
    exact ⟨clear_faithful _ _,truthful.calls,truthful.answers⟩

-- Each call returns what the first rule that matches says, after at most four of its own steps.
theorem caching_transparent (std : Std) (rules : List TrafficRuleConfig) (maxEntries ttlSecs : Nat)
    (path : Reached (caching (.new std rules) maxEntries ttlSecs) m) :
    (∀ answer ∈ m.answers, answer.result.map (·.label) =
      ((TrafficAnalyzer.new std rules).firstMatch answer.src answer.dst).map (·.label)) ∧
    ∀ call ∈ m.calls, call.running.Within 4 := by
  have truthful : Truthful (.new std rules) m := by
    refine path.invariant ?_ ?_
    · rintro m ⟨clock,rfl⟩
      refine ⟨new_faithful maxEntries ttlSecs _,?_,?_⟩
      · intro call present
        cases present
      · intro answer given
        cases given
    · intro m action next truthful ran
      exact step_truthful truthful ran
  exact ⟨truthful.answers,fun call present => (truthful.calls call present).1⟩

-- Two calls for one flow that both miss, and a third that finds what they left.
theorem caching_transparent_race : ∃ m, Reached (caching (.new .ipv4 [⟨"any","any","app",.safety⟩]) 1 300) m ∧
    m.answers.length = 3 ∧
    (∀ answer ∈ m.answers, answer.result.map (·.label) =
      ((TrafficAnalyzer.new .ipv4 [⟨"any","any","app",.safety⟩]).firstMatch answer.src answer.dst).map (·.label)) ∧
    ∀ call ∈ m.calls, call.running.Within 4 := by
  have ran : (run (caching (.new .ipv4 [⟨"any","any","app",.safety⟩]) 1 300)
      ⟨⟨.new 1 300,1,0⟩,[],[]⟩ [.call (.v4 1 1) (.v4 2 2),.call (.v4 1 1) (.v4 2 2),.advance 0 3,.advance 1 4,
        .advance 1 5,.advance 0 6,.advance 0 7,.advance 1 8,.advance 1 9,.advance 0 10,.advance 0 11,.advance 0 11,
        .call (.v4 1 1) (.v4 2 2),.advance 0 12,.advance 0 12]).map (·.answers.length) = some 3 := rfl
  obtain ⟨m,path,told⟩ := run_shows ran ⟨0,rfl⟩
  exact ⟨m,path,told,caching_transparent .ipv4 _ 1 300 path⟩

end Scg.Policy.Caching
