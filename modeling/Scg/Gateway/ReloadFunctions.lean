import Scg.Gateway.Live
import Scg.Library.Transition
import Scg.Policy.Classification

namespace Scg.Gateway
open Net Policy Config Transition

def Live.gate (live : Live) : Gate := {cache := live.cache,analyzer := live.analyzer,policyManager := some live.policy}

def Live.check (live : Live) (now : Instant) (fallback : TrafficClass) (src dst : SocketAddr) : Bool × Live :=
  let (allowed,gate) := live.gate.classifyAndCheckPolicy now fallback src dst
  (allowed,{live with cache := gate.cache,analyzer := gate.analyzer})

def Live.classified (live : Live) (now : Instant) (src dst : SocketAddr) : Option (String × TrafficClass) :=
  live.analyzer.bind fun analyzer => (analyzer.classify live.cache now src dst).1.map (·.label)

variable {env : Parsers} {old new : GatewayConfig} {live : Live}

theorem check_live (live : Live) (now : Instant) (fallback : TrafficClass) (src dst : SocketAddr) :
    (live.check now fallback src dst).2 =
      match live.analyzer with
      | none => live
      | some analyzer =>
        {live with
          analyzer := some (analyzer.classify live.cache now src dst).2.1
          cache := (analyzer.classify live.cache now src dst).2.2} := by
  cases found : live.analyzer with
  | none =>
    have same : {live with analyzer := none} = live := by rw [← found]
    simpa [Live.check,Live.gate,Gate.classifyAndCheckPolicy,Gate.classOf,found] using same
  | some analyzer => simp [Live.check,Live.gate,Gate.classifyAndCheckPolicy,Gate.classOf,found]

structure FlowCheck where
  now : Instant
  fallback : TrafficClass
  src : SocketAddr
  dst : SocketAddr

def serving (env : Parsers) (config : GatewayConfig) : System Live FlowCheck where
  initial live := live = start env config
  step live flow := some (live.check flow.now flow.fallback flow.src flow.dst).2

def labelsOf (env : Parsers) (config : GatewayConfig) (src dst : SocketAddr) : Option (String × TrafficClass) :=
  (TrafficAnalyzer.new env.std config.trafficRules).labels src dst

-- Serving changes the cache and the next traffic id, neither of which shows in a label.
structure Serves (env : Parsers) (old : GatewayConfig) (live : Live) : Prop where
  config : live.config = old
  policy : live.policy = .new env.std old.policy
  templates : live.templates = buildTemplates env old
  rules : live.analyzer.map (·.compiledRules) = (startAnalyzer env old).map (·.compiledRules)
  faithful : ∀ analyzer, live.analyzer = some analyzer → Faithful live.cache analyzer

theorem start_serves : Serves env old (start env old) :=
  ⟨rfl,rfl,rfl,rfl,fun analyzer _ => new_faithful _ _ analyzer⟩

theorem check_serves (serves : Serves env old live) (now : Instant) (fallback : TrafficClass) (src dst : SocketAddr) :
    Serves env old (live.check now fallback src dst).2 := by
  rw [check_live]
  cases found : live.analyzer with
  | none => exact serves
  | some analyzer =>
    obtain ⟨faithful,same⟩ := classify_faithful (serves.faithful analyzer found) now src dst
    refine ⟨serves.config,serves.policy,serves.templates,?_,?_⟩
    · rw [← serves.rules,found]
      exact congrArg some same
    · intro other installed
      cases installed
      exact faithful

theorem reached_serves (path : Reached (serving env old) live) : Serves env old live := by
  apply path.invariant
  · rintro s rfl
    exact start_serves
  · intro s flow next serves ran
    cases ran
    exact check_serves serves _ _ _ _

theorem analyzer_labels {analyzer : Option TrafficAnalyzer}
    (rules : analyzer.map (·.compiledRules) = (startAnalyzer env old).map (·.compiledRules)) (src dst : SocketAddr) :
    (analyzer.bind fun analyzer => analyzer.labels src dst) = labelsOf env old src dst := by
  unfold startAnalyzer at rules
  split at rules
  · rename_i none
    have empty : old.trafficRules = [] := List.isEmpty_iff.mp none
    simp only [Option.map_none,Option.map_eq_none_iff] at rules
    rw [rules]
    simp [labelsOf,empty,TrafficAnalyzer.labels,TrafficAnalyzer.firstMatch,TrafficAnalyzer.new]
  · obtain ⟨found,rfl,same⟩ := Option.map_eq_some_iff.mp rules
    exact congrFun (congrFun (labels_rules same) src) dst

theorem classified_labels (faithful : ∀ analyzer, live.analyzer = some analyzer → Faithful live.cache analyzer)
    (rules : live.analyzer.map (·.compiledRules) = (startAnalyzer env old).map (·.compiledRules))
    (now : Instant) (src dst : SocketAddr) : live.classified now src dst = labelsOf env old src dst := by
  rw [← analyzer_labels rules,Live.classified]
  cases found : live.analyzer with
  | none => rfl
  | some analyzer => exact classify_labels (faithful analyzer found) now src dst

structure SameFunctions (one two : Live) : Prop where
  allowed : ∀ src dst trafficClass,
    one.policy.checkAllowed src dst trafficClass = two.policy.checkAllowed src dst trafficClass
  destination : ∀ dst trafficClass,
    one.policy.checkAllowedDestination dst trafficClass = two.policy.checkAllowedDestination dst trafficClass
  classified : ∀ now src dst, one.classified now src dst = two.classified now src dst
  templates : ∀ key, one.templates.lookup key = two.templates.lookup key

structure DecideAlike (env : Parsers) (one two : Option PolicyConfig) : Prop where
  allowed : ∀ src dst trafficClass, (PolicyManager.new env.std one).checkAllowed src dst trafficClass =
    (PolicyManager.new env.std two).checkAllowed src dst trafficClass
  destination : ∀ dst trafficClass, (PolicyManager.new env.std one).checkAllowedDestination dst trafficClass =
    (PolicyManager.new env.std two).checkAllowedDestination dst trafficClass

def RulesMoved (old new : GatewayConfig) : Prop :=
  (∃ n ∈ new.rules, ∀ o ∈ old.rules, o.name = n.name → o.definition ≠ n.definition) ∨
    ∃ o ∈ old.rules, ∀ n ∈ new.rules, n.name ≠ o.name

theorem touches_iff (named : Named old.rules) : (old.diff new).touches = true ↔ RulesMoved old new := by
  have touched : (old.diff new).touches = true ↔
      ((∃ n, n ∈ (old.diff new).added) ∨ ∃ name, name ∈ (old.diff new).removed) ∨ ∃ n, n ∈ (old.diff new).changed := by
    simp [ConfigDiff.touches,List.eq_nil_iff_forall_not_mem]
  rw [touched]
  constructor
  · rintro ((⟨n,fresh⟩ | ⟨name,removed⟩) | ⟨n,edited⟩)
    · obtain ⟨present,absent⟩ := mem_added.mp fresh
      exact .inl ⟨n,present,fun o there same => absurd same (absent o there)⟩
    · obtain ⟨⟨o,there,rfl⟩,gone⟩ := mem_removed.mp removed
      exact .inr ⟨o,there,gone⟩
    · obtain ⟨present,o,there,same,differs⟩ := (mem_changed named).mp edited
      refine .inl ⟨n,present,?_⟩
      intro p stood shared equal
      rw [named.unique there stood (same.trans shared.symm),reloadDiffers_iff.mpr equal] at differs
      cases differs
  · rintro (⟨n,present,moved⟩ | ⟨o,there,gone⟩)
    · by_cases stood : ∃ o ∈ old.rules, o.name = n.name
      · obtain ⟨o,there,same⟩ := stood
        refine .inr ⟨n,(mem_changed named).mpr ⟨present,o,there,same,?_⟩⟩
        have differs : ¬ o.reloadDiffers n = false := fun equal => moved o there same (reloadDiffers_iff.mp equal)
        simpa using differs
      · exact .inl (.inl ⟨n,mem_added.mpr ⟨present,fun o there same => stood ⟨o,there,same⟩⟩⟩)
    · exact .inl (.inr ⟨o.name,mem_removed.mpr ⟨⟨o,there,rfl⟩,gone⟩⟩)

theorem reload_analyzer : (reload env live new).analyzer = live.analyzer := by
  unfold reload
  dsimp only
  split <;> rfl

theorem reload_classified (serves : Serves env old live) (now : Instant) (src dst : SocketAddr) :
    (reload env live new).classified now src dst = labelsOf env old src dst := by
  apply classified_labels
  · intro analyzer installed
    rw [reload_analyzer] at installed
    unfold reload
    dsimp only
    split
    · exact clear_faithful _ analyzer
    · exact serves.faithful analyzer installed
  · rw [reload_analyzer]
    exact serves.rules

theorem start_classified (now : Instant) (src dst : SocketAddr) :
    (start env new).classified now src dst = labelsOf env new src dst :=
  classified_labels start_serves.faithful rfl now src dst

-- The policy and the templates follow a reload only when a rule moved with them, and
-- the traffic rules never do.
theorem reload_decides_as_started (path : Reached (serving env old) live) (valid : old.validate env = .ok ()) :
    SameFunctions (reload env live new) (start env new) ↔
      (∀ src dst, labelsOf env old src dst = labelsOf env new src dst) ∧
      (RulesMoved old new ∨
        DecideAlike env old.policy new.policy ∧
          ∀ key, (buildTemplates env old).lookup key = (buildTemplates env new).lookup key) := by
  have serves := reached_serves path
  have classified : (∀ now src dst, (reload env live new).classified now src dst = (start env new).classified now src dst) ↔
      ∀ src dst, labelsOf env old src dst = labelsOf env new src dst := by
    simp only [reload_classified serves,start_classified,forall_const]
  have touched : (live.config.diff new).touches = true ↔ RulesMoved old new := by
    rw [serves.config]
    exact touches_iff (validate_named valid)
  rw [← classified,← touched]
  by_cases moved : (live.config.diff new).touches = true
  · have policy : (reload env live new).policy = (start env new).policy := by simp [reload,moved,start]
    have templates : (reload env live new).templates = (start env new).templates := by simp [reload,moved,start]
    refine ⟨fun same => ⟨same.classified,.inl moved⟩,?_⟩
    rintro ⟨classified,_⟩
    exact ⟨fun _ _ _ => by rw [policy],fun _ _ => by rw [policy],classified,fun _ => by rw [templates]⟩
  · have policy : (reload env live new).policy = .new env.std old.policy := by simp [reload,moved,serves.policy]
    have templates : (reload env live new).templates = buildTemplates env old := by
      simp [reload,moved,serves.templates]
    constructor
    · intro same
      have allowed := same.allowed
      have destination := same.destination
      have keys := same.templates
      rw [policy] at allowed destination
      rw [templates] at keys
      exact ⟨same.classified,.inr ⟨⟨allowed,destination⟩,keys⟩⟩
    · rintro ⟨classified,moved' | ⟨alike,keys⟩⟩
      · exact absurd moved' moved
      · refine ⟨?_,?_,classified,?_⟩
        · rw [policy]
          exact alike.allowed
        · rw [policy]
          exact alike.destination
        · rwa [templates]

def openPolicy : PolicyConfig := {defaultAction := .allow,whitelist := [],enforcePolicyOnSafety := false}

def movedRule : RuleConfig := {webRule with upstreamAddr := "127.0.0.1:9092"}

theorem reload_decides_closed :
    SameFunctions (reload plainParsers (start plainParsers {rules := [webRule],policy := some openPolicy}) {rules := [movedRule]})
      (start plainParsers {rules := [movedRule]}) := by
  apply (reload_decides_as_started (ReachedWhen.initial rfl) (by decide +kernel)).mpr
  refine ⟨fun _ _ => rfl,.inl (.inl ⟨movedRule,List.mem_singleton_self _,?_⟩)⟩
  intro o there _ equal
  cases List.mem_singleton.mp there
  exact absurd (congrArg (·.upstreamAddr) equal) (by decide)

def client : SocketAddr := .v4 0x0a000009 4000

def service : SocketAddr := .v4 0x7f000001 9090

-- Closing the policy alone moves no rule and is not taken up; traffic rules are not
-- taken up even when a rule moves with them.
theorem reload_keeps_stale_functions :
    ({rules := [webRule],policy := some openPolicy} : GatewayConfig).validate plainParsers = .ok () ∧
    ({rules := [webRule]} : GatewayConfig).validate plainParsers = .ok () ∧
    (reload plainParsers (start plainParsers {rules := [webRule],policy := some openPolicy})
      {rules := [webRule]}).policy.checkAllowed client service .normal = true ∧
    (start plainParsers {rules := [webRule]}).policy.checkAllowed client service .normal = false ∧
    ¬ SameFunctions (reload plainParsers (start plainParsers {rules := [webRule],policy := some openPolicy})
      {rules := [webRule]}) (start plainParsers {rules := [webRule]}) ∧
    ({rules := [movedRule],trafficRules := [⟨"any","any","app",.safety⟩]} : GatewayConfig).validate plainParsers = .ok () ∧
    (reload plainParsers (start plainParsers {rules := [webRule]})
      {rules := [movedRule],trafficRules := [⟨"any","any","app",.safety⟩]}).classified 0 client service = none ∧
    (start plainParsers {rules := [movedRule],trafficRules := [⟨"any","any","app",.safety⟩]}).classified 0 client service =
      some ("app",.safety) := by
  refine ⟨by decide +kernel,by decide +kernel,rfl,rfl,?_,by decide +kernel,rfl,rfl⟩
  intro same
  have equal : true = false := same.allowed client service .normal
  cases equal

end Scg.Gateway
