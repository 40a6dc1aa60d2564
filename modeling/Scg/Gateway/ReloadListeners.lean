import Scg.Gateway.Live
import Scg.Library.Transition
import Mathlib.Data.Set.Basic

namespace Scg.Gateway
open Config Transition List AList

-- Stopping a name stops what runs under it and nothing else.
structure Tracked (l : Listeners) : Prop where
  dense : ∀ listener ∈ l.started, listener.flag < l.started.length
  distinct : ∀ one ∈ l.started, ∀ two ∈ l.started, one.flag = two.flag → one = two
  mapped : ∀ listener ∈ l.started, listener.flag ∉ l.stopped →
    l.shutdowns.lookup listener.rule.name = some listener.flag
  named : ∀ name flag, l.shutdowns.lookup name = some flag →
    ∃ listener ∈ l.started, listener.flag = flag ∧ listener.rule.name = name
  bounded : ∀ flag ∈ l.stopped, flag < l.started.length

variable {l : Listeners} {rule : RuleConfig}

theorem mem_running : rule ∈ l.running ↔
    ∃ listener ∈ l.started, listener.flag ∉ l.stopped ∧ listener.rule = rule := by simp [Listeners.running,and_assoc]

theorem empty_tracked : Tracked .empty where
  dense := fun _ absent => absurd absent not_mem_nil
  distinct := fun _ absent => absurd absent not_mem_nil
  mapped := fun _ absent => absurd absent not_mem_nil
  named := by
    intro name flag found
    change (∅ : AList fun _ : String => Nat).lookup name = some flag at found
    simp at found
  bounded := fun _ absent => absurd absent not_mem_nil

section
variable (tracked : Tracked l)
include tracked

theorem stop_tracked (name : String) : Tracked (l.stop name) := by
  unfold Listeners.stop
  cases found : l.shutdowns.lookup name with
  | none => exact tracked
  | some flag =>
    refine ⟨tracked.dense,tracked.distinct,?_,tracked.named,?_⟩
    · intro listener present alive
      exact tracked.mapped listener present fun stopped => alive (mem_cons_of_mem _ stopped)
    · intro other present
      rcases mem_cons.mp present with rfl | old
      · obtain ⟨listener,there,same,_⟩ := tracked.named name other found
        rw [← same]
        exact tracked.dense listener there
      · exact tracked.bounded other old

theorem mem_stop : rule ∈ (l.stop name).running ↔ rule ∈ l.running ∧ rule.name ≠ name := by
  unfold Listeners.stop
  cases found : l.shutdowns.lookup name with
  | none =>
    refine ⟨fun present => ⟨present,?_⟩,And.left⟩
    rintro rfl
    obtain ⟨listener,there,alive,rfl⟩ := mem_running.mp present
    have mapped := tracked.mapped listener there alive
    rw [found] at mapped
    cases mapped
  | some flag =>
    constructor
    · intro present
      obtain ⟨listener,there,alive,rfl⟩ := mem_running.mp present
      have before : listener.flag ∉ l.stopped := fun stopped => alive (mem_cons_of_mem _ stopped)
      refine ⟨mem_running.mpr ⟨listener,there,before,rfl⟩,?_⟩
      rintro rfl
      have mapped := tracked.mapped listener there before
      rw [found] at mapped
      cases mapped
      exact alive mem_cons_self
    · rintro ⟨present,other⟩
      obtain ⟨listener,there,alive,rfl⟩ := mem_running.mp present
      refine mem_running.mpr ⟨listener,there,?_,rfl⟩
      intro stopped
      rcases mem_cons.mp stopped with rfl | old
      · obtain ⟨owner,owned,same,named⟩ := tracked.named name _ found
        rw [tracked.distinct owner owned listener there same] at named
        exact other named
      · exact alive old

theorem start_tracked (free : ∀ r ∈ l.running, r.name ≠ rule.name) :
    Tracked (l.startSingleRule generation rule) := by
  have grown : ∀ {listener}, listener ∈ (l.startSingleRule generation rule).started →
      listener ∈ l.started ∨ listener = ⟨l.started.length,generation,rule⟩ := by
    simpa [Listeners.startSingleRule] using present
  have longer : (l.startSingleRule generation rule).started.length = l.started.length+1 := by
    simp [Listeners.startSingleRule]
  refine ⟨?_,?_,?_,?_,?_⟩
  · intro listener present
    rw [longer]
    rcases grown present with old | rfl
    · exact Nat.lt_succ_of_lt (tracked.dense listener old)
    · exact Nat.lt_succ_self _
  · intro one first two second same
    rcases grown first with old | rfl
    · rcases grown second with older | rfl
      · exact tracked.distinct one old two older same
      · have bound := tracked.dense one old
        simp only at same
        omega
    · rcases grown second with older | rfl
      · have bound := tracked.dense two older
        simp only at same
        omega
      · rfl
  · intro listener present alive
    change (l.shutdowns.insert rule.name l.started.length).lookup listener.rule.name = some listener.flag
    rcases grown present with old | rfl
    · have other := free _ (mem_running.mpr ⟨listener,old,alive,rfl⟩)
      rw [lookup_insert_ne other]
      exact tracked.mapped listener old alive
    · exact lookup_insert _
  · intro other flag found
    change (l.shutdowns.insert rule.name l.started.length).lookup other = some flag at found
    by_cases same : other = rule.name
    · subst same
      rw [lookup_insert] at found
      cases found
      exact ⟨⟨l.started.length,generation,rule⟩,by simp [Listeners.startSingleRule],rfl,rfl⟩
    · rw [lookup_insert_ne same] at found
      obtain ⟨listener,there,flagged,named⟩ := tracked.named other flag found
      exact ⟨listener,mem_append_left _ there,flagged,named⟩
  · intro flag present
    rw [longer]
    exact Nat.lt_succ_of_lt (tracked.bounded flag present)

theorem mem_start : r ∈ (l.startSingleRule generation rule).running ↔ r ∈ l.running ∨ r = rule := by
  have fresh : l.started.length ∉ l.stopped := fun stopped => Nat.lt_irrefl _ (tracked.bounded _ stopped)
  simp only [mem_running,Listeners.startSingleRule,mem_append,mem_singleton]
  constructor
  · rintro ⟨listener,old | rfl,alive,rfl⟩
    · exact .inl ⟨listener,old,alive,rfl⟩
    · exact .inr rfl
  · rintro (⟨listener,old,alive,rfl⟩ | rfl)
    · exact ⟨listener,.inl old,alive,rfl⟩
    · exact ⟨_,.inr rfl,fresh,rfl⟩

theorem restart_tracked : Tracked (l.restart generation rule) := by
  apply start_tracked (stop_tracked tracked rule.name)
  intro r present
  exact ((mem_stop tracked).mp present).2

theorem mem_restart : r ∈ (l.restart generation rule).running ↔ (r ∈ l.running ∧ r.name ≠ rule.name) ∨ r = rule := by
  rw [Listeners.restart,mem_start (stop_tracked tracked rule.name),mem_stop tracked]

end

section Folds
variable {names : List String}

theorem stops_tracked (tracked : Tracked l) : Tracked (names.foldl Listeners.stop l) := by
  induction names generalizing l with
  | nil => exact tracked
  | cons name rest ih => exact ih (stop_tracked tracked name)

theorem mem_stops (tracked : Tracked l) :
    rule ∈ (names.foldl Listeners.stop l).running ↔ rule ∈ l.running ∧ rule.name ∉ names := by
  induction names generalizing l with
  | nil => simp
  | cons name rest ih => rw [foldl_cons,ih (stop_tracked tracked name),mem_stop tracked,mem_cons,not_or,and_assoc]

theorem named_cons : Named (rule :: rules) ↔ (∀ r ∈ rules, r.name ≠ rule.name) ∧ Named rules := by simp [Named]

theorem starts_tracked (tracked : Tracked l) (named : Named rules)
    (free : ∀ r ∈ rules, ∀ q ∈ l.running, q.name ≠ r.name) :
    Tracked (rules.foldl (Listeners.startSingleRule generation) l) ∧
      ∀ r, r ∈ (rules.foldl (Listeners.startSingleRule generation) l).running ↔ r ∈ l.running ∨ r ∈ rules := by
  induction rules generalizing l with
  | nil => exact ⟨tracked,by simp⟩
  | cons rule rest ih =>
    obtain ⟨other,named⟩ := named_cons.mp named
    have started : Tracked (l.startSingleRule generation rule) :=
      start_tracked tracked (free rule mem_cons_self)
    have still : ∀ r ∈ rest, ∀ q ∈ (l.startSingleRule generation rule).running, q.name ≠ r.name := by
      intro r later q present
      rcases (mem_start tracked).mp present with old | same
      · exact free r (mem_cons_of_mem _ later) q old
      · rw [same]
        exact (other r later).symm
    obtain ⟨done,members⟩ := ih started named still
    refine ⟨done,?_⟩
    intro r
    rw [foldl_cons,members,mem_start tracked,mem_cons,or_assoc]

theorem restarts_tracked (tracked : Tracked l) (named : Named rules) :
    Tracked (rules.foldl (Listeners.restart generation) l) ∧
      ∀ r, r ∈ (rules.foldl (Listeners.restart generation) l).running ↔
        (r ∈ l.running ∧ ∀ q ∈ rules, q.name ≠ r.name) ∨ r ∈ rules := by
  induction rules generalizing l with
  | nil => exact ⟨tracked,by simp⟩
  | cons rule rest ih =>
    obtain ⟨other,named⟩ := named_cons.mp named
    obtain ⟨done,members⟩ := ih (restart_tracked tracked) named
    refine ⟨done,?_⟩
    intro r
    rw [foldl_cons,members,mem_restart tracked,mem_cons,forall_mem_cons]
    constructor
    · rintro (⟨⟨present,apart⟩ | same,rest⟩ | later)
      · exact .inl ⟨present,apart.symm,rest⟩
      · exact .inr (.inl same)
      · exact .inr (.inr later)
    · rintro (⟨present,apart,rest⟩ | same | later)
      · exact .inl ⟨.inl ⟨present,apart.symm⟩,rest⟩
      · subst same
        exact .inl ⟨.inr rfl,other⟩
      · exact .inr later

end Folds

variable {env : Parsers} {old new : GatewayConfig} {live : Live}

theorem startRules_tracked (named : Named config.rules) :
    Tracked (startRules config) ∧
      ∀ r, r ∈ (startRules config).running ↔ r ∈ config.rules ∧ r.listenProto.isLocal = false := by
  have static : Named (config.rules.filter fun rule => !rule.listenProto.isLocal) :=
    List.Nodup.sublist (filter_sublist.map _) named
  obtain ⟨tracked,members⟩ := starts_tracked empty_tracked static
    fun _ _ _ absent => absurd absent not_mem_nil
  refine ⟨tracked,?_⟩
  intro r
  rw [startRules,members]
  simp [Listeners.running,Listeners.empty]

-- Added rules have names that nothing runs under, so the three passes do not interfere.
theorem onReload_tracked (tracked : Tracked l) (before : Named old.rules) (after : Named new.rules)
    (within : ∀ r ∈ l.running, ∃ o ∈ old.rules, o.name = r.name) :
    Tracked (onReload generation l (old.diff new)) ∧
      ∀ r, r ∈ (onReload generation l (old.diff new)).running ↔
        (r ∈ l.running ∧ r.name ∉ (old.diff new).removed ∧ ∀ q ∈ (old.diff new).changed, q.name ≠ r.name) ∨
          r ∈ (old.diff new).added ∨ r ∈ (old.diff new).changed := by
  have free : ∀ r ∈ (old.diff new).added, ∀ q ∈ ((old.diff new).removed.foldl Listeners.stop l).running,
      q.name ≠ r.name := by
    intro r fresh q present same
    obtain ⟨o,there,named⟩ := within q ((mem_stops tracked).mp present).1
    exact (mem_added.mp fresh).2 o there (named.trans same)
  have apart : ∀ r ∈ (old.diff new).added, ∀ q ∈ (old.diff new).changed, q.name ≠ r.name := by
    intro r fresh q edited same
    obtain ⟨_,o,there,named,_⟩ := (mem_changed before).mp edited
    exact (mem_added.mp fresh).2 o there (named.trans same)
  have added : Named (old.diff new).added := List.Nodup.sublist (filter_sublist.map _) after
  have changed : Named (old.diff new).changed := List.Nodup.sublist (filter_sublist.map _) after
  obtain ⟨started,first⟩ := starts_tracked (stops_tracked tracked) added free
  obtain ⟨restarted,second⟩ := restarts_tracked started changed
  refine ⟨restarted,?_⟩
  intro r
  rw [onReload,second,first,mem_stops tracked]
  constructor
  · rintro (⟨⟨present,kept⟩ | fresh,other⟩ | edited)
    · exact .inl ⟨present,kept,other⟩
    · exact .inr (.inl fresh)
    · exact .inr (.inr edited)
  · rintro (⟨present,kept,other⟩ | fresh | edited)
    · exact .inl ⟨.inl ⟨present,kept⟩,other⟩
    · exact .inl ⟨.inr fresh,apart r fresh⟩
    · exact .inr edited

theorem reload_listeners : (reload env live new).listeners =
    onReload (live.generation+1) live.listeners (live.config.diff new) := by
  unfold reload
  dsimp only
  split
  · rfl
  · rename_i quiet
    simp only [ConfigDiff.touches,Bool.or_eq_true,Bool.not_eq_true',isEmpty_eq_false_iff,not_or,not_not] at quiet
    obtain ⟨⟨added,removed⟩,changed⟩ := quiet
    simp [onReload,added,removed,changed]

theorem reload_config : (reload env live new).config = new := by
  unfold reload
  dsimp only
  split <;> rfl

def reloads (env : Parsers) : System Live GatewayConfig where
  initial live := ∃ config, config.validate env = .ok () ∧ live = start env config
  step live new :=
    match new.validate env with
    | .ok () => some (reload env live new)
    | .error _ => some live

structure Installed (live : Live) : Prop where
  named : Named live.config.rules
  tracked : Tracked live.listeners
  within : ∀ r ∈ live.listeners.running, ∃ o ∈ live.config.rules, o.name = r.name

theorem start_installed (valid : config.validate env = .ok ()) : Installed (start env config) := by
  have named := validate_named valid
  obtain ⟨tracked,members⟩ := startRules_tracked named
  refine ⟨named,tracked,?_⟩
  intro r present
  exact ⟨r,((members r).mp present).1,rfl⟩

theorem reload_installed (installed : Installed live) (valid : new.validate env = .ok ()) :
    Installed (reload env live new) := by
  have named := validate_named valid
  obtain ⟨tracked,members⟩ := onReload_tracked installed.tracked installed.named named
    installed.within
  refine ⟨reload_config ▸ named,reload_listeners ▸ tracked,?_⟩
  rw [reload_listeners,reload_config]
  intro r present
  rcases (members r).mp present with ⟨running,kept,_⟩ | fresh | edited
  · obtain ⟨o,there,same⟩ := installed.within r running
    apply Classical.by_contradiction
    intro gone
    exact kept (mem_removed.mpr ⟨⟨o,there,same⟩,fun n present named => gone ⟨n,present,named⟩⟩)
  · exact ⟨r,(mem_added.mp fresh).1,rfl⟩
  · exact ⟨r,((mem_changed installed.named).mp edited).1,rfl⟩

def listening (l : Listeners) : Set (String × RuleConfig.Definition) :=
  {pair | ∃ r ∈ l.running, (r.name,r.definition) = pair}

theorem mem_listening : (rule.name,rule.definition) ∈ listening l ↔
    ∃ r ∈ l.running, r.name = rule.name ∧ r.definition = rule.definition := by simp [listening]

theorem definition_local {other : RuleConfig} (same : rule.definition = other.definition) :
    rule.listenProto.isLocal = other.listenProto.isLocal :=
  congrArg (fun definition => definition.listenProto.isLocal) same

-- Every template of `new` already stands in `old`, so no pass of the reload meets one.
def TemplatesKept (old new : GatewayConfig) : Prop :=
  ∀ r ∈ new.rules, r.listenProto.isLocal = true → ∃ o ∈ old.rules, o.name = r.name ∧ o.definition = r.definition

theorem unchanged_definition (before : Named old.rules) (there : o ∈ old.rules)
    (present : n ∈ new.rules) (same : o.name = n.name) (unedited : n ∉ (old.diff new).changed) :
    o.definition = n.definition := by
  apply reloadDiffers_iff.mp
  apply Bool.eq_false_iff.mpr
  intro differs
  exact unedited ((mem_changed before).mpr ⟨present,o,there,same,differs⟩)

theorem templatesKept_iff (before : Named old.rules) : TemplatesKept old new ↔
    (∀ r ∈ (old.diff new).added, r.listenProto.isLocal = false) ∧
      ∀ r ∈ (old.diff new).changed, r.listenProto.isLocal = false := by
  constructor
  · intro kept
    refine ⟨?_,?_⟩
    · intro r fresh
      obtain ⟨present,absent⟩ := mem_added.mp fresh
      apply Bool.eq_false_iff.mpr
      intro isLocal
      obtain ⟨o,there,same,_⟩ := kept r present isLocal
      exact absent o there same
    · intro r edited
      obtain ⟨present,o,there,same,differs⟩ := (mem_changed before).mp edited
      apply Bool.eq_false_iff.mpr
      intro isLocal
      obtain ⟨p,stood,named,equal⟩ := kept r present isLocal
      rw [before.unique there stood (same.trans named.symm),reloadDiffers_iff.mpr equal] at differs
      cases differs
  · intro static r present isLocal
    have unedited : r ∉ (old.diff new).changed := fun edited => by
      rw [static.2 r edited] at isLocal
      cases isLocal
    apply Classical.by_contradiction
    intro lost
    have fresh : r ∈ (old.diff new).added := mem_added.mpr ⟨present,fun o there same =>
      lost ⟨o,there,same,unchanged_definition before there present same unedited⟩⟩
    rw [static.1 r fresh] at isLocal
    cases isLocal

section Equivalence
variable (tracked : Tracked l) (before : Named old.rules) (after : Named new.rules)
  (within : ∀ r ∈ l.running, ∃ o ∈ old.rules, o.name = r.name)
  (same : listening l = listening (startRules old))
include tracked before after within same

theorem onReload_within (kept : TemplatesKept old new) :
    listening (onReload generation l (old.diff new)) ⊆ listening (startRules new) := by
  obtain ⟨_,members⟩ := onReload_tracked tracked before after within
  obtain ⟨added,changed⟩ := (templatesKept_iff before).mp kept
  rintro pair ⟨r,present,rfl⟩
  rw [mem_listening]
  rcases (members r).mp present with ⟨running,unremoved,unedited⟩ | fresh | edited
  · have stood : (r.name,r.definition) ∈ listening (startRules old) := same ▸ ⟨r,running,rfl⟩
    obtain ⟨o,started,named,equal⟩ := mem_listening.mp stood
    obtain ⟨there,static⟩ := ((startRules_tracked before).2 o).mp started
    have renewed : ∃ n ∈ new.rules, n.name = r.name := by
      apply Classical.by_contradiction
      intro gone
      exact unremoved (mem_removed.mpr ⟨⟨o,there,named⟩,fun n present named => gone ⟨n,present,named⟩⟩)
    obtain ⟨n,listed,called⟩ := renewed
    have defined := unchanged_definition before there listed (named.trans called.symm)
      fun edited => unedited n edited called
    refine ⟨n,((startRules_tracked after).2 n).mpr ⟨listed,?_⟩,called,defined.symm.trans equal⟩
    rwa [← definition_local defined]
  · exact ⟨r,((startRules_tracked after).2 r).mpr ⟨(mem_added.mp fresh).1,added r fresh⟩,rfl,rfl⟩
  · exact ⟨r,((startRules_tracked after).2 r).mpr ⟨((mem_changed before).mp edited).1,changed r edited⟩,rfl,rfl⟩

theorem onReload_covers : listening (startRules new) ⊆ listening (onReload generation l (old.diff new)) := by
  obtain ⟨_,members⟩ := onReload_tracked tracked before after within
  rintro pair ⟨n,started,rfl⟩
  obtain ⟨listed,static⟩ := ((startRules_tracked after).2 n).mp started
  rw [mem_listening]
  by_cases fresh : n ∈ (old.diff new).added
  · exact ⟨n,(members n).mpr (.inr (.inl fresh)),rfl,rfl⟩
  by_cases edited : n ∈ (old.diff new).changed
  · exact ⟨n,(members n).mpr (.inr (.inr edited)),rfl,rfl⟩
  have stood : ∃ o ∈ old.rules, o.name = n.name := by
    apply Classical.by_contradiction
    intro gone
    exact fresh (mem_added.mpr ⟨listed,fun o there named => gone ⟨o,there,named⟩⟩)
  obtain ⟨o,there,named⟩ := stood
  have defined := unchanged_definition before there listed named edited
  have began := ((startRules_tracked before).2 o).mpr ⟨there,(definition_local defined).trans static⟩
  have heard : (o.name,o.definition) ∈ listening l := same ▸ ⟨o,began,rfl⟩
  obtain ⟨r,running,called,equal⟩ := mem_listening.mp heard
  have unremoved : r.name ∉ (old.diff new).removed := fun removed =>
    (mem_removed.mp removed).2 n listed (called.trans named).symm
  have unedited : ∀ q ∈ (old.diff new).changed, q.name ≠ r.name := by
    intro q changed shared
    obtain ⟨present,_⟩ := (mem_changed before).mp changed
    rw [after.unique present listed (shared.trans (called.trans named))] at changed
    exact edited changed
  exact ⟨r,(members r).mpr (.inl ⟨running,unremoved,unedited⟩),called.trans named,equal.trans defined⟩

end Equivalence

theorem reload_listening (installed : Installed live) (valid : new.validate env = .ok ())
    (same : listening live.listeners = listening (startRules live.config)) (kept : TemplatesKept live.config new) :
    listening (reload env live new).listeners = listening (startRules new) := by
  have named := validate_named valid
  rw [reload_listeners]
  apply Set.Subset.antisymm
  · exact onReload_within installed.tracked installed.named named installed.within same kept
  · exact onReload_covers installed.tracked installed.named named installed.within same

-- As long as no reload brings or edits a template, a gateway listens at every moment
-- of its life as if it had just been started.
theorem reached_listening (path : ReachedWhen (reloads env) (fun live new => TemplatesKept live.config new) live) :
    listening live.listeners = listening (startRules live.config) := by
  have facts : Installed live ∧ listening live.listeners = listening (startRules live.config) := by
    apply path.invariant
    · rintro s ⟨config,valid,rfl⟩
      exact ⟨start_installed valid,rfl⟩
    · rintro s new next ⟨installed,same⟩ kept ran
      simp only [reloads] at ran
      split at ran <;> cases ran
      · rename_i valid
        rw [reload_config]
        exact ⟨reload_installed installed valid,reload_listening installed valid same kept⟩
      · exact ⟨installed,same⟩
  exact facts.2

end Scg.Gateway
