import Scg.Config.Validate

namespace Scg.Config
open List Checks AList

structure ConfigDiff where
  added : List RuleConfig
  removed : List String
  changed : List RuleConfig
  unchanged : List String
  interceptChanged : Bool

-- Collecting rules into a map by name keeps the last of equal names.
def byName (rules : List RuleConfig) (name : String) : Option RuleConfig :=
  rules.reverse.find? (·.name = name)

def interceptProjection (config : GatewayConfig) : List (String × String × Proto × InterceptConfig) :=
  (config.rules.filterMap fun r => r.intercept.map fun ic => (r.name,r.listenAddr,r.listenProto,ic)).mergeSort
    fun a b => a.1 ≤ b.1

def GatewayConfig.diff (old new : GatewayConfig) : ConfigDiff where
  added := new.rules.filter fun r => (byName old.rules r.name).isNone
  changed := new.rules.filter fun r => (byName old.rules r.name).any fun o => o.reloadDiffers r
  unchanged := (new.rules.filter fun r => (byName old.rules r.name).any fun o => !o.reloadDiffers r).map (·.name)
  removed := (old.rules.filter fun r => r.name ∉ new.rules.map (·.name)).map (·.name)
  interceptChanged := interceptProjection old != interceptProjection new

def ConfigDiff.touches (diff : ConfigDiff) : Bool :=
  !diff.added.isEmpty || !diff.removed.isEmpty || !diff.changed.isEmpty

def Named (rules : List RuleConfig) : Prop := (rules.map (·.name)).Nodup

theorem Params.same_iff {one two : Params} : one.same two = true ↔ ∀ key, one.lookup key = two.lookup key := by
  have found : one.same two = true ↔
      one.entries.length = two.entries.length ∧ ∀ entry ∈ one.entries, entry ∈ two.entries := by
    simp only [Params.same,Bool.and_eq_true,beq_iff_eq,all_eq_true]
    exact and_congr_right fun _ => forall₂_congr fun entry _ => mem_lookup_iff
  constructor
  · intro same key
    obtain ⟨long,within⟩ := found.mp same
    have nodup : one.entries.Nodup := List.NodupKeys.nodup one.nodupKeys
    have perm := (subperm_of_subset nodup within).perm_of_length_le (Nat.le_of_eq long.symm)
    exact perm_lookup perm
  · intro same
    have within : ∀ {a b : Params}, (∀ key, a.lookup key = b.lookup key) → ∀ entry ∈ a.entries, entry ∈ b.entries := by
      intro a b equal entry present
      refine mem_lookup_iff.mp ?_
      rw [← equal]
      exact mem_lookup_iff.mpr present
    have nodup : ∀ a : Params, a.entries.Nodup := fun a => List.NodupKeys.nodup a.nodupKeys
    have perm := (perm_ext_iff_of_nodup (nodup one) (nodup two)).mpr fun entry =>
      ⟨within same entry,within (fun key => (same key).symm) entry⟩
    exact found.mpr ⟨perm.length_eq,within same⟩

-- The comparison that fills the `changed` bucket looks at every part of the definition.
theorem reloadDiffers_iff {rule other : RuleConfig} :
    rule.reloadDiffers other = false ↔ rule.definition = other.definition := by
  simp only [RuleConfig.reloadDiffers,RuleConfig.definition,RuleConfig.qos,Bool.or_eq_false_iff,bne_eq_false_iff_eq,
    Bool.not_eq_false',Params.same_iff,RuleConfig.Definition.mk.injEq,QosPolicy.mk.injEq,funext_iff]
  tauto

theorem byName_some (found : byName rules name = some rule) : rule ∈ rules ∧ rule.name = name := by
  have present := mem_of_find?_eq_some found
  have named := find?_some found
  exact ⟨mem_reverse.mp present,by simpa using named⟩

theorem byName_none : byName rules name = none ↔ ∀ rule ∈ rules, rule.name ≠ name := by simp [byName]

theorem Named.unique (named : Named rules)
    (first : one ∈ rules) (second : two ∈ rules) (same : one.name = two.name) : one = two :=
  inj_on_of_nodup_map named first second same

theorem byName_mem (named : Named rules) (present : rule ∈ rules) :
    byName rules rule.name = some rule := by
  cases found : byName rules rule.name with
  | none => exact absurd rfl (byName_none.mp found rule present)
  | some other =>
    obtain ⟨there,same⟩ := byName_some found
    rw [named.unique there present same]

section Buckets
variable {old : GatewayConfig}

theorem mem_added : rule ∈ (old.diff new).added ↔ rule ∈ new.rules ∧ ∀ o ∈ old.rules, o.name ≠ rule.name := by
  simp [GatewayConfig.diff,byName_none]

theorem mem_changed (named : Named old.rules) : rule ∈ (old.diff new).changed ↔
    rule ∈ new.rules ∧ ∃ o ∈ old.rules, o.name = rule.name ∧ o.reloadDiffers rule = true := by
  simp only [GatewayConfig.diff,mem_filter,Option.any_eq_true]
  constructor
  · rintro ⟨present,o,found,differs⟩
    obtain ⟨there,same⟩ := byName_some found
    exact ⟨present,o,there,same,differs⟩
  · rintro ⟨present,o,there,same,differs⟩
    refine ⟨present,o,?_,differs⟩
    rw [← same]
    exact byName_mem named there

theorem mem_removed : name ∈ (old.diff new).removed ↔
    (∃ o ∈ old.rules, o.name = name) ∧ ∀ r ∈ new.rules, r.name ≠ name := by
  simp only [GatewayConfig.diff,mem_map,mem_filter]
  constructor
  · rintro ⟨o,⟨there,gone⟩,rfl⟩
    refine ⟨⟨o,there,rfl⟩,?_⟩
    simpa using gone
  · rintro ⟨⟨o,there,rfl⟩,gone⟩
    refine ⟨o,⟨there,?_⟩,rfl⟩
    simpa using gone

end Buckets

theorem validateRule_names (passed : validateRule env i seen rule = .ok later) :
    rule.name ∉ seen.names ∧ later.names = rule.name :: seen.names := by
  obtain ⟨_,named,passed⟩ := bind_ok passed
  obtain ⟨found,listened,passed⟩ := bind_ok passed
  have fresh : rule.name ∉ seen.names := by
    obtain ⟨_,_,named⟩ := bind_ok named
    simpa using require_ok named
  have kept : later = found := by
    iterate 9
      obtain ⟨_,_,passed⟩ := bind_ok passed
    cases passed
    rfl
  refine ⟨fresh,?_⟩
  subst kept
  unfold validateListen at listened
  split at listened
  · iterate 3
      obtain ⟨_,_,listened⟩ := bind_ok listened
    cases listened
    rfl
  · split at listened
    · cases listened
    · obtain ⟨_,_,listened⟩ := bind_ok listened
      cases listened
      rfl

theorem validateRules_named (passed : validateRules env i seen rules = .ok ()) :
    Named rules ∧ ∀ rule ∈ rules, rule.name ∉ seen.names := by
  induction rules generalizing i seen with
  | nil => exact ⟨nodup_nil,fun _ absent => absurd absent not_mem_nil⟩
  | cons rule rest ih =>
    obtain ⟨later,checked,passed⟩ := bind_ok passed
    obtain ⟨fresh,grown⟩ := validateRule_names checked
    obtain ⟨named,unseen⟩ := ih passed
    rw [grown] at unseen
    refine ⟨nodup_cons.mpr ⟨?_,named⟩,?_⟩
    · intro again
      obtain ⟨other,present,same⟩ := mem_map.mp again
      exact unseen other present (by rw [same]; exact mem_cons_self)
    · intro other present
      rcases mem_cons.mp present with rfl | present
      · exact fresh
      · exact fun old => unseen other present (mem_cons_of_mem _ old)

theorem validate_named {config : GatewayConfig} (valid : config.validate env = .ok ()) :
    Named config.rules := by
  obtain ⟨_,_,valid⟩ := bind_ok valid
  obtain ⟨_,_,valid⟩ := bind_ok valid
  obtain ⟨_,checked,_⟩ := bind_ok valid
  exact (validateRules_named checked).1

end Scg.Config
