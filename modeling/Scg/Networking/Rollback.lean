import Scg.Config.Validate
import Scg.Networking.Mirror

namespace Scg.Networking
open Program Chains

section Routing
variable {mirror : Bool → Chains → Prop} {outcomes : Nat → Outcome}
theorem addedRule_ruleLine : ruleLine addedRule = true := by decide +kernel

theorem addedRoute_routeLine : routeLine addedRoute = true := by decide +kernel

theorem erase_addedRule (lines : List String) : (addedRule :: lines).eraseP ruleLine = lines :=
  List.eraseP_cons_of_pos addedRule_ruleLine

theorem erase_addedRoute (new : lines.any routeLine = false) : (lines ++ [addedRoute]).eraseP routeLine = lines := by
  have none_fits : ∀ line ∈ lines, ¬ routeLine line = true := by simpa using new
  rw [List.eraseP_append_right _ none_fits,List.eraseP_cons_of_pos addedRoute_routeLine,List.append_nil]

theorem Intact.addRule (intact : Intact mirror before mgr now) (fresh : mgr.ownsRoutingRule = false)
    (new : before.rules.any ruleLine = false) :
    Intact mirror before {mgr with ownsRoutingRule := true} {now with rules := addedRule :: now.rules} := by
  refine ⟨intact.nat4,intact.nat6,intact.mangle4,intact.mangle6,?_,intact.routes,fun _ => new,intact.routeAdded⟩
  have same := intact.rules
  rw [fresh] at same
  exact congrArg (addedRule :: ·) same

theorem Intact.addRoute (intact : Intact mirror before mgr now) (fresh : mgr.ownsRoutingRoute = false)
    (new : before.routes.any routeLine = false) :
    Intact mirror before {mgr with ownsRoutingRoute := true} {now with routes := now.routes ++ [addedRoute]} := by
  refine ⟨intact.nat4,intact.nat6,intact.mangle4,intact.mangle6,intact.rules,?_,intact.ruleAdded,fun _ => new⟩
  have same := intact.routes
  rw [fresh] at same
  exact congrArg (· ++ [addedRoute]) same

theorem Intact.dropRule (intact : Intact mirror before {mgr with ownsRoutingRule := true} now)
    (fresh : mgr.ownsRoutingRule = false) : Intact mirror before mgr (removeRoutingRule now) := by
  refine ⟨intact.nat4,intact.nat6,intact.mangle4,intact.mangle6,?_,intact.routes,?_,intact.routeAdded⟩
  · have same : now.rules = addedRule :: before.rules := intact.rules
    rw [fresh,removeRoutingRule,same]
    exact erase_addedRule before.rules
  · intro owned
    rw [fresh] at owned
    cases owned

def Granted (mirror : Bool → Chains → Prop) (before : Host) (rule route : Bool) (w : World) : Prop :=
  Intact mirror before {w.mgr with ownsRoutingRule := rule,ownsRoutingRoute := route} w.host ∧ Fresh w.mgr

theorem Fresh.unowned (fresh : Fresh mgr) : {mgr with ownsRoutingRule := false,ownsRoutingRoute := false} = mgr := by
  obtain ⟨_,rule,route⟩ := fresh
  cases mgr
  subst rule route
  rfl

theorem granted_nothing : Granted mirror before false false w ↔ Intact mirror before w.mgr w.host ∧ Fresh w.mgr := by
  unfold Granted
  constructor
  · intro ⟨intact,fresh⟩
    rw [fresh.unowned] at intact
    exact ⟨intact,fresh⟩
  · intro ⟨intact,fresh⟩
    rw [fresh.unowned]
    exact ⟨intact,fresh⟩

theorem spec_addRule (new : before.rules.any ruleLine = false) :
    Spec (Granted mirror before false false) (runCmd outcomes .addRule) (fun _ => Granted mirror before true false)
      (fun _ w => Intact mirror before w.mgr w.host) := by
  apply spec_runCmd
  · intro w granted _
    exact ⟨granted.1.addRule rfl new,granted.2⟩
  · intro w granted _ _
    exact (granted_nothing.mp granted).1

theorem spec_addRoute (new : before.routes.any routeLine = false) :
    Spec (Granted mirror before needRule false) (addRoute outcomes needRule) (fun _ => Granted mirror before needRule true)
      (fun _ w => Intact mirror before w.mgr w.host) := by
  apply spec_attempt_bind (M := fun _ => Granted mirror before needRule true) (F := fun _ => Granted mirror before needRule false)
  · apply spec_runCmd
    · intro w granted _
      exact ⟨granted.1.addRoute rfl new,granted.2⟩
    · intro w granted _ _
      exact granted
  · intro value
    exact spec_pure fun w granted => granted
  · intro e
    apply spec_bind (M := fun _ => Granted mirror before false false)
    · apply spec_when
      · intro needed
        subst needed
        intro w granted
        exact ⟨granted.1.dropRule rfl,granted.2⟩
      · intro unneeded w granted
        subst unneeded
        exact granted
    · intro _
      exact spec_fail fun w granted => (granted_nothing.mp granted).1

theorem needed_of_fresh (intact : Intact mirror before mgr now) (fresh : Fresh mgr) :
    routingPolicyNeeded now.rules now.routes = (!before.rules.any ruleLine,!before.routes.any routeLine) := by
  have rules := intact.rules
  have routes := intact.routes
  rw [fresh.rule] at rules
  rw [fresh.route] at routes
  rw [rules,routes]
  rfl

theorem spec_ensureRoutingPolicy :
    Spec (fun w => Intact mirror before w.mgr w.host ∧ Fresh w.mgr) (ensureRoutingPolicy outcomes)
      (fun added => Granted mirror before added.1 added.2) (fun _ w => Intact mirror before w.mgr w.host) := by
  apply spec_get_bind
  intro seen ⟨intact,fresh⟩ w same
  subst same
  have granted := granted_nothing.mpr ⟨intact,fresh⟩
  have needed := needed_of_fresh intact fresh
  rw [needed]
  generalize found : before.rules.any ruleLine = haveRule
  generalize foundRoute : before.routes.any routeLine = haveRoute
  have both : Spec (Granted mirror before false false)
      (when (!haveRule) (runCmd outcomes .addRule) >>= fun _ =>
        when (!haveRoute) (addRoute outcomes (!haveRule)) >>= fun _ => pure (!haveRule,!haveRoute))
      (fun added => Granted mirror before added.1 added.2) (fun _ w => Intact mirror before w.mgr w.host) := by
    apply spec_bind (M := fun _ => Granted mirror before (!haveRule) false)
    · apply spec_when
      · intro absent
        rw [absent]
        have new : before.rules.any ruleLine = false := by simpa [found] using absent
        exact spec_addRule new
      · intro present w granted
        rwa [present]
    intro _
    apply spec_bind (M := fun _ => Granted mirror before (!haveRule) (!haveRoute))
    · apply spec_when
      · intro absent
        rw [absent]
        have new : before.routes.any routeLine = false := by simpa [foundRoute] using absent
        exact spec_addRoute new
      · intro present w granted
        rwa [present]
    · intro _
      exact spec_pure fun w granted => granted
  exact both w granted

end Routing

structure Filling (mirror : Bool → Chains → Prop) (before : Host) (w : World) : Prop where
  intact : Intact mirror before w.mgr w.host
  owned : w.mgr.ownsDecryptChain = true

section Decrypt
variable {mirror : Bool → Chains → Prop} {outcomes : Nat → Outcome}

theorem covered_mangle4 (filling : Filling mirror before w) :
    Covered CHAIN_DECRYPT (before.tables .v4 .mangle) (w.host.tables .v4 .mangle) :=
  filling.intact.mangle4.covered filling.owned

theorem filling_mangle4 {change : Chains → Chains} (filling : Filling mirror before w) (ran : Nat)
    (covered : Covered CHAIN_DECRYPT (before.tables .v4 .mangle) (change (w.host.tables .v4 .mangle))) :
    Filling mirror before ⟨w.host.alter .v4 .mangle change,w.mgr,ran⟩ := by
  have same : {w.mgr with ownsDecryptChain := true} = w.mgr := by rw [←filling.owned]
  have intact := filling.intact.alter_mangle4 covered
  rw [same] at intact
  exact ⟨intact,filling.owned⟩

theorem keeps_append_mangle4 (entry : Entry) :
    Keeps (Filling mirror before) (runCmd outcomes (.append .v4 .mangle CHAIN_DECRYPT entry)) := by
  apply spec_runCmd
  · intro w filling _
    exact filling_mangle4 filling _ (covered_append entry (covered_mangle4 filling))
  · intro w filling _ _
    exact ⟨filling.intact,filling.owned⟩

theorem keeps_excludeRule (rule : Config.RuleConfig × Config.InterceptConfig) :
    Keeps (Filling mirror before) (excludeRule outcomes std rule) := by
  unfold excludeRule
  split
  · exact spec_pure fun w filling => filling
  · apply spec_bind (keeps_listenPort std rule.1)
    intro port
    exact keeps_append_mangle4 _

theorem keeps_tproxyRule (rule : Config.RuleConfig × Config.InterceptConfig) :
    Keeps (Filling mirror before) (tproxyRule outcomes std rule) := by
  unfold tproxyRule
  split
  · exact spec_pure fun w filling => filling
  · apply spec_bind (keeps_listenPort std rule.1)
    intro port
    exact spec_each fun src _ => keeps_append_mangle4 _

theorem spec_ensureDecryptChain (clean : CleanHost before) :
    Spec (fun w => Intact mirror before w.mgr w.host ∧ Fresh w.mgr) (ensureDecryptChain outcomes std rules)
      (fun _ w => Intact mirror before w.mgr w.host) (fun _ w => Intact mirror before w.mgr w.host) := by
  apply spec_bind spec_ensureRoutingPolicy
  intro added
  apply spec_bind (M := fun _ w => Intact mirror before w.mgr w.host ∧ w.mgr.ownsDecryptChain = false)
  · exact spec_modify fun w granted => ⟨granted.1,granted.2.chain⟩
  intro _
  apply spec_bind (M := fun _ w => Intact mirror before {w.mgr with ownsDecryptChain := true} w.host)
  · have unowned : ∀ w : World, Intact mirror before w.mgr w.host ∧ w.mgr.ownsDecryptChain = false →
        w.host.tables .v4 .mangle = before.tables .v4 .mangle := by
      intro w ⟨intact,none_owned⟩
      exact intact.mangle4.unchanged none_owned
    apply spec_create
    · intro w holds
      rw [unowned w holds]
      exact (clean .v4 .mangle).2.absent
    · intro w holds _
      apply holds.1.alter_mangle4
      rw [unowned w holds]
      exact covered_create (clean .v4 .mangle).2
    · intro w holds _ _
      exact holds.1
  intro _
  apply spec_bind (M := fun _ => Filling mirror before)
  · exact spec_modify fun w intact => ⟨intact,rfl⟩
  intro _
  have ended : Keeps (Filling mirror before) (ensureJump outcomes .v4 .mangle "PREROUTING" CHAIN_DECRYPT >>= fun _ =>
      runCmd outcomes (.append .v4 .mangle CHAIN_DECRYPT .transparentReturn) >>= fun _ =>
      each (excludeRule outcomes std) rules >>= fun _ => each (tproxyRule outcomes std) rules) := by
    apply spec_bind (M := fun _ => Filling mirror before)
    · apply spec_jump
      · intro w filling _
        exact filling
      · intro w filling missing _
        exact filling_mangle4 filling _ (covered_jump (covered_mangle4 filling) (by decide) (by decide) missing)
      · intro w filling _ _ _
        exact ⟨filling.intact,filling.owned⟩
    intro _
    apply spec_bind (keeps_append_mangle4 _)
    intro _
    apply spec_bind (spec_each fun rule _ => keeps_excludeRule rule)
    intro _
    exact spec_each fun rule _ => keeps_tproxyRule rule
  exact ended.weaken (fun _ filling => filling) (fun _ _ filling => filling.intact) fun _ _ filling => filling.intact

end Decrypt

section Teardown
variable {mirror : Bool → Chains → Prop} {before : Host} {owned : Bool}
theorem remove_same (own : chain ∉ builtIn) (clean : Clean chain (before.tables family table))
    (known : Owned owned chain (before.tables family table) (host.tables family table)) :
    (if owned then removeChain family table chain host else host).tables family table = before.tables family table := by
  cases owned with
  | true =>
    rw [if_pos rfl,removeChain,alter_same]
    exact covered_removed clean known own
  | false => exact known

theorem remove_other (apart : ¬ (f = family ∧ t = table)) :
    (if owned then removeChain family table chain host else host).tables f t = host.tables f t := by
  cases owned with
  | true =>
    rw [if_pos rfl]
    exact alter_other _ _ apart
  | false => rfl

theorem remove_congr (same : host.tables family table = now.tables family table) :
    (if owned then removeChain family table chain host else host).tables family table =
      (if owned then removeChain family table chain now else now).tables family table := by
  cases owned with
  | true => simp only [if_true,removeChain,alter_same,same]
  | false => exact same

theorem remove_rules : (if owned then removeChain family table chain host else host).rules = host.rules := by
  cases owned <;> rfl

theorem remove_routes : (if owned then removeChain family table chain host else host).routes = host.routes := by
  cases owned <;> rfl

theorem dropRule_tables : (if owned then removeRoutingRule host else host).tables = host.tables := by
  cases owned <;> rfl

theorem dropRule_routes : (if owned then removeRoutingRule host else host).routes = host.routes := by
  cases owned <;> rfl

theorem dropRoute_tables : (if owned then removeRoutingRoute host else host).tables = host.tables := by
  cases owned <;> rfl

theorem dropRoute_rules : (if owned then removeRoutingRoute host else host).rules = host.rules := by
  cases owned <;> rfl

-- The teardown takes back all that is owned; of the IPv6 table it takes the owned chain only.
theorem teardown_tables (clean : CleanHost before) (intact : Intact mirror before mgr now) :
    (mgr.teardown now).tables .v4 .nat = before.tables .v4 .nat ∧
    (mgr.teardown now).tables .v6 .nat =
      (if mgr.ownsEncryptChainV6 then removeChain .v6 .nat CHAIN_ENCRYPT now else now).tables .v6 .nat ∧
    (mgr.teardown now).tables .v4 .mangle = before.tables .v4 .mangle ∧
    (mgr.teardown now).tables .v6 .mangle = before.tables .v6 .mangle := by
  simp only [FirewallManager.teardown,dropRoute_tables,dropRule_tables]
  refine ⟨?_,?_,?_,?_⟩
  · rw [remove_other (by decide),remove_other (by decide)]
    exact remove_same (by decide) (clean .v4 .nat).1 intact.nat4
  · rw [remove_other (by decide)]
    apply remove_congr
    rw [remove_other (by decide)]
  · apply remove_same (by decide) (clean .v4 .mangle).2
    rw [remove_other (by decide),remove_other (by decide)]
    exact intact.mangle4
  · rw [remove_other (by decide),remove_other (by decide),remove_other (by decide)]
    exact intact.mangle6

theorem teardown_rules (intact : Intact mirror before mgr now) : (mgr.teardown now).rules = before.rules := by
  have same := intact.rules
  simp only [FirewallManager.teardown,dropRoute_rules]
  cases owned : mgr.ownsRoutingRule with
  | true =>
    rw [owned,if_pos rfl] at same
    simp only [if_true,removeRoutingRule,remove_rules]
    rw [same,erase_addedRule]
  | false =>
    rw [owned] at same
    simp only [Bool.false_eq_true,if_false,remove_rules]
    exact same

theorem teardown_routes (intact : Intact mirror before mgr now) : (mgr.teardown now).routes = before.routes := by
  have same := intact.routes
  simp only [FirewallManager.teardown]
  cases owned : mgr.ownsRoutingRoute with
  | true =>
    rw [owned,if_pos rfl] at same
    simp only [if_true,removeRoutingRoute,dropRule_routes,remove_routes]
    rw [same,erase_addedRoute (intact.routeAdded owned)]
  | false =>
    rw [owned] at same
    simp only [Bool.false_eq_true,if_false,dropRule_routes,remove_routes]
    exact same

theorem host_ext {one two : Host} (tables : ∀ family table, one.tables family table = two.tables family table)
    (rules : one.rules = two.rules) (routes : one.routes = two.routes) : one = two := by
  obtain ⟨first,_,_⟩ := one
  obtain ⟨second,_,_⟩ := two
  have same : first = second := funext fun family => funext fun table => tables family table
  subst same
  cases rules
  cases routes
  rfl

theorem teardown_whole (clean : CleanHost before) (intact : Intact (whole before) before mgr now) :
    mgr.teardown now = before := by
  obtain ⟨nat4,nat6,mangle4,mangle6⟩ := teardown_tables clean intact
  apply host_ext
  · intro family table
    cases family with
    | v4 =>
      cases table with
      | nat => exact nat4
      | mangle => exact mangle4
    | v6 =>
      cases table with
      | nat =>
        rw [nat6]
        exact remove_same (by decide) (clean .v6 .nat).1 intact.nat6
      | mangle => exact mangle6
  · exact teardown_rules intact
  · exact teardown_routes intact

theorem teardown_broken (clean : CleanHost before) (intact : Intact broken before mgr now) :
    ((mgr.teardown now).tables .v6 .nat CHAIN_ENCRYPT).isSome := by
  obtain ⟨unowned,present⟩ := intact.nat6
  rwa [(teardown_tables clean intact).2.1,unowned]

end Teardown

section Install
variable {outcomes : Nat → Outcome}

theorem settled_decrypt (clean : CleanHost before) :
    Spec (fun w => Settled outcomes rules before w ∧ Fresh w.mgr) (ensureDecryptChain outcomes std rules)
      (fun _ => Settled outcomes rules before) (fun _ => Settled outcomes rules before) := by
  have decrypt : ∀ mirror, Spec (fun w => Intact mirror before w.mgr w.host ∧ Fresh w.mgr)
      (ensureDecryptChain outcomes std rules) (fun _ w => Intact mirror before w.mgr w.host)
      (fun _ w => Intact mirror before w.mgr w.host) := fun mirror => spec_ensureDecryptChain clean
  have either := spec_or (spec_fact (F := Torn outcomes rules) (decrypt broken))
    (spec_fact (F := ¬ Torn outcomes rules) (decrypt (whole before)))
  apply either.weaken
  · intro w ⟨settled,fresh⟩
    exact settled.imp (fun broke => ⟨broke.1,broke.2,fresh⟩) fun fine => ⟨fine.1,fine.2,fresh⟩
  · exact fun _ _ settled => settled
  · exact fun _ _ settled => settled

theorem spec_install (clean : CleanHost before) :
    Spec (Untouched before) (install outcomes std uid rules) (fun _ => Settled outcomes rules before)
      (fun _ => Settled outcomes rules before) := by
  apply spec_bind (M := fun _ w => Settled outcomes rules before w ∧ Fresh w.mgr)
  · apply spec_when
    · intro _
      exact (spec_ensureEncryptChain clean).weaken (fun _ untouched => untouched)
        (fun _ _ built => ⟨built.settled,built.fresh⟩) fun _ _ settled => settled
    · intro unneeded w untouched
      have no_mirror : rules.needsV6Mirror ≠ true := by
        intro needed
        rw [has_egress_of_mirror needed,Bool.or_true] at unneeded
        cases unneeded
      refine ⟨.inr ⟨not_torn_of_unneeded no_mirror,untouched.intact⟩,?_⟩
      rw [untouched.empty]
      exact ⟨rfl,rfl,rfl⟩
  · intro _
    apply spec_when
    · intro _
      exact settled_decrypt clean
    · intro _ w settled
      exact settled.1

theorem untouched_host (host : Host) : Untouched host ⟨host,{},0⟩ :=
  ⟨⟨rfl,rfl,rfl,rfl,rfl,rfl,nofun,nofun⟩,rfl,rfl⟩

end Install

structure RolledBack (before after : Host) : Prop where
  chains : ∀ family table, after.tables family table CHAIN_ENCRYPT = none ∧ after.tables family table CHAIN_DECRYPT = none
  jumps : ∀ family table parent, jumps CHAIN_ENCRYPT parent (after.tables family table) = false ∧
    jumps CHAIN_DECRYPT parent (after.tables family table) = false
  rules : after.rules = before.rules
  routes : after.routes = before.routes

def Undone (outcomes : Nat → Outcome) (std : Net.Std) (uid : UInt32) (config : Config.GatewayConfig) (before : Host) : Prop :=
  match setup outcomes std uid config before with
  | (.error _,after) => RolledBack before after
  | (.ok mgr,after) => RolledBack before (mgr.teardown after)

section Undone
variable {outcomes : Nat → Outcome}

theorem rolledBack_refl (clean : CleanHost before) : RolledBack before before := by
  refine ⟨?_,?_,rfl,rfl⟩
  · intro family table
    exact ⟨(clean family table).1.absent,(clean family table).2.absent⟩
  · intro family table parent
    exact ⟨clean_unjumped (clean family table).1,clean_unjumped (clean family table).2⟩

theorem undone_teardown (outcomes : Nat → Outcome) (std : Net.Std) (uid : UInt32) (config : Config.GatewayConfig)
    (clean : CleanHost before) : ∃ w, Settled outcomes (interceptsOf config) before w ∧
      (Undone outcomes std uid config before ↔ RolledBack before (w.mgr.teardown w.host)) := by
  have installed : Spec (Untouched before) (install outcomes std uid (interceptsOf config))
      (fun _ => Settled outcomes (interceptsOf config) before) (fun _ => Settled outcomes (interceptsOf config) before) :=
    spec_install clean
  have ended := installed _ (untouched_host before)
  unfold Undone setup
  generalize install outcomes std uid (interceptsOf config) ⟨before,{},0⟩ = result at ended
  obtain ⟨value,w⟩ := result
  cases value <;> exact ⟨w,ended,Iff.rfl⟩

theorem undone_of_not_torn (clean : CleanHost before) (fine : ¬ Torn outcomes (interceptsOf config)) :
    Undone outcomes std uid config before := by
  obtain ⟨w,settled,decides⟩ := undone_teardown outcomes std uid config clean
  rcases settled with ⟨torn,_⟩ | ⟨_,intact⟩
  · exact absurd torn fine
  · rw [decides,teardown_whole clean intact]
    exact rolledBack_refl clean

theorem not_undone_of_torn (clean : CleanHost before) (torn : Torn outcomes (interceptsOf config)) :
    ¬ Undone outcomes std uid config before := by
  obtain ⟨w,settled,decides⟩ := undone_teardown outcomes std uid config clean
  rw [decides]
  rcases settled with ⟨_,intact⟩ | ⟨fine,_⟩
  · intro rolledBack
    have left := teardown_broken clean intact
    rw [(rolledBack.chains .v6 .nat).1] at left
    cases left
  · exact absurd torn fine

end Undone

theorem firewall_rollback (outcomes : Nat → Outcome) (std : Net.Std) (uid : UInt32) (config : Config.GatewayConfig)
    (before : Host) (clean : CleanHost before) :
    Undone outcomes std uid config before ↔ ¬ Torn outcomes (interceptsOf config) :=
  ⟨fun undone torn => not_undone_of_torn clean torn undone,undone_of_not_torn clean⟩

def browserRule : Config.RuleConfig :=
  {name := "browser",direction := .encrypt,listenAddr := "127.0.0.1:8443",upstreamAddr := "10.0.0.1:443"
   securityProvider := "routing"
   intercept := some ⟨.egressRedirect,none,"443",["127.0.0.1"],[],none⟩}

def transparentRule : Config.RuleConfig :=
  {name := "transparent",direction := .decrypt,listenAddr := "0.0.0.0:9443",upstreamAddr := "10.0.0.2:443"
   securityProvider := "routing",transparent := true
   intercept := some ⟨.tproxy,none,"8443",[],["192.168.1.0/24"],none⟩}

def interceptParsers : Config.Parsers :=
  {std := .ipv4,tlsParams := fun _ _ => .ok false,wireguardParams := fun _ => .ok ()}

-- A host whose built-in chains hold one entry of somebody else, with a policy rule for the same
-- mark and table.
def sharedHost : Host where
  tables _ _ chain := if chain ∈ builtIn then some [.other ["-j","ACCEPT"]] else none
  rules := ["0:\tfrom all lookup local","100:\tfrom all fwmark 0x1 lookup 100"]
  routes := []

theorem sharedHost_clean : CleanHost sharedHost := by
  have foreign : ∀ chain, chain ∉ builtIn → ∀ family table, Clean chain (sharedHost.tables family table) := by
    intro chain own family table
    refine ⟨if_neg own,?_⟩
    intro parent entries held
    obtain ⟨_,held⟩ := Option.ite_none_right_eq_some.mp held
    cases held
    simp
  intro family table
  exact ⟨foreign _ (by decide) family table,foreign _ (by decide) family table⟩

def mirrorFails (n : Nat) : Outcome := if n = 4 then .failed (some 1) "" else .succeeded

theorem firewall_leaves_mirror :
    (Config.GatewayConfig.validate interceptParsers {rules := [browserRule]}) = .ok () ∧ CleanHost sharedHost ∧
      ¬ Undone mirrorFails .ipv4 0 {rules := [browserRule]} sharedHost := by
  refine ⟨by decide +kernel,sharedHost_clean,?_⟩
  apply not_undone_of_torn sharedHost_clean
  exact ⟨by decide +kernel,by decide +kernel,by decide +kernel,by decide +kernel⟩

def lastFails (n : Nat) : Outcome := if n = 13 then .failed (some 2) "" else .succeeded

def bothRules : Config.GatewayConfig := {rules := [browserRule,transparentRule]}

theorem firewall_rollback_last : CleanHost sharedHost ∧ Undone lastFails .ipv4 0 bothRules sharedHost := by
  refine ⟨sharedHost_clean,?_⟩
  -- Rewriting leaves `Undone` folded, where applying the equivalence would run the whole setup.
  rw [firewall_rollback lastFails .ipv4 0 bothRules sharedHost sharedHost_clean]
  intro torn
  have start : mirrorStart (interceptsOf bothRules) = 3 := by decide +kernel
  have stopped := torn.stopped
  rw [start] at stopped
  exact stopped ⟨by decide,by decide⟩

end Scg.Networking
