import Scg.Networking.Chains
import Scg.Networking.Firewall

namespace Scg.Networking
open Program Chains

def CleanHost (host : Host) : Prop :=
  ∀ family table, Clean CHAIN_ENCRYPT (host.tables family table) ∧ Clean CHAIN_DECRYPT (host.tables family table)

def Owned (owned : Bool) (chain : String) (before now : Chains) : Prop :=
  if owned then Covered chain before now else now = before

section Owned
theorem Owned.covered (holds : Owned owned chain before now) (yes : owned = true) : Covered chain before now := by
  rwa [yes] at holds

theorem Owned.unchanged (holds : Owned owned chain before now) (no : owned = false) : now = before := by
  rwa [no] at holds

end Owned

-- What the manager owns is all that a setup has changed; `mirror` is what is known of the
-- IPv6 table, given whether it is owned.
structure Intact (mirror : Bool → Chains → Prop) (before : Host) (mgr : FirewallManager) (now : Host) : Prop where
  nat4 : Owned mgr.ownsEncryptChain CHAIN_ENCRYPT (before.tables .v4 .nat) (now.tables .v4 .nat)
  nat6 : mirror mgr.ownsEncryptChainV6 (now.tables .v6 .nat)
  mangle4 : Owned mgr.ownsDecryptChain CHAIN_DECRYPT (before.tables .v4 .mangle) (now.tables .v4 .mangle)
  mangle6 : now.tables .v6 .mangle = before.tables .v6 .mangle
  rules : now.rules = if mgr.ownsRoutingRule then addedRule :: before.rules else before.rules
  routes : now.routes = if mgr.ownsRoutingRoute then before.routes ++ [addedRoute] else before.routes
  ruleAdded : mgr.ownsRoutingRule = true → before.rules.any ruleLine = false
  routeAdded : mgr.ownsRoutingRoute = true → before.routes.any routeLine = false

def whole (before : Host) (owned : Bool) (now : Chains) : Prop := Owned owned CHAIN_ENCRYPT (before.tables .v6 .nat) now

def broken (owned : Bool) (now : Chains) : Prop := owned = false ∧ (now CHAIN_ENCRYPT).isSome

def Grows (mirror : Bool → Chains → Prop) : Prop :=
  ∀ now entry, mirror true now → mirror true (append CHAIN_ENCRYPT entry now)

theorem grows_whole (before : Host) : Grows (whole before) := by
  intro now entry covered
  exact covered_append entry covered

theorem grows_broken : Grows broken := by
  intro now entry impossible
  cases impossible.1

section Host
variable {mirror : Bool → Chains → Prop} {change : Chains → Chains}

theorem alter_same (host : Host) (family : Family) (table : Table) (change : Chains → Chains) :
    (host.alter family table change).tables family table = change (host.tables family table) := by simp [Host.alter]

theorem alter_other (host : Host) (change : Chains → Chains)
    (apart : ¬ (f = family ∧ t = table)) : (host.alter family table change).tables f t = host.tables f t := by
  simp only [Host.alter,if_neg apart]

section
variable (intact : Intact mirror before mgr now)
include intact

theorem Intact.alter_nat4 (covered : Covered CHAIN_ENCRYPT (before.tables .v4 .nat) (change (now.tables .v4 .nat))) :
    Intact mirror before {mgr with ownsEncryptChain := true} (now.alter .v4 .nat change) := by
  refine ⟨?_,?_,?_,?_,intact.rules,intact.routes,intact.ruleAdded,intact.routeAdded⟩
  · rwa [alter_same]
  · exact intact.nat6
  · exact intact.mangle4
  · exact intact.mangle6

variable {next : Bool → Chains → Prop}

theorem Intact.alter_nat6
    (mirrored : next owned (change (now.tables .v6 .nat))) :
    Intact next before {mgr with ownsEncryptChainV6 := owned} (now.alter .v6 .nat change) := by
  refine ⟨?_,?_,?_,?_,intact.rules,intact.routes,intact.ruleAdded,intact.routeAdded⟩
  · exact intact.nat4
  · rwa [alter_same]
  · exact intact.mangle4
  · exact intact.mangle6

theorem Intact.remirror
    (mirrored : next owned (now.tables .v6 .nat)) : Intact next before {mgr with ownsEncryptChainV6 := owned} now :=
  ⟨intact.nat4,mirrored,intact.mangle4,intact.mangle6,intact.rules,intact.routes,intact.ruleAdded,intact.routeAdded⟩

theorem Intact.alter_mangle4
    (covered : Covered CHAIN_DECRYPT (before.tables .v4 .mangle) (change (now.tables .v4 .mangle))) :
    Intact mirror before {mgr with ownsDecryptChain := true} (now.alter .v4 .mangle change) := by
  refine ⟨?_,?_,?_,?_,intact.rules,intact.routes,intact.ruleAdded,intact.routeAdded⟩
  · exact intact.nat4
  · exact intact.nat6
  · rwa [alter_same]
  · exact intact.mangle6

end

end Host

def Through (outcomes : Nat → Outcome) (n : Nat) (w : World) : Prop := w.ran = n ∧ ∀ i < n, outcomes i = .succeeded

section Commands
variable {outcomes : Nat → Outcome} {P : World → Prop} {Q : Unit → World → Prop} {R : String → World → Prop}

theorem spec_runCmd (done : ∀ w, P w → outcomes w.ran = .succeeded → Q () ⟨command.apply w.host,w.mgr,w.ran+1⟩)
    (failed : ∀ w, P w → outcomes w.ran ≠ .succeeded → ∀ e, R e ⟨w.host,w.mgr,w.ran+1⟩) :
    Spec P (runCmd outcomes command) Q R := by
  intro w holds
  unfold runCmd
  cases ended : outcomes w.ran with
  | succeeded => exact done w holds ended
  | notExecuted | failed => exact failed w holds (by simp [ended]) _

theorem spec_create (absent : ∀ w, P w → w.host.tables family table chain = none)
    (done : ∀ w, P w → outcomes w.ran = .succeeded → Q () ⟨w.host.alter family table (create chain),w.mgr,w.ran+1⟩)
    (failed : ∀ w, P w → outcomes w.ran ≠ .succeeded → ∀ e, R e ⟨w.host,w.mgr,w.ran+1⟩) :
    Spec P (createOrFlushChain outcomes family table chain) Q R := by
  apply spec_get_bind
  intro seen holds w same
  subst same
  rw [absent w holds]
  exact spec_runCmd (P := P) done failed w holds

theorem spec_jump (there : ∀ w, P w → jumps chain parent (w.host.tables family table) = true → Q () w)
    (done : ∀ w, P w → jumps chain parent (w.host.tables family table) = false → outcomes w.ran = .succeeded →
      Q () ⟨w.host.alter family table (append parent (.jump chain)),w.mgr,w.ran+1⟩)
    (failed : ∀ w, P w → jumps chain parent (w.host.tables family table) = false → outcomes w.ran ≠ .succeeded →
      ∀ e, R e ⟨w.host,w.mgr,w.ran+1⟩) : Spec P (ensureJump outcomes family table parent chain) Q R := by
  apply spec_get_bind
  intro seen holds w same
  subst same
  cases present : jumps chain parent (w.host.tables family table) with
  | true => exact there w holds present
  | false =>
    have run : Spec (fun w => P w ∧ jumps chain parent (w.host.tables family table) = false)
        (runCmd outcomes (.append family table parent (.jump chain))) Q R :=
      spec_runCmd (fun w holds => done w holds.1 holds.2) fun w holds => failed w holds.1 holds.2
    exact run w ⟨holds,present⟩

theorem spec_newJump (missing : ∀ w, P w → jumps chain parent (w.host.tables family table) = false)
    (done : ∀ w, P w → outcomes w.ran = .succeeded →
      Q () ⟨w.host.alter family table (append parent (.jump chain)),w.mgr,w.ran+1⟩)
    (failed : ∀ w, P w → outcomes w.ran ≠ .succeeded → ∀ e, R e ⟨w.host,w.mgr,w.ran+1⟩) :
    Spec P (ensureJump outcomes family table parent chain) Q R := by
  apply spec_jump
  · intro w holds there
    rw [missing w holds] at there
    cases there
  · exact fun w holds _ => done w holds
  · exact fun w holds _ => failed w holds

theorem keeps_listenPort {I : World → Prop} (std : Net.Std) (rule : Config.RuleConfig) :
    Spec I (ofExcept (listenPort std rule)) (fun _ => I) (fun _ => I) :=
  spec_ofExcept (fun _ _ _ holds => holds) fun _ _ _ holds => holds

end Commands

structure Fresh (mgr : FirewallManager) : Prop where
  chain : mgr.ownsDecryptChain = false
  rule : mgr.ownsRoutingRule = false
  route : mgr.ownsRoutingRoute = false

structure Building (mirror : Bool → Chains → Prop) (before : Host) (w : World) : Prop where
  intact : Intact mirror before w.mgr w.host
  owned : w.mgr.ownsEncryptChain = true
  fresh : Fresh w.mgr

def Keeps (I : World → Prop) (program : Setup Unit) : Prop := Spec I program (fun _ => I) (fun _ => I)

section Encrypt
variable {mirror : Bool → Chains → Prop} {outcomes : Nat → Outcome}

section
variable (building : Building mirror before w)
include building

theorem covered_nat4 : Covered CHAIN_ENCRYPT (before.tables .v4 .nat) (w.host.tables .v4 .nat) :=
  building.intact.nat4.covered building.owned

variable {change : Chains → Chains} (ran : Nat)

theorem building_nat4
    (covered : Covered CHAIN_ENCRYPT (before.tables .v4 .nat) (change (w.host.tables .v4 .nat))) :
    Building mirror before ⟨w.host.alter .v4 .nat change,w.mgr,ran⟩ := by
  have same : {w.mgr with ownsEncryptChain := true} = w.mgr := by rw [←building.owned]
  have intact := building.intact.alter_nat4 covered
  rw [same] at intact
  exact ⟨intact,building.owned,building.fresh⟩

theorem building_nat6
    (mirrored : mirror w.mgr.ownsEncryptChainV6 (change (w.host.tables .v6 .nat))) :
    Building mirror before ⟨w.host.alter .v6 .nat change,w.mgr,ran⟩ :=
  ⟨building.intact.alter_nat6 mirrored,building.owned,building.fresh⟩

theorem building_ran : Building mirror before ⟨w.host,w.mgr,ran⟩ :=
  ⟨building.intact,building.owned,building.fresh⟩

end

theorem keeps_append_nat4 (entry : Entry) :
    Keeps (Building mirror before) (runCmd outcomes (.append .v4 .nat CHAIN_ENCRYPT entry)) := by
  apply spec_runCmd
  · intro w building _
    exact building_nat4 building _ (covered_append entry (covered_nat4 building))
  · intro w building _ _
    exact building_ran building _

theorem keeps_redirectDst (grows : Grows mirror) (proto dports : String) (port : UInt16) (dst : String) :
    Keeps (Building mirror before) (redirectDst outcomes proto dports port dst) := by
  apply spec_bind (keeps_append_nat4 _)
  intro _
  apply spec_get_bind
  intro seen building
  apply spec_when
  · intro chosen
    have owned := (Bool.and_eq_true_iff.mp chosen).2
    apply spec_ignore
    apply spec_runCmd
    · intro w same _
      subst same
      have mirrored := building.intact.nat6
      apply building_nat6 building
      rw [owned] at mirrored ⊢
      exact grows _ _ mirrored
    · intro w same _ _
      subst same
      exact building_ran building _
  · intro _ w same
    subst same
    exact building

theorem keeps_redirectRule (grows : Grows mirror) (rule : Config.RuleConfig × Config.InterceptConfig) :
    Keeps (Building mirror before) (redirectRule outcomes std rule) := by
  unfold redirectRule
  split
  · exact spec_pure fun w building => building
  · apply spec_bind (keeps_listenPort std rule.1)
    intro port
    split
    · exact keeps_append_nat4 _
    · exact spec_each fun dst _ => keeps_redirectDst grows _ _ _ dst
    · exact spec_pure fun w building => building

end Encrypt

end Scg.Networking
