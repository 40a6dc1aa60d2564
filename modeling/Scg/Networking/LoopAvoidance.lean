import Scg.Library.Precedence
import Scg.Networking.Fates

-- Packets that the gateway sends itself, or that have come to one of its listeners, are not
-- intercepted again.
namespace Scg.Networking
open Config Net FirstMatch Precedence List

def Entry.redirects (entry : Entry) : Bool := entry.mode.isSome

def Entry.delivers : Entry → Bool
  | .tproxy _ _ _ _ => true
  | _ => false

def decryptChain (host : Host) : List Entry := (host.tables .v4 .mangle CHAIN_DECRYPT).getD []

-- A rule with an intercept block listens on TCP or UDP.
def listenedProto (rule : RuleConfig) : String :=
  match rule.listenProto with
  | .udp => "udp"
  | _ => "tcp"

-- The guards stand before what they guard, and so no packet that is to pass is intercepted,
-- whatever the entries of others do.
structure LoopFree (std : Std) (uid : UInt32) (rules : Intercepts) (mgr : FirewallManager) (host : Host) : Prop where
  output : ∀ family, mgr.owns family = true → .jump CHAIN_ENCRYPT ∈ (host.tables family .nat "OUTPUT").getD [] →
    Preceded (behind (.ownerReturn uid) Entry.redirects) ((host.tables family .nat CHAIN_ENCRYPT).getD [])
  transparent : rules.has .tproxy = true → Preceded (behind .transparentReturn Entry.delivers) (decryptChain host)
  listeners : ∀ rule ∈ rules, rule.2.mode = .tproxy →
    Preceded (behind (.portReturn (listenedProto rule.1) (portOf std rule.1)) Entry.delivers) (decryptChain host)
  own : ∀ others packet entry, mgr.owns packet.family = true → packet.origin = .locally (some uid) →
    traverse std others host packet ≠ some (.redirected entry)
  arrivals : ∀ others arrival port, arrival.family = .v4 → ∀ rule ∈ rules, rule.2.mode = .tproxy →
    arrival.proto = listenedProto rule.1 → arrival.dport = portOf std rule.1 →
    mangleFate std others arrival host ≠ some (.delivered port)

-- No jump of an earlier run is left in OUTPUT for a chain without the own uid's entry, and each
-- transparent listener has an entry for its protocol.
structure Avoids (std : Std) (rules : Intercepts) (host : Host) : Prop where
  output : rules.has .egressRedirect = true ∨ rules.has .ingressRedirect = false ∨
    Chains.jumps CHAIN_ENCRYPT "OUTPUT" (host.tables .v4 .nat) = false
  listeners : ∀ rule ∈ rules, rule.2.mode = .tproxy → ∃ other ∈ rules, other.2.mode = .tproxy ∧
    interceptProto other.1 other.2 = listenedProto rule.1 ∧ portOf std other.1 = portOf std rule.1

section Output
theorem EntryOf.redirects (entryOf : EntryOf std rule entry) : entry.redirects = true := by
  simp [Entry.redirects,entryOf.mode]

theorem owner_precedes (rest : List Entry) :
    Preceded (behind (.ownerReturn uid) Entry.redirects) ([.ownerReturn uid] ++ rest) :=
  preceded_behind (by simp [Entry.redirects,Entry.mode]) mem_cons_self

theorem output_guarded_iff (installed : Installed std uid rules before mgr now) :
    (∀ family, mgr.owns family = true → .jump CHAIN_ENCRYPT ∈ (now.tables family .nat "OUTPUT").getD [] →
      Preceded (behind (.ownerReturn uid) Entry.redirects) ((now.tables family .nat CHAIN_ENCRYPT).getD [])) ↔
      rules.has .egressRedirect = true ∨ rules.has .ingressRedirect = false ∨
        Chains.jumps CHAIN_ENCRYPT "OUTPUT" (before.tables .v4 .nat) = false := by
  constructor
  · intro guarded
    by_contra! failing
    obtain ⟨unowned,ingress,jumped⟩ := failing
    have ingress : rules.has .ingressRedirect = true := by simpa using ingress
    have owned : mgr.owns .v4 = true := by
      show mgr.ownsEncryptChain = true
      rw [installed.owns4,ingress,Bool.true_or]
    have laid := installed.nat4 owned
    have ordered := guarded .v4 owned ((laid_jumps_iff laid (by decide)).mpr (.inl (by simpa using jumped)))
    rw [laid.chain,entries4,ownerEntries,if_neg unowned] at ordered
    obtain ⟨rule,present,moded⟩ := any_eq_true.mp ingress
    have entry : .ingressRedirect (interceptProto rule.1 rule.2) rule.2.inInterface rule.2.matchDports (portOf std rule.1) ∈
        rules.flatMap (redirects std) := mem_flatMap.mpr ⟨rule,present,by simp [redirects,eq_of_beq moded]⟩
    refine not_mem_nil (behind_mem ordered (fun other there => ?_) (ne_nil_of_mem entry))
    obtain ⟨source,_,there⟩ := mem_flatMap.mp there
    exact (redirects_of source other there).redirects
  · intro avoided family owned jump
    cases family with
    | v4 =>
      have laid := installed.nat4 owned
      rw [laid.chain,entries4,ownerEntries]
      by_cases egress : rules.has .egressRedirect = true
      · rw [if_pos egress]
        exact owner_precedes _
      · rcases (laid_jumps_iff laid (by decide)).mp jump with there | ⟨hooked,_⟩
        · have built := installed.owns4.symm.trans owned
          simp [egress,there] at avoided built
          simp [avoided] at built
        · simp [hooksOf,egress] at hooked
    | v6 =>
      rw [(installed.nat6 owned).chain]
      exact owner_precedes _

theorem owner_passes (guarded : Preceded (behind (.ownerReturn uid) Entry.redirects) entries) {others : Entry → Packet → Bool}
    (own : packet.origin = .locally (some uid)) (entry : Entry) :
    traverseOwn std others packet entries ≠ some (.redirected entry) := by
  intro redirected
  rw [own_first] at redirected
  obtain ⟨decisive,found,verdict⟩ := Option.bind_eq_some_iff.mp redirected
  have unguarded := guarded.found (by simp [Entry.applies,own]) found
  cases decisive with
  | ingressRedirect | egressRedirect => simp [Entry.redirects,Entry.mode] at unguarded
  | _ => cases verdict

end Output

section Arrivals
variable {rules : Intercepts} {guard : Entry}

theorem hook_delivered {takes : Entry → Bool}
    (delivered : hookFate chain own takes entries = some (.delivered port)) : own = some (.delivered port) := by
  induction entries with
  | nil => cases delivered
  | cons entry rest ih =>
    unfold hookFate at delivered
    split at delivered
    · split at delivered
      · exact delivered
      · exact ih delivered
    · split at delivered
      · cases delivered
      · exact ih delivered

theorem guard_returns (ordered : Preceded (behind guard Entry.delivers) entries) {others : Entry → Arrival → Bool}
    (taken : guard.takes std others arrival = true) (port : UInt16) :
    ownFate std others arrival entries ≠ some (.delivered port) := by
  intro delivered
  obtain ⟨decisive,found,fate⟩ := Option.bind_eq_some_iff.mp delivered
  have unguarded := ordered.found taken found
  cases decisive with
  | tproxy => cases unguarded
  | _ => cases fate

theorem guards_free : ∀ entry ∈ [Entry.transparentReturn] ++ rules.flatMap (excludes std), entry.delivers = false := by
  refine forall_mem_append.mpr ⟨forall_mem_singleton.mpr rfl,forall_mem_flatMap.mpr fun rule _ => ?_⟩
  unfold excludes
  split <;> simp [Entry.delivers]

theorem deliveries_only : ∀ entry ∈ rules.flatMap (deliveries std), entry.delivers = true := by
  refine forall_mem_flatMap.mpr fun rule _ => ?_
  unfold deliveries
  split <;> simp [Entry.delivers]

theorem listener_guarded_iff (sources : ∀ rule ∈ rules, rule.2.mode = .tproxy → rule.2.matchSrc ≠ [])
    (present : rule ∈ rules) (moded : rule.2.mode = .tproxy)
    : Preceded (behind (.portReturn proto port) Entry.delivers) (decryptEntries std rules) ↔
      ∃ other ∈ rules, other.2.mode = .tproxy ∧ interceptProto other.1 other.2 = proto ∧ portOf std other.1 = port := by
  have excluded : .portReturn proto port ∈ rules.flatMap (excludes std) ↔
      ∃ other ∈ rules, other.2.mode = .tproxy ∧ interceptProto other.1 other.2 = proto ∧ portOf std other.1 = port := by
    simp only [mem_flatMap,excludes]
    refine exists_congr fun other => and_congr_right fun _ => ?_
    by_cases mode : other.2.mode = .tproxy
    · simp [eq_comm]
    · simp [mode]
  rw [← excluded]
  constructor
  · intro ordered
    obtain ⟨src,source⟩ := exists_mem_of_ne_nil _ (sources rule present moded)
    have entry : .tproxy src (interceptProto rule.1 rule.2) rule.2.matchDports (portOf std rule.1) ∈
        rules.flatMap (deliveries std) := mem_flatMap.mpr ⟨rule,present,by simp [deliveries,moded,source]⟩
    simpa using behind_mem ordered deliveries_only (ne_nil_of_mem entry)
  · exact fun guard => preceded_behind guards_free (mem_append_right _ guard)

end Arrivals

section Setup
theorem loopFree_iff (installed : Installed std uid rules host mgr (afterSetup std uid rules host))
    (sources : ∀ rule ∈ rules, rule.2.mode = .tproxy → rule.2.matchSrc ≠ []) :
    LoopFree std uid rules mgr (afterSetup std uid rules host) ↔ Avoids std rules host := by
  have chain (transparent : rules.has .tproxy = true) :
      decryptChain (afterSetup std uid rules host) = decryptEntries std rules := by
    rw [decryptChain,(after_decrypt transparent).1]
    rfl
  have has {rule : RuleConfig × InterceptConfig} (present : rule ∈ rules) (moded : rule.2.mode = .tproxy) :
      rules.has .tproxy = true := moded ▸ has_of_mem present
  constructor
  · intro free
    refine ⟨(output_guarded_iff installed).mp free.output,fun rule present moded => ?_⟩
    have ordered := free.listeners rule present moded
    rw [chain (has present moded)] at ordered
    exact (listener_guarded_iff sources present moded).mp ordered
  · intro avoids
    have output := (output_guarded_iff installed).mpr avoids.output
    have listeners : ∀ rule ∈ rules, rule.2.mode = .tproxy → Preceded (behind
        (.portReturn (listenedProto rule.1) (portOf std rule.1)) Entry.delivers) (decryptEntries std rules) :=
      fun rule present moded => (listener_guarded_iff sources present moded).mpr (avoids.listeners rule present moded)
    refine ⟨output,fun transparent => ?_,fun rule present moded => ?_,?_,?_⟩
    · rw [chain transparent]
      exact preceded_behind guards_free mem_cons_self
    · rw [chain (has present moded)]
      exact listeners rule present moded
    · intro others packet entry owned own redirected
      obtain ⟨jump,ended⟩ := redirected_jumped redirected
      have hook : packet.hook = "OUTPUT" := by simp [Packet.hook,own]
      rw [hook] at jump
      exact owner_passes (output packet.family owned jump) own entry ended
    · intro others arrival port four rule present moded proto dport delivered
      have fate := hook_delivered delivered
      rw [four] at fate
      have held := chain (has present moded)
      rw [decryptChain] at held
      rw [held] at fate
      exact guard_returns (listeners rule present moded) (by simp [Entry.takes,proto,dport]) port fate

end Setup

theorem loops_avoided_iff {env : Parsers} {config : GatewayConfig} (valid : config.validate env = .ok ())
    {outcomes : Nat → Outcome} (all : ∀ n, outcomes n = .succeeded) (uid : UInt32) (host : Host) :
    ∃ mgr installed, setup outcomes env.std uid config host = (.ok mgr,installed) ∧
      (LoopFree env.std uid (interceptsOf config) mgr installed ↔ Avoids env.std (interceptsOf config) host) := by
  obtain ⟨mgr,ran,installed⟩ := setup_after all uid host (valid_listens valid)
  exact ⟨mgr,_,ran,loopFree_iff installed fun _ present => (valid_intercepts valid present).1.src⟩

theorem loops_avoided_both : GatewayConfig.validate interceptParsers bothRules = .ok () ∧
    ∃ mgr installed, setup (fun _ => .succeeded) .ipv4 0 bothRules sharedHost = (.ok mgr,installed) ∧
      LoopFree .ipv4 0 (interceptsOf bothRules) mgr installed := by
  have valid : GatewayConfig.validate interceptParsers bothRules = .ok () := by decide +kernel
  obtain ⟨mgr,installed,ran,avoided⟩ := loops_avoided_iff valid all_succeed 0 sharedHost
  exact ⟨valid,mgr,installed,ran,avoided.mpr ⟨.inl (by decide +kernel),by decide +kernel⟩⟩

-- One rule listens on TCP and intercepts UDP; the other intercepts TCP to the first one's port.
def datagramRule : RuleConfig :=
  {transparentRule with name := "datagrams",intercept := some ⟨.tproxy,none,"53",[],["192.168.1.0/24"],some "udp"⟩}

def portRule : RuleConfig :=
  {transparentRule with
    name := "ports",listenAddr := "0.0.0.0:9444",intercept := some ⟨.tproxy,none,"9443",[],["192.168.1.0/24"],none⟩}

def crossedRules : GatewayConfig := {rules := [datagramRule,portRule]}

def toListener : Arrival := ⟨"tcp",.v4 0xc0a80105,.v4 0x0a000001,9443,false⟩

def jumpLeft : Host where
  tables family table chain := if chain = "OUTPUT" then some [.jump CHAIN_ENCRYPT] else sharedHost.tables family table chain
  rules := sharedHost.rules
  routes := sharedHost.routes

def ownPacket : Packet := ⟨"tcp",.v4 0x0a000003,80,.locally (some 0)⟩

-- A packet to the first rule's listener is delivered to the second rule's; and where only
-- ingress rules are left, the gateway's own packet comes back to it.
theorem loops_not_avoided : (GatewayConfig.validate interceptParsers crossedRules = .ok () ∧ CleanHost sharedHost ∧
      ∃ mgr installed, setup (fun _ => .succeeded) .ipv4 0 crossedRules sharedHost = (.ok mgr,installed) ∧
        (∃ others, mangleFate .ipv4 others toListener installed = some (.delivered 9444)) ∧
        ¬ LoopFree .ipv4 0 (interceptsOf crossedRules) mgr installed) ∧
    GatewayConfig.validate interceptParsers {rules := [webRule]} = .ok () ∧
      ∃ mgr installed, setup (fun _ => .succeeded) .ipv4 0 {rules := [webRule]} jumpLeft = (.ok mgr,installed) ∧
        (∃ others entry, traverse .ipv4 others installed ownPacket = some (.redirected entry)) ∧
        ¬ LoopFree .ipv4 0 (interceptsOf {rules := [webRule]}) mgr installed := by
  have crossed : GatewayConfig.validate interceptParsers crossedRules = .ok () := by decide +kernel
  have web : GatewayConfig.validate interceptParsers {rules := [webRule]} = .ok () := by decide +kernel
  obtain ⟨mgr,ran,installed⟩ := setup_after all_succeed 0 sharedHost (valid_listens crossed)
  obtain ⟨mgr',ran',installed'⟩ := setup_after all_succeed 0 jumpLeft (valid_listens web)
  refine ⟨⟨crossed,sharedHost_clean,mgr,_,ran,⟨fun _ _ => false,by decide +kernel⟩,fun free => ?_⟩,
    web,mgr',_,ran',⟨fun _ _ => false,.ingressRedirect "tcp" none "80" 8080,by decide +kernel⟩,fun free => ?_⟩
  · have avoids := (loopFree_iff installed fun _ present => (valid_intercepts crossed present).1.src).mp free
    exact absurd avoids.listeners (by decide +kernel)
  · have avoids := (loopFree_iff installed' fun _ present => (valid_intercepts web present).1.src).mp free
    exact absurd avoids.output (by decide +kernel)

end Scg.Networking
