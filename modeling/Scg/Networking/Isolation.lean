import Scg.Networking.AfterSetup
import Scg.Networking.Rollback

namespace Scg.Networking
open Config Net FirstMatch List Option

def FirewallManager.owns (mgr : FirewallManager) : Family → Bool
  | .v4 => mgr.ownsEncryptChain
  | .v6 => mgr.ownsEncryptChainV6

-- Whether a rule's intercept block covers the packet. Of an IPv6 packet only the loopback
-- mirror of an egress rule does.
def intercepts (std : Std) (packet : Packet) (rule : RuleConfig × InterceptConfig) : Bool :=
  packet.proto == interceptProto rule.1 rule.2 && portMatches rule.2.matchDports packet.dport &&
    match packet.family,rule.2.mode with
    | .v4,.ingressRedirect => rule.2.inInterface.all (interfaceMatches · packet.interface)
    | .v4,.egressRedirect => rule.2.matchDst.any (dstMatches std · packet.dst)
    | .v6,.egressRedirect => rule.2.matchDst.any (· == "127.0.0.1") && dstMatches std "::1" packet.dst
    | _,_ => false

def Verdict.mode : Verdict → Option InterceptMode
  | .redirected entry => entry.mode
  | .taken => none

def Entry.toPort : Entry → Option UInt16
  | .ingressRedirect _ _ _ port => some port
  | .egressRedirect _ _ _ port => some port
  | _ => none

structure EntryOf (std : Std) (rule : RuleConfig × InterceptConfig) (entry : Entry) : Prop where
  verdict : entry.verdict = some (.redirected entry)
  mode : entry.mode = some rule.2.mode
  port : entry.toPort = some (portOf std rule.1)

section Chain
variable {std : Std} {others : Entry → Packet → Bool}

variable (rule : RuleConfig × InterceptConfig) {see : Verdict → Option γ}

theorem redirects_of : ∀ entry ∈ redirects std rule, EntryOf std rule entry := by
  intro entry present
  cases mode : rule.2.mode with
  | ingressRedirect =>
    simp only [redirects,mode,List.mem_singleton] at present
    rw [present]
    exact ⟨rfl,mode ▸ rfl,rfl⟩
  | egressRedirect =>
    simp only [redirects,mode,List.mem_map] at present
    obtain ⟨dst,_,rfl⟩ := present
    exact ⟨rfl,mode ▸ rfl,rfl⟩
  | tproxy => simp [redirects,mode] at present

end Chain

section Installed
variable {rules : Intercepts}

theorem has_of_mem (present : rule ∈ rules) : rules.has rule.2.mode = true :=
  any_eq_true.mpr ⟨rule,present,beq_self_eq_true _⟩

end Installed

theorem valid_intercepts (valid : config.validate env = .ok ()) (present : rule ∈ interceptsOf config) :
    InterceptChecked env rule.1 rule.2 ∧ ∃ port, listenPort env.std rule.1 = .ok port := by
  obtain ⟨configured,there,paired⟩ := mem_filterMap.mp present
  obtain ⟨intercept,intercepts,rfl⟩ := map_eq_some_iff.mp paired
  obtain ⟨i,checked⟩ := validate_checked valid configured there
  have intercepted := validateIntercept_checked checked.intercept intercepts
  obtain ⟨sock,parsed⟩ := checked.listen intercepted.remote
  exact ⟨intercepted,sock.port,by simp only [listenPort,parsed]⟩

theorem valid_listens (valid : config.validate env = .ok ()) :
    ∀ rule ∈ interceptsOf config, ∃ port, listenPort env.std rule.1 = .ok port :=
  fun _ present => (valid_intercepts valid present).2

def webRule : RuleConfig :=
  {name := "web",direction := .decrypt,listenAddr := "0.0.0.0:8080",upstreamAddr := "10.0.0.3:80"
   securityProvider := "routing"
   intercept := some ⟨.ingressRedirect,none,"80",[],[],none⟩}

end Scg.Networking
