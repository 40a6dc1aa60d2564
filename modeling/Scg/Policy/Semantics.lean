import Scg.Config.Validate
import Scg.Library.LeadingBits

namespace Scg.Policy
open Net Config Checks LeadingBits List

variable {env : Parsers} {config : GatewayConfig}

-- The addresses of a block `network/prefixLen`: its family and its first bits.
def InBlock (prefixLen : Nat) : IpAddr → IpAddr → Prop
  | .v4 network,.v4 ip => Agree prefixLen network ip
  | .v6 network,.v6 ip => Agree prefixLen network ip
  | _,_ => False

-- What a pattern is written for, with both sides in canonical form except for blocks.
def Covers : AddressPattern → SocketAddr → Prop
  | .any,_ => True
  | .exact endpoint,addr => addr.ip.toCanonical = endpoint.ip.toCanonical ∧ addr.port = endpoint.port
  | .ipOnly ip,addr => addr.ip.toCanonical = ip.toCanonical
  | .cidr network prefixLen _,addr => InBlock prefixLen network addr.ip.toCanonical

theorem cidrContains_iff (bounded : prefixLen ≤ network.width) (ip : IpAddr) :
    AddressPattern.cidrContains network prefixLen ip = true ↔ InBlock prefixLen network ip := by
  have masked {w : Nat} (fits : prefixLen ≤ w) (net addr : BitVec w) :
      (prefixLen == 0 ||
        net &&& AddressPattern.mask w prefixLen == addr &&& AddressPattern.mask w prefixLen) = true ↔
      Agree prefixLen net addr := by
    rw [Bool.or_eq_true,beq_iff_eq,beq_iff_eq]
    unfold AddressPattern.mask
    rw [masked_eq_iff fits]
    constructor
    · rintro (whole | agree)
      · rw [whole]
        exact agree_zero net addr
      · exact agree
    · exact .inr
  cases network with
  | v4 net =>
    cases ip with
    | v4 addr => exact masked bounded net addr
    | v6 addr => simp [AddressPattern.cidrContains,InBlock]
  | v6 net =>
    cases ip with
    | v4 addr => simp [AddressPattern.cidrContains,InBlock]
    | v6 addr => exact masked bounded net addr

theorem matchesAddr_iff (pattern : AddressPattern) (addr : SocketAddr) :
    pattern.matchesAddr addr = true ↔ Covers pattern addr := by
  cases pattern with
  | cidr network prefixLen bounded => exact cidrContains_iff bounded addr.ip.toCanonical
  | _ => simp [AddressPattern.matchesAddr,Covers]

theorem matchesAddr_canonical (ip : one.ip.toCanonical = other.ip.toCanonical)
    (port : one.port = other.port) (pattern : AddressPattern) : pattern.matchesAddr one = pattern.matchesAddr other := by
  unfold AddressPattern.matchesAddr
  rw [ip,port]

def toIpv6Mapped (ip : BitVec 32) : BitVec 128 := 0xffff#96 ++ ip

-- The forms an IPv4 endpoint takes on a dual-stack socket; any other has its own form only.
def SameEndpoint (addr form : SocketAddr) : Prop :=
  form = addr ∨ ∃ ip port flowinfo scopeId, addr = .v4 ip port ∧ form = .v6 (toIpv6Mapped ip) port flowinfo scopeId

variable (ip : BitVec 32) (std : Std)

theorem mapped_toNat : (toIpv6Mapped ip).toNat = 0xffff*2^32+ip.toNat := by
  unfold toIpv6Mapped
  rw [BitVec.toNat_append,← Nat.shiftLeft_add_eq_or_of_lt ip.isLt]
  rfl

theorem mapped_canonical : (IpAddr.v6 (toIpv6Mapped ip)).toCanonical = .v4 ip := by
  have high : toIpv6Mapped ip >>> 32 = 0xffff := by
    apply BitVec.eq_of_toNat_eq
    rw [BitVec.toNat_ushiftRight,mapped_toNat,Nat.shiftRight_eq_div_pow]
    have quotient : (0xffff*2^32+ip.toNat)/2^32 = 0xffff := by omega
    exact quotient
  have low : (toIpv6Mapped ip).setWidth 32 = ip := by
    apply BitVec.eq_of_toNat_eq
    rw [BitVec.toNat_setWidth,mapped_toNat]
    omega
  rw [IpAddr.toCanonical,if_pos high,low]

theorem sameEndpoint_matches {addr form : SocketAddr} (same : SameEndpoint addr form) (pattern : AddressPattern) :
    pattern.matchesAddr form = pattern.matchesAddr addr := by
  rcases same with rfl | ⟨ip,port,flowinfo,scopeId,rfl,rfl⟩
  · rfl
  · have canonical : (SocketAddr.v6 (toIpv6Mapped ip) port flowinfo scopeId).ip.toCanonical =
        (SocketAddr.v4 ip port).ip.toCanonical := mapped_canonical ip
    exact matchesAddr_canonical canonical rfl pattern

namespace PolicyManager

variable (pm : PolicyManager)

theorem checkAllowed_iff : pm.checkAllowed src dst trafficClass = true ↔
    (trafficClass = .safety ∧ pm.enforcePolicyOnSafety = false) ∨ pm.defaultAction = .allow ∨
      ∃ entry ∈ pm.entries, Covers entry.source src ∧ Covers entry.destination dst := by
  have listed : pm.entries.any (fun entry => entry.source.matchesAddr src && entry.destination.matchesAddr dst) = true ↔
      ∃ entry ∈ pm.entries, Covers entry.source src ∧ Covers entry.destination dst := by
    simp only [any_eq_true,Bool.and_eq_true,matchesAddr_iff]
  unfold checkAllowed
  by_cases bypass : trafficClass = .safety ∧ pm.enforcePolicyOnSafety = false
  · rw [if_pos (by simpa using bypass)]
    exact iff_of_true rfl (.inl bypass)
  · rw [if_neg (by simpa using bypass),← listed]
    by_cases empty : pm.entries = []
    · simp [empty,bypass]
    · rw [if_neg (by simpa using empty)]
      split
      · rename_i hit
        exact iff_of_true rfl (.inr (.inr hit))
      · rename_i missed
        simp only [bypass,missed,beq_iff_eq,false_or,or_false,Bool.false_eq_true]

theorem checkAllowed_alike {src' dst' : SocketAddr}
    (source : ∀ pattern : AddressPattern, pattern.matchesAddr src' = pattern.matchesAddr src)
    (destination : ∀ pattern : AddressPattern, pattern.matchesAddr dst' = pattern.matchesAddr dst) :
    pm.checkAllowed src' dst' trafficClass = pm.checkAllowed src dst trafficClass := by
  simp only [checkAllowed,source,destination]

theorem checkAllowedDestination_alike {dst' : SocketAddr}
    (destination : ∀ pattern : AddressPattern, pattern.matchesAddr dst' = pattern.matchesAddr dst) :
    pm.checkAllowedDestination dst' trafficClass = pm.checkAllowedDestination dst trafficClass := by
  simp only [checkAllowedDestination,destination]

def openSources (pm : PolicyManager) : PolicyManager :=
  {pm with entries := pm.entries.map fun entry => {entry with source := .any}}

theorem checkAllowed_openSources :
    pm.openSources.checkAllowed src dst trafficClass = pm.checkAllowedDestination dst trafficClass := by
  simp [checkAllowed,openSources,checkAllowedDestination,AddressPattern.matchesAddr]

end PolicyManager

theorem parse_any : AddressPattern.parse std "any" = .ok .any := by rfl

def policyOf (policy : Option PolicyConfig) : PolicyConfig := policy.getD ⟨.deny,[],false⟩

def WhitelistEntry.Permits (std : Std) (entry : WhitelistEntry) (src dst : SocketAddr) : Prop :=
  ∃ source destination, AddressPattern.parse std entry.source = .ok source ∧
    AddressPattern.parse std entry.destination = .ok destination ∧ Covers source src ∧ Covers destination dst

def PolicyConfig.anySource (policy : PolicyConfig) : PolicyConfig :=
  {policy with whitelist := policy.whitelist.map fun entry => {entry with source := "any"}}

theorem new_policyOf (policy : Option PolicyConfig) :
    PolicyManager.new std policy = PolicyManager.new std (some (policyOf policy)) := by cases policy <;> rfl

theorem compilePair_some {std : Std} {source destination : String} {pair : AddressPattern × AddressPattern} :
    compilePair std source destination = some pair ↔
      AddressPattern.parse std source = .ok pair.1 ∧ AddressPattern.parse std destination = .ok pair.2 := by
  unfold compilePair
  cases AddressPattern.parse std source <;> cases AddressPattern.parse std destination <;>
    simp [Prod.ext_iff]

theorem compiled_permits (policy : PolicyConfig) :
    (∃ entry ∈ (PolicyManager.new std (some policy)).entries, Covers entry.source src ∧ Covers entry.destination dst) ↔
      ∃ entry ∈ policy.whitelist, entry.Permits std src dst := by
  constructor
  · rintro ⟨compiled,listed,source,destination⟩
    obtain ⟨entry,present,made⟩ := mem_filterMap.mp listed
    obtain ⟨pair,parsed,rfl⟩ := Option.map_eq_some_iff.mp made
    obtain ⟨first,second⟩ := compilePair_some.mp parsed
    exact ⟨entry,present,pair.1,pair.2,first,second,source,destination⟩
  · rintro ⟨entry,present,source,destination,first,second,covered⟩
    have parsed : compilePair std entry.source entry.destination = some (source,destination) :=
      compilePair_some.mpr ⟨first,second⟩
    refine ⟨⟨source,destination⟩,mem_filterMap.mpr ⟨entry,present,?_⟩,covered⟩
    rw [parsed]
    rfl

theorem validate_patterns (valid : config.validate env = .ok ()) :
    ∀ entry ∈ (policyOf config.policy).whitelist,
      (∃ source, AddressPattern.parse env.std entry.source = .ok source) ∧
      ∃ destination, AddressPattern.parse env.std entry.destination = .ok destination := by
  have pattern_ok {path field text : String} (passed : validatePattern env path field text = .ok ()) :
      ∃ pattern, AddressPattern.parse env.std text = .ok pattern := by
    unfold validatePattern at passed
    split at passed
    · rename_i pattern parsed
      exact ⟨pattern,parsed⟩
    · cases passed
  obtain ⟨_,_,valid⟩ := bind_ok valid
  obtain ⟨_,_,valid⟩ := bind_ok valid
  obtain ⟨_,_,valid⟩ := bind_ok valid
  obtain ⟨_,_,valid⟩ := bind_ok valid
  intro entry present
  cases policy : config.policy with
  | none =>
    rw [policy] at present
    exact absurd present not_mem_nil
  | some policed =>
    rw [policy] at present valid
    obtain ⟨i,passed⟩ := each_ok valid entry present
    obtain ⟨_,source,destination⟩ := bind_ok passed
    exact ⟨pattern_ok source,pattern_ok destination⟩

-- An entry that parses still parses with its source opened, so none is gained.
theorem new_anySource {std : Std} {policy : PolicyConfig}
    (parses : ∀ entry ∈ policy.whitelist, ∃ source, AddressPattern.parse std entry.source = .ok source) :
    PolicyManager.new std (some policy.anySource) = (PolicyManager.new std (some policy)).openSources := by
  have entries : (PolicyManager.new std (some policy.anySource)).entries =
      (PolicyManager.new std (some policy)).openSources.entries := by
    simp only [PolicyManager.new,PolicyManager.openSources,PolicyConfig.anySource,filterMap_map,map_filterMap]
    apply filterMap_congr
    intro entry present
    obtain ⟨source,parsed⟩ := parses entry present
    simp only [Function.comp_def,compilePair,parsed]
    cases AddressPattern.parse std entry.destination <;> rfl
  exact PolicyManager.mk.injEq .. ▸ ⟨rfl,entries,rfl⟩

theorem policy_decides (valid : config.validate env = .ok ()) (src dst : SocketAddr) (trafficClass : TrafficClass) :
    ((PolicyManager.new env.std config.policy).checkAllowed src dst trafficClass = true ↔
      (trafficClass = .safety ∧ (policyOf config.policy).enforcePolicyOnSafety = false) ∨
      (policyOf config.policy).defaultAction = .allow ∨
      ∃ entry ∈ (policyOf config.policy).whitelist, entry.Permits env.std src dst) ∧
    (∀ network prefixLen bounded addr,
      (AddressPattern.cidr network prefixLen bounded).matchesAddr addr = true ↔
        InBlock prefixLen network addr.ip.toCanonical) ∧
    (∀ src' dst', SameEndpoint src src' → SameEndpoint dst dst' →
      (PolicyManager.new env.std config.policy).checkAllowed src' dst' trafficClass =
        (PolicyManager.new env.std config.policy).checkAllowed src dst trafficClass ∧
      (PolicyManager.new env.std config.policy).checkAllowedDestination dst' trafficClass =
        (PolicyManager.new env.std config.policy).checkAllowedDestination dst trafficClass) ∧
    (PolicyManager.new env.std config.policy).checkAllowedDestination dst trafficClass =
      (PolicyManager.new env.std (config.policy.map (·.anySource))).checkAllowed src dst trafficClass := by
  refine ⟨?_,fun network prefixLen bounded addr => matchesAddr_iff _ addr,?_,?_⟩
  · rw [PolicyManager.checkAllowed_iff,new_policyOf,compiled_permits]
    rfl
  · intro src' dst' source destination
    exact ⟨PolicyManager.checkAllowed_alike _ (sameEndpoint_matches source) (sameEndpoint_matches destination),
      PolicyManager.checkAllowedDestination_alike _ (sameEndpoint_matches destination)⟩
  · have parses := validate_patterns valid
    cases policy : config.policy with
    | none => rfl
    | some policed =>
      rw [policy] at parses
      have opened : PolicyManager.new env.std (some policed.anySource) =
          (PolicyManager.new env.std (some policed)).openSources :=
        new_anySource fun entry present => (parses entry present).1
      rw [Option.map_some,opened,PolicyManager.checkAllowed_openSources]

def screened : GatewayConfig :=
  {rules := [{name := "web",direction := .encrypt,listenAddr := "127.0.0.1:8080",upstreamAddr := "127.0.0.1:9090"
              securityProvider := "routing"}]
   policy := some ⟨.deny,[⟨"10.0.0.0/8","10.1.2.3:80"⟩],true⟩}

-- A dual-stack peer of the block is let through although Safety is enforced too.
theorem screened_admits_mapped : screened.validate .accepting = .ok () ∧
    (PolicyManager.new Std.ipv4 screened.policy).checkAllowed (.v6 (toIpv6Mapped 0x0a090807) 4000 7 0)
      (.v4 0x0a010203 80) .safety = true := by
  have valid : screened.validate .accepting = .ok () := by decide +kernel
  have decided := policy_decides valid (.v4 0x0a090807 4000) (.v4 0x0a010203 80) .safety
  have mapped : SameEndpoint (.v4 0x0a090807 4000) (.v6 (toIpv6Mapped 0x0a090807) 4000 7 0) :=
    .inr ⟨_,_,_,_,rfl,rfl⟩
  refine ⟨valid,(decided.2.2.1 _ _ mapped (.inl rfl)).1.trans ?_⟩
  decide +kernel

end Scg.Policy
