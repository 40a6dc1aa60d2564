import Scg.Config.Rule
import Scg.Library.Checks

namespace Scg.Config
open Net Policy Checks

-- The parsers that validation calls and does not look into; that of the TLS parameters
-- answers whether they are kTLS-offloadable.
structure Parsers where
  std : Std
  tlsParams : Params → Option String → Except String Bool
  wireguardParams : Params → Except String Unit

def Parsers.accepting : Parsers := ⟨.ipv4,fun _ _ => .ok false,fun _ => .ok ()⟩

def MAX_CONN_POOL_SIZE : Nat := 4096

def ruleText (i : Nat) (rule : RuleConfig) (text : String) : String := s!"Rule '{rule.name}' (index {i}): {text}"

def requireRule (i : Nat) (rule : RuleConfig) (holds : Bool) (text : String) : Except String Unit :=
  require holds (ruleText i rule text)

def validatePort (s : String) : Except String Nat :=
  match Text.parseUnsigned 65536 s with
  | .ok port => .ok port
  | .error _ => .error s!"invalid port number '{s}'"

def validatePortPart (part : String) : Except String Unit := do
  let part := Text.trim part
  require (part != "") "empty port segment"
  match Text.splitOnce ':' part with
  | some (lo,hi) =>
    let lo ← validatePort (Text.trim lo)
    let hi ← validatePort (Text.trim hi)
    require (lo != 0 && hi != 0) "port numbers must be >= 1"
    require (lo ≤ hi) s!"port range {lo}:{hi} is inverted"
  | none =>
    let port ← validatePort part
    require (port != 0) "port numbers must be >= 1"

def validatePortSpec (spec : String) : Except String Unit :=
  each (fun _ part => validatePortPart part) 0 (Text.split ',' spec)

def validateIpOrCidr (std : Std) (s : String) : Except String Unit := do
  match ← AddressPattern.parse std s with
  | .cidr _ _ _ | .ipOnly _ => .ok ()
  | .any => .error "expected an IP address or CIDR, not 'any'"
  | .exact _ => .error "expected an IP address or CIDR without a port"

def stripBrackets (host : String) : String :=
  match host.toList with
  | '[' :: rest =>
    match rest.reverse with
    | ']' :: inner => String.ofList inner.reverse
    | _ => host
  | _ => host

def validateHostPort (s : String) : Except String Unit :=
  match Text.rsplitOnce ':' s with
  | none => .error "missing ':' separator"
  | some (host,port) => do
    require (stripBrackets host != "") "empty host"
    match Text.parseUnsigned 65536 port with
    | .ok 0 => .error "port must be 1-65535"
    | .ok _ => .ok ()
    | .error _ => .error s!"invalid port '{port}'"

structure Seen where
  names : List String
  listen : List String
  templates : List (String × TrafficClass × Direction × Proto)

def classDebug : TrafficClass → String
  | .normal => "Normal"
  | .safety => "Safety"

def directionDebug : Direction → String
  | .encrypt => "Encrypt"
  | .decrypt => "Decrypt"

def validateName (i : Nat) (seen : Seen) (rule : RuleConfig) : Except String Unit := do
  require (rule.name != "") s!"Rule at index {i} has an empty name"
  requireRule i rule (rule.name ∉ seen.names) "duplicate rule name (names must be unique for hot-reload)"

-- A local rule is known by its template, any other by the address it listens on.
def validateListen (env : Parsers) (i : Nat) (seen : Seen) (rule : RuleConfig) : Except String Seen :=
  let kind := rule.listenProto.display
  if rule.listenProto.isLocal then do
    let appId := rule.appId.getD ""
    requireRule i rule (appId != "") s!"{kind} rules require a non-empty \"app_id\""
    requireRule i rule (rule.allowedUids != [])
      (s!"{kind} rules require at least one uid in \"allowed_uids\" " ++
        "(an empty list disables the local interface)")
    let template := (appId,rule.trafficClass,rule.direction,rule.listenProto)
    requireRule i rule (template ∉ seen.templates)
      (s!"duplicate local-endpoint template (app_id={appId}, class={classDebug rule.trafficClass}, " ++
        s!"direction={directionDebug rule.direction}, kind={kind}) conflicts with another rule — " ++
        "at runtime the last rule would silently replace the earlier one's allow-lists and security posture")
    .ok {seen with names := rule.name :: seen.names,templates := template :: seen.templates}
  else
    match env.std.parseSocket rule.listenAddr with
    | .error e => .error (ruleText i rule s!"invalid listen_addr '{rule.listenAddr}': {e}")
    | .ok sock => do
      let key := s!"{kind}:{env.std.display sock}"
      requireRule i rule (key ∉ seen.listen)
        s!"listen address {rule.listenAddr} ({kind}) conflicts with another rule"
      .ok {seen with names := rule.name :: seen.names,listen := key :: seen.listen}

def validateUpstream (i : Nat) (rule : RuleConfig) : Except String Unit := do
  if rule.upstreamAddr ≠ "auto" then
    match validateHostPort rule.upstreamAddr with
    | .error e =>
      .error (ruleText i rule s!"upstream_addr '{rule.upstreamAddr}' must be 'auto' or HOST:PORT ({e})")
    | .ok () => .ok ()
  else requireRule i rule rule.transparent "upstream_addr 'auto' requires transparent = true"

def validateDtls (i : Nat) (rule : RuleConfig) : Except String Unit :=
  if rule.effectiveSecurityProvider = "dtls" then do
    requireRule i rule (rule.listenProto == .udp) "DTLS requires listen_proto = \"udp\""
    requireRule i rule (rule.upstreamAddr != "auto")
      ("DTLS does not support upstream_addr = \"auto\" (no original-destination recovery); " ++
        "configure an explicit upstream")
  else .ok ()

def positiveParam (params : Params) (key : String) : Bool :=
  match params.lookup key with
  | none => true
  | some v => match v.asU64 with
    | some n => n != 0
    | none => false

def validateRoutingUdp (i : Nat) (rule : RuleConfig) : Except String Unit :=
  if rule.effectiveSecurityProvider = "routing" && rule.listenProto == .udp then do
    requireRule i rule (rule.upstreamProto == .udp) "routing over udp requires upstream_proto = \"udp\""
    requireRule i rule (rule.upstreamAddr != "auto")
      ("routing over udp does not support upstream_addr = \"auto\" (no original-destination recovery); " ++
        "configure an explicit upstream")
    each (fun _ key => requireRule i rule (positiveParam rule.providerParams key)
      s!"routing-udp '{key}' must be a positive integer") 0 ["max_sessions","idle_ttl_secs"]
  else .ok ()

def validateKtls (i : Nat) (rule : RuleConfig) : Except String Unit :=
  if rule.effectiveSecurityProvider = "ktls" then
    match (rule.providerParams.lookup "profile").bind Value.asStr with
    | some profile => requireRule i rule (!(["integrity-only","integrity","null"].contains profile))
        ("kTLS cannot offload integrity-only (NULL) cipher suites; " ++
          "use security_provider = \"tls\" instead")
    | none => .ok ()
  else .ok ()

def validateTls (env : Parsers) (i : Nat) (rule : RuleConfig) : Except String Unit :=
  if ["tls","ktls","dtls"].contains rule.effectiveSecurityProvider then
    match env.tlsParams rule.providerParams rule.protocolVersion with
    | .ok _ => .ok ()
    | .error e => .error (ruleText i rule s!"invalid TLS parameters: {e}")
  else .ok ()

def validateProtocolVersion (i : Nat) (rule : RuleConfig) : Except String Unit :=
  match rule.protocolVersion with
  | none => .ok ()
  | some version =>
    let provider := rule.effectiveSecurityProvider
    let (valid,expected) :=
      if provider = "tls" || provider = "ktls" then
        (["tls1.2","tls1.3"].contains version,"'tls1.2' or 'tls1.3'")
      else if provider = "dtls" then (["dtls1.0","dtls1.2"].contains version,"'dtls1.0' or 'dtls1.2'")
      else (true,"")
    requireRule i rule valid
      s!"invalid protocol_version '{version}' for {provider} provider (expected {expected})"

def validateWireguard (env : Parsers) (i : Nat) (rule : RuleConfig) : Except String Unit :=
  if rule.effectiveSecurityProvider = "wireguard" then do
    requireRule i rule (rule.listenProto == .udp) "WireGuard requires listen_proto = \"udp\""
    requireRule i rule (rule.upstreamAddr != "auto") "WireGuard does not support upstream_addr = \"auto\""
    match env.wireguardParams rule.providerParams with
    | .ok () => .ok ()
    | .error e => .error (ruleText i rule e)
  else .ok ()

def validateTuning (i : Nat) (rule : RuleConfig) : Except String Unit := do
  requireRule i rule (rule.bufferSlots != 0) "buffer_slots must be > 0"
  requireRule i rule (rule.bufferSlotSize != 0) "buffer_slot_size must be > 0"
  match rule.dscpTag with
  | some dscp => requireRule i rule (dscp ≤ 63) s!"dscp_tag {dscp} is out of range (valid DSCP is 0..=63)"
  | none => .ok ()
  let provider := rule.effectiveSecurityProvider
  requireRule i rule (!rule.zeroCopy || provider == "routing" || provider == "ktls")
    "zero_copy requires security_provider \"routing\" or \"ktls\" (userspace TLS cannot be zero-copy)"
  requireRule i rule (!(rule.spinWaitUs > 0 && rule.listenProto != .shm))
    "spin_wait_us > 0 is only valid for listen_proto = \"shm\" rules"
  requireRule i rule
    (!(rule.direction == .encrypt && (provider == "tls" || provider == "ktls") && rule.upstreamProto == .udp))
    ("encrypt with TLS/kTLS requires a TCP upstream " ++
      "(use DTLS or a UDP datagram provider for UDP-to-UDP)")

def validateMatches (env : Parsers) (i : Nat) (rule : RuleConfig) (field : String) (entries : List String) :
    Except String Unit :=
  each (fun j entry =>
    match validateIpOrCidr env.std entry with
    | .ok () => .ok ()
    | .error e => .error (ruleText i rule s!"intercept.{field}[{j}] '{entry}': {e}")) 0 entries

def validateIntercept (env : Parsers) (i : Nat) (rule : RuleConfig) : Except String Unit :=
  match rule.intercept with
  | none => .ok ()
  | some intercept => do
    requireRule i rule (!rule.listenProto.isLocal)
      s!"intercept cannot be used with {rule.listenProto.display} listen_proto"
    requireRule i rule (!(intercept.mode == .tproxy && !rule.transparent))
      "intercept mode 'tproxy' requires transparent = true"
    requireRule i rule (Text.trim intercept.matchDports != "") "intercept.match_dports must not be empty"
    match validatePortSpec intercept.matchDports with
    | .ok () => .ok ()
    | .error e => .error (ruleText i rule s!"intercept.match_dports: {e}")
    requireRule i rule (!(intercept.mode == .egressRedirect && intercept.matchDst == []))
      "intercept mode 'egress_redirect' requires at least one match_dst"
    requireRule i rule (!(intercept.mode == .tproxy && intercept.matchSrc == []))
      "intercept mode 'tproxy' requires at least one match_src"
    validateMatches env i rule "match_dst" intercept.matchDst
    validateMatches env i rule "match_src" intercept.matchSrc
    match intercept.protocol with
    | some proto =>
      requireRule i rule (proto == "tcp" || proto == "udp")
        s!"intercept.protocol must be \"tcp\" or \"udp\" (got \"{proto}\")"
    | none => .ok ()

def validateRule (env : Parsers) (i : Nat) (seen : Seen) (rule : RuleConfig) : Except String Seen := do
  validateName i seen rule
  let seen ← validateListen env i seen rule
  validateUpstream i rule
  validateDtls i rule
  validateRoutingUdp i rule
  validateKtls i rule
  validateTls env i rule
  validateProtocolVersion i rule
  validateWireguard env i rule
  validateTuning i rule
  validateIntercept env i rule
  return seen

def validateRules (env : Parsers) : Nat → Seen → List RuleConfig → Except String Unit
  | _,_,[] => .ok ()
  | i,seen,rule :: rest => do
    let seen ← validateRule env i seen rule
    validateRules env (i+1) seen rest

def validatePattern (env : Parsers) (path field pattern : String) : Except String Unit :=
  match AddressPattern.parse env.std pattern with
  | .ok _ => .ok ()
  | .error e => .error s!"{path}: invalid {field} '{pattern}': {e}"

def validatePair (env : Parsers) (path source destination : String) : Except String Unit := do
  validatePattern env path "source" source
  validatePattern env path "destination" destination

def validatePool (config : GatewayConfig) : Except String Unit :=
  match config.connPoolSize with
  | none => .ok ()
  | some size => do
    require (size != 0)
      ("\"conn_pool_size\" must be at least 1 (0 leaves the connection pool with no workers, " ++
        "so the rule would forward no traffic)")
    require (size ≤ MAX_CONN_POOL_SIZE)
      (s!"\"conn_pool_size\" {size} exceeds the maximum {MAX_CONN_POOL_SIZE} " ++
        "(each rule eagerly spawns this many worker threads)")

def GatewayConfig.validate (env : Parsers) (config : GatewayConfig) : Except String Unit := do
  require (!config.rules.isEmpty) "Configuration must contain at least one rule in \"rules\" array"
  validatePool config
  validateRules env 0 ⟨[],[],[]⟩ config.rules
  each (fun i tr => validatePair env s!"traffic_rules[{i}]" tr.source tr.destination) 0 config.trafficRules
  match config.policy with
  | some policy =>
    each (fun i entry => validatePair env s!"policy.whitelist[{i}]" entry.source entry.destination) 0
      policy.whitelist
  | none => .ok ()

structure RuleChecked (env : Parsers) (i : Nat) (rule : RuleConfig) : Prop where
  listen : rule.listenProto.isLocal = false → ∃ sock, env.std.parseSocket rule.listenAddr = .ok sock
  upstream : validateUpstream i rule = .ok ()
  tls : validateTls env i rule = .ok ()
  intercept : validateIntercept env i rule = .ok ()

theorem validateListen_parses
    (passed : validateListen env i seen rule = .ok later) (remote : rule.listenProto.isLocal = false) :
    ∃ sock, env.std.parseSocket rule.listenAddr = .ok sock := by
  unfold validateListen at passed
  rw [if_neg (by simp [remote])] at passed
  split at passed
  · cases passed
  · rename_i sock parsed
    exact ⟨sock,parsed⟩

structure InterceptChecked (env : Parsers) (rule : RuleConfig) (intercept : InterceptConfig) : Prop where
  remote : rule.listenProto.isLocal = false
  ports : validatePortSpec intercept.matchDports = .ok ()
  dst : intercept.mode = .egressRedirect → intercept.matchDst ≠ []
  src : intercept.mode = .tproxy → intercept.matchSrc ≠ []

theorem validateIntercept_checked
    (passed : validateIntercept env i rule = .ok ()) (intercepts : rule.intercept = some intercept) :
    InterceptChecked env rule intercept := by
  unfold validateIntercept at passed
  rw [intercepts] at passed
  obtain ⟨_,remote,passed⟩ := bind_ok passed
  obtain ⟨_,_,passed⟩ := bind_ok passed
  obtain ⟨_,_,passed⟩ := bind_ok passed
  dsimp only at passed
  split at passed
  · rename_i ports
    obtain ⟨_,_,passed⟩ := bind_ok passed
    obtain ⟨_,dst,passed⟩ := bind_ok passed
    obtain ⟨_,src,_⟩ := bind_ok passed
    exact ⟨by simpa using require_ok remote,ports,by simpa [imp_iff_not_or] using require_ok dst,
      by simpa [imp_iff_not_or] using require_ok src⟩
  · obtain ⟨_,failed,_⟩ := bind_ok passed
    cases failed

theorem validateRule_checked (passed : validateRule env i seen rule = .ok later) : RuleChecked env i rule := by
  obtain ⟨_,_,passed⟩ := bind_ok passed
  obtain ⟨_,listened,passed⟩ := bind_ok passed
  obtain ⟨_,upstream,passed⟩ := bind_ok passed
  obtain ⟨_,_,passed⟩ := bind_ok passed
  obtain ⟨_,_,passed⟩ := bind_ok passed
  obtain ⟨_,_,passed⟩ := bind_ok passed
  obtain ⟨_,tls,passed⟩ := bind_ok passed
  obtain ⟨_,_,passed⟩ := bind_ok passed
  obtain ⟨_,_,passed⟩ := bind_ok passed
  obtain ⟨_,_,passed⟩ := bind_ok passed
  obtain ⟨_,intercept,_⟩ := bind_ok passed
  exact ⟨validateListen_parses listened,upstream,tls,intercept⟩

theorem validateRules_checked
    (passed : validateRules env i seen rules = .ok ()) : ∀ rule ∈ rules, ∃ i, RuleChecked env i rule := by
  induction rules generalizing i seen with
  | nil => exact fun _ absent => absurd absent List.not_mem_nil
  | cons rule rest ih =>
    obtain ⟨later,checked,passed⟩ := bind_ok passed
    intro other present
    rcases List.mem_cons.mp present with rfl | present
    · exact ⟨i,validateRule_checked checked⟩
    · exact ih passed other present

theorem validate_checked {config : GatewayConfig} (valid : config.validate env = .ok ()) :
    ∀ rule ∈ config.rules, ∃ i, RuleChecked env i rule := by
  obtain ⟨_,_,valid⟩ := bind_ok valid
  obtain ⟨_,_,valid⟩ := bind_ok valid
  obtain ⟨_,checked,_⟩ := bind_ok valid
  exact validateRules_checked checked

end Scg.Config
