import Scg.Config.Validate
import Scg.Library.Decode

namespace Scg.Config
open Policy Json

-- The text of a value that is carried and never read is the JSON library's.
def Value.ofJson (render : Json → String) : Json → Value
  | .null => .null
  | .bool b => .bool b
  | .uint n => .uint n
  | .int n => .int n
  | .float text => .float text
  | .str s => .str s
  | .arr items => .composite (render (.arr items))
  | .obj fields => .composite (render (.obj fields))

def Params.ofFields (render : Json → String) (fields : Fields) : Params :=
  fields.foldr (fun field params => params.insert field.1 (Value.ofJson render field.2)) ∅

theorem lookup_ofFields (render : Json → String) (key : String) (fields : Fields) :
    (Params.ofFields render fields).lookup key = (Json.lookup key fields).map (Value.ofJson render) := by
  induction fields with
  | nil => rfl
  | cons field rest ih =>
    change ((Params.ofFields render rest).insert field.1 _).lookup key = _
    unfold Json.lookup
    split
    · rename_i same
      rw [same,AList.lookup_insert]
      rfl
    · rename_i different
      rw [AList.lookup_insert_ne (fun same => different same.symm),ih]

def readProto : Reader Proto := variant [("tcp",.tcp),("udp",.udp),("uds",.uds),("shm",.shm)]
def readProfile : Reader PerfProfile :=
  variant [("throughput",.throughput),("latency",.latency),("balanced",.balanced)]
def readClass : Reader TrafficClass := variant [("normal",.normal),("safety",.safety)]
def readUsize : Reader Nat := natBelow (2^64)

def InterceptConfig.parse (value : Json) : Option InterceptConfig := do
  let fields ← record ["mode","in_interface","match_dports","match_dst","match_src","protocol"] value
  return {
    mode := ← required
      (variant [("ingress_redirect",.ingressRedirect),("egress_redirect",.egressRedirect),("tproxy",.tproxy)]) "mode" fields
    inInterface := ← optional asStr "in_interface" fields
    matchDports := ← required asStr "match_dports" fields
    matchDst := ← defaulted (items asStr) [] "match_dst" fields
    matchSrc := ← defaulted (items asStr) [] "match_src" fields
    protocol := ← optional asStr "protocol" fields}

def RuleConfig.members : List String := [
  "name","direction","listen_addr","listen_proto","upstream_addr","upstream_proto","security_provider",
  "app_protocol","tls_mode","priority","transparent","traffic_class","dscp_tag","preserve_inbound_dscp",
  "app_id","buffer_slots","buffer_slot_size","simulated_delay_ms","protocol_version","allowed_uids",
  "allowed_pids","zero_copy","spin_wait_us","perf_profile","sock_buf_size","pipe_size","relay_buf_size",
  "notsent_lowat","busy_poll_us","bdp_adaptive","bdp_queue_budget_us","intercept"]

def RuleConfig.typed (fields : Fields) : Option RuleConfig := do
  let _ ← defaulted (integerIn (-2^31) (2^31)) 0 "priority" fields
  return {
    name := ← required asStr "name" fields
    direction := ← required (variant [("encrypt",.encrypt),("decrypt",.decrypt)]) "direction" fields
    listenAddr := ← required asStr "listen_addr" fields
    listenProto := ← defaulted readProto .tcp "listen_proto" fields
    upstreamAddr := ← defaulted asStr "auto" "upstream_addr" fields
    upstreamProto := ← defaulted readProto .tcp "upstream_proto" fields
    securityProvider := ← defaulted asStr "tls" "security_provider" fields
    appProtocol := ← optional asStr "app_protocol" fields
    tlsMode := ← defaulted (variant [("tls",.tls),("ktls",.ktls),("dtls",.dtls)]) .tls "tls_mode" fields
    transparent := ← defaulted asBool false "transparent" fields
    trafficClass := ← defaulted readClass .normal "traffic_class" fields
    dscpTag := ← optional (fun v => (natBelow 256 v).map UInt8.ofNat) "dscp_tag" fields
    preserveInboundDscp := ← defaulted asBool false "preserve_inbound_dscp" fields
    appId := ← optional asStr "app_id" fields
    bufferSlots := ← defaulted readUsize 256 "buffer_slots" fields
    bufferSlotSize := ← defaulted readUsize 65536 "buffer_slot_size" fields
    simulatedDelayMs := ← defaulted readUsize 0 "simulated_delay_ms" fields
    protocolVersion := ← optional asStr "protocol_version" fields
    allowedUids := ← defaulted (items fun v => (natBelow (2^32) v).map UInt32.ofNat) [] "allowed_uids" fields
    allowedPids := ← defaulted (items fun v => (integerIn (-2^31) (2^31) v).map Int32.ofInt) [] "allowed_pids" fields
    zeroCopy := ← defaulted asBool false "zero_copy" fields
    spinWaitUs := ← defaulted readUsize 0 "spin_wait_us" fields
    perfProfile := ← optional readProfile "perf_profile" fields
    sockBufSize := ← optional readUsize "sock_buf_size" fields
    pipeSize := ← optional readUsize "pipe_size" fields
    relayBufSize := ← optional readUsize "relay_buf_size" fields
    notsentLowat := ← optional readUsize "notsent_lowat" fields
    busyPollUs := ← optional (natBelow (2^32)) "busy_poll_us" fields
    bdpAdaptive := ← defaulted asBool false "bdp_adaptive" fields
    bdpQueueBudgetUs := ← optional readUsize "bdp_queue_budget_us" fields
    intercept := ← optional InterceptConfig.parse "intercept" fields}

-- Every other member is flattened into the provider's parameters, under its own key.
def RuleConfig.parse (render : Json → String) : Json → Option RuleConfig
  | .obj fields => (typed fields).map fun rule =>
    {rule with providerParams := Params.ofFields render (remaining members fields)}
  | _ => none

def WhitelistEntry.parse (value : Json) : Option WhitelistEntry := do
  let fields ← record ["source","destination"] value
  return ⟨← required asStr "source" fields,← required asStr "destination" fields⟩

def PolicyConfig.parse (value : Json) : Option PolicyConfig := do
  let fields ← record ["default_action","whitelist","enforce_policy_on_safety"] value
  return {
    defaultAction := ← defaulted (variant [("allow",.allow),("deny",.deny)]) .allow "default_action" fields
    whitelist := ← defaulted (items WhitelistEntry.parse) [] "whitelist" fields
    enforcePolicyOnSafety := ← defaulted asBool false "enforce_policy_on_safety" fields}

-- The document of a lite configuration: its other members are not there and take their defaults.
def GatewayConfig.parseLite (render : Json → String) (root : Fields) : Option GatewayConfig := do
  return {
    rules := ← required (items (RuleConfig.parse render)) "rules" root
    policy := ← optional PolicyConfig.parse "policy" root}

theorem parse_params {render : Json → String}
    (read : RuleConfig.parse render (.obj fields) = some rule) (untyped : key ∉ RuleConfig.members) :
    rule.providerParams.lookup key = (Json.lookup key fields).map (Value.ofJson render) := by
  obtain ⟨typed,_,rfl⟩ := Option.map_eq_some_iff.mp read
  rw [lookup_ofFields,lookup_remaining untyped]

end Scg.Config
