import Scg.Policy.Decision

namespace Scg.Config
open Policy

inductive Direction where
  | encrypt | decrypt
  deriving DecidableEq,Repr

inductive Proto where
  | tcp | udp | uds | shm
  deriving DecidableEq,Repr

inductive TlsMode where
  | tls | ktls | dtls
  deriving DecidableEq,Repr

inductive PerfProfile where
  | throughput | latency | balanced
  deriving DecidableEq,Repr

inductive InterceptMode where
  | ingressRedirect | egressRedirect | tproxy
  deriving DecidableEq,Repr

inductive ShmRingKind where
  | byteStream | slot
  deriving DecidableEq,Repr

inductive ShmNotify where
  | eventfd | futex
  deriving DecidableEq,Repr

def Direction.display : Direction → String
  | .encrypt => "encrypt"
  | .decrypt => "decrypt"

def Proto.display : Proto → String
  | .tcp => "tcp"
  | .udp => "udp"
  | .uds => "uds"
  | .shm => "shm"

-- A uds or shm rule is a template for endpoints made on demand.
def Proto.isLocal : Proto → Bool
  | .uds | .shm => true
  | .tcp | .udp => false

def classDisplay : TrafficClass → String
  | .normal => "normal"
  | .safety => "safety"

-- A parameter value. Arrays and objects are carried and compared, never read.
inductive Value where
  | null
  | bool (b : Bool)
  | uint (n : UInt64)
  | int (n : Int64)
  | float (text : String)
  | str (s : String)
  | composite (text : String)
  deriving DecidableEq

def Value.asU64 : Value → Option Nat
  | .uint n => some n.toNat
  | _ => none

def Value.asStr : Value → Option String
  | .str s => some s
  | _ => none

def Value.asBool : Value → Option Bool
  | .bool b => some b
  | _ => none

abbrev Params := AList fun _ : String => Value

-- Equality of hash maps does not see an order.
def Params.same (one two : Params) : Bool :=
  one.entries.length == two.entries.length &&
    one.entries.all fun entry => two.lookup entry.1 == some entry.2

structure InterceptConfig where
  mode : InterceptMode
  inInterface : Option String
  matchDports : String
  matchDst : List String
  matchSrc : List String
  protocol : Option String
  deriving DecidableEq

structure QosPolicy where
  dscpTag : Option UInt8
  preserveInboundDscp : Bool
  trafficClass : TrafficClass
  deriving DecidableEq

structure RuleConfig where
  name : String
  direction : Direction
  listenAddr : String
  listenProto : Proto := .tcp
  upstreamAddr : String := "auto"
  upstreamProto : Proto := .tcp
  securityProvider : String := "tls"
  appProtocol : Option String := none
  tlsMode : TlsMode := .tls
  transparent : Bool := false
  providerParams : Params := ∅
  trafficClass : TrafficClass := .normal
  dscpTag : Option UInt8 := none
  preserveInboundDscp : Bool := false
  appId : Option String := none
  bufferSlots : Nat := 256
  bufferSlotSize : Nat := 65536
  simulatedDelayMs : Nat := 0
  protocolVersion : Option String := none
  allowedUids : List UInt32 := []
  allowedPids : List Int32 := []
  zeroCopy : Bool := false
  spinWaitUs : Nat := 0
  perfProfile : Option PerfProfile := none
  sockBufSize : Option Nat := none
  pipeSize : Option Nat := none
  relayBufSize : Option Nat := none
  notsentLowat : Option Nat := none
  busyPollUs : Option Nat := none
  bdpAdaptive : Bool := false
  bdpQueueBudgetUs : Option Nat := none
  intercept : Option InterceptConfig := none

structure PerfKnobs where
  enableCork : Bool
  spinWaitUs : Nat
  sockBufSize : Nat
  pipeSize : Nat
  relayBufSize : Nat
  notsentLowat : Option Nat
  busyPollUs : Nat
  bdpAdaptive : Bool
  bdpQueueBudgetUs : Nat
  deriving DecidableEq

namespace PerfKnobs

def resolve (profile : PerfProfile) (simulatedDelayMs spinWaitUs sockBufSize : Nat) : PerfKnobs :=
  let mib := 1024*1024
  let (pipeSize,relayBufSize,sockCap,notsentLowat,busyPollUs) :=
    match profile with
    | .throughput => (16*mib,4*mib,2^64-1,none,0)
    | .balanced => (8*mib,2*mib,8*mib,some (2*mib),0)
    | .latency => (256*1024,256*1024,256*1024,some (16*1024),50)
  {enableCork := simulatedDelayMs == 0 && profile != .latency
   spinWaitUs := if spinWaitUs > 0 then spinWaitUs else if profile = .latency then 50 else 0
   sockBufSize := min sockBufSize sockCap
   pipeSize := pipeSize
   relayBufSize := relayBufSize
   notsentLowat := notsentLowat
   busyPollUs := busyPollUs
   bdpAdaptive := false
   bdpQueueBudgetUs := 1000}

def withRuleOverrides (knobs : PerfKnobs) (rule : RuleConfig) (bdpAdaptive : Bool) : PerfKnobs :=
  {knobs with
    sockBufSize := rule.sockBufSize.getD knobs.sockBufSize
    pipeSize := rule.pipeSize.getD knobs.pipeSize
    relayBufSize := rule.relayBufSize.getD knobs.relayBufSize
    notsentLowat := match rule.notsentLowat with
      | some value => if value != 0 then some value else none
      | none => knobs.notsentLowat
    busyPollUs := rule.busyPollUs.getD knobs.busyPollUs
    bdpAdaptive := bdpAdaptive
    bdpQueueBudgetUs := rule.bdpQueueBudgetUs.getD knobs.bdpQueueBudgetUs}

end PerfKnobs

namespace RuleConfig

def perfKnobs (rule : RuleConfig) (global : PerfProfile) (sockBufSize : Nat) : PerfKnobs :=
  let profile := rule.perfProfile.getD global
  (PerfKnobs.resolve profile rule.simulatedDelayMs rule.spinWaitUs sockBufSize).withRuleOverrides rule
    (rule.bdpAdaptive && profile == .latency)

def effectiveSecurityProvider (rule : RuleConfig) : String :=
  if rule.securityProvider = "tls" then
    match rule.tlsMode with
    | .tls => "tls"
    | .ktls => "ktls"
    | .dtls => "dtls"
  else rule.securityProvider

def effectiveAppProtocol (rule : RuleConfig) : String := rule.appProtocol.getD "ale"

def qos (rule : RuleConfig) : QosPolicy := ⟨rule.dscpTag,rule.preserveInboundDscp,rule.trafficClass⟩

-- Whether a same-name rule has to be restarted. Tuning fields are not compared.
def reloadDiffers (rule other : RuleConfig) : Bool :=
  rule.direction != other.direction || rule.listenAddr != other.listenAddr ||
  rule.listenProto != other.listenProto || rule.upstreamAddr != other.upstreamAddr ||
  rule.upstreamProto != other.upstreamProto ||
  rule.effectiveSecurityProvider != other.effectiveSecurityProvider ||
  rule.effectiveAppProtocol != other.effectiveAppProtocol ||
  rule.protocolVersion != other.protocolVersion || rule.transparent != other.transparent ||
  rule.trafficClass != other.trafficClass || rule.dscpTag != other.dscpTag ||
  rule.preserveInboundDscp != other.preserveInboundDscp ||
  !rule.providerParams.same other.providerParams ||
  rule.allowedUids != other.allowedUids || rule.allowedPids != other.allowedPids ||
  rule.intercept != other.intercept

-- What a rule says apart from performance tuning; parameters are compared as a map.
structure Definition where
  direction : Direction
  listenAddr : String
  listenProto : Proto
  upstreamAddr : String
  upstreamProto : Proto
  securityProvider : String
  appProtocol : String
  protocolVersion : Option String
  transparent : Bool
  qos : QosPolicy
  params : String → Option Value
  allowedUids : List UInt32
  allowedPids : List Int32
  intercept : Option InterceptConfig

def definition (rule : RuleConfig) : Definition :=
  {direction := rule.direction
   listenAddr := rule.listenAddr
   listenProto := rule.listenProto
   upstreamAddr := rule.upstreamAddr
   upstreamProto := rule.upstreamProto
   securityProvider := rule.effectiveSecurityProvider
   appProtocol := rule.effectiveAppProtocol
   protocolVersion := rule.protocolVersion
   transparent := rule.transparent
   qos := rule.qos
   params := fun key => rule.providerParams.lookup key
   allowedUids := rule.allowedUids
   allowedPids := rule.allowedPids
   intercept := rule.intercept}

end RuleConfig

structure CacheConfig where
  maxEntries : Nat := 10000
  ttlSecs : Nat := 300

structure ApiConfig where
  shmRingCapacity : Nat := 4*1024*1024
  shmRingKind : ShmRingKind := .byteStream
  shmSegmentSize : Nat := 2048
  shmNumSegments : Nat := 512
  shmG2cNotify : ShmNotify := .eventfd
  maxEndpointsPerUid : UInt32 := 64
  createRatePerMin : UInt32 := 120

structure GatewayConfig where
  sockBufSize : Nat := 16*1024*1024
  rules : List RuleConfig
  trafficRules : List TrafficRuleConfig := []
  policy : Option PolicyConfig := none
  cache : Option CacheConfig := none
  api : Option ApiConfig := none
  perfProfile : PerfProfile := .balanced
  connPoolSize : Option Nat := none

end Scg.Config
