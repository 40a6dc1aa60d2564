import Scg.Gateway.Live
import Scg.Lite.Load

namespace Scg.Gateway
open Policy Config

def resolveCryptoProvider (configured : String) (offloadable preferKtls kernelKtls : Bool) : String :=
  if configured = "ktls" ∧ offloadable = false then "tls"
  else if configured = "tls" ∧ preferKtls = true ∧ offloadable = true ∧ kernelKtls = true then "ktls"
  else configured

structure Surroundings where
  loader : Lite.Loader
  preferKtls : Bool
  kernelKtls : Bool
  defaultPoolSize : Nat
  trafficAnalyzer : Option TrafficAnalyzer
  policyManager : PolicyManager
  config : GatewayConfig

structure RuleMetrics where
  ruleName : String
  direction : String
  provider : String

structure ConnectionPool where
  size : Nat
  ruleName : String
  trafficClass : TrafficClass

structure RuleContext where
  ruleName : String
  listenAddr : String
  listenProto : Proto
  upstreamAddr : String
  upstreamProto : Proto
  tlsMode : TlsMode
  securityProvider : String
  transparent : Bool
  sockBufSize : Nat
  metrics : RuleMetrics
  providerParams : Params
  trafficClass : TrafficClass
  qos : QosPolicy
  trafficAnalyzer : Option TrafficAnalyzer
  policyManager : Option PolicyManager
  simulatedDelayMs : Nat
  protocolVersion : Option String
  appProtocol : String
  perf : PerfKnobs
  connPool : ConnectionPool

def offloadable (rule : RuleConfig) : Bool :=
  (rule.effectiveSecurityProvider == "tls" || rule.effectiveSecurityProvider == "ktls") &&
    match Tls.fromParams rule.providerParams rule.protocolVersion with
    | .ok parsed => Tls.isKtlsOffloadable parsed.toTlsSecurityParams
    | .error _ => false

def resolvedProvider (at_ : Surroundings) (rule : RuleConfig) : String :=
  resolveCryptoProvider rule.effectiveSecurityProvider (offloadable rule) at_.preferKtls at_.kernelKtls

def effectiveTlsMode (provider : String) (rule : RuleConfig) : TlsMode :=
  if provider = "ktls" then .ktls
  else if provider = "dtls" then .dtls
  else rule.tlsMode

def ruleContext (at_ : Surroundings) (rule : RuleConfig) : RuleContext :=
  let securityProvider := resolvedProvider at_ rule
  let perf := rule.perfKnobs at_.config.perfProfile at_.config.sockBufSize
  {ruleName := rule.name
   listenAddr := rule.listenAddr
   listenProto := rule.listenProto
   upstreamAddr := rule.upstreamAddr
   upstreamProto := rule.upstreamProto
   tlsMode := effectiveTlsMode securityProvider rule
   securityProvider := securityProvider
   transparent := rule.transparent
   sockBufSize := perf.sockBufSize
   metrics := ⟨rule.name,rule.direction.display,securityProvider⟩
   providerParams := rule.providerParams
   trafficClass := rule.trafficClass
   qos := rule.qos
   trafficAnalyzer := at_.trafficAnalyzer
   policyManager := some at_.policyManager
   simulatedDelayMs := rule.simulatedDelayMs
   protocolVersion := rule.protocolVersion
   appProtocol := rule.effectiveAppProtocol
   perf := perf
   connPool := ⟨at_.config.connPoolSize.getD at_.defaultPoolSize,rule.name,rule.trafficClass⟩}

structure ListenerPosture where
  direction : Direction
  ruleName : String
  listenAddr : String
  listenProto : Proto
  upstreamAddr : String
  upstreamProto : Proto
  tlsMode : TlsMode
  securityProvider : String
  transparent : Bool
  metrics : RuleMetrics
  params : String → Option Value
  trafficClass : TrafficClass
  qos : QosPolicy
  trafficAnalyzer : Option TrafficAnalyzer
  policyManager : Option PolicyManager
  protocolVersion : Option String
  appProtocol : String
  connPool : ConnectionPool

def RuleContext.posture (ctx : RuleContext) (direction : Direction) : ListenerPosture :=
  {direction := direction
   ruleName := ctx.ruleName
   listenAddr := ctx.listenAddr
   listenProto := ctx.listenProto
   upstreamAddr := ctx.upstreamAddr
   upstreamProto := ctx.upstreamProto
   tlsMode := ctx.tlsMode
   securityProvider := ctx.securityProvider
   transparent := ctx.transparent
   metrics := ctx.metrics
   params := fun key => ctx.providerParams.lookup key
   trafficClass := ctx.trafficClass
   qos := ctx.qos
   trafficAnalyzer := ctx.trafficAnalyzer
   policyManager := ctx.policyManager
   protocolVersion := ctx.protocolVersion
   appProtocol := ctx.appProtocol
   connPool := ctx.connPool}

structure TemplatePosture where
  ruleName : String
  upstreamAddr : String
  tlsMode : TlsMode
  routing : Bool
  protocolVersion : Option String
  params : String → Option Value
  allowedUids : List UInt32
  allowedPids : List Int32
  qos : QosPolicy
  ringCapacity : Nat
  ringKind : ShmRingKind
  segmentSize : Nat
  numSegments : Nat
  g2cNotify : ShmNotify

def EndpointTemplate.posture (template : EndpointTemplate) : TemplatePosture :=
  {ruleName := template.ruleName
   upstreamAddr := template.upstreamAddr
   tlsMode := template.tlsMode
   routing := template.routing
   protocolVersion := template.protocolVersion
   params := fun key => template.providerParams.lookup key
   allowedUids := template.allowedUids
   allowedPids := template.allowedPids
   qos := template.qos
   ringCapacity := template.ringCapacity
   ringKind := template.ringKind
   segmentSize := template.segmentSize
   numSegments := template.numSegments
   g2cNotify := template.g2cNotify}

-- What startup makes of one rule: a listener, or a template under its key, or nothing.
inductive Made where
  | listener (posture : ListenerPosture)
  | template (key : String) (posture : TemplatePosture)
  | nothing

def startup (at_ : Surroundings) (rule : RuleConfig) : Made :=
  if rule.listenProto.isLocal then
    match rule.appId with
    | some appId =>
      if appId = "" then .nothing
      else .template (templateKey appId rule.trafficClass rule.direction rule.listenProto)
        (buildTemplate at_.loader.parsers at_.config rule).posture
    | none => .nothing
  else .listener ((ruleContext at_ rule).posture rule.direction)

end Scg.Gateway
