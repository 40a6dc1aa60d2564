import Scg.Config.Diff

namespace Scg.Gateway
open Net Policy Config

-- A static listener thread. Its index in the list of all listeners ever started is
-- its own shutdown flag; `generation` is the load of the configuration that started it.
structure Listener where
  flag : Nat
  generation : Nat
  rule : RuleConfig

-- `shutdowns` is the shared map from rule names to the flags of their latest listeners.
structure Listeners where
  started : List Listener
  stopped : List Nat
  shutdowns : AList fun _ : String => Nat

namespace Listeners

def empty : Listeners := {started := [],stopped := [],shutdowns := ∅}

def running (l : Listeners) : List RuleConfig :=
  (l.started.filter fun listener => listener.flag ∉ l.stopped).map (·.rule)

def startSingleRule (generation : Nat) (l : Listeners) (rule : RuleConfig) : Listeners :=
  {l with
    started := l.started ++ [⟨l.started.length,generation,rule⟩]
    shutdowns := l.shutdowns.insert rule.name l.started.length}

def stop (l : Listeners) (name : String) : Listeners :=
  match l.shutdowns.lookup name with
  | some flag => {l with stopped := flag :: l.stopped}
  | none => l

def restart (generation : Nat) (l : Listeners) (rule : RuleConfig) : Listeners :=
  (l.stop rule.name).startSingleRule generation rule

end Listeners

-- Local rules are templates and get no listener at startup.
def startRules (config : GatewayConfig) : Listeners :=
  (config.rules.filter fun rule => !rule.listenProto.isLocal).foldl (Listeners.startSingleRule 0) .empty

-- The listener part of the reload callback; it does not look at `listen_proto`.
def onReload (generation : Nat) (l : Listeners) (diff : ConfigDiff) : Listeners :=
  let stopped := diff.removed.foldl Listeners.stop l
  let added := diff.added.foldl (Listeners.startSingleRule generation) stopped
  diff.changed.foldl (Listeners.restart generation) added

structure EndpointTemplate where
  ruleName : String
  upstreamAddr : String
  tlsMode : TlsMode
  routing : Bool
  protocolVersion : Option String
  providerParams : Params
  allowedUids : List UInt32
  allowedPids : List Int32
  qos : QosPolicy
  ringCapacity : Nat
  perf : PerfKnobs
  ringKind : ShmRingKind
  segmentSize : Nat
  numSegments : Nat
  g2cNotify : ShmNotify

abbrev Templates := AList fun _ : String => EndpointTemplate

def templateKey (appId : String) (trafficClass : TrafficClass) (direction : Direction) (kind : Proto) : String :=
  appId ++ "\x00" ++ classDisplay trafficClass ++ "\x00" ++ direction.display ++ "\x00" ++ kind.display

def upstreamTlsMode (env : Parsers) (provider : String) (params : Params) (version : Option String) : TlsMode :=
  if provider = "ktls" then
    match env.tlsParams params version with
    | .ok true => .ktls
    | _ => .tls
  else .tls

def buildTemplate (env : Parsers) (config : GatewayConfig) (rule : RuleConfig) : EndpointTemplate :=
  let api := config.api.getD {}
  let provider := rule.effectiveSecurityProvider
  {ruleName := rule.name
   upstreamAddr := rule.upstreamAddr
   tlsMode := upstreamTlsMode env provider rule.providerParams rule.protocolVersion
   routing := provider == "routing"
   protocolVersion := rule.protocolVersion
   providerParams := rule.providerParams
   allowedUids := rule.allowedUids
   allowedPids := rule.allowedPids
   qos := rule.qos
   ringCapacity := api.shmRingCapacity
   perf := rule.perfKnobs config.perfProfile config.sockBufSize
   ringKind := api.shmRingKind
   segmentSize := api.shmSegmentSize
   numSegments := api.shmNumSegments
   g2cNotify := api.shmG2cNotify}

-- A rule without an app id cannot be addressed and is skipped; of two rules with one
-- key the last wins.
def addTemplate (env : Parsers) (config : GatewayConfig) (templates : Templates) (rule : RuleConfig) : Templates :=
  if rule.listenProto.isLocal then
    match rule.appId with
    | some appId =>
      if appId = "" then templates
      else templates.insert (templateKey appId rule.trafficClass rule.direction rule.listenProto)
        (buildTemplate env config rule)
    | none => templates
  else templates

def buildTemplates (env : Parsers) (config : GatewayConfig) : Templates :=
  config.rules.foldl (addTemplate env config) ∅

structure Live where
  config : GatewayConfig
  generation : Nat
  cache : TrafficCache
  analyzer : Option TrafficAnalyzer
  policy : PolicyManager
  templates : Templates
  listeners : Listeners

def startAnalyzer (env : Parsers) (config : GatewayConfig) : Option TrafficAnalyzer :=
  if config.trafficRules.isEmpty then none else some (.new env.std config.trafficRules)

def start (env : Parsers) (config : GatewayConfig) : Live :=
  let cache := config.cache.getD {}
  {config := config
   generation := 0
   cache := .new cache.maxEntries cache.ttlSecs
   analyzer := startAnalyzer env config
   policy := .new env.std config.policy
   templates := buildTemplates env config
   listeners := startRules config}

-- A successful reload, processed to its end: the watcher calls back only when some rule
-- changed; the orchestrator clears the cache and swaps the policy.
def reload (env : Parsers) (live : Live) (new : GatewayConfig) : Live :=
  let diff := live.config.diff new
  let swapped := {live with config := new,generation := live.generation+1}
  if diff.touches then
    {swapped with
      templates := buildTemplates env new
      listeners := onReload swapped.generation live.listeners diff
      cache := live.cache.clear
      policy := live.policy.reload env.std new.policy}
  else swapped

-- A small configuration: one routed TCP service, and a template for a local client.
def plainParsers : Parsers :=
  {std := .ipv4,tlsParams := fun _ _ => .ok false,wireguardParams := fun _ => .ok ()}

def webRule : RuleConfig :=
  {name := "web",direction := .encrypt,listenAddr := "127.0.0.1:8080",upstreamAddr := "127.0.0.1:9090"
   securityProvider := "routing"}

def localRule : RuleConfig :=
  {name := "local",direction := .decrypt,listenAddr := "127.0.0.1:8081",listenProto := .uds
   upstreamAddr := "127.0.0.1:9091",appId := some "app",allowedUids := [1000]}

end Scg.Gateway
