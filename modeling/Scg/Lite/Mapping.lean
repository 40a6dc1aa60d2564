import Scg.Library.Checks
import Scg.Library.Json

namespace Scg.Lite
open Json (Fields strAt boolAt u64At arrAt pointer insertSome)

def okOr (value : Option α) (text : String) : Except String α :=
  match value with
  | some a => .ok a
  | none => .error text

theorem okOr_ok (found : okOr value text = .ok a) : value = some a := by
  cases value with
  | none => cases found
  | some b => exact congrArg some (Except.ok.inj found)

def indexProfile (index : Fields) (profile : Json) : Fields :=
  match profile.strAt "profile_id" with
  | some id => Json.insert id profile index
  | none => index

def indexProfiles (merged : Json) : Fields :=
  match (pointer "crypto" "profiles" merged).bind Json.asArr with
  | some profiles => profiles.foldl indexProfile []
  | none => []

inductive SecurityProvider where
  | routing | tls | dtls
  deriving DecidableEq

def SecurityProvider.name : SecurityProvider → String
  | .routing => "routing"
  | .tls => "tls"
  | .dtls => "dtls"

structure Provider where
  securityProvider : SecurityProvider
  appProtocol : Option String
  protocolVersion : Option String

def tlsVersion (profile : Json) : Option String :=
  match profile.strAt "max_version" with
  | some "1.3" => some "tls1.3"
  | some "1.2" => some "tls1.2"
  | _ => none

def dtlsVersion (profile : Json) : Option String :=
  match profile.strAt "max_version" with
  | some "1.2" => some "dtls1.2"
  | some "1.0" => some "dtls1.0"
  | _ => none

-- ALE and RAW take their crypto from the outer profile; anything but DTLS there is TLS.
def outerProvider (appProtocol : String) (profile : Json) (profiles : Fields) : Provider :=
  let outer := (profile.strAt "outer_crypto_profile_ref").bind fun ref => Json.lookup ref profiles
  if (outer.bind (strAt "protocol")).getD "TLS" = "DTLS" then
    ⟨.dtls,some appProtocol,outer.bind dtlsVersion⟩
  else ⟨.tls,some appProtocol,outer.bind tlsVersion⟩

def resolveProvider (proto : String) (profile : Json) (mode : String) (profiles : Fields) (cid : String) :
    Except String (Provider × List String) :=
  if mode = "routing_only" ∨ proto = "NONE" then .ok (⟨.routing,none,none⟩,[])
  else if mode = "integrity_only" ∨ proto = "ABSTRACT_INTEGRITY_ONLY" then
    .ok (⟨.tls,none,none⟩,[s!"connection '{cid}': integrity-only protection is not yet implemented in the data plane — using full TLS (payload WILL be encrypted)"])
  else if proto = "TLS" then .ok (⟨.tls,none,tlsVersion profile⟩,[])
  else if proto = "TLS_PSK" then
    .ok (⟨.tls,none,tlsVersion profile⟩,[s!"connection '{cid}': TLS-PSK mapped to the 'tls' provider — PSK key exchange is only partially wired (deferred)"])
  else if proto = "DTLS" then .ok (⟨.dtls,none,dtlsVersion profile⟩,[])
  else if proto = "ALE" then .ok (outerProvider "ale" profile profiles,[])
  else if proto = "RAW" then .ok (outerProvider "raw" profile profiles,[])
  else .error s!"unsupported crypto profile protocol '{proto}'"

def priorityOf (path : Json) : Int := ((path.get "priority").bind Json.asI64).getD (2^63-1)

-- `min_by_key`: the first of the least.
def leastPriority : List Json → Option Json
  | [] => none
  | path :: rest =>
    match leastPriority rest with
    | none => some path
    | some least => if priorityOf path ≤ priorityOf least then some path else some least

def pickPrimary (paths : List Json) : Option Json :=
  (paths.find? fun path => path.strAt "role" == some "primary").orElse fun _ => leastPriority paths

def directionOf (role cid : String) : String × List String :=
  if role = "client" then ("encrypt",[])
  else if role = "server" then ("decrypt",[])
  else if role = "none" then ("encrypt",[])
  else ("encrypt",[s!"connection '{cid}': unknown protection.role '{role}' — defaulting to 'encrypt'"])

structure Ingress where
  listenAddr : String
  listenProto : String

def ingressOf (conn : Json) : Except String Ingress := do
  let endpoint ← okOr (pointer "ingress" "endpoint" conn) "missing 'ingress.endpoint'"
  let ip ← okOr (endpoint.strAt "ip")
    "ingress.endpoint has no 'ip' (UDS/SHM ingress is not yet supported by the data plane)"
  let port ← okOr (endpoint.u64At "port") "ingress.endpoint has no numeric 'port'"
  let listenAddr := if ':' ∈ ip.toList then s!"[{ip}]:{port}" else s!"{ip}:{port}"
  let listenProto := (endpoint.strAt "protocol").orElse fun _ => (pointer "transport" "protocol" conn).bind Json.asStr
  return ⟨listenAddr,listenProto.getD "tcp"⟩

structure Egress where
  upstreamAddr : String
  upstreamProto : String

def egressOf (endpoint : Json) (listenProto : String) : Except String Egress :=
  if endpoint.asStr = some "auto" then .ok ⟨"auto",listenProto⟩
  else
    match endpoint with
    | .obj fields =>
      match (Json.lookup "host" fields).bind Json.asStr with
      | some host => do
        let port ← okOr (endpoint.u64At "port") "egress endpoint has no numeric 'port'"
        return ⟨s!"{host}:{port}",(endpoint.strAt "protocol").getD listenProto⟩
      | none =>
        let kind := (endpoint.strAt "type").getD "?"
        .error s!"egress endpoint kind '{kind}' is not yet supported by the data plane (only host:port or 'auto')"
    | _ => .error "egress endpoint must be 'auto' or an object with host/port"

def pathsOf (conn : Json) : Except String (List Json) :=
  okOr ((conn.arrAt "paths").filter fun paths => !paths.isEmpty) "connection has no 'paths'"

-- The typed members of `ingress.intercept` pass through, the address lists as they are.
def interceptOf (conn : Json) : Except String (Option Json) :=
  match pointer "ingress" "intercept" conn with
  | some (.obj fields) => do
    let intercept := Json.obj fields
    let mode ← okOr (intercept.strAt "mode") "ingress.intercept has no 'mode'"
    let text := fun key => (intercept.strAt key).map Json.str
    return some (.obj (insertSome "protocol" (text "protocol") (insertSome "match_src" (intercept.get "match_src")
      (insertSome "match_dst" (intercept.get "match_dst") (insertSome "match_dports" (text "match_dports")
        (insertSome "in_interface" (text "in_interface") (Json.insert "mode" (.str mode) [])))))))
  | _ => .ok none

structure Parts where
  name : String
  direction : String
  ingress : Ingress
  egress : Egress
  provider : Provider
  transparent : Bool
  trafficClass : String
  appId : Option String
  sni : Option String
  intercept : Option Json

def Parts.rule (parts : Parts) : Fields :=
  let verify := if parts.provider.securityProvider = .routing then none else some (Json.str "server")
  insertSome "intercept" parts.intercept <|
  insertSome "sni" (parts.sni.map .str) <|
  insertSome "protocol_version" (parts.provider.protocolVersion.map .str) <|
  insertSome "app_id" (parts.appId.map .str) <|
  Json.insert "traffic_class" (.str parts.trafficClass) <|
  Json.insert "transparent" (.bool parts.transparent) <|
  insertSome "app_protocol" (parts.provider.appProtocol.map .str) <|
  insertSome "verify" verify <|
  Json.insert "security_provider" (.str parts.provider.securityProvider.name) <|
  Json.insert "upstream_proto" (.str parts.egress.upstreamProto) <|
  Json.insert "upstream_addr" (.str parts.egress.upstreamAddr) <|
  Json.insert "listen_proto" (.str parts.ingress.listenProto) <|
  Json.insert "listen_addr" (.str parts.ingress.listenAddr) <|
  Json.insert "direction" (.str parts.direction) <|
  Json.insert "name" (.str parts.name) []

def isTransparent (conn : Json) : Bool := (conn.boolAt "transparent").getD false

def mapParts (profiles : Fields) (conn : Json) : Except String (Parts × List String) := do
  let cid ← okOr (conn.strAt "connection_id") "missing connection_id"
  let transparent := isTransparent conn
  let prot ← okOr (conn.get "protection") "missing 'protection'"
  let role := (prot.strAt "role").getD "client"
  let mode := (prot.strAt "mode").getD "full"
  let profileRef ← okOr (prot.strAt "profile_ref") "missing 'protection.profile_ref'"
  let profile ← okOr (Json.lookup profileRef profiles)
    s!"protection.profile_ref '{profileRef}' does not resolve to a crypto profile"
  let proto ← okOr (profile.strAt "protocol") s!"crypto profile '{profileRef}' has no 'protocol'"
  let (direction,roleWarnings) := directionOf role cid
  let (provider,providerWarnings) ← resolveProvider proto profile mode profiles cid
  let ingress ← ingressOf conn
  let paths ← pathsOf conn
  let count := paths.length
  let pathWarnings :=
    if count > 1 then [s!"connection '{cid}': {count} paths defined — only the primary path is mapped (multi-path fail-over is deferred)"]
    else []
  let primary ← okOr (pickPrimary paths) "connection has no 'paths'"
  let endpoint ← okOr (pointer "egress" "endpoint" primary) "primary path has no 'egress.endpoint'"
  let egress ← egressOf endpoint ingress.listenProto
  Checks.require (!(egress.upstreamAddr == "auto" && !transparent)) "egress 'auto' requires transparent = true"
  let explicitWarnings :=
    if transparent && egress.upstreamAddr != "auto" then
      [s!"connection '{cid}': transparent = true but egress is an explicit endpoint — the original-destination lookup will be ignored"]
    else []
  let intercept ← interceptOf conn
  let parts := {
    name := cid
    direction := direction
    ingress := ingress
    egress := egress
    provider := provider
    transparent := transparent
    trafficClass := (conn.strAt "traffic_class").getD "normal"
    appId := conn.strAt "app_id"
    sni := prot.strAt "sni"
    intercept := intercept}
  return (parts,roleWarnings ++ providerWarnings ++ pathWarnings ++ explicitWarnings)

def mapOne (profiles : Fields) (conn : Json) : Except String (Json × List String) := do
  let (parts,warnings) ← mapParts profiles conn
  return (.obj parts.rule,warnings)

def isEnabled (conn : Json) : Bool := (conn.boolAt "enabled").getD true

structure MappedRules where
  rules : List Json
  warnings : List String

-- The loop over the connections. One enabled connection that cannot be mapped rejects all.
def mapEach (profiles : Fields) : List Json → Except String MappedRules
  | [] => .ok ⟨[],[]⟩
  | conn :: rest =>
    let cid := (conn.strAt "connection_id").getD "<unnamed>"
    if isEnabled conn then
      match mapOne profiles conn with
      | .error e => .error s!"connection '{cid}': {e}"
      | .ok (rule,warnings) => do
        let later ← mapEach profiles rest
        return ⟨rule :: later.rules,warnings ++ later.warnings⟩
    else do
      let later ← mapEach profiles rest
      return ⟨later.rules,s!"connection '{cid}': disabled — not mapped to a data-plane rule" :: later.warnings⟩

def mapConnectionsToRules (merged : Json) : Except String MappedRules := do
  let connections ← okOr (merged.arrAt "connections") "configuration has no 'connections' array"
  mapEach (indexProfiles merged) connections

end Scg.Lite
