import Scg.Config.Parse
import Scg.Lite.Correspondence
import Scg.Lite.Merge
import Scg.Tls.FromParams

namespace Scg.Lite
open List Checks
open Config (GatewayConfig RuleConfig Params Parsers)
open Json (Fields insertSome)

-- The address texts, the WireGuard parameters, and the JSON library's own texts.
structure Loader where
  std : Net.Std
  wireguardParams : Params → Except String Unit
  render : Json → String
  refusal : Fields → String

def Loader.parsers (loader : Loader) : Parsers where
  std := loader.std
  tlsParams params version := (Tls.fromParams params version).map fun parsed => Tls.isKtlsOffloadable parsed.toTlsSecurityParams
  wireguardParams := loader.wireguardParams

-- Each file as it is read and parsed, the signatures and the schema's hash over the merged
-- document, and what is said about the place of the key.
structure Directory where
  defaults : Except String Json
  user : Except String Json
  verifyIntegrity : Json → Except String Unit
  advisories : List String

def fromValue (loader : Loader) (root : Fields) : Except String GatewayConfig :=
  match GatewayConfig.parseLite loader.render root with
  | none =>
    let e := loader.refusal root
    .error s!"Failed to build gateway config from lite mapping: {e}"
  | some config => do
    config.validate loader.parsers
    return config

def loadMerged (loader : Loader) (dir : Directory) (merged : Json) (templateWarnings : List String) :
    Except String (GatewayConfig × List String) := do
  dir.verifyIntegrity merged
  let mapped ← mapConnectionsToRules merged
  Checks.require (!mapped.rules.isEmpty) "no connections could be mapped to data-plane rules (see warnings above)"
  let config ← fromValue loader (insertSome "policy" (merged.get "policy") [("rules",.arr mapped.rules)])
  return (config,dir.advisories ++ templateWarnings ++ mapped.warnings)

def loadWithWarnings (loader : Loader) (dir : Directory) : Except String (GatewayConfig × List String) := do
  let defaults ← dir.defaults
  let user ← dir.user
  let filled := applyTemplates (deepMerge defaults user)
  loadMerged loader dir filled.1 filled.2

section Loaded
variable {loader : Loader} {dir : Directory} {config : GatewayConfig} {warnings : List String}

theorem fromValue_parts (ran : fromValue loader (insertSome "policy" policy [("rules",.arr rules)]) = .ok config) :
    List.Forall₂ (fun given rule => RuleConfig.parse loader.render given = some rule) rules config.rules ∧
      config.validate loader.parsers = .ok () := by
  unfold fromValue at ran
  split at ran
  · cases ran
  · rename_i parsed read
    obtain ⟨_,valid,ran⟩ := bind_ok ran
    cases ran
    refine ⟨?_,valid⟩
    obtain ⟨made,all,read⟩ := Option.bind_eq_some_iff.mp read
    obtain ⟨_,_,read⟩ := Option.bind_eq_some_iff.mp read
    cases read
    rw [Json.required,Json.lookup_insertSome_ne (by decide)] at all
    exact Json.items_each all

def Origin (loader : Loader) (profiles : Fields) (conn : Json) (rule : RuleConfig) : Prop :=
  ∃ parts, Mapping profiles conn parts ∧ RuleConfig.parse loader.render (.obj parts.rule) = some rule

theorem forall₂_chain {R : α → β → Prop} {S : β → γ → Prop} {T : α → γ → Prop}
    (one : List.Forall₂ R as bs) (two : List.Forall₂ S bs cs) (chain : ∀ {a b c}, R a b → S b c → T a c) :
    List.Forall₂ T as cs := by
  induction one generalizing cs with
  | nil =>
    cases two
    exact .nil
  | cons first _ ih =>
    cases two with
    | cons second rest => exact .cons (chain first second) (ih rest)

theorem loadMerged_origin (ran : loadMerged loader dir merged templateWarnings = .ok (config,warnings)) :
    config.validate loader.parsers = .ok () ∧ ∃ conns, merged.arrAt "connections" = some conns ∧
      List.Forall₂ (Origin loader (indexProfiles merged)) (conns.filter isEnabled) config.rules := by
  obtain ⟨_,_,ran⟩ := bind_ok ran
  obtain ⟨mapped,mapping,ran⟩ := bind_ok ran
  obtain ⟨_,_,ran⟩ := bind_ok ran
  obtain ⟨built,parsed,ran⟩ := bind_ok ran
  cases ran
  obtain ⟨rules,valid⟩ := fromValue_parts parsed
  obtain ⟨conns,found,each⟩ := bind_ok mapping
  refine ⟨valid,conns,okOr_ok found,forall₂_chain (mapEach_each each) rules ?_⟩
  rintro conn given rule ⟨_,one⟩ read
  obtain ⟨⟨parts,_⟩,ran,made⟩ := bind_ok one
  cases made
  exact ⟨parts,mapParts_mapping ran,read⟩

theorem rule_name_keys (parts : Parts) :
    Json.lookup "sni" parts.rule = parts.sni.map .str ∧ Json.lookup "server_name" parts.rule = none := by
  constructor
  · rw [Parts.rule,Json.lookup_insertSome_ne (by decide)]
    apply Json.lookup_insertSome
    simp [Json.lookup_insertSome_ne,Json.lookup_insert_ne,Json.lookup]
  · simp [Parts.rule,Json.lookup_insertSome_ne,Json.lookup_insert_ne,Json.lookup]

-- A parsed rule has the name under the key the mapping wrote, and nothing under the key
-- the parameters are read by.
theorem origin_params (origin : Origin loader profiles conn rule) :
    Tls.getStr rule.providerParams "sni" = protectionName conn ∧ Tls.getStr rule.providerParams "server_name" = none := by
  obtain ⟨parts,mapping,read⟩ := origin
  obtain ⟨written,unwritten⟩ := rule_name_keys parts
  rw [Tls.getStr,Tls.getStr,Config.parse_params read (by decide),Config.parse_params read (by decide),written,unwritten]
  refine ⟨?_,rfl⟩
  rw [protectionName,← mapping.sni]
  cases parts.sni <;> rfl

def Presents (rule : RuleConfig) (upstream name : String) : Prop :=
  ∃ params, Tls.fromParams rule.providerParams rule.protocolVersion = .ok params ∧ params.sniName upstream = name

theorem validated_params (checked : Config.RuleChecked loader.parsers i rule)
    (secured : rule.securityProvider = "tls" ∨ rule.securityProvider = "dtls") :
    ∃ params, Tls.fromParams rule.providerParams rule.protocolVersion = .ok params := by
  have provider : ["tls","ktls","dtls"].contains rule.effectiveSecurityProvider = true := by
    unfold RuleConfig.effectiveSecurityProvider
    rcases secured with tls | dtls
    · rw [if_pos tls]
      cases rule.tlsMode with
      | tls | ktls | dtls => decide
    · rw [dtls,if_neg (by decide)]
      decide
  have passed := checked.tls
  unfold Config.validateTls at passed
  rw [if_pos provider] at passed
  cases parsed : Tls.fromParams rule.providerParams rule.protocolVersion with
  | ok params => exact ⟨params,rfl⟩
  | error e => simp [Loader.parsers,parsed,Except.map] at passed

theorem origin_presents
    (origin : Origin loader profiles conn rule) (checked : Config.RuleChecked loader.parsers i rule)
    (secured : rule.securityProvider = "tls" ∨ rule.securityProvider = "dtls") (upstream name : String) :
    Presents rule upstream name ↔ (Tls.hostOf upstream).getD "gateway" = name := by
  obtain ⟨params,parsed⟩ := validated_params checked secured
  have unnamed : params.serverName = none := (Tls.fromParams_serverName parsed).trans (origin_params origin).2
  simp [Presents,parsed,Tls.TlsSecurityParams.sniName,unnamed]

def enabledBy (templates : Templates) (conn : Json) : Bool := isEnabled (fillConnection templates conn).1

theorem loaded_origins (loaded : loadWithWarnings loader dir = .ok (config,warnings)) :
    ∃ defaults user conns profiles, dir.defaults = .ok defaults ∧ dir.user = .ok user ∧
      (deepMerge defaults user).arrAt "connections" = some conns ∧
      List.Forall₂ (fun conn rule => Origin loader profiles (fillConnection (Templates.of (deepMerge defaults user)) conn).1 rule ∧
          ∃ i, Config.RuleChecked loader.parsers i rule)
        (conns.filter (enabledBy (Templates.of (deepMerge defaults user)))) config.rules := by
  obtain ⟨defaults,readDefaults,ran⟩ := bind_ok loaded
  obtain ⟨user,readUser,ran⟩ := bind_ok ran
  obtain ⟨valid,filled,found,origins⟩ := loadMerged_origin ran
  obtain ⟨conns,given,rfl⟩ := applyTemplates_connections found
  refine ⟨defaults,user,conns,indexProfiles (applyTemplates (deepMerge defaults user)).1,readDefaults,readUser,given,?_⟩
  rw [filter_map,forall₂_map_left_iff] at origins
  have checked := Config.validate_checked valid
  refine (forall₂_iff_zip.mpr ⟨origins.length_eq,?_⟩)
  intro conn rule paired
  exact ⟨forall₂_zip origins paired,checked rule (of_mem_zip paired).2⟩

theorem lite_name_presented (loaded : loadWithWarnings loader dir = .ok (config,warnings)) :
    ∃ defaults user conns, dir.defaults = .ok defaults ∧ dir.user = .ok user ∧
      (deepMerge defaults user).arrAt "connections" = some conns ∧
      List.Forall₂ (fun conn rule => ∀ name, protectionName conn = some name →
          rule.securityProvider = "tls" ∨ rule.securityProvider = "dtls" →
          ∀ upstream, Presents rule upstream name ↔ (Tls.hostOf upstream).getD "gateway" = name)
        (conns.filter (enabledBy (Templates.of (deepMerge defaults user)))) config.rules := by
  obtain ⟨defaults,user,conns,profiles,readDefaults,readUser,given,origins⟩ := loaded_origins loaded
  refine ⟨defaults,user,conns,readDefaults,readUser,given,origins.imp ?_⟩
  rintro conn rule ⟨origin,i,checked⟩ name _ secured upstream
  exact origin_presents origin checked secured upstream name

end Loaded

def namedConnection (host name : String) : Json :=
  .obj [("connections",.arr [.obj [
    ("connection_id",.str "c"),
    ("ingress",.obj [("endpoint",.obj [("ip",.str "127.0.0.1"),("port",.uint 80)])]),
    ("paths",.arr [.obj [("egress",.obj [("endpoint",.obj [("host",.str host),("port",.uint 443)])])]]),
    ("protection",.obj [("profile_ref",.str "p"),("sni",.str name)])]]),
   ("crypto",.obj [("profiles",.arr [.obj [("profile_id",.str "p"),("protocol",.str "TLS")]])])]

def plainLoader : Loader := ⟨.ipv4,fun _ => .ok (),fun _ => "",fun _ => ""⟩

def signedDirectory (user : Json) : Directory := ⟨.ok (.obj []),.ok user,fun _ => .ok (),[]⟩

theorem lite_name_presented_host : ∃ config warnings rule,
    loadWithWarnings plainLoader (signedDirectory (namedConnection "db.local" "db.local")) = .ok (config,warnings) ∧
    config.rules = [rule] ∧ rule.securityProvider = "tls" ∧ rule.upstreamAddr = "db.local:443" ∧
    Presents rule rule.upstreamAddr "db.local" := by
  obtain ⟨config,warnings,rule,ran,one,provider,upstream⟩ : ∃ config warnings rule,
      loadWithWarnings plainLoader (signedDirectory (namedConnection "db.local" "db.local")) = .ok (config,warnings) ∧
      config.rules = [rule] ∧ rule.securityProvider = "tls" ∧ rule.upstreamAddr = "db.local:443" :=
    ⟨_,_,_,rfl,rfl,rfl,rfl⟩
  refine ⟨config,warnings,rule,ran,one,provider,upstream,?_⟩
  obtain ⟨defaults,user,conns,readDefaults,readUser,found,named⟩ := lite_name_presented ran
  cases readDefaults
  cases readUser
  cases found
  rw [one] at named
  cases named with
  | cons first =>
    refine (first "db.local" rfl (.inl provider) rule.upstreamAddr).mpr ?_
    rw [upstream]
    decide

-- The document asks for one name, and the parsed parameters present the upstream's address.
theorem mapped_name_unread : ∃ config warnings rule,
    loadWithWarnings plainLoader (signedDirectory (namedConnection "10.0.0.1" "peer.example")) = .ok (config,warnings) ∧
    config.rules = [rule] ∧ rule.securityProvider = "tls" ∧ rule.upstreamAddr = "10.0.0.1:443" ∧
    Tls.getStr rule.providerParams "sni" = some "peer.example" ∧
    Presents rule rule.upstreamAddr "10.0.0.1" ∧ ¬ Presents rule rule.upstreamAddr "peer.example" := by
  refine ⟨_,_,_,rfl,rfl,rfl,rfl,rfl,⟨_,rfl,by decide⟩,?_⟩
  rintro ⟨params,parsed,shown⟩
  cases parsed
  exact absurd shown (by decide)

end Scg.Lite
