import Scg.Gateway.Startup

namespace Scg.Gateway
open Policy Config Checks

variable {rule : RuleConfig} {at_ : Surroundings} {loader : Lite.Loader}

section Params
theorem fromParams_ext (same : ∀ key, one.lookup key = two.lookup key) :
    Tls.fromParams one version = Tls.fromParams two version := by
  have texts : Tls.getStr one = Tls.getStr two := by
    funext key
    rw [Tls.getStr,Tls.getStr,same]
  have members : ∀ {α : Type} (key : String) (absent : α) (read : Value → Option α) (text : String),
      Tls.readParam one key absent read text = Tls.readParam two key absent read text := by
    intro α key absent read text
    rw [Tls.readParam,Tls.readParam,same]
  simp only [Tls.fromParams,texts,members]

theorem fromParams_profile (ran : Tls.fromParams one version = .ok parsed) :
    Tls.profileOf (Tls.getStr one "profile") = .ok parsed.profile := by
  obtain ⟨profile,chosen,ran⟩ := bind_ok ran
  iterate 6
    obtain ⟨_,_,ran⟩ := bind_ok ran
  cases ran
  exact chosen

theorem integrity_named (parsed : Tls.TlsProfile.parse profile = .ok .integrityOnly) :
    ["integrity-only","integrity","null"].contains profile = true := by
  unfold Tls.TlsProfile.parse at parsed
  split at parsed
  · cases parsed
  · split at parsed
    · cases parsed
    · split at parsed
      · cases parsed
      · split at parsed
        · assumption
        · cases parsed

end Params

section Validated
-- Validation leaves kernel TLS no rule that it could not offload.
theorem ktls_offloads (passed : validateRule loader.parsers i seen rule = .ok later)
    (ktls : rule.effectiveSecurityProvider = "ktls") : offloadable rule = true := by
  iterate 5
    obtain ⟨_,_,passed⟩ := bind_ok passed
  obtain ⟨_,profiled,passed⟩ := bind_ok passed
  obtain ⟨_,tls,_⟩ := bind_ok passed
  have parses : ∃ parsed, Tls.fromParams rule.providerParams rule.protocolVersion = .ok parsed := by
    cases ran : Tls.fromParams rule.providerParams rule.protocolVersion with
    | ok parsed => exact ⟨parsed,rfl⟩
    | error e => simp [validateTls,Lite.Loader.parsers,ktls,ran,Except.map] at tls
  obtain ⟨parsed,ran⟩ := parses
  have profile := fromParams_profile ran
  have offloads : Tls.isKtlsOffloadable parsed.toTlsSecurityParams = true := by
    unfold Tls.isKtlsOffloadable
    rw [bne_iff_ne]
    intro integrity
    rw [integrity] at profile
    unfold validateKtls at profiled
    rw [if_pos ktls] at profiled
    cases named : Tls.getStr rule.providerParams "profile" with
    | none =>
      rw [named] at profile
      cases profile
    | some text =>
      rw [named] at profile
      have found : (rule.providerParams.lookup "profile").bind Value.asStr = some text := named
      rw [found] at profiled
      have refused := require_ok profiled
      rw [integrity_named profile] at refused
      cases refused
  unfold offloadable
  rwa [ktls,ran]

theorem local_addressed (passed : validateRule loader.parsers i seen rule = .ok later)
    (isLocal : rule.listenProto.isLocal = true) : ∃ appId, rule.appId = some appId ∧ appId ≠ "" := by
  obtain ⟨_,_,passed⟩ := bind_ok passed
  obtain ⟨_,listened,_⟩ := bind_ok passed
  unfold validateListen at listened
  rw [if_pos isLocal] at listened
  obtain ⟨_,named,_⟩ := bind_ok listened
  have filled := require_ok named
  cases given : rule.appId with
  | none =>
    rw [given] at filled
    simp at filled
  | some appId =>
    rw [given] at filled
    exact ⟨appId,rfl,by simpa using filled⟩

end Validated

theorem validateRules_each (passed : validateRules env i seen rules = .ok ()) :
    ∀ rule ∈ rules, ∃ i seen later, validateRule env i seen rule = .ok later := by
  induction rules generalizing i seen with
  | nil => exact fun _ absent => absurd absent List.not_mem_nil
  | cons first rest ih =>
    obtain ⟨later,checked,passed⟩ := bind_ok passed
    intro rule present
    rcases List.mem_cons.mp present with rfl | present
    · exact ⟨i,seen,later,checked⟩
    · exact ih passed rule present

theorem validate_each {config : GatewayConfig} (valid : config.validate env = .ok ())
    (present : rule ∈ config.rules) : ∃ i seen later, validateRule env i seen rule = .ok later := by
  obtain ⟨_,_,valid⟩ := bind_ok valid
  obtain ⟨_,_,valid⟩ := bind_ok valid
  obtain ⟨_,checked,_⟩ := bind_ok valid
  exact validateRules_each checked rule present

structure Alike (rule other : RuleConfig) : Prop where
  name : rule.name = other.name
  direction : rule.direction = other.direction
  listenAddr : rule.listenAddr = other.listenAddr
  listenProto : rule.listenProto = other.listenProto
  upstreamAddr : rule.upstreamAddr = other.upstreamAddr
  upstreamProto : rule.upstreamProto = other.upstreamProto
  provider : rule.effectiveSecurityProvider = other.effectiveSecurityProvider
  appProtocol : rule.effectiveAppProtocol = other.effectiveAppProtocol
  version : rule.protocolVersion = other.protocolVersion
  transparent : rule.transparent = other.transparent
  qos : rule.qos = other.qos
  params : ∀ key, rule.providerParams.lookup key = other.providerParams.lookup key
  allowedUids : rule.allowedUids = other.allowedUids
  allowedPids : rule.allowedPids = other.allowedPids

theorem alike (named : rule.name = other.name) (same : rule.reloadDiffers other = false) : Alike rule other := by
  have definitions := reloadDiffers_iff.mp same
  simp only [RuleConfig.definition,RuleConfig.Definition.mk.injEq] at definitions
  obtain ⟨direction,listenAddr,listenProto,upstreamAddr,upstreamProto,provider,appProtocol,version,transparent,qos,
    params,uids,pids,_⟩ := definitions
  exact ⟨named,direction,listenAddr,listenProto,upstreamAddr,upstreamProto,provider,appProtocol,version,transparent,qos,
    congrFun params,uids,pids⟩

namespace Alike

section
variable (like : Alike rule other)
include like

theorem parsed : Tls.fromParams rule.providerParams rule.protocolVersion =
    Tls.fromParams other.providerParams other.protocolVersion := by
  rw [like.version]
  exact fromParams_ext like.params

theorem trafficClass : rule.trafficClass = other.trafficClass :=
  congrArg QosPolicy.trafficClass like.qos

theorem resolved : resolvedProvider at_ rule = resolvedProvider at_ other := by
  unfold resolvedProvider offloadable
  rw [like.provider,like.parsed]

theorem listener : (ruleContext at_ rule).posture rule.direction = (ruleContext at_ other).posture other.direction ↔
      effectiveTlsMode (resolvedProvider at_ rule) rule = effectiveTlsMode (resolvedProvider at_ rule) other := by
  have params := funext like.params
  simp only [RuleContext.posture,ruleContext,ListenerPosture.mk.injEq,like.name,like.direction,like.listenAddr,
    like.listenProto,like.upstreamAddr,like.upstreamProto,like.resolved,like.transparent,params,like.trafficClass,
    like.qos,like.version,like.appProtocol,true_and,and_true]

theorem template : (buildTemplate at_.loader.parsers at_.config rule).posture =
      (buildTemplate at_.loader.parsers at_.config other).posture := by
  have params := funext like.params
  have mode : ∀ provider version, upstreamTlsMode at_.loader.parsers provider rule.providerParams version =
      upstreamTlsMode at_.loader.parsers provider other.providerParams version := by
    intro provider version
    unfold upstreamTlsMode Lite.Loader.parsers
    dsimp only
    rw [fromParams_ext like.params]
  simp only [EndpointTemplate.posture,buildTemplate,mode,params,like.name,like.upstreamAddr,like.provider,like.version,
    like.allowedUids,like.allowedPids,like.qos]

theorem key :
    templateKey one rule.trafficClass rule.direction rule.listenProto =
      templateKey two other.trafficClass other.direction other.listenProto ↔ one = two := by
  refine ⟨fun same => ?_,fun same => by rw [same,like.trafficClass,like.direction,like.listenProto]⟩
  rw [like.trafficClass,like.direction,like.listenProto] at same
  have texts := congrArg String.toList same
  simp only [templateKey,String.toList_append,List.append_assoc] at texts
  exact String.toList_injective (List.append_cancel_right texts)

end

end Alike

theorem plain_mode (tls : rule.effectiveSecurityProvider = "tls") : rule.tlsMode = .tls := by
  unfold RuleConfig.effectiveSecurityProvider at tls
  split at tls
  · cases mode : rule.tlsMode with
    | tls => rfl
    | ktls | dtls =>
      rw [mode] at tls
      exact absurd tls (by decide)
  · exact absurd tls (by assumption)

theorem resolved_ktls (ktls : rule.effectiveSecurityProvider = "ktls") (offloads : offloadable rule = true) :
    resolvedProvider at_ rule = "ktls" := by simp [resolvedProvider,resolveCryptoProvider,ktls,offloads]

theorem resolved_other (ktls : rule.effectiveSecurityProvider ≠ "ktls") (tls : rule.effectiveSecurityProvider ≠ "tls") :
    resolvedProvider at_ rule = rule.effectiveSecurityProvider := by
  simp [resolvedProvider,resolveCryptoProvider,ktls,tls]

-- The legacy field shows through every provider but the three TLS engines.
theorem Alike.mode (like : Alike rule other)
    (offloads : rule.effectiveSecurityProvider = "ktls" → offloadable rule = true) :
    effectiveTlsMode (resolvedProvider at_ rule) rule = effectiveTlsMode (resolvedProvider at_ rule) other ↔
      rule.tlsMode = other.tlsMode ∨ rule.effectiveSecurityProvider = "ktls" ∨ rule.effectiveSecurityProvider = "dtls" := by
  by_cases ktls : rule.effectiveSecurityProvider = "ktls"
  · rw [resolved_ktls ktls (offloads ktls)]
    exact iff_of_true rfl (.inr (.inl ktls))
  · by_cases tls : rule.effectiveSecurityProvider = "tls"
    · have modes : rule.tlsMode = other.tlsMode := by rw [plain_mode tls,plain_mode (like.provider.symm.trans tls)]
      refine iff_of_true ?_ (.inl modes)
      unfold effectiveTlsMode
      rw [modes]
    · rw [resolved_other ktls tls]
      by_cases dtls : rule.effectiveSecurityProvider = "dtls"
      · rw [dtls]
        exact iff_of_true rfl (.inr (.inr rfl))
      · simp [effectiveTlsMode,ktls,dtls]

-- Rules that a reload takes for unchanged start the same things exactly when a local rule
-- keeps its app id and a listener its legacy TLS mode or a kernel TLS or DTLS engine.
theorem reload_keeps_startup (at_ : Surroundings) {old new : GatewayConfig} {rule other : RuleConfig}
    (before : old.validate at_.loader.parsers = .ok ()) (after : new.validate at_.loader.parsers = .ok ())
    (was : rule ∈ old.rules) (now : other ∈ new.rules) (named : rule.name = other.name)
    (same : rule.reloadDiffers other = false) :
    startup at_ rule = startup at_ other ↔
      (rule.listenProto.isLocal = true → rule.appId = other.appId) ∧
      (rule.listenProto.isLocal = false → rule.tlsMode = other.tlsMode ∨
        rule.effectiveSecurityProvider = "ktls" ∨ rule.effectiveSecurityProvider = "dtls") := by
  have like := alike named same
  obtain ⟨_,_,_,passed⟩ := validate_each before was
  obtain ⟨_,_,_,checked⟩ := validate_each after now
  cases isLocal : rule.listenProto.isLocal with
  | true =>
    have also : other.listenProto.isLocal = true := like.listenProto ▸ isLocal
    obtain ⟨one,first,named⟩ := local_addressed passed isLocal
    obtain ⟨two,second,addressed⟩ := local_addressed checked also
    unfold startup
    rw [if_pos isLocal,if_pos also,first,second]
    simp only [if_neg named,if_neg addressed,Made.template.injEq,like.key,like.template,and_true,Option.some.injEq,
      true_implies,Bool.true_eq_false,false_implies]
  | false =>
    have also : ¬ other.listenProto.isLocal = true := by
      rw [← like.listenProto,isLocal]
      exact nofun
    unfold startup
    rw [if_neg (Bool.eq_false_iff.mp isLocal),if_neg also]
    simp only [Made.listener.injEq,like.listener,like.mode (ktls_offloads passed),Bool.false_eq_true,false_implies,
      true_implies,true_and]

def quietLoader : Lite.Loader := ⟨.ipv4,fun _ => .ok (),fun _ => "",fun _ => ""⟩

def plainSurroundings : Surroundings :=
  {loader := quietLoader,preferKtls := true,kernelKtls := true,defaultPoolSize := 8,trafficAnalyzer := none
   policyManager := .new .ipv4 none,config := {rules := []}}

def appRule (appId : String) : RuleConfig :=
  {name := "app",direction := .encrypt,listenAddr := "",listenProto := .uds,upstreamAddr := "10.0.0.1:443"
   securityProvider := "routing",appId := some appId,allowedUids := [1000]}

def routedRule (tlsMode : TlsMode) : RuleConfig :=
  {name := "route",direction := .encrypt,listenAddr := "10.0.0.2:80",upstreamAddr := "10.0.0.1:443"
   securityProvider := "routing",tlsMode := tlsMode}

def only (rule : RuleConfig) : GatewayConfig := {rules := [rule]}

def tunedRule : RuleConfig := {appRule "one" with simulatedDelayMs := 5,pipeSize := some 4096}

theorem reload_keeps_tuned_rule : (appRule "one").reloadDiffers tunedRule = false ∧
    startup plainSurroundings (appRule "one") = startup plainSurroundings tunedRule := by
  have before : (only (appRule "one")).validate quietLoader.parsers = .ok () := rfl
  have after : (only tunedRule).validate quietLoader.parsers = .ok () := rfl
  have unchanged : (appRule "one").reloadDiffers tunedRule = false := rfl
  have was : appRule "one" ∈ (only (appRule "one")).rules := List.mem_singleton_self _
  have now : tunedRule ∈ (only tunedRule).rules := List.mem_singleton_self _
  exact ⟨unchanged,(reload_keeps_startup plainSurroundings before after was now rfl unchanged).mpr ⟨fun _ => rfl,nofun⟩⟩

theorem reload_differs_misses_app_id : ((only (appRule "one")).validate quietLoader.parsers = .ok () ∧
      (only (appRule "two")).validate quietLoader.parsers = .ok () ∧
      (appRule "one").name = (appRule "two").name ∧ (appRule "one").reloadDiffers (appRule "two") = false ∧
      startup plainSurroundings (appRule "one") ≠ startup plainSurroundings (appRule "two")) ∧
    ((only (routedRule .tls)).validate quietLoader.parsers = .ok () ∧
      (only (routedRule .dtls)).validate quietLoader.parsers = .ok () ∧
      (routedRule .tls).name = (routedRule .dtls).name ∧ (routedRule .tls).reloadDiffers (routedRule .dtls) = false ∧
      startup plainSurroundings (routedRule .tls) ≠ startup plainSurroundings (routedRule .dtls)) := by
  refine ⟨⟨rfl,rfl,rfl,rfl,?_⟩,⟨rfl,rfl,rfl,rfl,?_⟩⟩
  · intro same
    injection same with key
    exact absurd key (by decide)
  · intro same
    injection same with posture
    exact absurd (congrArg ListenerPosture.tlsMode posture) (by decide)

end Scg.Gateway
