import Mathlib.Data.List.Forall2
import Scg.Lite.Mapping

namespace Scg.Lite
open Checks
open Json (Fields strAt)

def modeOf (conn : Json) : String := ((conn.get "protection").bind (strAt "mode")).getD "full"

def protocolOf (profiles : Fields) (conn : Json) : Option String := do
  let ref ← (conn.get "protection").bind (strAt "profile_ref")
  let profile ← Json.lookup ref profiles
  profile.strAt "protocol"

def Unprotected (profiles : Fields) (conn : Json) : Prop :=
  modeOf conn = "routing_only" ∨ protocolOf profiles conn = some "NONE"

structure Mapped (profiles : Fields) (conn rule : Json) : Prop where
  named : ∃ cid, conn.strAt "connection_id" = some cid ∧ rule.strAt "name" = some cid
  routing : rule.strAt "security_provider" = some "routing" ↔ Unprotected profiles conn
  secured : ¬ Unprotected profiles conn →
    (rule.strAt "security_provider" = some "tls" ∨ rule.strAt "security_provider" = some "dtls") ∧
      rule.strAt "verify" = some "server"
  auto : rule.strAt "upstream_addr" = some "auto" → isTransparent conn = true

theorem resolveProvider_routing
    (resolved : resolveProvider proto profile mode profiles cid = .ok (provider,warnings)) :
    provider.securityProvider = .routing ↔ mode = "routing_only" ∨ proto = "NONE" := by
  have outer (appProtocol : String) : (outerProvider appProtocol profile profiles).securityProvider ≠ .routing := by
    unfold outerProvider
    dsimp only
    split <;> simp
  unfold resolveProvider at resolved
  by_cases unprotected : mode = "routing_only" ∨ proto = "NONE"
  · rw [if_pos unprotected] at resolved
    cases resolved
    simp [unprotected]
  · rw [if_neg unprotected] at resolved
    simp only [unprotected,iff_false]
    split at resolved
    · cases resolved
      simp
    · split at resolved
      · cases resolved
        simp
      · split at resolved
        · cases resolved
          simp
        · split at resolved
          · cases resolved
            simp
          · split at resolved
            · cases resolved
              exact outer "ale"
            · obtain ⟨_,resolved⟩ := when_ok resolved
              cases resolved
              exact outer "raw"

structure Mapping (profiles : Fields) (conn : Json) (parts : Parts) : Prop where
  name : conn.strAt "connection_id" = some parts.name
  routing : parts.provider.securityProvider = .routing ↔ Unprotected profiles conn
  auto : parts.egress.upstreamAddr = "auto" → isTransparent conn = true
  sni : parts.sni = (conn.get "protection").bind (strAt "sni")

theorem mapParts_resolved (ran : mapParts profiles conn = .ok (parts,warnings)) :
    ∃ prot ref profile proto warnings, conn.strAt "connection_id" = some parts.name ∧
      conn.get "protection" = some prot ∧ prot.strAt "profile_ref" = some ref ∧ Json.lookup ref profiles = some profile ∧
      profile.strAt "protocol" = some proto ∧
      resolveProvider proto profile ((prot.strAt "mode").getD "full") profiles parts.name = .ok (parts.provider,warnings) ∧
      parts.sni = prot.strAt "sni" ∧ (parts.egress.upstreamAddr = "auto" → isTransparent conn = true) := by
  obtain ⟨cid,named,ran⟩ := bind_ok ran
  obtain ⟨prot,protection,ran⟩ := bind_ok ran
  obtain ⟨ref,referred,ran⟩ := bind_ok ran
  obtain ⟨profile,found,ran⟩ := bind_ok ran
  obtain ⟨proto,spoken,ran⟩ := bind_ok ran
  obtain ⟨⟨provider,_⟩,resolved,ran⟩ := bind_ok ran
  obtain ⟨ingress,_,ran⟩ := bind_ok ran
  obtain ⟨paths,_,ran⟩ := bind_ok ran
  obtain ⟨primary,_,ran⟩ := bind_ok ran
  obtain ⟨endpoint,_,ran⟩ := bind_ok ran
  obtain ⟨egress,_,ran⟩ := bind_ok ran
  obtain ⟨_,consistent,ran⟩ := bind_ok ran
  obtain ⟨intercept,_,ran⟩ := bind_ok ran
  cases ran
  refine ⟨prot,ref,profile,proto,_,okOr_ok named,okOr_ok protection,okOr_ok referred,okOr_ok found,okOr_ok spoken,resolved,rfl,?_⟩
  intro auto
  change egress.upstreamAddr = "auto" at auto
  have passed := require_ok consistent
  simpa [auto] using passed

theorem mapParts_mapping
    (ran : mapParts profiles conn = .ok (parts,warnings)) : Mapping profiles conn parts := by
  obtain ⟨prot,ref,profile,proto,_,named,protection,referred,found,spoken,resolved,sni,auto⟩ := mapParts_resolved ran
  have unprotected : Unprotected profiles conn ↔ (prot.strAt "mode").getD "full" = "routing_only" ∨ proto = "NONE" := by
    simp [Unprotected,modeOf,protocolOf,protection,referred,found,spoken]
  refine ⟨named,(resolveProvider_routing resolved).trans unprotected.symm,auto,?_⟩
  rw [protection,sni]
  rfl

theorem rule_fields (parts : Parts) :
    strAt "name" (.obj parts.rule) = some parts.name ∧
      strAt "security_provider" (.obj parts.rule) = some parts.provider.securityProvider.name ∧
      strAt "upstream_addr" (.obj parts.rule) = some parts.egress.upstreamAddr := by
  simp [strAt,Json.get,Parts.rule,Json.lookup_insertSome_ne,Json.lookup_insert_ne,Json.asStr]

theorem rule_verify (parts : Parts) (secured : parts.provider.securityProvider ≠ .routing) :
    strAt "verify" (.obj parts.rule) = some "server" := by
  simp [strAt,Json.get,Parts.rule,Json.lookup_insertSome_ne,Json.lookup_insert_ne,Json.asStr,secured]

theorem mapOne_mapped (ran : mapOne profiles conn = .ok (rule,warnings)) : Mapped profiles conn rule := by
  obtain ⟨⟨parts,_⟩,mapped,ran⟩ := bind_ok ran
  cases ran
  have mapping := mapParts_mapping mapped
  obtain ⟨name,provider,upstream⟩ := rule_fields parts
  refine ⟨⟨parts.name,mapping.name,name⟩,?_,?_,?_⟩
  · rw [provider,← mapping.routing]
    cases parts.provider.securityProvider <;> simp [SecurityProvider.name]
  · intro secured
    have crypto : parts.provider.securityProvider ≠ .routing := fun routing => secured (mapping.routing.mp routing)
    refine ⟨?_,rule_verify parts crypto⟩
    rw [provider]
    cases chosen : parts.provider.securityProvider with
    | routing => exact absurd chosen crypto
    | tls => exact .inl rfl
    | dtls => exact .inr rfl
  · intro auto
    rw [upstream] at auto
    exact mapping.auto (Option.some.inj auto)

theorem mapEach_each
    (ran : mapEach profiles conns = .ok mapped) :
    List.Forall₂ (fun conn rule => ∃ warnings, mapOne profiles conn = .ok (rule,warnings))
      (conns.filter isEnabled) mapped.rules := by
  induction conns generalizing mapped with
  | nil =>
    cases ran
    exact .nil
  | cons conn rest ih =>
    unfold mapEach at ran
    by_cases enabled : isEnabled conn = true
    · rw [List.filter_cons_of_pos enabled]
      rw [if_pos enabled] at ran
      split at ran
      · cases ran
      · rename_i rule warnings one
        obtain ⟨later,others,ran⟩ := bind_ok ran
        cases ran
        exact .cons ⟨warnings,one⟩ (ih others)
    · rw [List.filter_cons_of_neg enabled]
      rw [if_neg enabled] at ran
      obtain ⟨later,others,ran⟩ := bind_ok ran
      have kept := ih others
      cases ran
      exact kept

theorem mapEach_mapped
    (ran : mapEach profiles conns = .ok mapped) :
    List.Forall₂ (Mapped profiles) (conns.filter isEnabled) mapped.rules :=
  (mapEach_each ran).imp fun _ _ ⟨_,one⟩ => mapOne_mapped one

theorem mapEach_error : (∃ message, mapEach profiles conns = .error message) ↔
      ∃ conn ∈ conns, isEnabled conn = true ∧ ∃ e, mapOne profiles conn = .error e := by
  induction conns with
  | nil => simp [mapEach]
  | cons conn rest ih =>
    have passed {f : MappedRules → MappedRules} : (∃ message, (do let later ← mapEach profiles rest; return f later) =
        (.error message : Except String MappedRules)) ↔ ∃ message, mapEach profiles rest = .error message := by
      cases mapEach profiles rest with
      | ok later => simp [bind,Except.bind,pure,Except.pure]
      | error e => simp [Except.bind]
    rw [List.exists_mem_cons_iff]
    unfold mapEach
    by_cases enabled : isEnabled conn = true
    · cases one : mapOne profiles conn with
      | error e => simp [enabled]
      | ok made =>
        simp only [enabled,true_and,reduceCtorEq,exists_false,false_or,← ih]
        exact passed
    · simp only [enabled,Bool.false_eq_true,false_and,false_or,← ih]
      exact passed

def rulesProduced : Except String MappedRules → List Json
  | .ok mapped => mapped.rules
  | .error _ => []

theorem lite_mapping_faithful (merged : Json) :
    (∀ mapped, mapConnectionsToRules merged = .ok mapped →
      ∃ conns, merged.arrAt "connections" = some conns ∧
        List.Forall₂ (Mapped (indexProfiles merged)) (conns.filter isEnabled) mapped.rules) ∧
    (∀ message, mapConnectionsToRules merged = .error message →
      rulesProduced (mapConnectionsToRules merged) = []) ∧
    ((∃ message, mapConnectionsToRules merged = .error message) ↔
      ∀ conns, merged.arrAt "connections" = some conns →
        ∃ conn ∈ conns, isEnabled conn = true ∧ ∃ e, mapOne (indexProfiles merged) conn = .error e) := by
  refine ⟨?_,?_,?_⟩
  · intro mapped ran
    obtain ⟨conns,found,ran⟩ := Checks.bind_ok ran
    exact ⟨conns,okOr_ok found,mapEach_mapped ran⟩
  · intro message failed
    rw [failed]
    rfl
  · unfold mapConnectionsToRules
    cases found : merged.arrAt "connections" with
    | none => simp [okOr,bind,Except.bind]
    | some conns =>
      simp only [Option.some.injEq,forall_eq']
      exact mapEach_error

def threeConnections : Json :=
  let endpoint (port : UInt64) : Json := .obj [("ip",.str "0.0.0.0"),("port",.uint port)]
  let path : Json := .obj [("egress",.obj [("endpoint",.obj [("host",.str "10.0.0.1"),("port",.uint 443)])])]
  let conn (id mode : String) (port : UInt64) (enabled : Bool) : Json := .obj [
    ("connection_id",.str id),("enabled",.bool enabled),("ingress",.obj [("endpoint",endpoint port)]),
    ("paths",.arr [path]),("protection",.obj [("mode",.str mode),("profile_ref",.str "p")])]
  .obj [("connections",.arr [conn "plain" "routing_only" 80 true,conn "off" "full" 81 false,conn "crypto" "full" 82 true]),
    ("crypto",.obj [("profiles",.arr [.obj [("profile_id",.str "p"),("protocol",.str "TLS")]])])]

theorem lite_mapping_faithful_three : ∃ mapped conns, mapConnectionsToRules threeConnections = .ok mapped ∧
    mapped.rules.length = 2 ∧ threeConnections.arrAt "connections" = some conns ∧ conns.length = 3 ∧
    List.Forall₂ (Mapped (indexProfiles threeConnections)) (conns.filter isEnabled) mapped.rules := by
  obtain ⟨mapped,ran,two⟩ : ∃ mapped, mapConnectionsToRules threeConnections = .ok mapped ∧ mapped.rules.length = 2 :=
    ⟨_,rfl,rfl⟩
  obtain ⟨conns,found,mapping⟩ := (lite_mapping_faithful threeConnections).1 mapped ran
  refine ⟨mapped,conns,ran,two,found,?_,mapping⟩
  cases found
  rfl

end Scg.Lite
