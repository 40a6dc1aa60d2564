import Scg.Lite.Correspondence

namespace Scg.Lite
open Json (Fields strAt)

def profileOf (profiles : Fields) (conn : Json) : Option Json := do
  let ref ← (conn.get "protection").bind (strAt "profile_ref")
  Json.lookup ref profiles

-- An ALE or RAW connection takes its crypto from an outer profile.
def Wraps (proto mode : String) : Prop :=
  (proto = "ALE" ∨ proto = "RAW") ∧ mode ≠ "routing_only" ∧ mode ≠ "integrity_only"

def cryptoOf (proto : String) (profile : Json) : SecurityProvider × Option String :=
  if proto = "DTLS" then (.dtls,dtlsVersion profile) else (.tls,tlsVersion profile)

def ownCrypto (proto mode : String) (profile : Json) : SecurityProvider × Option String :=
  if mode = "routing_only" ∨ proto = "NONE" then (.routing,none)
  else if mode = "integrity_only" ∨ proto = "ABSTRACT_INTEGRITY_ONLY" then (.tls,none)
  else cryptoOf proto profile

def Uses (rule : Json) (crypto : SecurityProvider × Option String) : Prop :=
  rule.strAt "security_provider" = some crypto.1.name ∧ rule.strAt "protocol_version" = crypto.2

structure Resolved (profiles : Fields) (conn rule : Json) : Prop where
  own : ∃ profile proto, profileOf profiles conn = some profile ∧ profile.strAt "protocol" = some proto ∧
    (¬ Wraps proto (modeOf conn) → Uses rule (ownCrypto proto (modeOf conn) profile))
  outer : ∀ profile proto value, profileOf profiles conn = some profile → profile.strAt "protocol" = some proto →
    Wraps proto (modeOf conn) → profile.get "outer_crypto_profile_ref" = some value →
    ∃ ref outer spoken, value = .str ref ∧ Json.lookup ref profiles = some outer ∧
      outer.strAt "protocol" = some spoken ∧ Uses rule (cryptoOf spoken outer)

def OuterNamed (profiles : Fields) (conn : Json) : Prop :=
  ∀ profile proto value, profileOf profiles conn = some profile → profile.strAt "protocol" = some proto →
    Wraps proto (modeOf conn) → profile.get "outer_crypto_profile_ref" = some value →
    ∃ ref outer spoken, value = .str ref ∧ Json.lookup ref profiles = some outer ∧ outer.strAt "protocol" = some spoken

theorem rule_crypto (parts : Parts) :
    Uses (.obj parts.rule) (parts.provider.securityProvider,parts.provider.protocolVersion) := by
  refine ⟨(rule_fields parts).2.1,?_⟩
  have version : Json.lookup "protocol_version" parts.rule = parts.provider.protocolVersion.map .str := by
    simp only [Parts.rule]
    rw [Json.lookup_insertSome_ne (by decide),Json.lookup_insertSome_ne (by decide),Json.lookup_insertSome]
    simp [Json.lookup_insertSome_ne,Json.lookup_insert_ne,Json.lookup]
  simp only [strAt,Json.get,version]
  cases parts.provider.protocolVersion <;> rfl

theorem resolveProvider_crypto
    (resolved : resolveProvider proto profile mode profiles cid = .ok (provider,warnings)) :
    (¬ Wraps proto mode ∧ (provider.securityProvider,provider.protocolVersion) = ownCrypto proto mode profile) ∨
      Wraps proto mode ∧ ∃ app, provider = outerProvider app profile profiles := by
  have own (routing : ¬ (mode = "routing_only" ∨ proto = "NONE"))
      (integrity : ¬ (mode = "integrity_only" ∨ proto = "ABSTRACT_INTEGRITY_ONLY")) :
      ownCrypto proto mode profile = cryptoOf proto profile := by rw [ownCrypto,if_neg routing,if_neg integrity]
  unfold resolveProvider at resolved
  split_ifs at resolved with routing integrity tls psk dtls ale raw <;> cases resolved
  · refine .inl ⟨?_,by simp [ownCrypto,routing]⟩
    rcases routing with mode | rfl
    · exact fun wraps => wraps.2.1 mode
    · simp [Wraps]
  · refine .inl ⟨?_,by simp [ownCrypto,routing,integrity]⟩
    rcases integrity with mode | rfl
    · exact fun wraps => wraps.2.2 mode
    · simp [Wraps]
  · exact .inl ⟨by simp [Wraps,tls],by rw [own routing integrity]; simp [cryptoOf,tls]⟩
  · exact .inl ⟨by simp [Wraps,psk],by rw [own routing integrity]; simp [cryptoOf,psk]⟩
  · exact .inl ⟨by simp [Wraps,dtls],by rw [own routing integrity]; simp [cryptoOf,dtls]⟩
  · exact .inr ⟨⟨.inl ale,(not_or.mp routing).1,(not_or.mp integrity).1⟩,"ale",rfl⟩
  · exact .inr ⟨⟨.inr raw,(not_or.mp routing).1,(not_or.mp integrity).1⟩,"raw",rfl⟩

theorem outerProvider_crypto
    (given : profile.strAt "outer_crypto_profile_ref" = some ref) (found : Json.lookup ref profiles = some outer)
    (speaks : outer.strAt "protocol" = some spoken) : let provider := outerProvider app profile profiles
    (provider.securityProvider,provider.protocolVersion) = cryptoOf spoken outer := by
  simp only [outerProvider,given,found,speaks,cryptoOf,Option.bind_some,Option.getD_some]
  split_ifs <;> rfl

theorem mapOne_resolved_iff (ran : mapOne profiles conn = .ok (rule,warnings)) :
    Resolved profiles conn rule ↔ OuterNamed profiles conn := by
  obtain ⟨⟨parts,_⟩,mapped,ran⟩ := Checks.bind_ok ran
  cases ran
  obtain ⟨prot,ref,profile,proto,_,_,protection,referred,found,spoken,resolved,_⟩ := mapParts_resolved mapped
  have used := rule_crypto parts
  have here : profileOf profiles conn = some profile := by simp [profileOf,protection,referred,found]
  have mode : modeOf conn = (prot.strAt "mode").getD "full" := by simp [modeOf,protection]
  rw [← mode] at resolved
  constructor
  · intro sound profile proto value held speaks wraps given
    obtain ⟨ref,outer,said,text,found,protocol,_⟩ := sound.outer profile proto value held speaks wraps given
    exact ⟨ref,outer,said,text,found,protocol⟩
  · intro named
    refine ⟨⟨profile,proto,here,spoken,fun plain => ?_⟩,fun other speaks value held protocol wraps given => ?_⟩
    · rcases resolveProvider_crypto resolved with ⟨_,own⟩ | ⟨wraps,_⟩
      · rwa [own] at used
      · exact absurd wraps plain
    · cases here.symm.trans held
      cases spoken.symm.trans protocol
      obtain ⟨ref,outer,said,rfl,found,protocol⟩ := named profile proto value here spoken wraps given
      rcases resolveProvider_crypto resolved with ⟨plain,_⟩ | ⟨_,app,outermost⟩
      · exact absurd wraps plain
      · have text : profile.strAt "outer_crypto_profile_ref" = some ref := by
          rw [strAt,given]
          rfl
        rw [outermost,outerProvider_crypto text found protocol] at used
        exact ⟨ref,outer,said,rfl,found,protocol,used⟩

theorem forall₂_iff {α β : Type} {R : α → β → Prop} {P : α → Prop} {xs : List α} {ys : List β}
    (each : List.Forall₂ (fun x y => R x y ↔ P x) xs ys) : List.Forall₂ R xs ys ↔ ∀ x ∈ xs, P x := by
  induction each with
  | nil => simp
  | cons here _ ih => rw [List.forall₂_cons,here,ih,List.forall_mem_cons]

theorem references_resolve_iff {merged : Json} {mapped : MappedRules} (ran : mapConnectionsToRules merged = .ok mapped) :
    (∃ conns, merged.arrAt "connections" = some conns ∧
      List.Forall₂ (Resolved (indexProfiles merged)) (conns.filter isEnabled) mapped.rules) ↔
    ∀ conns, merged.arrAt "connections" = some conns →
      ∀ conn ∈ conns, isEnabled conn = true → OuterNamed (indexProfiles merged) conn := by
  obtain ⟨conns,found,ran⟩ := Checks.bind_ok ran
  have each := (mapEach_each ran).imp fun _ _ ⟨_,one⟩ => mapOne_resolved_iff one
  simp [okOr_ok found,forall₂_iff each]

def tunnelConnection : Json := .obj [
  ("connection_id",.str "tunnel"),("ingress",.obj [("endpoint",.obj [("ip",.str "0.0.0.0"),("port",.uint 80)])]),
  ("paths",.arr [.obj [("egress",.obj [("endpoint",.obj [("host",.str "10.0.0.1"),("port",.uint 443)])])]]),
  ("protection",.obj [("profile_ref",.str "wrapped")])]

-- An ALE profile over the profile named `outer`; the one outer profile is called "datagrams".
def tunnelled (outer : String) : Json := .obj [("connections",.arr [tunnelConnection]),
  ("crypto",.obj [("profiles",.arr [
    .obj [("outer_crypto_profile_ref",.str outer),("profile_id",.str "wrapped"),("protocol",.str "ALE")],
    .obj [("max_version",.str "1.2"),("profile_id",.str "datagrams"),("protocol",.str "DTLS")]])])]

theorem references_resolve_datagrams : ∃ mapped, mapConnectionsToRules (tunnelled "datagrams") = .ok mapped ∧
    mapped.rules.length = 1 ∧ List.Forall₂ (Resolved (indexProfiles (tunnelled "datagrams"))) [tunnelConnection] mapped.rules := by
  obtain ⟨mapped,ran,one⟩ : ∃ mapped, mapConnectionsToRules (tunnelled "datagrams") = .ok mapped ∧ mapped.rules.length = 1 :=
    ⟨_,rfl,rfl⟩
  obtain ⟨conns,found,resolved⟩ := (references_resolve_iff ran).mpr (by
    rintro conns ⟨⟩ conn present _ profile proto value held speaks wraps given
    cases List.mem_singleton.mp present
    cases held
    cases given
    exact ⟨"datagrams",_,"DTLS",rfl,rfl,rfl⟩)
  cases found
  exact ⟨mapped,ran,one,resolved⟩

theorem dangling_accepted : ∃ mapped, mapConnectionsToRules (tunnelled "missing") = .ok mapped ∧ mapped.warnings = [] ∧
    (mapped.rules.map fun rule => (rule.strAt "security_provider",rule.strAt "protocol_version")) = [(some "tls",none)] ∧
    Json.lookup "missing" (indexProfiles (tunnelled "missing")) = none ∧
    ¬ List.Forall₂ (Resolved (indexProfiles (tunnelled "missing"))) [tunnelConnection] mapped.rules := by
  refine ⟨_,rfl,rfl,rfl,rfl,fun resolved => ?_⟩
  obtain ⟨ref,outer,_,text,found,_⟩ := (List.forall₂_cons.mp resolved).1.outer _ "ALE" _ rfl rfl ⟨.inl rfl,by decide,by decide⟩ rfl
  cases text
  cases found

end Scg.Lite
