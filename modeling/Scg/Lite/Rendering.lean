import Scg.Lite.Correspondence
import Scg.Net.Literals

namespace Scg.Lite
open Checks
open Json (Fields strAt u64At arrAt pointer)
open Net Std.Reading

variable {profiles : Fields} {conn rule : Json} {warnings : List String} {ip host : String} {port egressPort : UInt64}
  {listen upstream : IpAddr}

structure Endpoints (conn : Json) (ip : String) (port : UInt64) (host : String) (egressPort : UInt64) : Prop where
  ingress : ∃ endpoint, pointer "ingress" "endpoint" conn = some endpoint ∧
    endpoint.strAt "ip" = some ip ∧ endpoint.u64At "port" = some port
  egress : ∃ paths primary endpoint, conn.arrAt "paths" = some paths ∧ pickPrimary paths = some primary ∧
    pointer "egress" "endpoint" primary = some endpoint ∧
    endpoint.strAt "host" = some host ∧ endpoint.u64At "port" = some egressPort

def Renders (rule : Json) (key : String) (ip : IpAddr) (port : UInt64) : Prop :=
  ∃ text addr, rule.strAt key = some text ∧ Std.reading.parseSocket text = .ok addr ∧
    addr.ip = ip ∧ addr.port.toNat = port.toNat

def bracketed (ip : String) (port : UInt64) : String := s!"[{ip}]:{port}"

def plain (host : String) (port : UInt64) : String := s!"{host}:{port}"

theorem plain_toList : (plain host port).toList = host.toList ++ ':' :: (toString port.toNat).toList := by
  simp [plain,toString]

theorem bracketed_toList :
    (bracketed ip port).toList = '[' :: (ip.toList ++ ']' :: ':' :: (toString port.toNat).toList) := by
  simp [bracketed,toString]

theorem port_toNat (small : port.toNat ≤ 65535) : (UInt16.ofNat port.toNat).toNat = port.toNat := by
  rw [UInt16.toNat_ofNat']
  omega

theorem ingressOf_addr (ran : ingressOf conn = .ok ingress) (endpoints : Endpoints conn ip port host egressPort) :
    ingress.listenAddr = if ':' ∈ ip.toList then bracketed ip port else plain ip port := by
  obtain ⟨endpoint,found,text,number⟩ := endpoints.ingress
  simp only [ingressOf,found,text,number,okOr,bind,Except.bind] at ran
  cases ran
  rfl

theorem egressOf_addr (ran : egressOf endpoint listenProto = .ok egress) (text : endpoint.strAt "host" = some host)
    (number : endpoint.u64At "port" = some egressPort) : egress.upstreamAddr = plain host egressPort := by
  cases endpoint with
  | obj fields =>
    have held : (Json.lookup "host" fields).bind Json.asStr = some host := text
    simp only [egressOf,held,number] at ran
    cases ran
    rfl
  | _ => cases text

theorem rule_listen (parts : Parts) : strAt "listen_addr" (.obj parts.rule) = some parts.ingress.listenAddr := by
  simp [strAt,Json.get,Parts.rule,Json.lookup_insertSome_ne,Json.lookup_insert_ne,Json.asStr]

theorem mapOne_addrs (mapped : mapOne profiles conn = .ok (rule,warnings))
    (endpoints : Endpoints conn ip port host egressPort) :
    rule.strAt "listen_addr" = some (if ':' ∈ ip.toList then bracketed ip port else plain ip port) ∧
      rule.strAt "upstream_addr" = some (plain host egressPort) := by
  obtain ⟨⟨parts,_⟩,ran,made⟩ := bind_ok mapped
  cases made
  obtain ⟨_,_,ran⟩ := bind_ok ran
  obtain ⟨_,_,ran⟩ := bind_ok ran
  obtain ⟨_,_,ran⟩ := bind_ok ran
  obtain ⟨_,_,ran⟩ := bind_ok ran
  obtain ⟨_,_,ran⟩ := bind_ok ran
  obtain ⟨_,_,ran⟩ := bind_ok ran
  obtain ⟨ingress,entered,ran⟩ := bind_ok ran
  obtain ⟨paths,listed,ran⟩ := bind_ok ran
  obtain ⟨primary,picked,ran⟩ := bind_ok ran
  obtain ⟨endpoint,found,ran⟩ := bind_ok ran
  obtain ⟨egress,left,ran⟩ := bind_ok ran
  obtain ⟨_,_,ran⟩ := bind_ok ran
  obtain ⟨_,_,ran⟩ := bind_ok ran
  cases ran
  obtain ⟨paths',primary',endpoint',there,chosen,reached,text,number⟩ := endpoints.egress
  have samePaths : paths' = paths := by
    have filtered := okOr_ok listed
    rw [there,Option.filter_eq_some_iff] at filtered
    exact Option.some.inj filtered.1
  subst samePaths
  have samePrimary : primary' = primary := Option.some.inj (chosen.symm.trans (okOr_ok picked))
  subst samePrimary
  have sameEndpoint : endpoint' = endpoint := Option.some.inj (reached.symm.trans (okOr_ok found))
  subst sameEndpoint
  refine ⟨(rule_listen _).trans (congrArg some ?_),(rule_fields _).2.2.trans (congrArg some ?_)⟩
  · exact ingressOf_addr entered endpoints
  · exact egressOf_addr left text number

theorem plain_v4 (literal : Std.reading.parseIp host = .ok (.v4 bits)) (small : port.toNat ≤ 65535) :
    Std.reading.parseSocket (plain host port) = .ok (.v4 bits (UInt16.ofNat port.toNat)) :=
  parseSocket_v4 literal (by omega) plain_toList

theorem listen_renders (text : rule.strAt "listen_addr" = some addr)
    (shape : addr = if ':' ∈ ip.toList then bracketed ip port else plain ip port)
    (literal : Std.reading.parseIp ip = .ok listen) (small : port.toNat ≤ 65535) : Renders rule "listen_addr" listen port := by
  subst shape
  cases listen with
  | v4 bits =>
    have free : ':' ∉ ip.toList := fun present => nomatch (colon_iff literal).mp present
    rw [if_neg free] at text
    exact ⟨_,_,text,plain_v4 literal small,rfl,port_toNat small⟩
  | v6 bits =>
    have colon : ':' ∈ ip.toList := (colon_iff literal).mpr ⟨bits,rfl⟩
    rw [if_pos colon] at text
    exact ⟨_,_,text,parseSocket_v6 literal (by omega) bracketed_toList,rfl,port_toNat small⟩

theorem plain_v6 (literal : Std.reading.parseIp host = .ok (.v6 bits))
    (parsed : Std.reading.parseSocket (plain host port) = .ok addr) : addr.ip ≠ .v6 bits := by
  intro same
  cases addr with
  | v4 bits' port' => cases same
  | v6 bits' port' flowinfo scopeId =>
    have bracket := parseSocket_bracketed parsed
    rw [plain_toList,List.mem_append,List.mem_cons] at bracket
    rcases bracket with inHost | colon | inPort
    · have inside := v6_characters literal '[' inHost
      revert inside
      unfold Literals.InIpv6
      decide
    · cases colon
    · rw [Nat.toString_eq_ofList_toDigits,String.toList_ofList] at inPort
      have digit := Nat.isDigit_of_mem_toDigits (by decide) (by decide) inPort
      revert digit
      decide

theorem addresses_render_iff (mapped : mapOne profiles conn = .ok (rule,warnings))
    (endpoints : Endpoints conn ip port host egressPort)
    (listenLiteral : Std.reading.parseIp ip = .ok listen) (hostLiteral : Std.reading.parseIp host = .ok upstream)
    (listenPort : port.toNat ≤ 65535) (upstreamPort : egressPort.toNat ≤ 65535) :
    (Renders rule "listen_addr" listen port ∧ Renders rule "upstream_addr" upstream egressPort) ↔ ':' ∉ host.toList := by
  obtain ⟨listenText,upstreamText⟩ := mapOne_addrs mapped endpoints
  constructor
  · rintro ⟨_,text,addr,held,parsed,sameIp,_⟩ colon
    obtain ⟨bits,rfl⟩ := (colon_iff hostLiteral).mp colon
    rw [upstreamText] at held
    cases Option.some.inj held
    exact plain_v6 hostLiteral parsed sameIp
  · intro free
    refine ⟨listen_renders listenText rfl listenLiteral listenPort,?_⟩
    cases upstream with
    | v4 bits => exact ⟨_,_,upstreamText,plain_v4 hostLiteral upstreamPort,rfl,port_toNat upstreamPort⟩
    | v6 bits => exact absurd ((colon_iff hostLiteral).mpr ⟨bits,rfl⟩) free

def dualStack (host : String) : Json := .obj [
  ("connection_id",.str "c"),("ingress",.obj [("endpoint",.obj [("ip",.str "::1"),("port",.uint 8080)])]),
  ("paths",.arr [.obj [("egress",.obj [("endpoint",.obj [("host",.str host),("port",.uint 443)])])]]),
  ("protection",.obj [("profile_ref",.str "p")])]

def tlsProfiles : Fields := [("p",.obj [("profile_id",.str "p"),("protocol",.str "TLS")])]

theorem dualStack_endpoints (host : String) : Endpoints (dualStack host) "::1" 8080 host 443 :=
  ⟨⟨_,rfl,rfl,rfl⟩,⟨_,_,_,rfl,rfl,rfl,rfl,rfl⟩⟩

theorem addresses_render_dualStack : ∃ rule warnings,
    mapOne tlsProfiles (dualStack "10.0.0.1") = .ok (rule,warnings) ∧
    Renders rule "listen_addr" (.v6 1) 8080 ∧ Renders rule "upstream_addr" (.v4 0x0a000001) 443 := by
  obtain ⟨rule,warnings,mapped⟩ : ∃ rule warnings,
      mapOne tlsProfiles (dualStack "10.0.0.1") = .ok (rule,warnings) := ⟨_,_,rfl⟩
  have listenLiteral : Std.reading.parseIp "::1" = .ok (.v6 1) := by decide +kernel
  have hostLiteral : Std.reading.parseIp "10.0.0.1" = .ok (.v4 0x0a000001) := by decide +kernel
  have rendered := addresses_render_iff mapped (dualStack_endpoints _) listenLiteral hostLiteral (by decide) (by decide)
  exact ⟨rule,warnings,mapped,rendered.mpr (by decide)⟩

-- The text is `2001:db8::1:443`, which is no endpoint.
theorem upstream_unbracketed : ∃ rule warnings,
    mapOne tlsProfiles (dualStack "2001:db8::1") = .ok (rule,warnings) ∧ isEnabled (dualStack "2001:db8::1") = true ∧
    Endpoints (dualStack "2001:db8::1") "::1" 8080 "2001:db8::1" 443 ∧
    Std.reading.parseIp "2001:db8::1" = .ok (.v6 0x20010db8000000000000000000000001) ∧
    rule.strAt "upstream_addr" = some "2001:db8::1:443" ∧
    Std.reading.parseSocket "2001:db8::1:443" = .error "invalid socket address syntax" ∧
    ¬ Renders rule "upstream_addr" (.v6 0x20010db8000000000000000000000001) 443 := by
  obtain ⟨rule,warnings,mapped⟩ : ∃ rule warnings,
      mapOne tlsProfiles (dualStack "2001:db8::1") = .ok (rule,warnings) := ⟨_,_,rfl⟩
  have text := (mapOne_addrs mapped (dualStack_endpoints _)).2
  have unread : Std.reading.parseSocket "2001:db8::1:443" = .error "invalid socket address syntax" := by decide +kernel
  refine ⟨rule,warnings,mapped,rfl,dualStack_endpoints _,by decide +kernel,text,unread,?_⟩
  rintro ⟨held,addr,found,parsed,_⟩
  rw [text] at found
  cases Option.some.inj found
  rw [show plain "2001:db8::1" 443 = "2001:db8::1:443" by decide,unread] at parsed
  cases parsed

end Scg.Lite
