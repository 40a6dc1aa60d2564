import Scg.Net.Literals
import Scg.Wireguard.Params

-- The argument lists of `ip` and `wg`, and the texts that make them usable.
namespace Scg.Wireguard
open List Checks
open Config (Params Value)
open Net (Std IpAddr)

def ipLinkAddArgv (iface : String) : List String := ["link","add","dev",iface,"type","wireguard"]

def ipLinkDelArgv (iface : String) : List String := ["link","del","dev",iface]

def ipLinkUpArgv (iface : String) : List String := ["link","set",iface,"up"]

def ipAddrAddArgv (std : Std) (cfg : WgProviderConfig) : List String :=
  let ipPart := (Text.split '/' cfg.tunnelLocalIp).headD cfg.tunnelLocalIp
  let family := match std.parseIp ipPart with
    | .ok (.v6 _) => "-6"
    | _ => "-4"
  [family,"address","add",cfg.tunnelLocalIp,"dev",cfg.wgInterface]

def wgSetArgv (cfg : WgProviderConfig) (keyPath : String) (pskPath : Option String) : List String :=
  ["set",cfg.wgInterface,"private-key",keyPath,"listen-port",toString cfg.wgListenPort,"peer",cfg.peerPublicKey] ++
    (match pskPath with | some psk => ["preshared-key",psk] | none => []) ++
    ["endpoint",cfg.peerEndpoint,"allowed-ips",cfg.peerAllowedIps] ++
    match cfg.persistentKeepalive with | some n => ["persistent-keepalive",toString n] | none => []

-- One address, or one with a prefix length that its family has.
def Cidr (std : Std) (text : String) (ip : IpAddr) : Prop :=
  match Text.splitOnce '/' text with
  | some (host,bits) => std.parseIp host = .ok ip ∧ ∃ n, Text.parseUnsigned 256 bits = .ok n ∧ n ≤ ip.width
  | none => std.parseIp text = .ok ip

def familyFlag : IpAddr → String
  | .v4 _ => "-4"
  | .v6 _ => "-6"

structure Usable (std : Std) (cfg : WgProviderConfig) : Prop where
  address : ∃ ip, Cidr std cfg.tunnelLocalIp ip ∧
    ipAddrAddArgv std cfg = [familyFlag ip,"address","add",cfg.tunnelLocalIp,"dev",cfg.wgInterface]
  peer : ∀ keyPath pskPath, ∃ before after,
    wgSetArgv cfg keyPath pskPath = before ++ ["endpoint",cfg.peerEndpoint,"allowed-ips",cfg.peerAllowedIps] ++ after
  endpoint : ∃ host port n, Text.rsplitOnce ':' cfg.peerEndpoint = some (host,port) ∧
    Text.parseUnsigned 65536 port = .ok n ∧ n ≠ 0
  allowed : ∀ entry ∈ Text.split ',' cfg.peerAllowedIps, ∃ ip, Cidr std (Text.trim entry) ip

def PrefixFits (std : Std) (entry : String) : Prop :=
  ∀ host bits, Text.splitOnce '/' entry = some (host,bits) →
    ∀ ip n, std.parseIp host = .ok ip → Text.parseUnsigned 256 bits = .ok n → n ≤ ip.width

instance (std : Std) (entry : String) : Decidable (PrefixFits std entry) :=
  match cut : Text.splitOnce '/' entry with
  | none => .isTrue fun _ _ other => nomatch cut.symm.trans other
  | some (host,bits) =>
    match read : std.parseIp host,count : Text.parseUnsigned 256 bits with
    | .ok ip,.ok n => decidable_of_iff (n ≤ ip.width) (by simp [PrefixFits,cut,read,count])
    | .error e,_ => .isTrue (by simp [PrefixFits,cut,read])
    | .ok _,.error e => .isTrue (by simp [PrefixFits,cut,count])

-- What the checks of the texts leave open.
structure Plain (std : Std) (params : Params) : Prop where
  single : ',' ∉ (given params "tunnel_local_ip").toList
  bare : Text.trim (given params "tunnel_local_ip") = given params "tunnel_local_ip"
  fits : ∀ key ∈ ["tunnel_local_ip","peer_allowed_ips"], ∀ entry ∈ Text.split ',' (given params key),
    PrefixFits std (Text.trim entry)
  port : ∀ host port, Text.rsplitOnce ':' (given params "peer_endpoint") = some (host,port) →
    Text.parseUnsigned 65536 port ≠ .ok 0

theorem cidr_iff_fits (valid : validCidr std text = true) : (∃ ip, Cidr std text ip) ↔ PrefixFits std text := by
  unfold validCidr at valid
  unfold Cidr PrefixFits
  cases cut : Text.splitOnce '/' text with
  | none =>
    rw [cut] at valid
    exact iff_of_true (isOk_ok valid) nofun
  | some parts =>
    rw [cut,Bool.and_eq_true] at valid
    obtain ⟨ip,read⟩ := isOk_ok valid.1
    obtain ⟨n,count⟩ := isOk_ok valid.2
    constructor
    · rintro ⟨_,known,m,counted,fits⟩ host bits same ip' n' read' count'
      cases same
      cases known.symm.trans read'
      cases counted.symm.trans count'
      exact fits
    · intro fits
      exact ⟨ip,read,n,count,fits _ _ rfl ip n read count⟩

theorem validateCidrList_ok (passed : validateCidrList std field text = .ok ()) :
    ∀ entry ∈ Text.split ',' text, validCidr std (Text.trim entry) = true := by
  obtain ⟨_,passed⟩ := unless_ok passed
  intro entry present
  obtain ⟨_,checked⟩ := each_ok passed entry present
  exact require_ok checked

theorem family_matches (cidr : Cidr std cfg.tunnelLocalIp ip) :
    ipAddrAddArgv std cfg = [familyFlag ip,"address","add",cfg.tunnelLocalIp,"dev",cfg.wgInterface] := by
  have read : std.parseIp ((Text.split '/' cfg.tunnelLocalIp).headD cfg.tunnelLocalIp) = .ok ip := by
    rw [headD_eq_head?_getD,Text.split,head?_map,Text.splitList_head]
    unfold Cidr Text.splitOnce at cidr
    cases cut : Text.splitFirst '/' cfg.tunnelLocalIp.toList with
    | none => simpa [cut] using cidr
    | some parts =>
      rw [cut] at cidr
      exact cidr.1
  dsimp only [ipAddrAddArgv]
  rw [read]
  cases ip <;> rfl

def Inside (c : Char) : Prop := c ≠ ',' ∧ Text.isWhiteSpace c = false

theorem inside_of_range (range : 45 ≤ c.toNat ∧ c.toNat ≤ 102) : Inside c := by
  constructor
  · rintro rfl
    exact absurd range.1 (by decide)
  · simp only [Text.isWhiteSpace,Bool.or_eq_false_iff,Bool.and_eq_false_iff,decide_eq_false_iff_not,beq_eq_false_iff_ne]
    omega

theorem inside_address (taken : Net.Literals.InIpv6 c) : Inside c := by
  rcases taken with digit | rfl | rfl
  · apply inside_of_range
    unfold Scan.isDigitOf Scan.digitValue at digit
    dsimp only at digit
    split_ifs at digit with decimal lower upper
    · omega
    · omega
    · omega
    · cases digit
  · exact inside_of_range (by decide)
  · exact inside_of_range (by decide)

theorem inside_count (read : Text.parseUnsigned bound bits = .ok n) : ∀ c ∈ bits.toList, Inside c := by
  intro c present
  rcases Text.parseUnsigned_characters read c present with digit | rfl
  · have range : 48 ≤ c.toNat ∧ c.toNat ≤ 57 := Char.isDigit_iff_toNat.mp digit
    exact inside_of_range ⟨by omega,by omega⟩
  · exact ⟨by decide,by decide⟩

theorem cidr_inside (cidr : Cidr .reading text ip) : ∀ c ∈ text.toList, Inside c := by
  unfold Cidr Text.splitOnce at cidr
  cases cut : Text.splitFirst '/' text.toList with
  | none =>
    rw [cut] at cidr
    exact fun c present => inside_address (Std.Reading.ip_characters cidr c present)
  | some parts =>
    rw [cut] at cidr
    obtain ⟨read,n,count,_⟩ := cidr
    intro c present
    rw [Text.splitFirst_some cut] at present
    rcases mem_append.mp present with first | later
    · exact inside_address (Std.Reading.ip_characters read c (by simpa using first))
    · rcases mem_cons.mp later with rfl | later
      · exact inside_of_range (by decide)
      · exact inside_count count c (by simpa using later)

-- With one entry that needs no trimming, the whole text is what was checked.
theorem split_plain (single : ',' ∉ text.toList) (bare : Text.trim text = text) {P : String → Prop} :
    (∀ entry ∈ Text.split ',' text, P (Text.trim entry)) ↔ P text := by
  rw [Text.split,Text.splitList_free single]
  simp [bare]

theorem endpoint_iff (passed : validateEndpoint field text = .ok ()) :
    (∃ host port n, Text.rsplitOnce ':' text = some (host,port) ∧ Text.parseUnsigned 65536 port = .ok n ∧ n ≠ 0) ↔
      ∀ host port, Text.rsplitOnce ':' text = some (host,port) → Text.parseUnsigned 65536 port ≠ .ok 0 := by
  unfold validateEndpoint at passed
  cases cut : Text.rsplitOnce ':' text with
  | none =>
    rw [cut] at passed
    cases passed
  | some parts =>
    obtain ⟨host,port⟩ := parts
    simp only [cut] at passed
    split at passed
    · cases passed
    · cases read : Text.parseUnsigned 65536 port with
      | error e =>
        rw [read] at passed
        cases passed
      | ok n => simp [read]

theorem usable_iff (ran : fromParams .reading params = .ok cfg) : Usable .reading cfg ↔ Plain .reading params := by
  obtain ⟨⟨peer,own,routes⟩,endpoint,tunnel,allowed,_,_⟩ := fromParams_accepted ran
  rw [peer] at endpoint
  rw [own] at tunnel
  rw [routes] at allowed
  have ported := endpoint_iff endpoint
  have routed := forall₂_congr fun entry present => cidr_iff_fits (validateCidrList_ok allowed entry present)
  have checked := validateCidrList_ok tunnel
  constructor
  · intro usable
    obtain ⟨ip,cidr,_⟩ := usable.address
    rw [own] at cidr
    have inside := cidr_inside cidr
    have single : ',' ∉ (given params "tunnel_local_ip").toList := fun present => (inside _ present).1 rfl
    have bare := Text.trim_visible fun c present => (inside c present).2
    rw [split_plain single bare (P := fun entry => validCidr .reading entry = true)] at checked
    refine ⟨single,bare,?_,ported.mp (peer ▸ usable.endpoint)⟩
    simp only [forall_mem_cons,not_mem_nil,false_implies,implies_true,and_true]
    exact ⟨(split_plain single bare).mpr ((cidr_iff_fits checked).mp ⟨ip,cidr⟩),routed.mp (routes ▸ usable.allowed)⟩
  · intro plain
    rw [split_plain plain.single plain.bare (P := fun entry => validCidr .reading entry = true)] at checked
    have fits := (split_plain plain.single plain.bare).mp (plain.fits "tunnel_local_ip" mem_cons_self)
    obtain ⟨ip,cidr⟩ := (cidr_iff_fits checked).mpr fits
    rw [← own] at cidr
    refine ⟨⟨ip,cidr,family_matches cidr⟩,?_,peer ▸ ported.mpr plain.port,?_⟩
    · intro keyPath pskPath
      exact ⟨_,_,rfl⟩
    · rw [routes]
      exact routed.mpr (plain.fits "peer_allowed_ips" (by simp))

theorem accepted_params_usable_iff (params : Params) (cfg : WgProviderConfig)
    (ran : fromParams .reading params = .ok cfg) : Usable .reading cfg ↔ Plain .reading params := usable_iff ran

theorem accepted_params_usable : ∃ cfg, fromParams .reading (cfgParams []) = .ok cfg ∧ Usable .reading cfg := by
  refine Checks.accepts (by decide +kernel) fun cfg ran => (accepted_params_usable_iff _ cfg ran).mpr
    ⟨by decide +kernel,by decide +kernel,by decide +kernel,?_⟩
  intro host port cut
  rw [show Text.rsplitOnce ':' (given (cfgParams []) "peer_endpoint") = some ("192.0.2.2","51820") by decide +kernel] at cut
  cases cut
  decide +kernel

-- A list where one address is meant, a prefix length past the address, a port that is none, and a
-- blank that hides an IPv6 address from the choice of the family.
theorem accepted_params_unusable :
    (∃ cfg, fromParams .reading (cfgParams [("tunnel_local_ip",.str "10.0.0.1/32,10.0.0.2/32")]) = .ok cfg ∧
      ¬ Usable .reading cfg) ∧
    (∃ cfg, fromParams .reading (cfgParams [("peer_allowed_ips",.str "10.0.0.2/99")]) = .ok cfg ∧ ¬ Usable .reading cfg) ∧
    (∃ cfg, fromParams .reading (cfgParams [("peer_endpoint",.str "192.0.2.2:0")]) = .ok cfg ∧ ¬ Usable .reading cfg) ∧
    ∃ cfg, fromParams .reading (cfgParams [("tunnel_local_ip",.str " fd00::1/64")]) = .ok cfg ∧
      ipAddrAddArgv .reading cfg = ["-4","address","add"," fd00::1/64","dev","wg-test0"] ∧ ¬ Usable .reading cfg := by
  refine ⟨?_,?_,?_,?_⟩
  · exact Checks.accepts (by decide +kernel) fun cfg ran usable =>
      absurd ((usable_iff ran).mp usable).single (by decide +kernel)
  · refine Checks.accepts (by decide +kernel) fun cfg ran usable => ?_
    have fits := ((usable_iff ran).mp usable).fits "peer_allowed_ips" (by simp) "10.0.0.2/99" (by decide +kernel)
    exact absurd (fits "10.0.0.2" "99" (by decide +kernel) (.v4 0x0a000002) 99 (by decide +kernel) (by decide +kernel))
      (by decide)
  · exact Checks.accepts (by decide +kernel) fun cfg ran usable =>
      ((usable_iff ran).mp usable).port "192.0.2.2" "0" (by decide +kernel) (by decide +kernel)
  · refine Checks.accepts (by decide +kernel) fun cfg ran =>
      ⟨?_,fun usable => absurd ((usable_iff ran).mp usable).bare (by decide +kernel)⟩
    have listed : (fromParams .reading (cfgParams [("tunnel_local_ip",.str " fd00::1/64")])).map (ipAddrAddArgv .reading) =
        .ok ["-4","address","add"," fd00::1/64","dev","wg-test0"] := by decide +kernel
    rw [ran] at listed
    exact Except.ok.inj listed

end Scg.Wireguard
