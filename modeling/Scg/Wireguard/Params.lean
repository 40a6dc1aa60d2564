import Scg.Config.Rule
import Scg.Library.Checks

namespace Scg.Wireguard
open Checks
open Config (Params Value)
open Net (Std)

def IFNAME_MAX : Nat := 15

structure Secret where
  expose : String
  deriving DecidableEq

def b64Val (c : UInt8) : Option UInt8 :=
  if 65 ≤ c ∧ c ≤ 90 then some (c-65)
  else if 97 ≤ c ∧ c ≤ 122 then some (c-97+26)
  else if 48 ≤ c ∧ c ≤ 57 then some (c-48+52)
  else if c = 43 then some 62
  else if c = 47 then some 63
  else none

def b64Digit : UInt32 × Nat → UInt8 → Option (UInt32 × Nat)
  | (acc,pad),c =>
    if c = 61 then some (acc <<< 6,pad+1)
    else if 0 < pad then none
    else (b64Val c).map fun value => (acc <<< 6 ||| value.toUInt32,pad)

def b64Quad (isLast : Bool) (chunk : List UInt8) : Option (List UInt8) := do
  let (acc,pad) ← chunk.foldlM b64Digit (0,0)
  if 0 < pad ∧ (!isLast ∨ 2 < pad) then none
  else some ([(acc >>> 16).toUInt8] ++ (if pad < 2 then [(acc >>> 8).toUInt8] else []) ++
    if pad < 1 then [acc.toUInt8] else [])

def b64Quads : List UInt8 → Option (List UInt8)
  | a :: b :: c :: d :: rest => do
    let quad ← b64Quad rest.isEmpty [a,b,c,d]
    let later ← b64Quads rest
    return quad ++ later
  | _ => some []

def b64Decode (s : String) : Option (List UInt8) :=
  let bytes := s.toUTF8.toList
  if bytes = [] ∨ bytes.length % 4 ≠ 0 then none else b64Quads bytes

def validateKey32 (field value : String) : Except String Unit :=
  match b64Decode value with
  | some bytes =>
    if bytes.length = 32 then .ok ()
    else .error s!"wireguard: '{field}' decodes to {bytes.length} bytes, expected 32 (a base64 X25519 key)"
  | none => .error s!"wireguard: '{field}' is not valid base64"

def ifaceByte (b : UInt8) : Bool :=
  (65 ≤ b && b ≤ 90) || (97 ≤ b && b ≤ 122) || (48 ≤ b && b ≤ 57) || b == 95 || b == 45

def validateIface (name : String) : Except String Unit :=
  if name = "" ∨ IFNAME_MAX < name.utf8ByteSize then
    .error s!"wireguard: 'wg_interface' must be 1..={IFNAME_MAX} characters"
  else if !name.toUTF8.toList.all ifaceByte then
    .error "wireguard: 'wg_interface' may only contain [A-Za-z0-9_-]"
  else .ok ()

def validateEndpoint (field value : String) : Except String Unit :=
  match Text.rsplitOnce ':' value with
  | none => .error s!"wireguard: '{field}' must be HOST:PORT"
  | some (host,port) =>
    if host = "" then .error s!"wireguard: '{field}' has an empty host"
    else
      match Text.parseUnsigned 65536 port with
      | .ok _ => .ok ()
      | .error _ => .error s!"wireguard: '{field}' has an invalid port"

def validCidr (std : Std) (entry : String) : Bool :=
  match Text.splitOnce '/' entry with
  | some (ip,bits) => (std.parseIp ip).isOk && (Text.parseUnsigned 256 bits).isOk
  | none => (std.parseIp entry).isOk

def validateCidrList (std : Std) (field value : String) : Except String Unit :=
  if Text.trim value = "" then .error s!"wireguard: '{field}' must not be empty"
  else Checks.each (fun _ entry =>
    let entry := Text.trim entry
    Checks.require (validCidr std entry) s!"wireguard: '{field}' entry '{entry}' is not a valid IP or CIDR")
    0 (Text.split ',' value)

structure WgProviderConfig where
  wgInterface : String
  privateKey : Secret
  wgListenPort : Nat
  peerPublicKey : String
  peerEndpoint : String
  tunnelLocalIp : String
  peerAllowedIps : String
  presharedKey : Option Secret
  persistentKeepalive : Option Nat
  manageInterface : Bool
  deriving DecidableEq

def reqStr (params : Params) (field : String) : Except String String :=
  match ((params.lookup field).bind Value.asStr).filter (· ≠ "") with
  | some s => .ok s
  | none => .error s!"wireguard: '{field}' is required"

def given (params : Params) (field : String) : String := ((params.lookup field).bind Value.asStr).getD ""

def optU16 (params : Params) (field : String) : Except String (Option Nat) :=
  match params.lookup field with
  | none => .ok none
  | some v =>
    match v.asU64 with
    | none => .error s!"wireguard: '{field}' must be a non-negative integer"
    | some n => if n < 65536 then .ok (some n) else .error s!"wireguard: '{field}' must be in 0..=65535"

def listenPort (params : Params) : Except String Nat :=
  match (params.lookup "wg_listen_port").bind Value.asU64 with
  | none => .error "wireguard: 'wg_listen_port' is required"
  | some port => if 0 < port ∧ port < 65536 then .ok port else .error "wireguard: 'wg_listen_port' must be in 1..=65535"

def presharedKey (params : Params) : Except String (Option Secret) :=
  match (params.lookup "preshared_key").bind Value.asStr with
  | some psk =>
    if psk ≠ "" then do
      validateKey32 "preshared_key" psk
      return some ⟨psk⟩
    else .ok none
  | none => .ok none

def fromParams (std : Std) (params : Params) : Except String WgProviderConfig := do
  let wgInterface ← reqStr params "wg_interface"
  validateIface wgInterface
  let privateKey ← reqStr params "private_key"
  validateKey32 "private_key" privateKey
  let wgListenPort ← listenPort params
  let peerPublicKey ← reqStr params "peer_public_key"
  validateKey32 "peer_public_key" peerPublicKey
  let peerEndpoint ← reqStr params "peer_endpoint"
  validateEndpoint "peer_endpoint" peerEndpoint
  let tunnelLocalIp ← reqStr params "tunnel_local_ip"
  validateCidrList std "tunnel_local_ip" tunnelLocalIp
  let peerAllowedIps ← reqStr params "peer_allowed_ips"
  validateCidrList std "peer_allowed_ips" peerAllowedIps
  let presharedKey ← presharedKey params
  let persistentKeepalive ← optU16 params "persistent_keepalive"
  return {
    wgInterface := wgInterface
    privateKey := ⟨privateKey⟩
    wgListenPort := wgListenPort
    peerPublicKey := peerPublicKey
    peerEndpoint := peerEndpoint
    tunnelLocalIp := tunnelLocalIp
    peerAllowedIps := peerAllowedIps
    presharedKey := presharedKey
    persistentKeepalive := persistentKeepalive.filter (· ≠ 0)
    manageInterface := ((params.lookup "manage_interface").bind Value.asBool).getD true}

structure Accepted (std : Std) (params : Params) (cfg : WgProviderConfig) : Prop where
  texts : cfg.peerEndpoint = given params "peer_endpoint" ∧ cfg.tunnelLocalIp = given params "tunnel_local_ip" ∧
    cfg.peerAllowedIps = given params "peer_allowed_ips"
  endpoint : validateEndpoint "peer_endpoint" cfg.peerEndpoint = .ok ()
  tunnel : validateCidrList std "tunnel_local_ip" cfg.tunnelLocalIp = .ok ()
  allowed : validateCidrList std "peer_allowed_ips" cfg.peerAllowedIps = .ok ()
  preshared : presharedKey params = .ok cfg.presharedKey
  managed : cfg.manageInterface = ((params.lookup "manage_interface").bind Value.asBool).getD true

theorem reqStr_given (read : reqStr params field = .ok s) : s = given params field := by
  unfold reqStr at read
  unfold given
  split at read <;> cases read
  rename_i found
  rw [(Option.filter_eq_some_iff.mp found).1]
  rfl

theorem fromParams_accepted (ran : fromParams std params = .ok cfg) : Accepted std params cfg := by
  obtain ⟨iface,_,ran⟩ := bind_ok ran
  obtain ⟨_,_,ran⟩ := bind_ok ran
  obtain ⟨privateKey,_,ran⟩ := bind_ok ran
  obtain ⟨_,_,ran⟩ := bind_ok ran
  obtain ⟨port,_,ran⟩ := bind_ok ran
  obtain ⟨publicKey,_,ran⟩ := bind_ok ran
  obtain ⟨_,_,ran⟩ := bind_ok ran
  obtain ⟨peerEndpoint,peer,ran⟩ := bind_ok ran
  obtain ⟨_,endpoint,ran⟩ := bind_ok ran
  obtain ⟨localIp,own,ran⟩ := bind_ok ran
  obtain ⟨_,tunnel,ran⟩ := bind_ok ran
  obtain ⟨allowedIps,routes,ran⟩ := bind_ok ran
  obtain ⟨_,allowed,ran⟩ := bind_ok ran
  obtain ⟨psk,preshared,ran⟩ := bind_ok ran
  obtain ⟨keepalive,_,ran⟩ := bind_ok ran
  cases ran
  exact ⟨⟨reqStr_given peer,reqStr_given own,reqStr_given routes⟩,endpoint,tunnel,allowed,preshared,rfl⟩

def paramsOf (entries : List (String × Value)) : Params :=
  entries.foldl (fun params (key,value) => params.insert key value) ∅

def cfgParams (more : List (String × Value)) : Params :=
  paramsOf ([("wg_interface",Value.str "wg-test0"),("private_key",.str "QID5p0yqzAGq2gA1nF3w8H6+6N0eX0K3nG3vJ8h0VFg="),
    ("wg_listen_port",.uint 51820),("peer_public_key",.str "yAnz5TF+lXXJte14tji3zlMNq+hd2rYUIgJBgB3fBmk="),
    ("peer_endpoint",.str "192.0.2.2:51820"),("tunnel_local_ip",.str "10.0.0.1/32"),
    ("peer_allowed_ips",.str "10.0.0.2/32")] ++ more)

end Scg.Wireguard
