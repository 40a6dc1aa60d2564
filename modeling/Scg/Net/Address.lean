import Scg.Library.Text

namespace Scg.Net

inductive IpAddr where
  | v4 (bits : BitVec 32)
  | v6 (bits : BitVec 128)
  deriving DecidableEq,Repr

namespace IpAddr

def width : IpAddr → Nat
  | .v4 _ => 32
  | .v6 _ => 128

-- An IPv4-mapped IPv6 address names the IPv4 address in its low 32 bits.
def toCanonical : IpAddr → IpAddr
  | .v4 bits => .v4 bits
  | .v6 bits => if bits >>> 32 = 0xffff then .v4 (bits.setWidth 32) else .v6 bits

end IpAddr

-- Equality of IPv6 endpoints takes the flow label and the scope in.
inductive SocketAddr where
  | v4 (ip : BitVec 32) (port : UInt16)
  | v6 (ip : BitVec 128) (port : UInt16) (flowinfo scopeId : UInt32)
  deriving DecidableEq,Repr

namespace SocketAddr

def ip : SocketAddr → IpAddr
  | .v4 ip _ => .v4 ip
  | .v6 ip _ _ _ => .v6 ip

def port : SocketAddr → UInt16
  | .v4 _ port => port
  | .v6 _ port _ _ => port

end SocketAddr

-- The standard library's text forms of addresses, with its error texts.
structure Std where
  parseIp : String → Except String IpAddr
  parseSocket : String → Except String SocketAddr
  display : SocketAddr → String

-- The IPv4 half of those text forms, enough to run the model on dotted quads. No
-- octet has a leading zero; a port may.
namespace Std

def octet (s : String) : Option Nat :=
  match s.toList with
  | [] => none
  | ['0'] => some 0
  | '0' :: _ => none
  | digits => if digits.length ≤ 3 then (Text.digits 0 digits).filter (· < 256) else none

def parseIpv4 (s : String) : Option (BitVec 32) :=
  match (Text.split '.' s).map octet with
  | [some a,some b,some c,some d] => some (BitVec.ofNat 32 (((a*256+b)*256+c)*256+d))
  | _ => none

def parsePort (s : String) : Option UInt16 :=
  match s.toList with
  | [] => none
  | digits => ((Text.digits 0 digits).filter (· < 65536)).map UInt16.ofNat

def parseSocketV4 (s : String) : Option SocketAddr := do
  let (host,port) ← Text.splitOnce ':' s
  let ip ← parseIpv4 host
  let port ← parsePort port
  some (.v4 ip port)

def displaySocket : SocketAddr → String
  | .v4 ip port =>
    let n := ip.toNat
    s!"{n/2^24}.{n/2^16%256}.{n/2^8%256}.{n%256}:{port}"
  | .v6 ip port _ _ =>
    let group (i : Nat) : String := String.ofList (Nat.toDigits 16 (ip.toNat/2^(16*(7-i))%2^16))
    "[" ++ String.intercalate ":" ((List.range 8).map group) ++ s!"]:{port}"

def ipv4 : Std where
  parseIp s := match parseIpv4 s with
    | some ip => .ok (.v4 ip)
    | none => .error "invalid IP address syntax"
  parseSocket s := match parseSocketV4 s with
    | some addr => .ok addr
    | none => .error "invalid socket address syntax"
  display := displaySocket

end Std

inductive AddressPattern where
  | any
  | exact (addr : SocketAddr)
  | ipOnly (ip : IpAddr)
  | cidr (network : IpAddr) (prefixLen : Nat) (bounded : prefixLen ≤ network.width)
  deriving DecidableEq

namespace AddressPattern

def parse (std : Std) (s : String) : Except String AddressPattern :=
  let s := Text.trim s
  if s = "any" then .ok .any
  else
    match Text.splitOnce '/' s with
    | some (ipStr,prefixStr) =>
      match std.parseIp ipStr with
      | .error e => .error s!"invalid IP in CIDR '{s}': {e}"
      | .ok ip =>
        match Text.parseUnsigned 256 prefixStr with
        | .error e => .error s!"invalid prefix in CIDR '{s}': {e}"
        | .ok prefixLen =>
          if bounded : prefixLen ≤ ip.width then .ok (.cidr ip prefixLen bounded)
          else .error s!"prefix length {prefixLen} exceeds max {ip.width} for '{s}'"
    | none =>
      match std.parseSocket s with
      | .ok addr => .ok (.exact addr)
      | .error _ =>
        match std.parseIp s with
        | .ok ip => .ok (.ipOnly ip)
        | .error _ => .error s!"cannot parse address pattern '{s}'"

-- The left shift is checked in the source, so a full-width shift gives the empty mask.
def mask (width prefixLen : Nat) : BitVec width := BitVec.allOnes width <<< (width-prefixLen)

def cidrContains (network : IpAddr) (prefixLen : Nat) (addr : IpAddr) : Bool :=
  match network,addr with
  | .v4 net,.v4 a => prefixLen == 0 || net &&& mask 32 prefixLen == a &&& mask 32 prefixLen
  | .v6 net,.v6 a => prefixLen == 0 || net &&& mask 128 prefixLen == a &&& mask 128 prefixLen
  | _,_ => false

-- Cidr networks are matched as written; the other forms are canonicalised first.
def matchesAddr (pattern : AddressPattern) (addr : SocketAddr) : Bool :=
  let ip := addr.ip.toCanonical
  match pattern with
  | .any => true
  | .exact sa => ip == sa.ip.toCanonical && addr.port == sa.port
  | .ipOnly p => ip == p.toCanonical
  | .cidr network prefixLen _ => cidrContains network prefixLen ip

end AddressPattern

end Scg.Net
