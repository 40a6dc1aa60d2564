import Scg.Library.FirstMatch
import Scg.Networking.Firewall

-- How the kernel takes a packet through the chains of the nat table.
namespace Scg.Networking
open Config Net FirstMatch

-- A packet of the host's own sockets, with the owner where there is one, or of a network interface.
inductive Origin where
  | locally (owner : Option UInt32)
  | network (interface : String)
  deriving DecidableEq

structure Packet where
  proto : String
  dst : IpAddr
  dport : UInt16
  origin : Origin
  deriving DecidableEq

def Packet.family (packet : Packet) : Family :=
  match packet.dst with
  | .v4 _ => .v4
  | .v6 _ => .v6

def Packet.hook (packet : Packet) : String :=
  match packet.origin with
  | .locally _ => "OUTPUT"
  | .network _ => "PREROUTING"

def Packet.mode (packet : Packet) : InterceptMode :=
  match packet.origin with
  | .locally _ => .egressRedirect
  | .network _ => .ingressRedirect

def Packet.interface (packet : Packet) : String :=
  match packet.origin with
  | .locally _ => ""
  | .network interface => interface

-- `-i`: a trailing plus sign makes a name the beginning of others.
def interfaceMatches (pattern name : String) : Bool :=
  match pattern.toList.reverse with
  | [] => true
  | '+' :: stem => stem.reverse.isPrefixOf name.toList
  | _ => pattern == name

def dstMatches (std : Std) (dst : String) (ip : IpAddr) : Bool :=
  match AddressPattern.parse std dst with
  | .ok (.ipOnly p) => ip == p
  | .ok (.cidr network prefixLen _) => AddressPattern.cidrContains network prefixLen ip
  | _ => false

def portPartMatches (part : String) (port : UInt16) : Bool :=
  let number (s : String) := (Text.parseUnsigned 65536 (Text.trim s)).toOption
  match Text.splitOnce ':' part with
  | some (lo,hi) => (number lo).any (· ≤ port.toNat) && (number hi).any (port.toNat ≤ ·)
  | none => number part == some port.toNat

def portMatches (dports : String) (port : UInt16) : Bool := (Text.split ',' dports).any (portPartMatches · port)

section Traverse
variable (std : Std) (others : Entry → Packet → Bool)

-- Whether an entry takes the packet; of the entries of others that is a parameter.
def Entry.applies (packet : Packet) : Entry → Bool
  | .ownerReturn uid => packet.origin == .locally (some uid)
  | .ingressRedirect proto inInterface dports _ =>
    packet.proto == proto && inInterface.all (interfaceMatches · packet.interface) && portMatches dports packet.dport
  | .egressRedirect dst proto dports _ =>
    packet.proto == proto && dstMatches std dst packet.dst && portMatches dports packet.dport
  | entry => others entry packet

def Entry.mode : Entry → Option InterceptMode
  | .ingressRedirect _ _ _ _ => some .ingressRedirect
  | .egressRedirect _ _ _ _ => some .egressRedirect
  | _ => none

inductive Verdict where
  | redirected (entry : Entry)
  | taken
  deriving DecidableEq

-- The gateway's own chain; none is the return to the chain that jumped here.
def traverseOwn (packet : Packet) : List Entry → Option Verdict
  | [] => none
  | entry :: rest =>
    if entry.applies std others packet then
      match entry with
      | .ownerReturn _ => none
      | .ingressRedirect _ _ _ _ => some (.redirected entry)
      | .egressRedirect _ _ _ _ => some (.redirected entry)
      | _ => some .taken
    else traverseOwn packet rest

-- A built-in chain: what is no jump to the gateway's chain is an entry of others there.
def traverseHook (own : List Entry) (packet : Packet) : List Entry → Option Verdict
  | [] => none
  | entry :: rest =>
    if entry = .jump CHAIN_ENCRYPT then
      match traverseOwn std others packet own with
      | some verdict => some verdict
      | none => traverseHook own packet rest
    else if others entry packet then some .taken
    else traverseHook own packet rest

def traverse (host : Host) (packet : Packet) : Option Verdict :=
  let chains := host.tables packet.family .nat
  traverseHook std others ((chains CHAIN_ENCRYPT).getD []) packet ((chains packet.hook).getD [])

end Traverse

section Jumped
variable {others : Entry → Packet → Bool}

def Entry.verdict : Entry → Option Verdict
  | .ownerReturn _ => none
  | .ingressRedirect proto inInterface dports port => some (.redirected (.ingressRedirect proto inInterface dports port))
  | .egressRedirect dst proto dports port => some (.redirected (.egressRedirect dst proto dports port))
  | _ => some .taken

theorem own_first : traverseOwn std others packet own = first (Entry.applies std others packet) Entry.verdict own := by
  induction own with
  | nil => rfl
  | cons entry rest ih =>
    rw [first_cons]
    unfold traverseOwn
    split
    · cases entry <;> rfl
    · exact ih

theorem redirected_jumped (redirected : traverseHook std others own packet entries = some (.redirected entry)) :
    .jump CHAIN_ENCRYPT ∈ entries ∧ traverseOwn std others packet own = some (.redirected entry) := by
  induction entries with
  | nil => cases redirected
  | cons first rest ih =>
    unfold traverseHook at redirected
    split at redirected
    · rename_i jump
      subst jump
      refine ⟨List.mem_cons_self,?_⟩
      split at redirected
      · rename_i verdict ended
        rw [ended,redirected]
      · exact (ih redirected).2
    · split at redirected
      · cases redirected
      · obtain ⟨jump,ended⟩ := ih redirected
        exact ⟨List.mem_cons_of_mem _ jump,ended⟩

end Jumped

end Scg.Networking
