import Scg.Networking.Isolation

namespace Scg.Networking
open Config Net FirstMatch List

inductive Fate where
  | redirected (port : UInt16)
  | delivered (port : UInt16)
  | taken
  deriving DecidableEq

def Verdict.fate : Verdict → Fate
  | .redirected entry => entry.toPort.elim .taken .redirected
  | .taken => .taken

structure Arrival where
  proto : String
  src : IpAddr
  dst : IpAddr
  dport : UInt16
  transparent : Bool
  deriving DecidableEq

def Arrival.family (arrival : Arrival) : Family :=
  match arrival.dst with
  | .v4 _ => .v4
  | .v6 _ => .v6

def hookFate (chain : String) (own : Option Fate) (takes : Entry → Bool) : List Entry → Option Fate
  | [] => none
  | entry :: rest =>
    if entry = .jump chain then
      match own with
      | some fate => some fate
      | none => hookFate chain own takes rest
    else if takes entry then some .taken
    else hookFate chain own takes rest

section Mangle
variable (std : Std) (others : Entry → Arrival → Bool) (arrival : Arrival)

-- `-s` reads its argument like `-d`.
def Entry.takes : Entry → Bool
  | .transparentReturn => arrival.transparent
  | .portReturn proto port => arrival.proto == proto && arrival.dport == port
  | .tproxy src proto dports _ => arrival.proto == proto && dstMatches std src arrival.src && portMatches dports arrival.dport
  | entry => others entry arrival

def Entry.fate : Entry → Option Fate
  | .transparentReturn => none
  | .portReturn _ _ => none
  | .tproxy _ _ _ port => some (.delivered port)
  | _ => some .taken

def ownFate (own : List Entry) : Option Fate := first (Entry.takes std others arrival) Entry.fate own

def mangleFate (host : Host) : Option Fate :=
  let chains := host.tables arrival.family .mangle
  hookFate CHAIN_DECRYPT (ownFate std others arrival ((chains CHAIN_DECRYPT).getD [])) (others · arrival)
    ((chains "PREROUTING").getD [])

end Mangle

def delivers (std : Std) (arrival : Arrival) (rule : RuleConfig × InterceptConfig) : Bool :=
  rule.2.mode == .tproxy && (arrival.proto == interceptProto rule.1 rule.2 && portMatches rule.2.matchDports arrival.dport &&
    rule.2.matchSrc.any (dstMatches std · arrival.src))

def excluded (std : Std) (rules : Intercepts) (arrival : Arrival) : Bool :=
  rules.any fun rule =>
    rule.2.mode == .tproxy && (arrival.proto == interceptProto rule.1 rule.2 && arrival.dport == portOf std rule.1)

section Hook
end Hook

section Rules
variable {std : Std}

variable {others : Entry → Arrival → Bool} {arrival : Arrival}

section
variable (rule : RuleConfig × InterceptConfig)
include rule

end

end Rules

end Scg.Networking
