import Scg.Library.Text
import Mathlib.Logic.Function.Basic
import Mathlib.Data.List.Infix

namespace Scg.Networking

inductive Family where
  | v4
  | v6
  deriving DecidableEq

def Family.program : Family → String
  | .v4 => "iptables"
  | .v6 => "ip6tables"

inductive Table where
  | nat
  | mangle
  deriving DecidableEq

def Table.name : Table → String
  | .nat => "nat"
  | .mangle => "mangle"

inductive Entry where
  | jump (chain : String)
  | ownerReturn (uid : UInt32)
  | transparentReturn
  | portReturn (proto : String) (port : UInt16)
  | ingressRedirect (proto : String) (inInterface : Option String) (dports : String) (port : UInt16)
  | egressRedirect (dst proto dports : String) (port : UInt16)
  | tproxy (src proto dports : String) (port : UInt16)
  | other (args : List String)
  deriving DecidableEq

def TPROXY_MARK : String := "1"

def TPROXY_TABLE : String := "100"

def dportArgs (dports : String) : List String :=
  if dports.toList.contains ',' || dports.toList.contains ':' then ["-m","multiport","--dports",dports]
  else ["--dport",dports]

def Entry.args : Entry → List String
  | .jump chain => ["-j",chain]
  | .ownerReturn uid => ["-m","owner","--uid-owner",toString uid,"-j","RETURN"]
  | .transparentReturn => ["-m","socket","--transparent","-j","RETURN"]
  | .portReturn proto port => ["-p",proto,"--dport",toString port,"-j","RETURN"]
  | .ingressRedirect proto inInterface dports port =>
    ["-p",proto] ++ (inInterface.toList.flatMap fun iface => ["-i",iface]) ++ dportArgs dports ++
      ["-j","REDIRECT","--to-port",toString port]
  | .egressRedirect dst proto dports port =>
    ["-d",dst,"-p",proto] ++ dportArgs dports ++ ["-j","REDIRECT","--to-port",toString port]
  | .tproxy src proto dports port =>
    ["-s",src,"-p",proto] ++ dportArgs dports ++
      ["-j","TPROXY","--on-port",toString port,"--tproxy-mark",TPROXY_MARK ++ "/" ++ TPROXY_MARK]
  | .other args => args

abbrev Chains : Type := String → Option (List Entry)

namespace Chains

def create (chain : String) (chains : Chains) : Chains :=
  if chains chain = none then Function.update chains chain (some []) else chains

def flush (chain : String) (chains : Chains) : Chains := Function.update chains chain ((chains chain).map fun _ => [])

def append (chain : String) (entry : Entry) (chains : Chains) : Chains :=
  Function.update chains chain ((chains chain).map (· ++ [entry]))

-- `-D parent -j chain`: the first such entry goes.
def unjump (chain parent : String) (chains : Chains) : Chains :=
  Function.update chains parent ((chains parent).map (·.erase (.jump chain)))

def builtIn : List String := ["PREROUTING","OUTPUT","INPUT","FORWARD","POSTROUTING"]

def jumps (chain parent : String) (chains : Chains) : Bool := (chains parent).any (·.contains (.jump chain))

-- `-X`: an empty chain that nothing jumps to. Only built-in chains ever jump to a chain of
-- the gateway.
def delete (chain : String) (chains : Chains) : Chains :=
  if chains chain = some [] ∧ builtIn.all (fun parent => !jumps chain parent chains) then
    Function.update chains chain none
  else chains

end Chains

-- `rules` and `routes` are what `ip rule show` and `ip route show table 100` print, line by line.
structure Host where
  tables : Family → Table → Chains
  rules : List String
  routes : List String

def Host.alter (host : Host) (family : Family) (table : Table) (change : Chains → Chains) : Host :=
  {host with tables := fun f t => if f = family ∧ t = table then change (host.tables f t) else host.tables f t}

-- The line of `fwmark 1 lookup 100`; the place that the kernel gives it does not matter here.
def addedRule : String := "32765:\tfrom all fwmark 0x1 lookup 100"

def addedRoute : String := "local default dev lo scope host"

def splitWhitespace (s : String) : List String :=
  (((s.toList.splitOnP Text.isWhiteSpace).filter (· ≠ [])).map String.ofList)

def windows (tokens : List String) : List (String × String) := tokens.zip tokens.tail

def ruleLine (line : String) : Bool :=
  let toks := splitWhitespace line
  (windows toks).any (fun w => w.1 == "fwmark" && (w.2 == TPROXY_MARK || w.2 == "0x1")) &&
    (windows toks).any (fun w => w.1 == "lookup" && w.2 == TPROXY_TABLE)

def routeLine (line : String) : Bool := decide ("local default".toList <:+: line.toList)

def routingPolicyNeeded (ruleShow routeShow : List String) : Bool × Bool :=
  (!ruleShow.any ruleLine,!routeShow.any routeLine)

-- `ip rule del` and `ip route del` take the first that fits.
def removeRoutingRule (host : Host) : Host := {host with rules := host.rules.eraseP ruleLine}

def removeRoutingRoute (host : Host) : Host := {host with routes := host.routes.eraseP routeLine}

def removeChain (family : Family) (table : Table) (chain : String) (host : Host) : Host :=
  host.alter family table fun chains =>
    (Chains.builtIn.foldl (fun chains parent => chains.unjump chain parent) chains).flush chain |>.delete chain

end Scg.Networking
