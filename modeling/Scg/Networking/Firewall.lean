import Scg.Config.Rule
import Scg.Library.Program
import Scg.Networking.Host

namespace Scg.Networking
open Config Program

def CHAIN_ENCRYPT : String := "SCG_ENCRYPT"

def CHAIN_DECRYPT : String := "SCG_DECRYPT"

structure FirewallManager where
  ownsEncryptChain : Bool := false
  ownsEncryptChainV6 : Bool := false
  ownsDecryptChain : Bool := false
  ownsRoutingRule : Bool := false
  ownsRoutingRoute : Bool := false
  deriving DecidableEq

def FirewallManager.teardown (mgr : FirewallManager) (host : Host) : Host :=
  let host := if mgr.ownsEncryptChain then removeChain .v4 .nat CHAIN_ENCRYPT host else host
  let host := if mgr.ownsEncryptChainV6 then removeChain .v6 .nat CHAIN_ENCRYPT host else host
  let host := if mgr.ownsDecryptChain then removeChain .v4 .mangle CHAIN_DECRYPT host else host
  let host := if mgr.ownsRoutingRule then removeRoutingRule host else host
  if mgr.ownsRoutingRoute then removeRoutingRoute host else host

inductive Command where
  | newChain (family : Family) (table : Table) (chain : String)
  | flushChain (family : Family) (table : Table) (chain : String)
  | append (family : Family) (table : Table) (chain : String) (entry : Entry)
  | addRule
  | addRoute
  deriving DecidableEq

def Command.program : Command → String
  | .newChain family _ _ => family.program
  | .flushChain family _ _ => family.program
  | .append family _ _ _ => family.program
  | .addRule => "ip"
  | .addRoute => "ip"

def Command.args : Command → List String
  | .newChain _ table chain => ["-t",table.name,"-N",chain]
  | .flushChain _ table chain => ["-t",table.name,"-F",chain]
  | .append _ table chain entry => ["-t",table.name,"-A",chain] ++ entry.args
  | .addRule => ["rule","add","fwmark",TPROXY_MARK,"lookup",TPROXY_TABLE]
  | .addRoute => ["route","add","local","default","dev","lo","table",TPROXY_TABLE]

def Command.apply : Command → Host → Host
  | .newChain family table chain,host => host.alter family table (Chains.create chain)
  | .flushChain family table chain,host => host.alter family table (Chains.flush chain)
  | .append family table chain entry,host => host.alter family table (Chains.append chain entry)
  | .addRule,host => {host with rules := addedRule :: host.rules}
  | .addRoute,host => {host with routes := host.routes ++ [addedRoute]}

inductive Outcome where
  | succeeded
  | notExecuted (e : String)
  | failed (code : Option Int32) (stderr : String)
  deriving DecidableEq

theorem all_succeed : ∀ n, (fun _ : Nat => Outcome.succeeded) n = .succeeded := fun _ => rfl

structure World where
  host : Host
  mgr : FirewallManager
  ran : Nat

abbrev Setup (α : Type) : Type := Program World String α

def Outcome.text (command : Command) : Outcome → String
  | .succeeded => ""
  | .notExecuted e => s!"Failed to execute '{command.program}': {e}"
  | .failed code stderr =>
    let cmdline := command.program ++ " " ++ " ".intercalate command.args
    s!"'{cmdline}' failed (exit {code.getD (-1)}): {Text.trim stderr}"

-- The n-th command of a setup ends as `outcomes n` says; one that fails changes nothing.
def runCmd (outcomes : Nat → Outcome) (command : Command) : Setup Unit := fun w =>
  match outcomes w.ran with
  | .succeeded => (.ok (),{w with host := command.apply w.host,ran := w.ran+1})
  | failure => (.error (failure.text command),{w with ran := w.ran+1})

section Setup
variable (outcomes : Nat → Outcome) (std : Net.Std) (uid : UInt32)

def createOrFlushChain (family : Family) (table : Table) (chain : String) : Setup Unit := do
  let w ← get
  if (w.host.tables family table chain).isSome then runCmd outcomes (.flushChain family table chain)
  else runCmd outcomes (.newChain family table chain)

def ensureJump (family : Family) (table : Table) (parent chain : String) : Setup Unit := do
  let w ← get
  if Chains.jumps chain parent (w.host.tables family table) then pure ()
  else runCmd outcomes (.append family table parent (.jump chain))

def listenPort (rule : RuleConfig) : Except String UInt16 :=
  match std.parseSocket rule.listenAddr with
  | .ok addr => .ok addr.port
  | .error e => .error s!"Rule '{rule.name}': cannot parse listen_addr '{rule.listenAddr}': {e}"

def interceptProto (rule : RuleConfig) (ic : InterceptConfig) : String :=
  match ic.protocol with
  | some p => p
  | none =>
    match rule.listenProto with
    | .tcp => "tcp"
    | .udp => "udp"
    | _ => "tcp"

abbrev Intercepts : Type := List (RuleConfig × InterceptConfig)

def Intercepts.has (rules : Intercepts) (mode : InterceptMode) : Bool := rules.any fun rule => rule.2.mode == mode

def Intercepts.needsV6Mirror (rules : Intercepts) : Bool :=
  rules.any fun rule => rule.2.mode == .egressRedirect && rule.2.matchDst.any (· == "127.0.0.1")

def setupV6EgressReturn : Setup Unit := do
  createOrFlushChain outcomes .v6 .nat CHAIN_ENCRYPT
  ensureJump outcomes .v6 .nat "OUTPUT" CHAIN_ENCRYPT
  runCmd outcomes (.append .v6 .nat CHAIN_ENCRYPT (.ownerReturn uid))

-- The IPv6 mirror is best effort; it is owned only when all of it is there.
def mirrorV6 : Setup Unit := do
  match ← attempt (setupV6EgressReturn outcomes uid) with
  | .error _ => pure ()
  | .ok _ => modify fun w => {w with mgr := {w.mgr with ownsEncryptChainV6 := true}}

def egressBase (rules : Intercepts) : Setup Unit := do
  ensureJump outcomes .v4 .nat "OUTPUT" CHAIN_ENCRYPT
  runCmd outcomes (.append .v4 .nat CHAIN_ENCRYPT (.ownerReturn uid))
  when rules.needsV6Mirror (mirrorV6 outcomes uid)

def redirectDst (proto dports : String) (port : UInt16) (dst : String) : Setup Unit := do
  runCmd outcomes (.append .v4 .nat CHAIN_ENCRYPT (.egressRedirect dst proto dports port))
  let w ← get
  when (dst == "127.0.0.1" && w.mgr.ownsEncryptChainV6)
    (ignore (runCmd outcomes (.append .v6 .nat CHAIN_ENCRYPT (.egressRedirect "::1" proto dports port))))

def redirectRule (rule : RuleConfig × InterceptConfig) : Setup Unit :=
  if rule.2.mode = .tproxy then pure ()
  else do
    let port ← ofExcept (listenPort std rule.1)
    let proto := interceptProto rule.1 rule.2
    match rule.2.mode with
    | .ingressRedirect =>
      runCmd outcomes (.append .v4 .nat CHAIN_ENCRYPT (.ingressRedirect proto rule.2.inInterface rule.2.matchDports port))
    | .egressRedirect => each (redirectDst outcomes proto rule.2.matchDports port) rule.2.matchDst
    | .tproxy => pure ()

def ensureEncryptChain (rules : Intercepts) : Setup Unit := do
  createOrFlushChain outcomes .v4 .nat CHAIN_ENCRYPT
  modify fun w => {w with mgr := {w.mgr with ownsEncryptChain := true}}
  when (rules.has .ingressRedirect) (ensureJump outcomes .v4 .nat "PREROUTING" CHAIN_ENCRYPT)
  when (rules.has .egressRedirect) (egressBase outcomes uid rules)
  each (redirectRule outcomes std) rules

-- A route that cannot be added takes the fresh rule back with it.
def addRoute (needRule : Bool) : Setup Unit := do
  match ← attempt (runCmd outcomes .addRoute) with
  | .ok _ => pure ()
  | .error e => do
    when needRule (modify fun w => {w with host := removeRoutingRule w.host})
    fail e

def ensureRoutingPolicy : Setup (Bool × Bool) := do
  let w ← get
  let needed := routingPolicyNeeded w.host.rules w.host.routes
  when needed.1 (runCmd outcomes .addRule)
  when needed.2 (addRoute outcomes needed.1)
  pure needed

def excludeRule (rule : RuleConfig × InterceptConfig) : Setup Unit :=
  if rule.2.mode ≠ .tproxy then pure ()
  else do
    let port ← ofExcept (listenPort std rule.1)
    runCmd outcomes (.append .v4 .mangle CHAIN_DECRYPT (.portReturn (interceptProto rule.1 rule.2) port))

def tproxyRule (rule : RuleConfig × InterceptConfig) : Setup Unit :=
  if rule.2.mode ≠ .tproxy then pure ()
  else do
    let port ← ofExcept (listenPort std rule.1)
    each (fun src => runCmd outcomes (.append .v4 .mangle CHAIN_DECRYPT
      (.tproxy src (interceptProto rule.1 rule.2) rule.2.matchDports port))) rule.2.matchSrc

def ensureDecryptChain (rules : Intercepts) : Setup Unit := do
  let added ← ensureRoutingPolicy outcomes
  modify fun w => {w with mgr := {w.mgr with ownsRoutingRule := added.1,ownsRoutingRoute := added.2}}
  createOrFlushChain outcomes .v4 .mangle CHAIN_DECRYPT
  modify fun w => {w with mgr := {w.mgr with ownsDecryptChain := true}}
  ensureJump outcomes .v4 .mangle "PREROUTING" CHAIN_DECRYPT
  runCmd outcomes (.append .v4 .mangle CHAIN_DECRYPT .transparentReturn)
  each (excludeRule outcomes std) rules
  each (tproxyRule outcomes std) rules

def interceptsOf (config : GatewayConfig) : Intercepts :=
  config.rules.filterMap fun rule => rule.intercept.map fun ic => (rule,ic)

def install (rules : Intercepts) : Setup Unit := do
  when (rules.has .ingressRedirect || rules.has .egressRedirect) (ensureEncryptChain outcomes std uid rules)
  when (rules.has .tproxy) (ensureDecryptChain outcomes std rules)

-- Without intercept rules nothing is installed, like in the source's early return.
def setup (config : GatewayConfig) (host : Host) : Except String FirewallManager × Host :=
  match install outcomes std uid (interceptsOf config) ⟨host,{},0⟩ with
  | (.ok _,w) => (.ok w.mgr,w.host)
  | (.error e,w) => (.error e,w.mgr.teardown w.host)

end Setup

end Scg.Networking
