import Scg.Library.Erasure
import Scg.Networking.Firewall

-- The setup once more, with a record of the commands it executes; those that undo run
-- after a failure and are not in it.
namespace Scg.Networking
open Config Program

structure Recorded where
  world : World
  log : List Command

abbrev Recording (α : Type) : Type := Program Recorded String α

namespace Recorded

def look : Recording World := do
  let r ← get
  pure r.world

def own (change : FirewallManager → FirewallManager) : Recording Unit :=
  modify fun r => {r with world := {r.world with mgr := change r.world.mgr}}

section Setup
variable (outcomes : Nat → Outcome) (std : Net.Std) (uid : UInt32)

-- A command that fails has been executed too.
def runCmd (command : Command) : Recording Unit := fun r =>
  let (result,world) := Networking.runCmd outcomes command r.world
  (result,⟨world,r.log ++ [command]⟩)

def createOrFlushChain (family : Family) (table : Table) (chain : String) : Recording Unit := do
  let w ← look
  if (w.host.tables family table chain).isSome then runCmd outcomes (.flushChain family table chain)
  else runCmd outcomes (.newChain family table chain)

def ensureJump (family : Family) (table : Table) (parent chain : String) : Recording Unit := do
  let w ← look
  if Chains.jumps chain parent (w.host.tables family table) then pure ()
  else runCmd outcomes (.append family table parent (.jump chain))

def setupV6EgressReturn : Recording Unit := do
  createOrFlushChain outcomes .v6 .nat CHAIN_ENCRYPT
  ensureJump outcomes .v6 .nat "OUTPUT" CHAIN_ENCRYPT
  runCmd outcomes (.append .v6 .nat CHAIN_ENCRYPT (.ownerReturn uid))

def mirrorV6 : Recording Unit := do
  match ← attempt (setupV6EgressReturn outcomes uid) with
  | .error _ => pure ()
  | .ok _ => own fun mgr => {mgr with ownsEncryptChainV6 := true}

def egressBase (rules : Intercepts) : Recording Unit := do
  ensureJump outcomes .v4 .nat "OUTPUT" CHAIN_ENCRYPT
  runCmd outcomes (.append .v4 .nat CHAIN_ENCRYPT (.ownerReturn uid))
  when rules.needsV6Mirror (mirrorV6 outcomes uid)

def redirectDst (proto dports : String) (port : UInt16) (dst : String) : Recording Unit := do
  runCmd outcomes (.append .v4 .nat CHAIN_ENCRYPT (.egressRedirect dst proto dports port))
  let w ← look
  when (dst == "127.0.0.1" && w.mgr.ownsEncryptChainV6)
    (ignore (runCmd outcomes (.append .v6 .nat CHAIN_ENCRYPT (.egressRedirect "::1" proto dports port))))

def redirectRule (rule : RuleConfig × InterceptConfig) : Recording Unit :=
  if rule.2.mode = .tproxy then pure ()
  else do
    let port ← ofExcept (listenPort std rule.1)
    let proto := interceptProto rule.1 rule.2
    match rule.2.mode with
    | .ingressRedirect =>
      runCmd outcomes (.append .v4 .nat CHAIN_ENCRYPT (.ingressRedirect proto rule.2.inInterface rule.2.matchDports port))
    | .egressRedirect => each (redirectDst outcomes proto rule.2.matchDports port) rule.2.matchDst
    | .tproxy => pure ()

def ensureEncryptChain (rules : Intercepts) : Recording Unit := do
  createOrFlushChain outcomes .v4 .nat CHAIN_ENCRYPT
  own fun mgr => {mgr with ownsEncryptChain := true}
  when (rules.has .ingressRedirect) (ensureJump outcomes .v4 .nat "PREROUTING" CHAIN_ENCRYPT)
  when (rules.has .egressRedirect) (egressBase outcomes uid rules)
  each (redirectRule outcomes std) rules

def addRoute (needRule : Bool) : Recording Unit := do
  match ← attempt (runCmd outcomes .addRoute) with
  | .ok _ => pure ()
  | .error e => do
    when needRule (modify fun r => {r with world := {r.world with host := removeRoutingRule r.world.host}})
    fail e

def ensureRoutingPolicy : Recording (Bool × Bool) := do
  let w ← look
  let needed := routingPolicyNeeded w.host.rules w.host.routes
  when needed.1 (runCmd outcomes .addRule)
  when needed.2 (addRoute outcomes needed.1)
  pure needed

def excludeRule (rule : RuleConfig × InterceptConfig) : Recording Unit :=
  if rule.2.mode ≠ .tproxy then pure ()
  else do
    let port ← ofExcept (listenPort std rule.1)
    runCmd outcomes (.append .v4 .mangle CHAIN_DECRYPT (.portReturn (interceptProto rule.1 rule.2) port))

def tproxyRule (rule : RuleConfig × InterceptConfig) : Recording Unit :=
  if rule.2.mode ≠ .tproxy then pure ()
  else do
    let port ← ofExcept (listenPort std rule.1)
    each (fun src => runCmd outcomes (.append .v4 .mangle CHAIN_DECRYPT
      (.tproxy src (interceptProto rule.1 rule.2) rule.2.matchDports port))) rule.2.matchSrc

def ensureDecryptChain (rules : Intercepts) : Recording Unit := do
  let added ← ensureRoutingPolicy outcomes
  own fun mgr => {mgr with ownsRoutingRule := added.1,ownsRoutingRoute := added.2}
  createOrFlushChain outcomes .v4 .mangle CHAIN_DECRYPT
  own fun mgr => {mgr with ownsDecryptChain := true}
  ensureJump outcomes .v4 .mangle "PREROUTING" CHAIN_DECRYPT
  runCmd outcomes (.append .v4 .mangle CHAIN_DECRYPT .transparentReturn)
  each (excludeRule outcomes std) rules
  each (tproxyRule outcomes std) rules

def install (rules : Intercepts) : Recording Unit := do
  when (rules.has .ingressRedirect || rules.has .egressRedirect) (ensureEncryptChain outcomes std uid rules)
  when (rules.has .tproxy) (ensureDecryptChain outcomes std rules)

end Setup

section Erasure
variable {outcomes : Nat → Outcome}

theorem erases_look_bind {next : World → Recording α} {after : World → Setup α} (later : ∀ w, Erases world (next w) (after w)) :
    Erases world (look >>= next) (get >>= after) := erases_get_bind fun r => later r.world

theorem erases_own {change : FirewallManager → FirewallManager} :
    Erases world (own change) (modify fun w => {w with mgr := change w.mgr}) := erases_modify fun _ => rfl

theorem erases_runCmd : Erases world (runCmd outcomes command) (Networking.runCmd outcomes command) :=
  fun _ => rfl

theorem erases_createOrFlushChain :
    Erases world (createOrFlushChain outcomes family table chain) (Networking.createOrFlushChain outcomes family table chain) := by
  apply erases_look_bind
  intro w
  split <;> exact erases_runCmd

theorem erases_ensureJump :
    Erases world (ensureJump outcomes family table parent chain) (Networking.ensureJump outcomes family table parent chain) := by
  apply erases_look_bind
  intro w
  split
  · exact erases_pure ()
  · exact erases_runCmd

theorem erases_mirrorV6 : Erases world (mirrorV6 outcomes uid) (Networking.mirrorV6 outcomes uid) := by
  have built : Erases world (setupV6EgressReturn outcomes uid) (Networking.setupV6EgressReturn outcomes uid) := by
    apply erases_bind erases_createOrFlushChain
    intro _
    exact erases_bind erases_ensureJump fun _ => erases_runCmd
  apply erases_bind (erases_attempt built)
  intro result
  cases result with
  | error e => exact erases_pure ()
  | ok => exact erases_own

theorem erases_egressBase :
    Erases world (egressBase outcomes uid rules) (Networking.egressBase outcomes uid rules) := by
  apply erases_bind erases_ensureJump
  intro _
  apply erases_bind erases_runCmd
  intro _
  exact erases_when _ erases_mirrorV6

theorem erases_redirectDst :
    Erases world (redirectDst outcomes proto dports port dst) (Networking.redirectDst outcomes proto dports port dst) := by
  apply erases_bind erases_runCmd
  intro _
  apply erases_look_bind
  intro w
  exact erases_when _ (erases_ignore erases_runCmd)

theorem erases_redirectRule :
    Erases world (redirectRule outcomes std rule) (Networking.redirectRule outcomes std rule) := by
  unfold redirectRule Networking.redirectRule
  split
  · exact erases_pure ()
  · apply erases_bind (erases_ofExcept _)
    intro port
    cases rule.2.mode with
    | ingressRedirect => exact erases_runCmd
    | egressRedirect => exact erases_each (fun _ => erases_redirectDst) _
    | tproxy => exact erases_pure ()

theorem erases_ensureEncryptChain :
    Erases world (ensureEncryptChain outcomes std uid rules) (Networking.ensureEncryptChain outcomes std uid rules) := by
  apply erases_bind erases_createOrFlushChain
  intro _
  apply erases_bind erases_own
  intro _
  apply erases_bind (erases_when _ erases_ensureJump)
  intro _
  apply erases_bind (erases_when _ erases_egressBase)
  intro _
  exact erases_each (fun _ => erases_redirectRule) rules

theorem erases_ensureRoutingPolicy : Erases world (ensureRoutingPolicy outcomes) (Networking.ensureRoutingPolicy outcomes) := by
  have route (needRule : Bool) : Erases world (addRoute outcomes needRule) (Networking.addRoute outcomes needRule) := by
    apply erases_bind (erases_attempt erases_runCmd)
    intro result
    cases result with
    | ok => exact erases_pure ()
    | error e => exact erases_bind (erases_when _ (erases_modify fun _ => rfl)) fun _ => erases_fail e
  apply erases_look_bind
  intro w
  apply erases_bind (erases_when _ erases_runCmd)
  intro _
  exact erases_bind (erases_when _ (route _)) fun _ => erases_pure _

theorem erases_ensureDecryptChain :
    Erases world (ensureDecryptChain outcomes std rules) (Networking.ensureDecryptChain outcomes std rules) := by
  have excluded (rule : RuleConfig × InterceptConfig) :
      Erases world (excludeRule outcomes std rule) (Networking.excludeRule outcomes std rule) := by
    unfold excludeRule Networking.excludeRule
    split
    · exact erases_pure ()
    · exact erases_bind (erases_ofExcept _) fun _ => erases_runCmd
  have delivered (rule : RuleConfig × InterceptConfig) :
      Erases world (tproxyRule outcomes std rule) (Networking.tproxyRule outcomes std rule) := by
    unfold tproxyRule Networking.tproxyRule
    split
    · exact erases_pure ()
    · exact erases_bind (erases_ofExcept _) fun _ => erases_each (fun _ => erases_runCmd) _
  apply erases_bind erases_ensureRoutingPolicy
  intro added
  apply erases_bind erases_own
  intro _
  apply erases_bind erases_createOrFlushChain
  intro _
  apply erases_bind erases_own
  intro _
  apply erases_bind erases_ensureJump
  intro _
  apply erases_bind erases_runCmd
  intro _
  exact erases_bind (erases_each excluded rules) fun _ => erases_each delivered rules

theorem erases_install :
    Erases world (install outcomes std uid rules) (Networking.install outcomes std uid rules) := by
  apply erases_bind (erases_when _ erases_ensureEncryptChain)
  intro _
  exact erases_when _ erases_ensureDecryptChain

end Erasure

end Recorded

end Scg.Networking
