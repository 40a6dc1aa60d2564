import Scg.Networking.Traversal

namespace Scg.Networking
open Config Chains

def jumped (before : Chains) (parent : String) : Option (List Entry) :=
  if jumps CHAIN_ENCRYPT parent before then before parent else (before parent).map (· ++ [.jump CHAIN_ENCRYPT])

-- The gateway's chain with its entries, whatever was in it before, and the jumps to it; for the
-- rest a table is as it was.
structure Laid (before : Chains) (hooks : List String) (entries : List Entry) (now : Chains) : Prop where
  chain : now CHAIN_ENCRYPT = some entries
  rest : ∀ parent, parent ≠ CHAIN_ENCRYPT →
    now parent = if parent ∈ hooks then jumped before parent else before parent

section Laid
theorem laid_jumps_iff (laid : Laid before hooks entries now) (apart : parent ≠ CHAIN_ENCRYPT) :
    .jump CHAIN_ENCRYPT ∈ (now parent).getD [] ↔
      jumps CHAIN_ENCRYPT parent before = true ∨ parent ∈ hooks ∧ (before parent).isSome = true := by
  rw [laid.rest parent apart,jumped,jumps]
  cases before parent with
  | none => simp
  | some held =>
    by_cases there : .jump CHAIN_ENCRYPT ∈ held
    · simp [there]
    · by_cases hooked : parent ∈ hooks <;> simp [there,hooked]

end Laid

def portOf (std : Net.Std) (rule : RuleConfig) : UInt16 := ((listenPort std rule).toOption).getD 0

theorem portOf_listens (listens : listenPort std rule = .ok port) : portOf std rule = port := by
  simp [portOf,listens,Except.toOption]

def redirects (std : Net.Std) (rule : RuleConfig × InterceptConfig) : List Entry :=
  let proto := interceptProto rule.1 rule.2
  let port := portOf std rule.1
  match rule.2.mode with
  | .ingressRedirect => [.ingressRedirect proto rule.2.inInterface rule.2.matchDports port]
  | .egressRedirect => rule.2.matchDst.map fun dst => .egressRedirect dst proto rule.2.matchDports port
  | .tproxy => []

def mirrored (std : Net.Std) (rule : RuleConfig × InterceptConfig) (dst : String) : List Entry :=
  if dst == "127.0.0.1" then
    [.egressRedirect "::1" (interceptProto rule.1 rule.2) rule.2.matchDports (portOf std rule.1)]
  else []

def mirrors (std : Net.Std) (rule : RuleConfig × InterceptConfig) : List Entry :=
  match rule.2.mode with
  | .egressRedirect => rule.2.matchDst.flatMap (mirrored std rule)
  | _ => []

def hooksOf (rules : Intercepts) : List String :=
  (if rules.has .egressRedirect then ["OUTPUT"] else []) ++ (if rules.has .ingressRedirect then ["PREROUTING"] else [])

def ownerEntries (uid : UInt32) (rules : Intercepts) : List Entry :=
  if rules.has .egressRedirect then [.ownerReturn uid] else []

def entries4 (std : Net.Std) (uid : UInt32) (rules : Intercepts) : List Entry :=
  ownerEntries uid rules ++ rules.flatMap (redirects std)

def entries6 (std : Net.Std) (uid : UInt32) (rules : Intercepts) : List Entry :=
  .ownerReturn uid :: rules.flatMap (mirrors std)

theorem mirror_egress {rules : Intercepts} (needed : rules.needsV6Mirror = true) : rules.has .egressRedirect = true := by
  obtain ⟨rule,present,wanted⟩ := List.any_eq_true.mp needed
  exact List.any_eq_true.mpr ⟨rule,present,(Bool.and_eq_true_iff.mp wanted).1⟩

theorem unmirrored {rules : Intercepts} (absent : rules.has .egressRedirect = false) : rules.needsV6Mirror = false := by
  rw [← Bool.not_eq_true]
  intro needed
  rw [mirror_egress needed] at absent
  cases absent

structure Installed (std : Net.Std) (uid : UInt32) (rules : Intercepts) (before : Host) (mgr : FirewallManager)
    (now : Host) : Prop where
  owns4 : mgr.ownsEncryptChain = (rules.has .ingressRedirect || rules.has .egressRedirect)
  owns6 : mgr.ownsEncryptChainV6 = rules.needsV6Mirror
  nat4 : mgr.ownsEncryptChain = true →
    Laid (before.tables .v4 .nat) (hooksOf rules) (entries4 std uid rules) (now.tables .v4 .nat)
  nat6 : mgr.ownsEncryptChainV6 = true →
    Laid (before.tables .v6 .nat) ["OUTPUT"] (entries6 std uid rules) (now.tables .v6 .nat)

end Scg.Networking
