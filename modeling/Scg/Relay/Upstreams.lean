import Scg.Config.Validate
import Scg.Relay.PolicyGate

namespace Scg.Relay
open Net Policy Config Transition

-- The relays that get their upstream as a text: the three TCP listeners, and the tunnel
-- of the UDP-over-TLS encrypt relay.
inductive Leg where
  | stream (kind : Streams.Kind)
  | tunnel
  deriving DecidableEq

def AllowAll (gate : Gate) : Prop := ∀ pm, gate.policyManager = some pm → pm.defaultAction = .allow

def Connects (std : Std) (kind : Streams.Kind) (ctx : RuleContext) (dst : SocketAddr) : Prop :=
  ∀ s now peer recovered, Reached (Streams.system std kind ctx) s → AllowAll s.gate →
    ∃ next conn, Streams.step std kind ctx s (.accept now peer recovered) = some next ∧ conn ∈ next.connections ∧
      conn.flow = s.arrivals ∧ conn.peer = peer ∧ Streams.dial std kind ctx conn.target = some dst

def Opens (std : Std) (ctx : RuleContext) (dst : SocketAddr) : Prop :=
  ∀ s established, Reached (UdpEncrypt.system std ctx) s → s.stopped = false → s.tunnel = none →
    UdpEncrypt.step std ctx s (.wake established) =
      some {s with tunnel := if established then some dst else none}

def Serves (std : Std) (ctx : RuleContext) (dst : SocketAddr) : Leg → Prop
  | .stream kind => Connects std kind ctx dst
  | .tunnel => Opens std ctx dst

section Agreement
end Agreement

def backend : SocketAddr := .v4 0xc0000201 443

end Scg.Relay
