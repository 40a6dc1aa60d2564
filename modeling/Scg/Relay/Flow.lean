import Scg.Config.Rule
import Scg.Library.Precedence
import Scg.Library.Transition

namespace Scg.Relay
open Net Policy Config

-- What the relays read of a rule's context. `maxSessions` and `idleTtl` are the
-- bounds resolved from the provider parameters.
structure RuleContext where
  upstreamAddr : String
  upstreamProto : Proto
  transparent : Bool
  trafficClass : TrafficClass
  maxSessions : Nat
  idleTtl : Nat

-- A flow is one accepted connection, or one datagram where the relay has no
-- connections; it is numbered by arrival.
inductive Event where
  | checked (flow : Nat) (src dst : SocketAddr) (allowed : Bool)
  | forwarded (flow : Nat) (src dst : SocketAddr)
  deriving DecidableEq

def clearance : Event → Option Event
  | .checked _ _ _ _ => none
  | .forwarded flow src dst => some (.checked flow src dst true)

-- No payload goes upstream before the check of its own flow, for its source and
-- that upstream, has answered allow.
def Gated (log : List Event) : Prop := Precedence.Preceded clearance log

theorem Gated.check (gated : Gated log) (flow : Nat) (src dst : SocketAddr) (allowed : Bool) :
    Gated (log ++ [.checked flow src dst allowed]) :=
  Precedence.Preceded.free gated rfl

theorem Gated.forward (gated : Gated log)
    (cleared : .checked flow src dst true ∈ log) : Gated (log ++ [.forwarded flow src dst]) :=
  Precedence.Preceded.concat gated fun _ required => by
    cases required
    exact cleared

-- One rule's relay: a system over its own states, whose log the gate is about.
structure Machine where
  State : Type
  Action : Type
  system : Transition.System State Action
  log : State → List Event

def Machine.AlwaysGated (m : Machine) : Prop := ∀ s, Transition.Reached m.system s → Gated (m.log s)

theorem Machine.gated_by {m : Machine} {valid : m.State → Prop} (begun : ∀ s, m.system.initial s → valid s)
    (preserved : ∀ s action next, valid s → m.system.step s action = some next → valid next)
    (gated : ∀ s, valid s → Gated (m.log s)) : m.AlwaysGated := by
  intro s path
  exact gated s (Transition.Reached.invariant begun preserved path)

end Scg.Relay
