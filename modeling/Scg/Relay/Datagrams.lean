import Scg.Relay.Streams

namespace Scg.Relay
open Net

def sessionAdmitted (current max : Nat) : Bool := current < max

-- Pins a single-client relay to its first source.
def acceptSource (bound : Option SocketAddr) (src : SocketAddr) : Bool × Option SocketAddr :=
  match bound with
  | none => (true,some src)
  | some b => (b == src,some b)

-- What the operating system answers about sockets. `peer_addr` of a connected UDP
-- socket is the address it was connected to.
structure Host where
  peerAddr : SocketAddr → Option SocketAddr
  peerAddr_connected : ∀ addr, peerAddr addr = some addr

end Scg.Relay

namespace Scg.Relay.Sessions
open Net Policy Config

-- The relays with one upstream session per source address.
inductive Kind where
  | routing | dtlsEncrypt
  deriving DecidableEq

def Kind.isAuto (kind : Kind) (upstream : String) : Bool :=
  match kind with
  | .routing => Streams.isAutoUpstream upstream
  | .dtlsEncrypt => upstream == "auto"

-- The upstream is resolved once, before the first datagram is read.
inductive Phase where
  | starting
  | stopped
  | relaying (target : SocketAddr)
  deriving DecidableEq

inductive Sent where
  | done | wouldBlock | failed
  deriving DecidableEq

structure State where
  gate : Gate
  phase : Phase
  sessions : AList fun _ : SocketAddr => Instant
  arrivals : Nat
  log : List Event

def initial (gate : Gate) : State := {gate := gate,phase := .starting,sessions := ∅,arrivals := 0,log := []}

-- `opened` says whether a new session's socket and handshake succeed, `sent` how its
-- upstream write ends.
inductive Action where
  | start (resolved : Option SocketAddr)
  | datagram (now : Instant) (peer : SocketAddr) (opened : Bool) (sent : Sent)
  | reply (now : Instant) (peer : SocketAddr) (closed : Bool)
  | evict (now : Instant)
  | ambient (gate : Gate)

def stalePeers (sessions : AList fun _ : SocketAddr => Instant) (ttl : Nat) (now : Instant) : List SocketAddr :=
  (sessions.entries.filter fun entry => now-entry.2 ≥ ttl).map (·.1)

def send (s : State) (now : Instant) (peer target : SocketAddr) (flow : Nat) : Sent → State
  | .done => {s with sessions := s.sessions.insert peer now,log := s.log ++ [.forwarded flow peer target]}
  | .wouldBlock => s
  | .failed => {s with sessions := s.sessions.erase peer}

def datagram (ctx : RuleContext) (s : State) (target : SocketAddr) (now : Instant) (peer : SocketAddr)
    (opened : Bool) (sent : Sent) : State :=
  let arrived := {s with arrivals := s.arrivals+1}
  -- Admission comes first: a new source beyond the cap costs no classification.
  if peer ∉ s.sessions && !sessionAdmitted s.sessions.entries.length ctx.maxSessions then arrived
  else
    let (allowed,gate) := s.gate.classifyAndCheckPolicy now ctx.trafficClass peer target
    let checked := {arrived with gate := gate,log := s.log ++ [.checked s.arrivals peer target allowed]}
    if !allowed then checked
    else if peer ∈ s.sessions then send checked now peer target s.arrivals sent
    else if opened then
      send {checked with sessions := s.sessions.insert peer now} now peer target s.arrivals sent
    else checked

def step (kind : Kind) (ctx : RuleContext) (s : State) : Action → Option State
  | .start resolved =>
    match s.phase with
    | .starting =>
      if kind.isAuto ctx.upstreamAddr then some {s with phase := .stopped}
      else match resolved with
        | none => some {s with phase := .stopped}
        | some target => some {s with phase := .relaying target}
    | _ => none
  | .datagram now peer opened sent =>
    match s.phase with
    | .relaying target => some (datagram ctx s target now peer opened sent)
    | _ => none
  | .reply now peer closed =>
    if peer ∈ s.sessions then
      some {s with sessions := if closed then s.sessions.erase peer else s.sessions.insert peer now}
    else none
  | .evict now =>
    some {s with sessions := (stalePeers s.sessions ctx.idleTtl now).foldl (fun kept peer => kept.erase peer) s.sessions}
  | .ambient gate => some {s with gate := gate}

def system (kind : Kind) (ctx : RuleContext) : Transition.System State Action where
  initial s := ∃ gate, s = initial gate
  step := step kind ctx

def machine (kind : Kind) (ctx : RuleContext) : Machine := ⟨State,Action,system kind ctx,State.log⟩

theorem send_gated (sent : Sent) (gated : Gated s.log)
    (cleared : .checked flow peer target true ∈ s.log) : Gated (send s now peer target flow sent).log := by
  cases sent with
  | done => exact gated.forward cleared
  | wouldBlock | failed => exact gated

theorem datagram_gated (gated : Gated s.log) : Gated (datagram ctx s target now peer opened sent).log := by
  unfold datagram
  split
  · exact gated
  · rcases s.gate.classifyAndCheckPolicy now ctx.trafficClass peer target with ⟨allowed,gate⟩
    have checked := gated.check s.arrivals peer target allowed
    cases allowed with
    | false => exact checked
    | true =>
      have cleared : Event.checked s.arrivals peer target true ∈
          s.log ++ [.checked s.arrivals peer target true] := by simp
      simp only [Bool.not_true,Bool.false_eq_true,if_false]
      split
      · exact send_gated sent checked cleared
      · split
        · exact send_gated sent checked cleared
        · exact checked

theorem step_gated (gated : Gated s.log) (ran : step kind ctx s action = some next) : Gated next.log := by
  cases action with
  | start resolved =>
    simp only [step] at ran
    split at ran
    · split at ran
      · cases ran
        exact gated
      · split at ran
        all_goals
          cases ran
          exact gated
    · cases ran
  | datagram now peer opened sent =>
    simp only [step] at ran
    split at ran <;> cases ran
    exact datagram_gated gated
  | reply now peer closed =>
    obtain ⟨_,ran⟩ := Option.ite_none_right_eq_some.mp ran
    cases ran
    exact gated
  | evict | ambient =>
    cases ran
    exact gated

theorem sessions_gated (kind : Kind) (ctx : RuleContext) : (machine kind ctx).AlwaysGated := by
  refine Machine.gated_by (fun s begun => ?_) (fun _ _ _ gated ran => step_gated gated ran) fun _ gated => gated
  obtain ⟨gate,rfl⟩ := begun
  exact Precedence.preceded_nil

end Scg.Relay.Sessions

namespace Scg.Relay.Wireguard
open Net Policy Config

structure State where
  gate : Gate
  upstream : Option SocketAddr
  lastClient : Option SocketAddr
  arrivals : Nat
  log : List Event

def initial (gate : Gate) : State :=
  {gate := gate,upstream := none,lastClient := none,arrivals := 0,log := []}

inductive Action where
  | start (connected : Option SocketAddr)
  | datagram (now : Instant) (peer : SocketAddr) (sent : Bool)
  | ambient (gate : Gate)

-- The source is pinned before the gate is asked.
def datagram (host : Host) (ctx : RuleContext) (s : State) (upstream : SocketAddr) (now : Instant)
    (peer : SocketAddr) (sent : Bool) : State :=
  let (accepted,lastClient) := acceptSource s.lastClient peer
  let arrived := {s with lastClient := lastClient,arrivals := s.arrivals+1}
  if !accepted then arrived
  else
    match host.peerAddr upstream with
    | some dst =>
      let (allowed,gate) := s.gate.classifyAndCheckPolicy now ctx.trafficClass peer dst
      let checked := {arrived with gate := gate,log := s.log ++ [.checked s.arrivals peer dst allowed]}
      if allowed && sent then {checked with log := checked.log ++ [.forwarded s.arrivals peer upstream]} else checked
    | none => if sent then {arrived with log := s.log ++ [.forwarded s.arrivals peer upstream]} else arrived

def step (host : Host) (ctx : RuleContext) (s : State) : Action → Option State
  | .start connected => if s.upstream = none then some {s with upstream := connected} else none
  | .datagram now peer sent =>
    match s.upstream with
    | some upstream => some (datagram host ctx s upstream now peer sent)
    | none => none
  | .ambient gate => some {s with gate := gate}

def system (host : Host) (ctx : RuleContext) : Transition.System State Action where
  initial s := ∃ gate, s = initial gate
  step := step host ctx

def machine (host : Host) (ctx : RuleContext) : Machine := ⟨State,Action,system host ctx,State.log⟩

theorem datagram_gated (gated : Gated s.log) : Gated (datagram host ctx s upstream now peer sent).log := by
  unfold datagram
  simp only [host.peerAddr_connected]
  rcases acceptSource s.lastClient peer with ⟨_ | _,lastClient⟩
  · exact gated
  · rcases s.gate.classifyAndCheckPolicy now ctx.trafficClass peer upstream with ⟨allowed,gate⟩
    have checked := gated.check s.arrivals peer upstream allowed
    cases allowed with
    | false => exact checked
    | true =>
      cases sent with
      | false => exact checked
      | true => exact checked.forward (by simp)

theorem step_gated (gated : Gated s.log) (ran : step host ctx s action = some next) : Gated next.log := by
  cases action with
  | start connected =>
    obtain ⟨_,ran⟩ := Option.ite_none_right_eq_some.mp ran
    cases ran
    exact gated
  | datagram now peer sent =>
    simp only [step] at ran
    split at ran <;> cases ran
    exact datagram_gated gated
  | ambient gate =>
    cases ran
    exact gated

theorem wireguard_gated (host : Host) (ctx : RuleContext) : (machine host ctx).AlwaysGated := by
  refine Machine.gated_by (fun s begun => ?_) (fun _ _ _ gated ran => step_gated gated ran) fun _ gated => gated
  obtain ⟨gate,rfl⟩ := begun
  exact Precedence.preceded_nil

end Scg.Relay.Wireguard
