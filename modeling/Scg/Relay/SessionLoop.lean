import Scg.Library.Tables
import Scg.Relay.PolicyGate

namespace Scg.Relay.SessionLoop
open Net Policy Config
open Sessions (Kind Phase Sent stalePeers)

-- Sockets are numbered as they are opened; a descriptor may come back for another one.
structure Leg where
  socket : Nat
  fd : Nat
  last : Instant

structure Revents where
  pollin : Bool
  pollhup : Bool
  pollerr : Bool
  pollnval : Bool
  deriving DecidableEq

-- The two loops do not look at the same bits.
def serviced (kind : Kind) (revents : Revents) : Bool :=
  match kind with
  | .routing => revents.pollin || revents.pollerr || revents.pollnval
  | .dtlsEncrypt => revents.pollin || revents.pollhup || revents.pollerr || revents.pollnval

structure Polled where
  peer : SocketAddr
  fd : Nat
  revents : Revents
  deriving DecidableEq

-- Where the loop stands in a pass: before `poll`, reading the listening socket, or
-- going through the snapshot.
inductive Stage where
  | top
  | forward (polled : List Polled)
  | reverse (polled : List Polled) (toRemove : List SocketAddr)
  | ended
  deriving DecidableEq

structure Received where
  socket : Nat
  bytes : List UInt8
  deriving DecidableEq

structure Reply where
  dst : SocketAddr
  bytes : List UInt8
  deriving DecidableEq

-- `owners` lists the peer each socket was opened for, `received` and `replies` the traffic.
structure State where
  gate : Gate
  phase : Phase
  legs : AList fun _ : SocketAddr => Leg
  lastEvict : Instant
  stage : Stage
  arrivals : Nat
  log : List Event
  owners : List SocketAddr
  received : List Received
  replies : List Reply

def initial (gate : Gate) : State :=
  {gate := gate,phase := .starting,legs := ∅,lastEvict := 0,stage := .top,arrivals := 0,log := [],owners := [],
    received := [],replies := []}

inductive Poll where
  | interrupted | failed | timeout
  | ready (listen : Revents) (polled : List Polled)

-- `opened` is the descriptor of a new session's socket, if its socket and handshake succeed.
inductive Arrival where
  | datagram (now : Instant) (peer : SocketAddr) (opened : Option Nat) (sent : Sent)
  | wouldBlock | interrupted | failed

inductive Read where
  | bytes (now : Instant) (data : List UInt8)
  | wouldBlock | interrupted | failed

inductive Action where
  | start (now : Instant) (resolved : Option SocketAddr)
  | poll (now : Instant) (result : Poll)
  | arrive (arrival : Arrival)
  | visit (read : Read)
  | shutdown
  | ambient (gate : Gate)

def send (s : State) (now : Instant) (peer target : SocketAddr) (leg : Leg) (flow : Nat) : Sent → State
  | .done => {s with
      legs := s.legs.insert peer {leg with last := now}
      log := s.log ++ [.forwarded flow peer target]}
  | .wouldBlock => s
  | .failed => {s with legs := s.legs.erase peer}

def openLeg (s : State) (now : Instant) (peer : SocketAddr) (fd : Nat) : Leg × State :=
  let leg := {socket := s.owners.length,fd := fd,last := now}
  (leg,{s with legs := s.legs.insert peer leg,owners := s.owners ++ [peer]})

def datagram (ctx : RuleContext) (s : State) (target : SocketAddr) (now : Instant) (peer : SocketAddr)
    (opened : Option Nat) (sent : Sent) : State :=
  let arrived := {s with arrivals := s.arrivals+1}
  if peer ∉ s.legs && !sessionAdmitted s.legs.entries.length ctx.maxSessions then arrived
  else
    let (allowed,gate) := s.gate.classifyAndCheckPolicy now ctx.trafficClass peer target
    let checked := {arrived with gate := gate,log := s.log ++ [.checked s.arrivals peer target allowed]}
    if !allowed then checked
    else match s.legs.lookup peer,opened with
      | some leg,_ => send checked now peer target leg s.arrivals sent
      | none,none => checked
      | none,some fd =>
        let (leg,opened) := openLeg checked now peer fd
        send opened now peer target leg s.arrivals sent

def eraseAll (peers : List SocketAddr) (legs : AList fun _ : SocketAddr => Leg) : AList fun _ : SocketAddr => Leg :=
  peers.foldl (fun kept peer => kept.erase peer) legs

-- Idle sessions are looked for about once a second, before the snapshot is taken.
def evictIdle (ctx : RuleContext) (s : State) (now : Instant) : State :=
  if now-s.lastEvict ≥ 10^9 then
    {s with legs := eraseAll (stalePeers (Tables.column Leg.last s.legs) ctx.idleTtl now) s.legs,lastEvict := now}
  else s

def snapshot (legs : AList fun _ : SocketAddr => Leg) : List (SocketAddr × Nat) :=
  legs.entries.map fun entry => (entry.1,entry.2.fd)

def poll (ctx : RuleContext) (s : State) (now : Instant) (result : Poll) : Option State :=
  let s := evictIdle ctx s now
  match result with
  | .interrupted => some s
  | .timeout => some s
  | .failed => some {s with stage := .ended}
  | .ready listen polled =>
    -- The table is a hash map: its order is not known.
    if (polled.map fun p => (p.peer,p.fd)).Perm (snapshot s.legs) then
      some {s with stage := if listen.pollin then .forward polled else .reverse polled []}
    else none

def arrive (ctx : RuleContext) (s : State) (polled : List Polled) (target : SocketAddr) : Arrival → State
  | .datagram now peer opened sent => datagram ctx s target now peer opened sent
  | .interrupted => s
  | .wouldBlock => {s with stage := .reverse polled []}
  | .failed => {s with stage := .reverse polled []}

inductive Outcome where
  | relay (now : Instant) (data : List UInt8)
  | again | next | remove

-- A read of no bytes is an empty datagram to the one loop and the end to the other.
def outcome : Kind → Read → Outcome
  | .routing,.bytes now data => .relay now data
  | .dtlsEncrypt,.bytes _ [] => .remove
  | .dtlsEncrypt,.bytes now (byte :: data) => .relay now (byte :: data)
  | _,.wouldBlock => .next
  | .routing,.interrupted => .again
  | .dtlsEncrypt,.interrupted => .remove
  | _,.failed => .remove

-- The descriptor of the snapshot is not used again: the session is looked up by its peer.
def visit (kind : Kind) (s : State) (current : Polled) (rest : List Polled) (toRemove : List SocketAddr)
    (read : Read) : State :=
  let next := {s with stage := .reverse rest toRemove}
  if serviced kind current.revents then
    match s.legs.lookup current.peer with
    | none => next
    | some leg =>
      match outcome kind read with
      | .relay now data => {s with
          legs := s.legs.insert current.peer {leg with last := now}
          received := s.received ++ [⟨leg.socket,data⟩]
          replies := s.replies ++ [⟨current.peer,data⟩]}
      | .again => s
      | .next => next
      | .remove => {s with stage := .reverse rest (toRemove ++ [current.peer])}
  else next

def step (kind : Kind) (ctx : RuleContext) (s : State) : Action → Option State
  | .start now resolved =>
    match s.phase with
    | .starting =>
      if kind.isAuto ctx.upstreamAddr then some {s with phase := .stopped}
      else match resolved with
        | none => some {s with phase := .stopped}
        | some target => some {s with phase := .relaying target,lastEvict := now}
    | _ => none
  | .poll now result =>
    match s.phase,s.stage with
    | .relaying _,.top => poll ctx s now result
    | _,_ => none
  | .arrive arrival =>
    match s.phase,s.stage with
    | .relaying target,.forward polled => some (arrive ctx s polled target arrival)
    | _,_ => none
  | .visit read =>
    match s.stage with
    | .reverse (current :: rest) toRemove => some (visit kind s current rest toRemove read)
    | .reverse [] toRemove => some {s with legs := eraseAll toRemove s.legs,stage := .top}
    | _ => none
  | .shutdown =>
    match s.stage with
    | .top => some {s with stage := .ended}
    | _ => none
  | .ambient gate => some {s with gate := gate}

def system (kind : Kind) (ctx : RuleContext) : Transition.System State Action where
  initial s := ∃ gate, s = initial gate
  step := step kind ctx

end Scg.Relay.SessionLoop
