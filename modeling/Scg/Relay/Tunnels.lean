import Scg.Relay.Datagrams

namespace Scg.Relay.DtlsDecrypt
open Net Policy Config List Option

structure Worker where
  flow : Nat
  peer : SocketAddr
  upstream : SocketAddr
  relaying : Bool
  deriving DecidableEq

structure State where
  gate : Gate
  arrivals : Nat
  inFlight : Nat
  workers : List Worker
  log : List Event

def initial (gate : Gate) : State := {gate := gate,arrivals := 0,inFlight := 0,workers := [],log := []}

-- `resolved`, `connected` and `spawned` are the answers of name resolution, of the
-- connect to the peer and of the thread spawn; `ready` of handshake and dial.
inductive Action where
  | peek (now : Instant) (peer : SocketAddr) (resolved : Option SocketAddr) (connected spawned : Bool)
  | handshake (flow : Nat) (ready : Bool)
  | relay (flow : Nat)
  | exit (flow : Nat)
  | ambient (gate : Gate)

def peek (ctx : RuleContext) (s : State) (now : Instant) (peer : SocketAddr) (resolved : Option SocketAddr)
    (connected spawned : Bool) : State :=
  let arrived := {s with arrivals := s.arrivals+1}
  if ctx.upstreamAddr = "auto" then arrived
  else
    match resolved with
    | none => arrived
    | some upstream =>
      let (allowed,gate) := s.gate.classifyAndCheckPolicy now ctx.trafficClass peer upstream
      let checked := {arrived with gate := gate,log := s.log ++ [.checked s.arrivals peer upstream allowed]}
      if !allowed then checked
      else if !connected then checked
      else if !sessionAdmitted s.inFlight ctx.maxSessions then checked
      -- The slot is reserved before the spawn and given back when it fails.
      else if !spawned then checked
      else {checked with
        inFlight := s.inFlight+1
        workers := ⟨s.arrivals,peer,upstream,false⟩ :: s.workers}

def exit (s : State) (flow : Nat) : State :=
  {s with workers := s.workers.filter (·.flow ≠ flow),inFlight := s.inFlight-1}

def step (ctx : RuleContext) (s : State) : Action → Option State
  | .peek now peer resolved connected spawned => some (peek ctx s now peer resolved connected spawned)
  | .handshake flow ready => do
    let worker ← s.workers.find? (·.flow = flow)
    if worker.relaying then none
    else if ready && !ctx.upstreamProto.isLocal then
      some {s with workers := {worker with relaying := true} :: s.workers.filter (·.flow ≠ flow)}
    else some (exit s flow)
  | .relay flow => do
    let worker ← s.workers.find? (·.flow = flow)
    if worker.relaying then some {s with log := s.log ++ [.forwarded flow worker.peer worker.upstream]}
    else none
  | .exit flow => do
    let _ ← s.workers.find? (·.flow = flow)
    some (exit s flow)
  | .ambient gate => some {s with gate := gate}

def system (ctx : RuleContext) : Transition.System State Action where
  initial s := ∃ gate, s = initial gate
  step := step ctx

def machine (ctx : RuleContext) : Machine := ⟨State,Action,system ctx,State.log⟩

def Cleared (log : List Event) (worker : Worker) : Prop :=
  .checked worker.flow worker.peer worker.upstream true ∈ log

structure Invariant (s : State) : Prop where
  gated : Gated s.log
  cleared : ∀ worker ∈ s.workers, Cleared s.log worker

theorem Invariant.grows (valid : Invariant s) (gated : Gated (s.log ++ [event])) :
    Invariant {s with gate := gate,arrivals := arrivals,log := s.log ++ [event]} :=
  ⟨gated,fun worker old => mem_append_left _ (valid.cleared worker old)⟩

theorem peek_preserved (valid : Invariant s) : Invariant (peek ctx s now peer resolved connected spawned) := by
  unfold peek
  dsimp only
  split
  · exact ⟨valid.gated,valid.cleared⟩
  · split
    · exact ⟨valid.gated,valid.cleared⟩
    · rename_i upstream
      rcases s.gate.classifyAndCheckPolicy now ctx.trafficClass peer upstream with ⟨allowed,gate⟩
      have checked : Invariant {s with
          gate := gate
          arrivals := s.arrivals+1
          log := s.log ++ [.checked s.arrivals peer upstream allowed]} :=
        valid.grows (valid.gated.check s.arrivals peer upstream allowed)
      cases allowed with
      | false => exact checked
      | true =>
        split
        · exact checked
        · split
          · exact checked
          · split
            · exact checked
            · split
              · exact checked
              · refine ⟨checked.gated,?_⟩
                intro worker present
                rcases mem_cons.mp present with rfl | old
                · simp [Cleared]
                · exact checked.cleared worker old

theorem exit_preserved (valid : Invariant s) : Invariant (exit s flow) :=
  ⟨valid.gated,fun worker kept => valid.cleared worker (mem_filter.mp kept).1⟩

theorem step_preserved {next : State} (valid : Invariant s) (ran : step ctx s action = some next) : Invariant next := by
  cases action with
  | peek now peer resolved connected spawned =>
    cases ran
    exact peek_preserved valid
  | handshake flow ready =>
    simp only [step,bind_eq_bind,bind_eq_some_iff] at ran
    obtain ⟨worker,found,ran⟩ := ran
    split at ran
    · cases ran
    · split at ran <;> cases ran
      · refine ⟨valid.gated,?_⟩
        intro other present
        rcases mem_cons.mp present with rfl | kept
        · exact valid.cleared worker (mem_of_find?_eq_some found)
        · exact valid.cleared other (mem_filter.mp kept).1
      · exact exit_preserved valid
  | relay flow =>
    simp only [step,bind_eq_bind,bind_eq_some_iff] at ran
    obtain ⟨worker,found,ran⟩ := ran
    split at ran <;> cases ran
    have numbered : worker.flow = flow := by simpa using find?_some found
    have cleared := valid.cleared worker (mem_of_find?_eq_some found)
    rw [Cleared,numbered] at cleared
    exact valid.grows (valid.gated.forward cleared)
  | exit flow =>
    simp only [step,bind_eq_bind,bind_eq_some_iff] at ran
    obtain ⟨worker,_,ran⟩ := ran
    cases ran
    exact exit_preserved valid
  | ambient gate =>
    cases ran
    exact ⟨valid.gated,valid.cleared⟩

theorem dtls_decrypt_gated (ctx : RuleContext) : (machine ctx).AlwaysGated := by
  refine Machine.gated_by (fun s begun => ?_) (fun _ _ _ valid ran => step_preserved valid ran) fun _ valid => valid.gated
  obtain ⟨gate,rfl⟩ := begun
  exact ⟨Precedence.preceded_nil,fun _ absent => nomatch absent⟩

end Scg.Relay.DtlsDecrypt

namespace Scg.Relay.UdpEncrypt
open Net Policy Config

structure State where
  gate : Gate
  tunnel : Option SocketAddr
  lastPeer : Option SocketAddr
  stopped : Bool
  arrivals : Nat
  log : List Event

def initial (gate : Gate) : State :=
  {gate := gate,tunnel := none,lastPeer := none,stopped := false,arrivals := 0,log := []}

inductive Action where
  | wake (established : Bool)
  | batch (sources : List (Option SocketAddr)) (written : Bool)
  | ambient (gate : Gate)

-- The datagrams of one drain that the pin lets through, numbered by arrival. A source
-- of an unrecognised family is skipped.
def stage : Option SocketAddr → Nat → List (Option SocketAddr) → List (Nat × SocketAddr) × Option SocketAddr
  | bound,_,[] => ([],bound)
  | bound,flow,none :: rest => stage bound (flow+1) rest
  | bound,flow,some src :: rest =>
    let (accepted,bound) := acceptSource bound src
    let (staged,bound) := stage bound (flow+1) rest
    (if accepted then (flow,src) :: staged else staged,bound)

-- The first waiting datagram makes the relay dial; until the tunnel stands nothing is
-- read, and no policy is asked.
def step (std : Std) (ctx : RuleContext) (s : State) : Action → Option State
  | .wake established =>
    if s.stopped || s.tunnel.isSome then none
    else match std.parseSocket ctx.upstreamAddr with
      | .error _ => some {s with stopped := true}
      | .ok upstream => some {s with tunnel := if established then some upstream else none}
  | .batch sources written =>
    match s.stopped,s.tunnel with
    | false,some upstream =>
      let (staged,bound) := stage s.lastPeer s.arrivals sources
      let drained := {s with lastPeer := bound,arrivals := s.arrivals+sources.length}
      if written then
        some {drained with log := s.log ++ staged.map fun (flow,src) => .forwarded flow src upstream}
      else some {drained with stopped := true}
    | _,_ => none
  | .ambient gate => some {s with gate := gate}

def system (std : Std) (ctx : RuleContext) : Transition.System State Action where
  initial s := ∃ gate, s = initial gate
  step := step std ctx

def machine (std : Std) (ctx : RuleContext) : Machine := ⟨State,Action,system std ctx,State.log⟩

theorem undialled_silent (unparsed : ∃ e, std.parseSocket ctx.upstreamAddr = .error e)
    (path : Transition.Reached (system std ctx) s) : s.tunnel = none ∧ s.log = [] := by
  obtain ⟨e,unparsed⟩ := unparsed
  refine Transition.Reached.invariant (I := fun s => s.tunnel = none ∧ s.log = []) ?_ ?_ path
  · rintro _ ⟨gate,rfl⟩
    exact ⟨rfl,rfl⟩
  · rintro before action after ⟨untunnelled,silent⟩ ran
    cases action with
    | wake established =>
      simp only [system,step,unparsed] at ran
      split at ran <;> cases ran
      exact ⟨untunnelled,silent⟩
    | batch sources written => simp [system,step,untunnelled] at ran
    | ambient gate =>
      cases ran
      exact ⟨untunnelled,silent⟩

theorem first_forwarded (gate : Gate) (src : SocketAddr) (parsed : std.parseSocket ctx.upstreamAddr = .ok upstream) :
    ∃ s, Transition.Reached (system std ctx) s ∧ s.gate = gate ∧ s.log = [.forwarded 0 src upstream] := by
  let dialled : State := {initial gate with tunnel := some upstream}
  let relayed : State := {dialled with
    lastPeer := some src
    arrivals := 1
    log := [.forwarded 0 src upstream]}
  have dials : (system std ctx).step (initial gate) (.wake true) = some dialled := by
    simp [system,step,initial,parsed,dialled]
  have relays : (system std ctx).step dialled (.batch [some src] true) = some relayed := by
    simp [system,step,initial,stage,acceptSource,dialled,relayed]
  have begun : Transition.Reached (system std ctx) (initial gate) := .initial ⟨gate,rfl⟩
  exact ⟨relayed,(begun.next dials).next relays,rfl,rfl⟩

end Scg.Relay.UdpEncrypt
