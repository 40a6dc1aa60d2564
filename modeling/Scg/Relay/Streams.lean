import Scg.Relay.Flow

namespace Scg.Relay.Streams
open Net Policy Config List Option

-- The three TCP listeners differ in how they recognise the `auto` placeholder and in
-- the upstream legs their handlers can open.
inductive Kind where
  | encrypt | decrypt | routing
  deriving DecidableEq

def isAutoUpstream (upstream : String) : Bool := Text.toAsciiLower (Text.trim upstream) == "auto"

def Kind.isAuto (kind : Kind) (upstream : String) : Bool :=
  match kind with
  | .encrypt | .decrypt => upstream == "auto"
  | .routing => isAutoUpstream upstream

-- The upstream string of an accepted connection; `recovered` is what the kernel says
-- the client dialled. None drops the connection.
def target (std : Std) (kind : Kind) (ctx : RuleContext) (recovered : Option SocketAddr) : Option String :=
  if ctx.transparent && kind.isAuto ctx.upstreamAddr then recovered.map std.display else some ctx.upstreamAddr

structure Connection where
  flow : Nat
  peer : SocketAddr
  target : String
  upstream : Option SocketAddr
  deriving DecidableEq

structure State where
  gate : Gate
  arrivals : Nat
  connections : List Connection
  log : List Event

def initial (gate : Gate) : State := {gate := gate,arrivals := 0,connections := [],log := []}

inductive Action where
  | accept (now : Instant) (peer : SocketAddr) (recovered : Option SocketAddr)
  | connect (flow : Nat) (reached : Bool)
  | relay (flow : Nat)
  | finish (flow : Nat)
  | ambient (gate : Gate)

-- The target gate fails closed on a target that is not an address.
def admitConnection (std : Std) (ctx : RuleContext) (s : State) (now : Instant) (peer : SocketAddr) (target : String) :
    State :=
  match std.parseSocket target with
  | .error _ => {s with arrivals := s.arrivals+1}
  | .ok dst =>
    let (allowed,gate) := s.gate.classifyAndCheckPolicy now ctx.trafficClass peer dst
    let checked := s.log ++ [.checked s.arrivals peer dst allowed]
    if allowed then
      {gate := gate,arrivals := s.arrivals+1,connections := ⟨s.arrivals,peer,target,none⟩ :: s.connections,
        log := checked}
    else {s with gate := gate,arrivals := s.arrivals+1,log := checked}

-- The handler parses the target again and dials it; a decrypt handler has no uds or
-- shm upstream leg.
def dial (std : Std) (kind : Kind) (ctx : RuleContext) (target : String) : Option SocketAddr :=
  if kind = .decrypt && ctx.upstreamProto.isLocal then none
  else match std.parseSocket target with
    | .ok dst => some dst
    | .error _ => none

def drop (s : State) (flow : Nat) : State :=
  {s with connections := s.connections.filter (·.flow ≠ flow)}

def step (std : Std) (kind : Kind) (ctx : RuleContext) (s : State) : Action → Option State
  | .accept now peer recovered =>
    match target std kind ctx recovered with
    | none => some {s with arrivals := s.arrivals+1}
    | some target => some (admitConnection std ctx s now peer target)
  | .connect flow reached => do
    let conn ← s.connections.find? (·.flow = flow)
    match conn.upstream,dial std kind ctx conn.target with
    | none,some dst =>
      if reached then
        some {s with connections := {conn with upstream := some dst} :: (drop s flow).connections}
      else some (drop s flow)
    | none,none => some (drop s flow)
    | some _,_ => none
  | .relay flow => do
    let conn ← s.connections.find? (·.flow = flow)
    let dst ← conn.upstream
    some {s with log := s.log ++ [.forwarded flow conn.peer dst]}
  | .finish flow => some (drop s flow)
  | .ambient gate => some {s with gate := gate}

def system (std : Std) (kind : Kind) (ctx : RuleContext) : Transition.System State Action where
  initial s := ∃ gate, s = initial gate
  step := step std kind ctx

def machine (std : Std) (kind : Kind) (ctx : RuleContext) : Machine :=
  ⟨State,Action,system std kind ctx,State.log⟩

structure Cleared (std : Std) (log : List Event) (conn : Connection) : Prop where
  named : ∃ dst, std.parseSocket conn.target = .ok dst ∧ .checked conn.flow conn.peer dst true ∈ log
  dialled : ∀ dst, conn.upstream = some dst → std.parseSocket conn.target = .ok dst

structure Invariant (std : Std) (s : State) : Prop where
  gated : Gated s.log
  cleared : ∀ conn ∈ s.connections, Cleared std s.log conn

theorem Cleared.grows (cleared : Cleared std log conn) (more : List Event) : Cleared std (log ++ more) conn := by
  obtain ⟨⟨dst,parsed,present⟩,dialled⟩ := cleared
  exact ⟨⟨dst,parsed,mem_append_left _ present⟩,dialled⟩

theorem initial_invariant (std : Std) (gate : Gate) : Invariant std (initial gate) :=
  ⟨Precedence.preceded_nil,fun _ absent => nomatch absent⟩

theorem dial_parses {target : String} (dialled : dial std kind ctx target = some dst) :
    std.parseSocket target = .ok dst := by
  obtain ⟨_,dialled⟩ := ite_none_left_eq_some.mp dialled
  split at dialled <;> cases dialled
  rename_i parsed
  exact parsed

theorem admit_preserved {target : String} (valid : Invariant std s) :
    Invariant std (admitConnection std ctx s now peer target) := by
  cases parsed : std.parseSocket target with
  | error e =>
    simp only [admitConnection,parsed]
    exact ⟨valid.gated,valid.cleared⟩
  | ok dst =>
    have checked := valid.gated.check s.arrivals peer dst
    rcases answer : s.gate.classifyAndCheckPolicy now ctx.trafficClass peer dst with ⟨_ | _,gate⟩
    · simp only [admitConnection,parsed,answer]
      exact ⟨checked false,fun conn old => (valid.cleared conn old).grows _⟩
    · simp only [admitConnection,parsed,answer]
      refine ⟨checked true,?_⟩
      intro conn present
      rcases mem_cons.mp present with rfl | old
      · exact ⟨⟨dst,parsed,by simp⟩,nofun⟩
      · exact (valid.cleared conn old).grows _

theorem drop_preserved (valid : Invariant std s) : Invariant std (drop s flow) :=
  ⟨valid.gated,fun conn kept => valid.cleared conn (mem_filter.mp kept).1⟩

theorem step_preserved {next : State} (valid : Invariant std s) (ran : step std kind ctx s action = some next) :
    Invariant std next := by
  cases action with
  | accept now peer recovered =>
    simp only [step] at ran
    split at ran <;> cases ran
    · exact ⟨valid.gated,valid.cleared⟩
    · exact admit_preserved valid
  | connect flow reached =>
    simp only [step,bind_eq_bind,bind_eq_some_iff] at ran
    obtain ⟨conn,found,ran⟩ := ran
    have live := valid.cleared conn (mem_of_find?_eq_some found)
    split at ran
    · rename_i dst _ dialled
      split at ran <;> cases ran
      · refine ⟨valid.gated,?_⟩
        intro other present
        rcases mem_cons.mp present with rfl | kept
        · refine ⟨live.named,?_⟩
          rintro _ ⟨⟩
          exact dial_parses dialled
        · exact (drop_preserved valid).cleared other kept
      · exact drop_preserved valid
    · cases ran
      exact drop_preserved valid
    · cases ran
  | relay flow =>
    simp only [step,bind_eq_bind,bind_eq_some_iff] at ran
    obtain ⟨conn,found,dst,connected,ran⟩ := ran
    cases ran
    obtain ⟨⟨named,parsed,present⟩,dialled⟩ := valid.cleared conn (mem_of_find?_eq_some found)
    have same : named = dst := by
      have again := dialled dst connected
      rw [parsed] at again
      cases again
      rfl
    have numbered : conn.flow = flow := by simpa using find?_some found
    subst same numbered
    exact ⟨valid.gated.forward present,fun other old => (valid.cleared other old).grows _⟩
  | finish flow =>
    cases ran
    exact drop_preserved valid
  | ambient gate =>
    cases ran
    exact ⟨valid.gated,valid.cleared⟩

theorem streams_gated (std : Std) (kind : Kind) (ctx : RuleContext) : (machine std kind ctx).AlwaysGated := by
  refine Machine.gated_by (fun s begun => ?_) (fun _ _ _ valid ran => step_preserved valid ran)
    fun _ valid => valid.gated
  obtain ⟨gate,rfl⟩ := begun
  exact initial_invariant std gate

end Scg.Relay.Streams
