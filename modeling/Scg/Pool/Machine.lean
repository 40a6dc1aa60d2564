import Scg.Library.Transition
import Scg.Policy.Decision

namespace Scg.Pool
open Policy

-- A job is known by the `execute` call that brought it; the calls are numbered.
abbrev Job := Nat

structure Setup where
  size : Nat
  maxOverflow : Nat
  trafficClass : TrafficClass

def SAFETY_MIN_WORKERS : Nat := 2

def Setup.baseWorkers (cfg : Setup) : Nat :=
  if cfg.trafficClass = .safety then max cfg.size SAFETY_MIN_WORKERS else cfg.size

-- Before it counts itself idle, in `recv`, with a job before it counts itself busy, in the job.
inductive Worker where
  | top
  | waiting
  | taken (job : Job)
  | running (job : Job)
  deriving DecidableEq

-- An overflow thread: its job still in the shared slot, out of it, running, and past it
-- with the slot guard not yet dropped.
inductive Thread where
  | spawned (job : Job)
  | taken (job : Job)
  | running (job : Job)
  | leaving
  deriving DecidableEq

-- An `execute` call between its atomic operations.
inductive Point where
  | loadIdle
  | loadOverflow
  | reserve (cur : Nat)
  | spawning
  | spawnFailed
  | queueing
  | returning (accepted : Bool)
  deriving DecidableEq

structure Call where
  job : Job
  point : Point
  deriving DecidableEq

-- `accepted` and `rejected` list what the calls returned, `started` every run of a job.
structure State where
  queue : List Job
  idleCount : Nat
  overflowCount : Nat
  workers : List Worker
  threads : List Thread
  calls : List Call
  submitted : Nat
  started : List Job
  finished : List Job
  dropped : List Job
  accepted : List Job
  rejected : List Job

def initial (cfg : Setup) : State :=
  {queue := [],idleCount := 0,overflowCount := 0,workers := List.replicate cfg.baseWorkers .top,threads := [],calls := [],
    submitted := 0,started := [],finished := [],dropped := [],accepted := [],rejected := []}

-- `spurious` is a weak exchange that fails for no reason, `spawned` the answer of the
-- thread spawn.
inductive Action where
  | submit
  | call (i : Nat) (spurious spawned : Bool)
  | worker (i : Nat)
  | thread (i : Nat)
  deriving DecidableEq

def State.moved (s : State) (i : Nat) (call : Call) (point : Point) : State :=
  {s with calls := s.calls.set i {call with point := point}}

-- The channel is closed when no base worker holds its receiver.
def queueJob (s : State) (i : Nat) (call : Call) : State :=
  if s.workers = [] then {s.moved i call (.returning false) with dropped := s.dropped ++ [call.job]}
  else {s.moved i call (.returning true) with queue := s.queue ++ [call.job]}

def compareExchange (cfg : Setup) (s : State) (i : Nat) (call : Call) (cur : Nat) (spurious : Bool) : State :=
  if cur ≥ cfg.maxOverflow then s.moved i call .queueing
  else if s.overflowCount = cur && !spurious then {s.moved i call .spawning with overflowCount := cur+1}
  else s.moved i call (.reserve s.overflowCount)

def stepCall (cfg : Setup) (s : State) (i : Nat) (call : Call) (spurious spawned : Bool) : State :=
  match call.point with
  | .loadIdle =>
    if s.idleCount > 0 then s.moved i call .queueing
    else if cfg.trafficClass = .normal then s.moved i call .queueing
    else s.moved i call .loadOverflow
  | .loadOverflow => s.moved i call (.reserve s.overflowCount)
  | .reserve cur => compareExchange cfg s i call cur spurious
  | .spawning =>
    if spawned then {s.moved i call (.returning true) with threads := s.threads ++ [.spawned call.job]}
    else s.moved i call .spawnFailed
  | .spawnFailed => {s.moved i call .queueing with overflowCount := s.overflowCount-1}
  | .queueing => queueJob s i call
  | .returning true => {s with calls := s.calls.eraseIdx i,accepted := s.accepted ++ [call.job]}
  | .returning false => {s with calls := s.calls.eraseIdx i,rejected := s.rejected ++ [call.job]}

def stepWorker (s : State) (i : Nat) : Worker → Option State
  | .top => some {s with workers := s.workers.set i .waiting,idleCount := s.idleCount+1}
  | .waiting =>
    match s.queue with
    | [] => none
    | job :: queue => some {s with queue := queue,workers := s.workers.set i (.taken job)}
  | .taken job =>
    some {s with
      workers := s.workers.set i (.running job)
      idleCount := s.idleCount-1
      started := s.started ++ [job]}
  | .running job => some {s with workers := s.workers.set i .top,finished := s.finished ++ [job]}

-- A job that unwinds an overflow thread ends it like one that returns.
def stepThread (s : State) (i : Nat) : Thread → State
  | .spawned job => {s with threads := s.threads.set i (.taken job)}
  | .taken job => {s with threads := s.threads.set i (.running job),started := s.started ++ [job]}
  | .running job => {s with threads := s.threads.set i .leaving,finished := s.finished ++ [job]}
  | .leaving => {s with threads := s.threads.eraseIdx i,overflowCount := s.overflowCount-1}

def step (cfg : Setup) (s : State) : Action → Option State
  | .submit => some {s with submitted := s.submitted+1,calls := s.calls ++ [⟨s.submitted,.loadIdle⟩]}
  | .call i spurious spawned => (s.calls[i]?).map fun call => stepCall cfg s i call spurious spawned
  | .worker i => (s.workers[i]?).bind (stepWorker s i)
  | .thread i => (s.threads[i]?).map (stepThread s i)

def system (cfg : Setup) : Transition.System State Action where
  initial s := s = initial cfg
  step := step cfg

end Scg.Pool
