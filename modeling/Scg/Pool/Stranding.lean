import Scg.Pool.Accounting

namespace Scg.Pool
open Policy Tally List Option

def Worker.free : Worker → Nat
  | .top => 1
  | .waiting => 1
  | _ => 0

structure Stranded (cfg : Setup) (s : State) (job : Job) : Prop where
  queued : job ∈ s.queue
  busy : ∀ worker ∈ s.workers, ∃ other, worker = .running other
  slot : s.overflowCount < cfg.maxOverflow
  quiet : s.calls = []

-- The job that a step sends on to the queue because every overflow slot is taken, or
-- because the thread for it could not be spawned.
def spills (cfg : Setup) (s : State) : Action → List Job
  | .call i _ _ =>
    match s.calls[i]? with
    | some ⟨job,.reserve cur⟩ => if cur ≥ cfg.maxOverflow then [job] else []
    | some ⟨job,.spawnFailed⟩ => [job]
    | _ => []
  | _ => []

def spilling (cfg : Setup) : Transition.System (State × List Job) Action :=
  (system cfg).recording [] fun s action spilled => spilled ++ spills cfg s action

section Step
end Step

-- Every interleaving of the pool is one of the pool beside its list of spilled jobs.
theorem reached_spilling (cfg : Setup) (s : State) :
    Transition.Reached (system cfg) s ↔ ∃ spilled, Transition.Reached (spilling cfg) (s,spilled) :=
  Transition.reached_recording

def State.view (s : State) : List Worker × List Job × Nat × List Call := (s.workers,s.queue,s.overflowCount,s.calls)

-- The condition on the fast path is needed: two calls that both saw the one idle worker
-- queue a job each, and the second job is left over without having been spilled.
example : (Transition.run (spilling ⟨1,1,.safety⟩) (initial ⟨1,1,.safety⟩,[])
    [.worker 0,.worker 1,.submit,.call 0 false true,.call 0 false true,.call 0 false true,.worker 0,.worker 0,
      .submit,.submit,.call 0 false true,.call 1 false true,.call 0 false true,.call 0 false true,
      .call 0 false true,.call 0 false true,.worker 1,.worker 1]).map
      (fun r => (r.1.workers,r.1.queue,r.1.overflowCount,r.1.calls,r.2)) =
    some ([.running 0,.running 1],[2],0,[],[]) := by decide +kernel

end Scg.Pool
