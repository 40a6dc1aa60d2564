import Scg.Registry.Manager
import Scg.Library.Transition

namespace Scg.Registry
open Config Gateway Transition Checks

-- An endpoint thread binds its socket, waits for an authentic client, serves that one
-- and ends. It never touches the registry.
inductive Phase where
  | binding | listening | serving | terminated
  deriving DecidableEq

structure Thread where
  phase : Phase
  shutdown : Bool

-- Where a create call stands; `replaced` is between the insert and the detach.
inductive Call where
  | admitted (caller : CallerCred) (key : String)
  | allocated (caller : CallerCred) (key : String) (id : Nat)
  | spawned (caller : CallerCred) (key : String) (id thread : Nat)
  | replaced (caller : CallerCred) (key : String) (old : Nat)

namespace Call

def caller : Call → CallerCred
  | admitted caller _ | allocated caller _ _ | spawned caller _ _ _ | replaced caller _ _ => caller

def key : Call → String
  | admitted _ key | allocated _ key _ | spawned _ key _ _ | replaced _ key _ => key

def id? : Call → Option Nat
  | allocated _ _ id | spawned _ _ id _ => some id
  | _ => none

def old? : Call → Option Nat
  | replaced _ _ old => some old
  | _ => none

end Call

-- A create refused for its quota, with the number of the caller's registered endpoints
-- whose threads were running then.
structure Rejection where
  uid : UInt32
  running : Nat
  deriving DecidableEq

structure State where
  live : LiveState
  calls : AList fun _ : Nat => Call
  templates : Templates
  threads : List Thread
  allocations : Nat
  rejections : List Rejection

inductive Action where
  | reloadFromConfig (config : GatewayConfig)
  | create (call : Nat) (caller : CallerCred) (kind : LocalKind) (request : CreateRequest) (rateAllows : Bool)
  | abort (call : Nat)
  | allocate (call : Nat)
  | spawn (call : Nat)
  | register (call : Nat)
  | detach (call : Nat)
  | close (caller : CallerCred) (id : Nat)
  | shutdownAll
  | bind (thread : Nat) (bound : Bool)
  | connect (thread : Nat) (authentic : Bool)
  | disconnect (thread : Nat)
  | notice (thread : Nat)

namespace State

def isRunning (s : State) (ep : LiveEndpoint) : Bool := (s.threads[ep.thread]?).any (·.phase != .terminated)

def running (s : State) (uid : UInt32) : Nat :=
  (s.live.byId.entries.filter fun entry => LiveState.owns uid entry.2 && s.isRunning entry.2).length

def reject (s : State) (uid : UInt32) : State := {s with rejections := s.rejections ++ [⟨uid,s.running uid⟩]}

-- The flag is stored after the lock is released; a thread may take any time to see it.
def signal (s : State) (thread : Nat) : State :=
  {s with threads := s.threads.modify thread fun t => {t with shutdown := true}}

def moveThread (s : State) (thread : Nat) (phase : Phase) : State :=
  {s with threads := s.threads.modify thread fun t => {t with phase := phase}}

end State

def create (limits : Limits) (s : State) (call : Nat) (caller : CallerCred) (kind : LocalKind) (request : CreateRequest)
    (rateAllows : Bool) : State :=
  match beginCreate limits rateAllows s.templates s.live caller request kind with
  | .ok key => {s with calls := s.calls.insert call (.admitted caller key)}
  | .error status => if status = quotaStatus limits then s.reject caller.uid else s

def register (limits : Limits) (s : State) (call : Nat) (caller : CallerCred) (key : String) (id thread : Nat) : State :=
  match s.live.insertEndpoint limits id ⟨caller.uid,key,thread⟩ with
  | none => {(s.reject caller.uid).signal thread with calls := s.calls.erase call}
  | some (live,none) => {s with live := live,calls := s.calls.erase call}
  | some (live,some old) => {s with live := live,calls := s.calls.insert call (.replaced caller key old)}

def detach (s : State) (call old : Nat) : State :=
  let detached := {s with live := s.live.detachEndpoint old,calls := s.calls.erase call}
  match s.live.byId.lookup old with
  | some ep => detached.signal ep.thread
  | none => detached

def step (env : Parsers) (limits : Limits) (s : State) : Action → Option State
  | .reloadFromConfig config => some {s with templates := buildTemplates env config}
  | .create call caller kind request rateAllows =>
    if call ∈ s.calls then none else some (create limits s call caller kind request rateAllows)
  -- The runtime directory, the token or the thread could not be made.
  | .abort call =>
    match s.calls.lookup call with
    | some (.admitted _ _) | some (.allocated _ _ _) => some {s with calls := s.calls.erase call}
    | _ => none
  | .allocate call =>
    match s.calls.lookup call with
    | some (.admitted caller key) =>
      let (id,live) := s.live.allocId
      some {s with live := live,calls := s.calls.insert call (.allocated caller key id),allocations := s.allocations+1}
    | _ => none
  | .spawn call =>
    match s.calls.lookup call with
    | some (.allocated caller key id) =>
      some {s with threads := s.threads ++ [⟨.binding,false⟩]
                   calls := s.calls.insert call (.spawned caller key id s.threads.length)}
    | _ => none
  | .register call =>
    match s.calls.lookup call with
    | some (.spawned caller key id thread) => some (register limits s call caller key id thread)
    | _ => none
  | .detach call =>
    match s.calls.lookup call with
    | some (.replaced _ _ old) => some (detach s call old)
    | _ => none
  | .close caller id =>
    match s.live.close caller id with
    | .ok (live,ep) => some ({s with live := live}.signal ep.thread)
    | .error _ => some s
  | .shutdownAll =>
    some (s.live.byId.entries.foldl (fun s entry => s.signal entry.2.thread) {s with live := s.live.shutdownAll})
  | .bind thread bound =>
    match s.threads[thread]? with
    | some ⟨.binding,_⟩ => some (s.moveThread thread (if bound then .listening else .terminated))
    | _ => none
  -- A thread that polls may accept a client after its flag was stored.
  | .connect thread authentic =>
    match s.threads[thread]? with
    | some ⟨.listening,_⟩ => some (if authentic then s.moveThread thread .serving else s)
    | _ => none
  | .disconnect thread =>
    match s.threads[thread]? with
    | some ⟨.serving,_⟩ => some (s.moveThread thread .terminated)
    | _ => none
  | .notice thread =>
    match s.threads[thread]? with
    | some ⟨.listening,true⟩ => some (s.moveThread thread .terminated)
    | _ => none

def initial (env : Parsers) (config : GatewayConfig) : State :=
  {live := .empty
   calls := ∅
   templates := buildTemplates env config
   threads := []
   allocations := 0
   rejections := []}

def registry (env : Parsers) (limits : Limits) : System State Action where
  initial s := ∃ config, s = initial env config
  step := step env limits

inductive Moves (limits : Limits) (s next : State) : Action → Prop where
  | still {action : Action} : next.live = s.live → next.calls = s.calls → next.allocations = s.allocations → Moves limits s next action
  | arrive {call : Nat} {caller : CallerCred} {kind : LocalKind} {request : CreateRequest} {rateAllows : Bool} :
      s.calls.lookup call = none → next.live = s.live →
      next.calls = s.calls.insert call (.admitted caller
        (ownerKey caller.uid request.appId request.trafficClass request.direction kind.proto)) →
      next.allocations = s.allocations → Moves limits s next (.create call caller kind request rateAllows)
  | leave {action : Action} {call : Nat} {held : Call} : s.calls.lookup call = some held → held.old? = none →
      next.live = s.live → next.calls = s.calls.erase call → next.allocations = s.allocations → Moves limits s next action
  | allocate {call : Nat} {caller : CallerCred} {key : String} : s.calls.lookup call = some (.admitted caller key) → next.live = s.live.allocId.2 →
      next.calls = s.calls.insert call (.allocated caller key s.live.allocId.1) →
      next.allocations = s.allocations+1 → Moves limits s next (.allocate call)
  | spawn {call id thread : Nat} {caller : CallerCred} {key : String} : s.calls.lookup call = some (.allocated caller key id) → next.live = s.live →
      next.calls = s.calls.insert call (.spawned caller key id thread) →
      next.allocations = s.allocations → Moves limits s next (.spawn call)
  | enter {call id thread : Nat} {caller : CallerCred} {key : String} : s.calls.lookup call = some (.spawned caller key id thread) →
      s.live.quotaReached limits caller.uid key = false → s.live.byOwner.lookup key = none →
      next.live = {s.live with byOwner := s.live.byOwner.insert key id,byId := s.live.byId.insert id ⟨caller.uid,key,thread⟩} →
      next.calls = s.calls.erase call → next.allocations = s.allocations → Moves limits s next (.register call)
  | replace {call id thread old : Nat} {caller : CallerCred} {key : String} : s.calls.lookup call = some (.spawned caller key id thread) → s.live.byOwner.lookup key = some old →
      next.live = {s.live with byOwner := s.live.byOwner.insert key id,byId := s.live.byId.insert id ⟨caller.uid,key,thread⟩} →
      next.calls = s.calls.insert call (.replaced caller key old) →
      next.allocations = s.allocations → Moves limits s next (.register call)
  | detach {call old : Nat} {caller : CallerCred} {key : String} : s.calls.lookup call = some (.replaced caller key old) → next.live = s.live.detachEndpoint old →
      next.calls = s.calls.erase call → next.allocations = s.allocations → Moves limits s next (.detach call)
  | close {caller : CallerCred} {id : Nat} {ep : LiveEndpoint} : s.live.byId.lookup id = some ep →
      ep.ownerUid = caller.uid → next.live = {s.live with byId := s.live.byId.erase id,byOwner := s.live.byOwner.erase ep.ownerKey} →
      next.calls = s.calls → next.allocations = s.allocations → Moves limits s next (.close caller id)
  | shutdown : next.live = s.live.shutdownAll → next.calls = s.calls → next.allocations = s.allocations →
      Moves limits s next .shutdownAll

theorem beginCreate_key (passed : beginCreate limits rateAllows templates live caller request kind = .ok key) :
    key = ownerKey caller.uid request.appId request.trafficClass request.direction kind.proto := by
  unfold beginCreate at passed
  split at passed
  · cases passed
  · rename_i template found authorized
    obtain ⟨_,passed⟩ := unless_ok passed
    cases passed
    unfold authorizeAndAdmit at authorized
    split at authorized
    · cases authorized
    · obtain ⟨_,authorized⟩ := unless_ok authorized
      obtain ⟨_,authorized⟩ := unless_ok authorized
      dsimp only at authorized
      split at authorized <;> cases authorized
      rfl

theorem create_moves (fresh : call ∉ s.calls) :
    Moves limits s (create limits s call caller kind request rateAllows) (.create call caller kind request rateAllows) := by
  unfold create
  split
  · rename_i key passed
    rw [beginCreate_key passed]
    exact .arrive (AList.lookup_eq_none.mpr fresh) rfl rfl rfl
  · split <;> exact .still rfl rfl rfl

theorem register_moves {call id thread : Nat} (held : s.calls.lookup call = some (.spawned caller key id thread)) :
    Moves limits s (register limits s call caller key id thread) (.register call) := by
  unfold register LiveState.insertEndpoint
  cases full : s.live.quotaReached limits caller.uid key with
  | true => exact .leave held rfl rfl rfl rfl
  | false =>
    cases taken : s.live.byOwner.lookup key with
    | none => exact .enter held full taken rfl rfl rfl
    | some old => exact .replace held taken rfl rfl rfl

theorem signals_threads (entries : List (Sigma fun _ : Nat => LiveEndpoint)) (s : State) :
    ∃ threads, entries.foldl (fun s entry => s.signal entry.2.thread) s = {s with threads := threads} := by
  induction entries generalizing s with
  | nil => exact ⟨s.threads,rfl⟩
  | cons entry rest ih => exact ih (s.signal entry.2.thread)

theorem step_moves (ran : step env limits s action = some next) : Moves limits s next action := by
  cases action with
  | reloadFromConfig config =>
    cases ran
    exact .still rfl rfl rfl
  | create call caller kind request rateAllows =>
    obtain ⟨fresh,ran⟩ := Option.ite_none_left_eq_some.mp ran
    cases ran
    exact create_moves fresh
  | abort | allocate | spawn | register =>
    simp only [step] at ran
    split at ran <;> cases ran <;> rename_i held
    all_goals first
      | exact .leave held rfl rfl rfl rfl
      | exact .allocate held rfl rfl rfl
      | exact .spawn held rfl rfl rfl
      | exact register_moves held
  | detach call =>
    simp only [step] at ran
    split at ran <;> cases ran
    rename_i held
    unfold detach
    split <;> exact .detach held rfl rfl rfl
  | close caller id =>
    simp only [step,LiveState.close] at ran
    cases found : s.live.byId.lookup id with simp only [found] at ran
    | none =>
      cases ran
      exact .still rfl rfl rfl
    | some ep =>
      split at ran
      · rename_i live ep' answer
        obtain ⟨owner,answer⟩ := unless_ok answer
        cases answer
        cases ran
        exact .close found (not_not.mp owner) rfl rfl rfl
      · cases ran
        exact .still rfl rfl rfl
  | shutdownAll =>
    obtain ⟨threads,signalled⟩ := signals_threads s.live.byId.entries {s with live := s.live.shutdownAll}
    simp only [step,signalled] at ran
    cases ran
    exact .shutdown rfl rfl rfl
  | connect thread authentic =>
    simp only [step] at ran
    split at ran <;> cases ran
    cases authentic <;> exact .still rfl rfl rfl
  | _ =>
    simp only [step] at ran
    split at ran <;> cases ran
    exact .still rfl rfl rfl

end Scg.Registry
