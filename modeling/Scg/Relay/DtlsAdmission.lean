import Scg.Relay.PolicyGate

namespace Scg.Relay.DtlsAdmission
open Net Policy Config

structure Peer where
  addr : SocketAddr
  upstream : SocketAddr
  deriving DecidableEq

-- The accept loop between its operations on the counter. In `unspawned` the slot is
-- reserved and the spawn has failed.
inductive Loop where
  | listening
  | admitting (peer : Peer)
  | reserving (peer : Peer)
  | spawning (peer : Peer)
  | unspawned
  | returned
  deriving DecidableEq

-- A worker thread; `guarded` once its `SessionSlot` exists.
structure Worker where
  peer : Peer
  guarded : Bool
  deriving DecidableEq

structure State where
  gate : Gate
  loop : Loop
  inFlight : UInt64
  workers : List Worker

def initial (gate : Gate) : State := {gate := gate,loop := .listening,inFlight := 0,workers := []}

-- `resolved`, `connected` and `spawned` are the answers of name resolution, of the connect
-- to the peer and of the thread spawn.
inductive Action where
  | peek (now : Instant) (peer : SocketAddr) (resolved : Option SocketAddr) (connected : Bool)
  | accept (spawned : Bool)
  | stop
  | start (i : Nat)
  | finish (i : Nat)
  | ambient (gate : Gate)

def peek (ctx : RuleContext) (s : State) (now : Instant) (peer : SocketAddr) (resolved : Option SocketAddr)
    (connected : Bool) : State :=
  if ctx.upstreamAddr = "auto" then s
  else
    match resolved with
    | none => s
    | some upstream =>
      let (allowed,gate) := s.gate.classifyAndCheckPolicy now ctx.trafficClass peer upstream
      if !allowed then {s with gate := gate}
      else if !connected then {s with gate := gate}
      else {s with gate := gate,loop := .admitting ⟨peer,upstream⟩}

def accept (maxSessions : UInt64) (s : State) (spawned : Bool) : Option State :=
  match s.loop with
  | .listening => none
  | .admitting peer =>
    if !sessionAdmitted s.inFlight.toNat maxSessions.toNat then some {s with loop := .listening}
    else some {s with loop := .reserving peer}
  | .reserving peer => some {s with inFlight := s.inFlight+1,loop := .spawning peer}
  | .spawning peer =>
    if spawned then some {s with workers := s.workers ++ [⟨peer,false⟩],loop := .listening}
    else some {s with loop := .unspawned}
  | .unspawned => some {s with inFlight := s.inFlight-1,loop := .listening}
  | .returned => none

-- A worker ends on any path by dropping its guard.
def step (ctx : RuleContext) (maxSessions : UInt64) (s : State) : Action → Option State
  | .peek now peer resolved connected =>
    match s.loop with
    | .listening => some (peek ctx s now peer resolved connected)
    | _ => none
  | .accept spawned => accept maxSessions s spawned
  | .stop =>
    match s.loop with
    | .listening => some {s with loop := .returned}
    | _ => none
  | .start i =>
    match s.workers[i]? with
    | some ⟨peer,false⟩ => some {s with workers := s.workers.set i ⟨peer,true⟩}
    | _ => none
  | .finish i =>
    match s.workers[i]? with
    | some ⟨_,true⟩ => some {s with workers := s.workers.eraseIdx i,inFlight := s.inFlight-1}
    | _ => none
  | .ambient gate => some {s with gate := gate}

def system (ctx : RuleContext) (maxSessions : UInt64) : Transition.System State Action where
  initial s := ∃ gate, s = initial gate
  step := step ctx maxSessions

def Loop.reserved : Loop → Nat
  | .spawning _ => 1
  | .unspawned => 1
  | _ => 0

def Loop.admits : Loop → Bool
  | .reserving _ => true
  | _ => false

-- Only the loop raises the counter, so a slot that was free when it looked stays free.
structure Balanced (maxSessions : UInt64) (s : State) : Prop where
  bounded : s.inFlight.toNat ≤ maxSessions.toNat
  counted : s.inFlight.toNat = s.loop.reserved+s.workers.length
  free : s.loop.admits = true → s.inFlight.toNat < maxSessions.toNat

section Step
theorem initial_balanced (gate : Gate) : Balanced maxSessions (initial gate) :=
  ⟨Nat.zero_le _,rfl,nofun⟩

section
variable (valid : Balanced maxSessions s)
include valid

theorem Balanced.move (gate : Gate) (same : loop.reserved = s.loop.reserved)
    (free : loop.admits = true → s.inFlight.toNat < maxSessions.toNat) :
    Balanced maxSessions {s with gate := gate,loop := loop} :=
  ⟨valid.bounded,by rw [same]; exact valid.counted,free⟩

theorem Balanced.release (given : loop.reserved+workers.length+1 = s.loop.reserved+s.workers.length)
    (kept : loop.admits = true → s.loop.admits = true) :
    Balanced maxSessions {s with inFlight := s.inFlight-1,loop := loop,workers := workers} := by
  have bounded := valid.bounded
  have counted := valid.counted
  have one : 1 ≤ s.inFlight := by
    rw [UInt64.le_iff_toNat_le,UInt64.toNat_one]
    omega
  have lowered : (s.inFlight-1).toNat = s.inFlight.toNat-1 := by rw [UInt64.toNat_sub_of_le _ _ one,UInt64.toNat_one]
  refine ⟨?_,?_,?_⟩
  · dsimp only
    omega
  · dsimp only
    omega
  · dsimp only
    omega

theorem Balanced.reserve (here : s.loop = .reserving peer) :
    Balanced maxSessions {s with inFlight := s.inFlight+1,loop := .spawning peer} := by
  have free := valid.free (by rw [here]; rfl)
  have counted := valid.counted
  rw [here] at counted
  have small := maxSessions.toNat_lt
  have raised : (s.inFlight+1).toNat = s.inFlight.toNat+1 := by
    rw [UInt64.toNat_add,UInt64.toNat_one]
    exact Nat.mod_eq_of_lt (by omega)
  refine ⟨?_,?_,nofun⟩
  · dsimp only
    omega
  · simp only [Loop.reserved] at counted ⊢
    omega

theorem peek_balanced (here : s.loop = .listening) :
    Balanced maxSessions (peek ctx s now peer resolved connected) := by
  unfold peek
  split
  · exact valid
  · split
    · exact valid
    · rename_i upstream
      rcases s.gate.classifyAndCheckPolicy now ctx.trafficClass peer upstream with ⟨allowed,gate⟩
      have stays := valid.move gate rfl valid.free
      dsimp only
      split
      · exact stays
      · split
        · exact stays
        · exact valid.move gate (by rw [here]; rfl) nofun

theorem accept_balanced (ran : accept maxSessions s spawned = some next) : Balanced maxSessions next := by
  unfold accept at ran
  split at ran
  · cases ran
  · rename_i peer here
    split at ran <;> cases ran
    · exact valid.move s.gate (by rw [here]; rfl) nofun
    · rename_i admitted
      refine valid.move s.gate (by rw [here]; rfl) fun _ => ?_
      simpa [sessionAdmitted] using admitted
  · rename_i peer here
    cases ran
    exact valid.reserve here
  · rename_i peer here
    split at ran <;> cases ran
    · refine ⟨valid.bounded,?_,nofun⟩
      have counted := valid.counted
      rw [here] at counted
      simp only [Loop.reserved,List.length_append,List.length_singleton] at counted ⊢
      omega
    · exact valid.move s.gate (by rw [here]; rfl) nofun
  · rename_i here
    cases ran
    exact valid.release (by rw [here]; exact Nat.add_right_comm 0 _ 1) nofun
  · cases ran

theorem step_balanced (ran : step ctx maxSessions s action = some next) : Balanced maxSessions next := by
  cases action with
  | peek now peer resolved connected =>
    simp only [step] at ran
    split at ran <;> cases ran
    rename_i here
    exact peek_balanced valid here
  | accept spawned => exact accept_balanced valid ran
  | stop =>
    simp only [step] at ran
    split at ran <;> cases ran
    rename_i here
    exact valid.move s.gate (by rw [here]; rfl) nofun
  | start i =>
    simp only [step] at ran
    split at ran <;> cases ran
    exact ⟨valid.bounded,by rw [List.length_set]; exact valid.counted,valid.free⟩
  | finish i =>
    simp only [step] at ran
    split at ran <;> cases ran
    rename_i peer found
    obtain ⟨inside,_⟩ := List.getElem?_eq_some_iff.mp found
    refine valid.release ?_ id
    rw [List.length_eraseIdx_of_lt inside]
    omega
  | ambient gate =>
    cases ran
    exact ⟨valid.bounded,valid.counted,valid.free⟩

end

theorem reached_balanced (path : Transition.Reached (system ctx maxSessions) s) : Balanced maxSessions s := by
  refine Transition.Reached.invariant (fun s begun => ?_) (fun _ _ _ valid ran => step_balanced valid ran) path
  obtain ⟨gate,rfl⟩ := begun
  exact initial_balanced gate

end Step

theorem dtls_admission (ctx : RuleContext) (maxSessions : UInt64) (s : State)
    (path : Transition.Reached (system ctx maxSessions) s) :
    s.inFlight ≤ maxSessions ∧ s.inFlight.toNat = s.loop.reserved+s.workers.length := by
  have valid := reached_balanced path
  exact ⟨UInt64.le_iff_toNat_le.mpr valid.bounded,valid.counted⟩

def firstPeer : SocketAddr := .v4 0x0a000009 4000

def secondPeer : SocketAddr := .v4 0x0a00000a 4000

def dtlsTarget : SocketAddr := .v4 0xc0000201 9443

def arrives (peer : SocketAddr) : Action := .peek 0 peer (some dtlsTarget) true

-- A spawn fails and its slot comes back; the second peer is turned away while a worker lives.
theorem dtls_admission_full : ∃ s, Transition.Reached (system tunnelRule 1) s ∧
    s.loop = .listening ∧ s.workers.map (·.peer.addr) = [firstPeer] ∧ s.inFlight ≤ 1 ∧ s.inFlight.toNat = 1 := by
  have ran : (Transition.run (system tunnelRule 1) (initial openGate)
      ([arrives firstPeer,.accept false,.accept false,.accept false,.accept false] ++
        [arrives firstPeer,.accept true,.accept true,.accept true,.start 0] ++ [arrives secondPeer,.accept true])).map
      (fun s => (s.loop,s.workers.map (·.peer.addr),s.workers.length)) =
        some (.listening,[firstPeer],1) := by decide +kernel
  obtain ⟨s,path,seen⟩ := Transition.run_shows ran ⟨_,rfl⟩
  obtain ⟨loop,seen⟩ := Prod.mk.inj seen
  obtain ⟨peers,workers⟩ := Prod.mk.inj seen
  obtain ⟨bounded,counted⟩ := dtls_admission tunnelRule 1 s path
  rw [loop,workers] at counted
  exact ⟨s,path,loop,peers,bounded,counted⟩

end Scg.Relay.DtlsAdmission
