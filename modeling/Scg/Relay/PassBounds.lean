import Scg.Relay.AleReader
import Scg.Relay.Loops

namespace Scg.Relay.PassBounds
open Net Duplex Transition

-- What bounds a pass is that the sources run dry and the sinks take something.
theorem relay_pass_bounded (relayBufSize pipeSize : Nat) {R : AleReader} {W : AleWriter} (tunnel : Tunnel R W) :
    ∀ relay ∈ relayLoops relayBufSize pipeSize tunnel, ∀ reads stalls s m,
      ReachedWhen (metered relay.loop relay.begun) (fun x action => yields relay.loop reads stalls x action = true) (s,m) →
      m.steps+s.held ≤ perPass reads stalls relay.chunk := by
  intro relay _ reads stalls s m path
  exact pass_bounded relay.sized path

def plainWriter : AleWriter := ⟨Unit,fun _ payload => (payload,()),0,fun _ payload => Nat.le_refl payload.length⟩

def rawTunnel : Tunnel Ale.packetReader plainWriter := ⟨.raw [],(),none⟩

-- A request in two pieces and an answer; each sink refuses once.
theorem relay_pass_bounded_request : ∃ s m,
    ReachedWhen (metered (relayBidirectional 4) ()) (fun x action => yields (relayBidirectional 4) 2 1 x action = true) (s,m) ∧
      m.steps = 5 ∧ m.steps+s.held ≤ perPass 2 1 4 := by
  let s : State Unit UInt8 := ⟨.top,(),[],⟨[1,2],[1,2],false⟩,⟨[],[],false⟩⟩
  have ran : runChecked (metered (relayBidirectional 4) ()) (yields (relayBidirectional 4) 2 1) (start (),⟨0,0,0⟩)
      [.check false,.poll 0 (some (true,false)),.read (.ok [1]),.write (.wouldBlock true),.write (.ok 1),.pending 1,
        .read (.ok [2]),.write (.ok 1),.pending 0] = some (s,⟨5,2,0⟩) := rfl
  have path := reachedWhen_run (fun _ _ checked => checked) (metered_start _) ran
  have listed : RelayLoop.mk _ _ (relayBidirectional 4) () _ (relayBidirectional_legs 4).sized ∈ relayLoops 4 4 rawTunnel :=
    List.mem_cons_self
  exact ⟨s,⟨5,2,0⟩,path,rfl,relay_pass_bounded 4 4 rawTunnel _ listed 2 1 s ⟨5,2,0⟩ path⟩

def prompt {α : Type} : Action α → Bool
  | .write answer => !answer.stalled
  | _ => true

def client : SocketAddr := .v4 0x7f000001 4000

def knock : Arrival := .udp (.ok [(some client,[7])])

section Endless
variable {σ α : Type}

theorem stuck_without_bound {inner : σ} (actions : List (Action α))
    (ran : run (metered L inner) (start inner,⟨0,0,0⟩) actions = some x)
    (here : x.1.stage = .writing side more rest next) (bound : Nat) :
    ∃ s m, Reached (metered L inner) (s,m) ∧ bound ≤ m.steps := by
  obtain ⟨m,path,enough⟩ := stalls_endlessly (reached_run (metered_start _) ran) here (fun _ => trivial) bound
  exact ⟨x.1,m,path,enough⟩

variable (actions : List (Action α)) (answer : α)

theorem flooded_without_bound {inner : σ}
    (ran : runChecked (metered L inner) (fun _ action => prompt action) (start inner,⟨0,0,0⟩) actions = some x)
    (here : x.1.stage = .reading side more) (empty : x.1.batch = [])
    (gives : (L.leg side).take x.1.inner answer = some (x.1.inner,.relay [byte] .again)) (bound : Nat) :
    ∃ s m, ReachedWhen (metered L inner) (fun _ action => prompt action = true) (s,m) ∧ bound ≤ m.steps := by
  have path := reachedWhen_run (fun _ _ checked => checked) (metered_start _) ran
  exact floods_endlessly path here empty gives (fun _ => rfl) (fun _ => rfl) bound

theorem hoarded_without_bound {inner : σ}
    (ran : runChecked (metered L inner) (fun _ action => prompt action) (start inner,⟨0,0,0⟩) actions = some x)
    (here : x.1.stage = .reading side more)
    (gives : (L.leg side).take x.1.inner answer = some (x.1.inner,.keep (byte :: bytes))) (bound : Nat) :
    ∃ s m, ReachedWhen (metered L inner) (fun _ action => prompt action = true) (s,m) ∧ bound ≤ m.steps ∧ bound ≤ s.held := by
  have path := reachedWhen_run (fun _ _ checked => checked) (metered_start _) ran
  exact hoards_endlessly path here gives (fun _ => rfl) bound

end Endless

theorem tlsToUdp_hoards (bound : Nat) : ∃ s m,
    ReachedWhen (metered relayTlsToUdp rawTunnel) (fun _ action => prompt action = true) (s,m) ∧
      bound ≤ m.steps ∧ bound ≤ s.held :=
  hoarded_without_bound [.check false,.poll 0 (some (false,true))] knock rfl rfl rfl bound

theorem udpEncrypt_hoards (bound : Nat) : ∃ s m,
    ReachedWhen (metered runUdpEncryptRelay rawTunnel) (fun _ action => prompt action = true) (s,m) ∧
      bound ≤ m.steps ∧ bound ≤ s.held :=
  hoarded_without_bound [.check false,.poll 0 (some (true,false)),.read knock] knock rfl rfl rfl bound

-- A sink that takes nothing holds a pass up for ever, a source that always has more does so
-- although every write succeeds, and datagrams pile up in the batch.
theorem relay_pass_unbounded :
    (∀ relay ∈ relayLoops 4 4 rawTunnel, ∀ bound, ∃ s m, Reached (metered relay.loop relay.begun) (s,m) ∧ bound ≤ m.steps) ∧
    (∀ relay ∈ relayLoops 4 4 rawTunnel, ∀ bound, ∃ s m,
      ReachedWhen (metered relay.loop relay.begun) (fun _ action => prompt action = true) (s,m) ∧ bound ≤ m.steps) ∧
    (∀ bound, ∃ s m, Reached (metered relayTlsToUdp rawTunnel) (s,m) ∧ bound ≤ s.held) ∧
    (∀ bound, ∃ s m, Reached (metered runUdpEncryptRelay rawTunnel) (s,m) ∧ bound ≤ s.held) := by
  refine ⟨?_,?_,?_,?_⟩
  · intro relay listed bound
    simp only [relayLoops,List.mem_cons,List.not_mem_nil,or_false] at listed
    rcases listed with rfl | rfl | rfl | rfl | rfl
    · exact stuck_without_bound [.check false,.poll 0 (some (true,false)),.read (.ok [1])] rfl rfl bound
    · exact stuck_without_bound [.check false,.poll 0 (some (true,false)),.read (.ok [1])] rfl rfl bound
    · exact stuck_without_bound [.check false,.poll 0 (some (true,false)),.read (.ok [1])] rfl rfl bound
    · exact stuck_without_bound [.check false,.poll 0 (some (false,true)),.read knock,.read (.udp (.ok []))] rfl rfl bound
    · exact stuck_without_bound [.check false,.poll 0 (some (true,false)),.read knock,.read (.udp (.ok []))] rfl rfl bound
  · intro relay listed bound
    simp only [relayLoops,List.mem_cons,List.not_mem_nil,or_false] at listed
    rcases listed with rfl | rfl | rfl | rfl | rfl
    · exact flooded_without_bound [.check false,.poll 0 (some (false,true))] (.ok [1]) rfl rfl rfl rfl bound
    · exact flooded_without_bound [.check false,.poll 0 (some (true,false))] (.ok [1]) rfl rfl rfl rfl bound
    · exact flooded_without_bound [.check false,.poll 0 (some (true,false))] (.ok [1]) rfl rfl rfl rfl bound
    · obtain ⟨s,m,path,enough,_⟩ := tlsToUdp_hoards bound
      exact ⟨s,m,path,enough⟩
    · obtain ⟨s,m,path,enough,_⟩ := udpEncrypt_hoards bound
      exact ⟨s,m,path,enough⟩
  · intro bound
    obtain ⟨s,m,path,_,full⟩ := tlsToUdp_hoards bound
    exact ⟨s,m,path.weaken fun _ _ _ => trivial,full⟩
  · intro bound
    obtain ⟨s,m,path,_,full⟩ := udpEncrypt_hoards bound
    exact ⟨s,m,path.weaken fun _ _ _ => trivial,full⟩

end Scg.Relay.PassBounds
