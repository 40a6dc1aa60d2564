import Scg.Relay.Loops

namespace Scg.Relay.HalfClose
open Duplex Transition

def tcpRelays (relayBufSize pipeSize : Nat) : List (Loop Unit TlsRead UInt8) :=
  [relayBidirectional relayBufSize,relayEncryptBidirectional relayBufSize,relayBidirectionalSplice pipeSize]

def follows (sent : Side → List UInt8) (s : State Unit UInt8) : Action TlsRead → Bool
  | .read (.ok bytes) =>
    match s.stage with
    | .reading side _ => ((s.flow side).taken ++ bytes).isPrefixOf (sent side)
    | _ => true
  | _ => true

abbrev Follows (sent : Side → List UInt8) (s : State Unit UInt8) (action : Action TlsRead) : Prop :=
  follows sent s action = true

structure AtEnd (sent : Side → List UInt8) (side : Side) (s : State Unit UInt8) : Prop where
  reading : ∃ more, s.stage = .reading side more
  all : (s.flow side).taken = sent side

-- What the side sent is delivered and its direction closed, and so for the other side in the end.
structure HalfClosed (L : Loop Unit TlsRead UInt8) (sent : Side → List UInt8) (side : Side) (s : State Unit UInt8) : Prop where
  delivered : (s.flow side).delivered = sent side
  closed : (s.flow side).closed = true
  other : ∀ actions later ok, run (system L ()) s actions = some later → later.stage = .ended ok →
    (later.flow side.other).delivered = sent side.other

theorem tcpRelays_legs (tcp : L ∈ tcpRelays relayBufSize pipeSize) : ∃ size, StreamLegs L size := by
  simp only [tcpRelays,List.mem_cons,List.not_mem_nil,or_false] at tcp
  rcases tcp with rfl | rfl | rfl
  · exact ⟨_,relayBidirectional_legs _⟩
  · exact ⟨_,relayEncryptBidirectional_legs _⟩
  · exact ⟨_,relayBidirectionalSplice_legs _⟩

section Relay
variable {sent : Side → List UInt8}

theorem eof_finishes (legs : StreamLegs L size) (reading : s.stage = .reading side more) :
    step L s (.read (.ok [])) = some (s.finish ⟨[side],true⟩) := by
  obtain ⟨interrupted,after,take⟩ := legs side
  have found : (L.leg side).take s.inner (.ok []) = some (s.inner,.go (.finish ⟨[side],true⟩)) := by
    rw [take]
    rfl
  exact step_read reading found

theorem reading_delivered (legs : StreamLegs L size) (path : ReachedWhen (system L ()) (Follows sent) s)
    (reading : s.stage = .reading side more) (either : Side) : (s.flow either).taken = (s.flow either).delivered := by
  obtain ⟨_,settled⟩ := reached_conveyed legs.direct (path.weaken fun _ _ _ => trivial)
  rw [reading] at settled
  exact settled either

theorem finished_half_closed (legs : StreamLegs L size) (path : ReachedWhen (system L ()) (Follows sent) s)
    (atEnd : AtEnd sent side s) :
    HalfClosed L sent side (s.finish ⟨[side],true⟩) ↔ (s.flow side.other).taken = sent side.other := by
  obtain ⟨more,reading⟩ := atEnd.reading
  have read := reading_delivered legs path reading
  constructor
  · intro half
    have ended := half.other [] _ true rfl rfl
    rwa [finish_delivered,← read] at ended
  · intro all
    refine ⟨?_,finish_closed List.mem_cons_self,?_⟩
    · rw [finish_delivered,← read,atEnd.all]
    · intro actions later ok ran _
      rw [ended_run rfl ran,finish_delivered,← read,all]

end Relay

-- At the first end of stream the relay returns, so the rest of the other side is lost.
theorem half_close_iff {relayBufSize pipeSize : Nat} {L : Loop Unit TlsRead UInt8} (tcp : L ∈ tcpRelays relayBufSize pipeSize)
    (sent : Side → List UInt8) {s next : State Unit UInt8} (path : ReachedWhen (system L ()) (Follows sent) s)
    {side : Side} (atEnd : AtEnd sent side s) (ran : step L s (.read (.ok [])) = some next) :
    (next.flow side).delivered = sent side ∧ (next.flow side).closed = true ∧
      (HalfClosed L sent side next ↔ (s.flow side.other).taken = sent side.other) := by
  obtain ⟨size,legs⟩ := tcpRelays_legs tcp
  obtain ⟨more,reading⟩ := atEnd.reading
  rw [eof_finishes legs reading] at ran
  cases ran
  refine ⟨?_,finish_closed List.mem_cons_self,finished_half_closed legs path atEnd⟩
  rw [finish_delivered,← reading_delivered legs path reading,atEnd.all]

def exchanged : Side → List UInt8
  | .first => [1,2]
  | .second => [3]

def exchange : List (Action TlsRead) :=
  [.check false,.poll 0 (some (true,true)),.read (.ok [1,2]),.write (.ok 1),.write (.ok 1),.pending 0,
    .read (.ok [3]),.write (.ok 1),.read .wouldBlock,.check false,.poll 0 (some (true,false))]

theorem half_close_exchange : ∃ s next, ReachedWhen (system (relayBidirectional 4) ()) (Follows exchanged) s ∧
    AtEnd exchanged .first s ∧ step (relayBidirectional 4) s (.read (.ok [])) = some next ∧
    HalfClosed (relayBidirectional 4) exchanged .first next := by
  let s : State Unit UInt8 := ⟨.reading .first false,(),[],⟨[1,2],[1,2],false⟩,⟨[3],[3],false⟩⟩
  have ran : runChecked (system (relayBidirectional 4) ()) (follows exchanged) (start ()) exchange = some s := rfl
  have path := reachedWhen_run (fun _ _ checked => checked) (.initial rfl) ran
  have atEnd : AtEnd exchanged .first s := ⟨⟨false,rfl⟩,rfl⟩
  have closing : relayBidirectional 4 ∈ tcpRelays 4 4 := List.mem_cons_self
  exact ⟨s,_,path,atEnd,rfl,(half_close_iff closing exchanged path atEnd rfl).2.2.mpr rfl⟩

def requested : Side → List UInt8
  | .first => [1]
  | .second => [2]

def request : List (Action TlsRead) :=
  [.check false,.poll 0 (some (true,false)),.read (.ok [1]),.write (.ok 1)]

theorem answer_lost : (tcpRelays 4 4).Forall fun L => ∃ s next, ReachedWhen (system L ()) (Follows requested) s ∧
    AtEnd requested .first s ∧ step L s (.read (.ok [])) = some next ∧ next.stage = .ended true ∧
    next.second.delivered = [] ∧ ¬ HalfClosed L requested .first next := by
  refine List.forall_iff_forall_mem.mpr fun L tcp => ?_
  obtain ⟨size,legs⟩ := tcpRelays_legs tcp
  let s : State Unit UInt8 := ⟨.reading .first false,(),[],⟨[1],[1],false⟩,⟨[],[],false⟩⟩
  have path : ReachedWhen (system L ()) (Follows requested) s := by
    obtain ⟨asks,ran⟩ : ∃ asks, runChecked (system L ()) (follows requested) (start ()) (request ++ asks) = some s := by
      simp only [tcpRelays,List.mem_cons,List.not_mem_nil,or_false] at tcp
      rcases tcp with rfl | rfl | rfl
      · exact ⟨[.pending 1],rfl⟩
      · exact ⟨[],rfl⟩
      · exact ⟨[],rfl⟩
    exact reachedWhen_run (fun _ _ checked => checked) (.initial rfl) ran
  have atEnd : AtEnd requested .first s := ⟨⟨false,rfl⟩,rfl⟩
  refine ⟨s,_,path,atEnd,eof_finishes legs rfl,rfl,rfl,fun half => ?_⟩
  exact absurd ((finished_half_closed legs path atEnd).mp half) (by decide)

end Scg.Relay.HalfClose
