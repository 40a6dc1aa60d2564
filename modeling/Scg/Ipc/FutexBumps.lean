import Scg.Ipc.FutexRelay

namespace Scg.FutexRelay
open Ipc Interaction SlotRing

def Running (s : State) : Prop := s.relay ≠ .stopped

def RingFull (g : Geometry) (m : Machine) : Prop := m.pushed.length = m.released+g.capacity

-- The running `try_push` reports the empty edge whatever it still reads.
def ReportsEdge (call : Call (Except ShmError PushOutcome)) : Prop :=
  call.Every (fun _ => True) (fun result => result = .ok (.pushed true))

def Undecided : Call (Except ShmError PushOutcome) → Prop
  | .request .loadWritePos _ => True
  | .request (.loadSeq _) _ => True
  | _ => False

-- Some step the relay still has to take for frames already in the ring bumps the
-- word: the latched or coming edge of this batch, or the nudge of a full ring.
def WillBump (g : Geometry) (s : State) : Prop :=
  match s.relay with
  | .pushing frame _ any =>
    any = true ∨ ∃ call, s.ring.producer = .publishing frame call ∧
      (ReportsEdge call ∨ call = .ret (.ok .full) ∨ (Undecided call ∧ RingFull g s.ring))
  | .nudging _ _ _ => True
  | .nudgeWaking _ _ any => any = true ∨ RingFull g s.ring
  | .backoff _ _ any => any = true ∨ RingFull g s.ring
  | .signalling any => any = true
  | _ => False

def FrameReady (g : Geometry) (m : Machine) : Prop :=
  isReady (m.shared.seq (g.index m.shared.readPos)) m.shared.readPos = true

-- Only the bounded park timeout gets this client its frame.
def Stranded (g : Geometry) (s : State) : Prop :=
  Running s ∧ s.client = .parked s.futexWord ∧ FrameReady g s.ring ∧ ¬ WillBump g s

def strandedNow (g : Geometry) (s : State) : Bool :=
  match s.relay,s.client with
  | .reading,.parked observed =>
    observed == s.futexWord && isReady (s.ring.shared.seq (g.index s.ring.shared.readPos)) s.ring.shared.readPos
  | _,_ => false

theorem strandedNow_stranded (shown : strandedNow g s = true) : Stranded g s := by
  unfold strandedNow at shown
  split at shown
  · rename_i relay client observed reading parked
    rw [Bool.and_eq_true,beq_iff_eq] at shown
    refine ⟨?_,?_,shown.2,?_⟩
    · unfold Running
      rw [reading]
      exact nofun
    · rw [parked,shown.1]
    · unfold WillBump
      rw [reading]
      exact id
  · cases shown

def strandingSchedule : List Action :=
  Action.batch [⟨1,[]⟩] :: List.replicate 10 Action.relay ++ List.replicate 6 (Action.client false) ++
    Action.batch [⟨2,[]⟩] :: List.replicate 5 Action.relay ++ List.replicate 6 (Action.client false) ++
    List.replicate 8 (Action.client true) ++ List.replicate 4 Action.relay

-- The second push loads `read_pos` before the client stores it; the client then parks, and
-- only after that the push marks its slot READY with `was_empty` still false.
theorem relay_strands_client : ∃ s, Transition.Reached (system smallest) s ∧ Stranded smallest s := by
  have ran : (Transition.run (system smallest) (initial fun _ => 0) strandingSchedule).map (strandedNow smallest) =
      some true := by decide +kernel
  obtain ⟨s,path,shown⟩ := Transition.run_shows ran ⟨_,rfl⟩
  exact ⟨s,path,strandedNow_stranded shown⟩

def midPush : Producer → Bool
  | .publishing _ (.request (.copyIn _ _) _) => true
  | .publishing _ (.request (.storeSeq _ _) _) => true
  | _ => false

def latched : Relay → Bool
  | .pushing _ _ any => any
  | _ => false

-- The client does not catch up with the writer inside that window, unless an earlier
-- push of the batch already saw the ring empty.
def NoCatchUp (s : State) (action : Action) : Prop :=
  ∀ expired, action = .client expired → ∀ room word rest,
    s.ring.consumer = .popping room (.request (.storeReadPos word) rest) →
    midPush s.ring.producer = true → latched s.relay = false → word ≠ s.ring.shared.writePos

-- The two threads of the ring are driven by the relay and the client alone. A frame
-- that is being retried has passed the length check.
def RelayPoint (g : Geometry) (s : State) (point : PushPoint) : Prop :=
  match s.relay with
  | .pushing frame _ _ =>
    s.ring.producer = .publishing frame (point.call g frame) ∧ PushFacts g s.ring frame point ∧
      ((∃ e, point = .returned (.error e)) ∨ frame.payload.length ≤ g.maxPayload)
  | .nudging frame _ _ => s.ring.producer = .idle ∧ frame.payload.length ≤ g.maxPayload
  | .nudgeWaking frame _ _ => s.ring.producer = .idle ∧ frame.payload.length ≤ g.maxPayload
  | .backoff frame _ _ => s.ring.producer = .idle ∧ frame.payload.length ≤ g.maxPayload
  | _ => s.ring.producer = .idle

def ClientCall (s : State) : Prop :=
  match s.client with
  | .popping => ∃ call, s.ring.consumer = .popping none call
  | .spinning _ => ∃ call, s.ring.consumer = .checking call
  | .rechecking _ => ∃ call, s.ring.consumer = .checking call
  | _ => s.ring.consumer = .idle

def edge : PushPoint → Option Bool
  | .copyHeader _ _ wasEmpty => some wasEmpty
  | .copyPayload _ wasEmpty => some wasEmpty
  | .storeSeq _ wasEmpty => some wasEmpty
  | .storeWritePos _ wasEmpty => some wasEmpty
  | .returned (.ok (.pushed wasEmpty)) => some wasEmpty
  | _ => none

def windowOpen : PushPoint → Bool
  | .copyHeader _ _ _ => true
  | .copyPayload _ _ => true
  | .storeSeq _ _ => true
  | _ => false

def decidedFull : PushPoint → Bool
  | .returned (.ok .full) => true
  | _ => false

def undecided : PushPoint → Bool
  | .loadWritePos => true
  | .loadSeq _ => true
  | _ => false

def EdgeFresh (s : State) (point : PushPoint) : Prop :=
  match s.relay with
  | .pushing _ _ any =>
    any = false → windowOpen point = true → edge point = some false →
      s.ring.shared.readPos ≠ UInt64.ofNat s.ring.pushed.length
  | _ => True

def Bumps (g : Geometry) (s : State) (point : PushPoint) : Prop :=
  match s.relay with
  | .pushing _ _ any =>
    any = true ∨ edge point = some true ∨ decidedFull point = true ∨
      (undecided point = true ∧ RingFull g s.ring)
  | .nudging _ _ _ => True
  | .nudgeWaking _ _ any => any = true ∨ RingFull g s.ring
  | .backoff _ _ any => any = true ∨ RingFull g s.ring
  | .signalling any => any = true
  | _ => False

section Push
theorem reportsEdge_storeWritePos (pos : UInt64) : ReportsEdge (PushPoint.atStoreWritePos pos true) :=
  ⟨trivial,fun _ => rfl⟩

theorem reportsEdge_storeSeq (pos : UInt64) : ReportsEdge (PushPoint.atStoreSeq g pos true) :=
  ⟨trivial,fun _ => reportsEdge_storeWritePos pos⟩

theorem reportsEdge_copyPayload (pos : UInt64) : ReportsEdge (PushPoint.atCopyPayload g frame pos true) :=
  ⟨trivial,fun _ => reportsEdge_storeSeq pos⟩

theorem edge_reports (found : edge point = some true) : ReportsEdge (point.call g frame) := by
  match point,found with
  | .copyHeader false pos _,rfl => exact ⟨trivial,fun _ => reportsEdge_copyPayload pos⟩
  | .copyHeader true pos _,rfl => exact ⟨trivial,fun _ => reportsEdge_storeSeq pos⟩
  | .copyPayload pos _,rfl => exact reportsEdge_copyPayload pos
  | .storeSeq pos _,rfl => exact reportsEdge_storeSeq pos
  | .storeWritePos pos _,rfl => exact reportsEdge_storeWritePos pos
  | .returned (.ok (.pushed _)),rfl => exact rfl

theorem decidedFull_returned (full : decidedFull point = true) : point = .returned (.ok .full) := by
  unfold decidedFull at full
  split at full
  · rfl
  · cases full

theorem undecided_call (open_ : undecided point = true) : Undecided (point.call g frame) := by
  unfold undecided at open_
  split at open_ <;> trivial

end Push

theorem bumps_willBump (at_ : RelayPoint g s point) (bumps : Bumps g s point) : WillBump g s := by
  unfold RelayPoint at at_
  unfold Bumps at bumps
  unfold WillBump
  cases doing : s.relay with
  | pushing frame rest any =>
    rw [doing] at at_ bumps
    rcases bumps with latch | report | full | ⟨open_,full⟩
    · exact .inl latch
    · exact .inr ⟨_,at_.1,.inl (edge_reports report)⟩
    · have returned := decidedFull_returned full
      subst returned
      exact .inr ⟨_,at_.1,.inr (.inl rfl)⟩
    · exact .inr ⟨_,at_.1,.inr (.inr ⟨undecided_call open_,full⟩)⟩
  | nudging frame rest any => trivial
  | _ => rwa [doing] at bumps

-- Bumps that can still come while the client sits on a loaded word: one for the
-- latched edge, one for a nudge already decided, one for a ring found empty later.
def latch (relay : Relay) (point : PushPoint) : Nat :=
  match relay with
  | .pushing _ _ any => if any = true ∨ edge point = some true then 1 else 0
  | .nudging _ _ any => if any = true then 1 else 0
  | .nudgeWaking _ _ any => if any = true then 1 else 0
  | .backoff _ _ any => if any = true then 1 else 0
  | .signalling any => if any = true then 1 else 0
  | _ => 0

def nudge (relay : Relay) (point : PushPoint) : Nat :=
  match relay with
  | .pushing _ _ _ => if decidedFull point = true then 1 else 0
  | .nudging _ _ _ => 1
  | _ => 0

def inWindow (relay : Relay) (point : PushPoint) : Bool :=
  match relay with
  | .pushing _ _ _ => windowOpen point
  | _ => false

def credit (s : State) (point : PushPoint) : Nat :=
  if s.ring.released = s.ring.pushed.length ∧ inWindow s.relay point = false then 1 else 0

def potential (s : State) (point : PushPoint) : Nat :=
  latch s.relay point+nudge s.relay point+credit s point

def owed (m : Machine) (any : Bool) : Nat :=
  (if any = true then 1 else 0)+(if m.released = m.pushed.length then 1 else 0)

theorem potential_le (s : State) (point : PushPoint) : potential s point ≤ 3 := by
  have one : latch s.relay point ≤ 1 := by
    unfold latch
    split <;> (try split) <;> omega
  have two : nudge s.relay point ≤ 1 := by
    unfold nudge
    split <;> (try split) <;> omega
  have three : credit s point ≤ 1 := by
    unfold credit
    split <;> omega
  unfold potential
  omega

-- Against a full ring the nudges are not bounded, but the relay cannot leave the
-- retry loop before the client moves.
def Looping (g : Geometry) (s : State) (point : PushPoint) : Prop :=
  RingFull g s.ring ∧
    match s.relay with
    | .pushing _ _ _ => undecided point = true ∨ decidedFull point = true
    | .nudging _ _ _ => True
    | .nudgeWaking _ _ _ => True
    | .backoff _ _ _ => True
    | _ => False

theorem looping_bumps (looping : Looping g s point) : Bumps g s point := by
  obtain ⟨full,loop⟩ := looping
  unfold Bumps
  cases doing : s.relay with rw [doing] at loop
  | pushing frame rest any =>
    rcases loop with open_ | decided
    · exact .inr (.inr (.inr ⟨open_,full⟩))
    · exact .inr (.inr (.inl decided))
  | nudging frame rest any => trivial
  | nudgeWaking | backoff => exact .inr full
  | _ => cases loop

def observedBy : Client → Option UInt32
  | .spinning observed => some observed
  | .rechecking observed => some observed
  | .parking observed => some observed
  | .parked observed => some observed
  | _ => none

def Committed (s : State) : Prop :=
  match s.client with
  | .rechecking _ => s.ring.consumer = .checking (.ret true)
  | .parking _ => True
  | .parked _ => True
  | _ => False

def Covered (g : Geometry) (s : State) (point : PushPoint) : Prop :=
  s.ring.released = s.ring.pushed.length ∨ Bumps g s point

-- `b` bumps happened since the client loaded `observed`.
structure Watch (g : Geometry) (s : State) (point : PushPoint) (observed : UInt32) (b : Nat) : Prop where
  word : s.futexWord = observed+UInt32.ofNat b
  budget : b+potential s point ≤ 3 ∨ Looping g s point
  covered : Committed s → Covered g s point ∨ 1 ≤ b

def Watched (g : Geometry) (s : State) (point : PushPoint) : Prop :=
  ∀ observed, observedBy s.client = some observed → ∃ b, Watch g s point observed b

structure Awake (g : Geometry) (s : State) : Prop where
  ring : SlotRing.Invariant g s.ring
  client : ClientCall s
  relay : Running s → ∃ point, RelayPoint g s point ∧ EdgeFresh s point ∧ Watched g s point

theorem observed_quiet (ring : SlotRing.Invariant g s.ring) (client : ClientCall s)
    (seen : observedBy s.client = some observed) : Quiet s.ring := by
  have consumer := ring.consumer
  cases doing : s.client with rw [ClientCall,doing] at client
  | spinning | rechecking =>
    obtain ⟨call,same⟩ := client
    rw [ConsumerValid,same] at consumer
    exact consumer.1
  | parking | parked => rwa [ConsumerValid,client] at consumer
  | _ => rw [doing] at seen; cases seen

theorem awake_not_stranded (awake : Awake g s) : ¬ Stranded g s := by
  rintro ⟨running,parked,ready,idle⟩
  obtain ⟨point,at_,_,watched⟩ := awake.relay running
  obtain ⟨b,watch⟩ := watched s.futexWord (by rw [parked]; rfl)
  have quiet : Quiet s.ring := observed_quiet awake.ring awake.client (by rw [parked]; rfl)
  have committed : Committed s := by
    unfold Committed
    rw [parked]
    trivial
  have left : s.ring.released < s.ring.pushed.length := by
    unfold FrameReady at ready
    rw [quiet.1] at ready
    exact (seq_at_read awake.ring.ring).mp ready
  have no_bumps : ¬ Bumps g s point := fun bumps => idle (bumps_willBump at_ bumps)
  rcases watch.covered committed with (equal | bumps) | bumped
  · omega
  · exact no_bumps bumps
  · rcases watch.budget with bounded | looping
    · -- At most three bumps cannot bring a 32-bit word back to the value loaded.
      have same := congrArg UInt32.toNat watch.word
      rw [UInt32.toNat_add,UInt32.toNat_ofNat'] at same
      omega
    · exact no_bumps (looping_bumps looping)

end Scg.FutexRelay
