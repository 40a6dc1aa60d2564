import Scg.Ipc.ExitRings
import Scg.Ipc.FutexWakeup

namespace Scg.RelayExit
open Ipc Interaction SlotRing Option Transition

variable {m : Machine}
section Ring

def Drained (m : Machine) : Prop := m.released = m.pushed.length ∧ m.shared.readPos = UInt64.ofNat m.released

theorem access_live (live : ∀ result, point ≠ .returned result)
    (running : m.producer = .publishing frame (point.call g frame)) :
    (slotChannel g).step m = some (afterPush g m frame point,.access point.publishes) := by
  have stepped := stepProducer_point point live running
  simp only [slotChannel,running,stepped]
  cases point with
  | returned result => exact absurd rfl (live result)
  | _ => rfl

theorem access_returned (running : m.producer = .publishing frame (PushPoint.call g frame (.returned result))) :
    (slotChannel g).step m = some ({m with
      producer := .idle
      acknowledged := if isPushed result then m.acknowledged ++ [frame] else m.acknowledged
      reports := m.reports ++ [result]},.returned (slotOutcome result)) := by
  have stepped := stepProducer_returned running
  simp only [slotChannel,running,stepped]
  rfl

theorem drained_edge (facts : PushFacts g m frame point) (running : m.producer = .publishing frame (point.call g frame))
    (drained : (slotChannel g).drained m = true) : FutexRelay.edge (point.next g m.shared) = some true := by
  simp only [slotChannel,running] at drained
  cases point with
  | loadReadPos inPlace pos =>
    obtain ⟨⟨settled,_,position,_⟩,_⟩ := facts
    have empty : (m.shared.readPos == m.shared.writePos) = true := drained
    rw [settled.1,← position] at empty
    exact congrArg some empty
  | _ => cases drained

theorem edge_kept (live : ∀ result, point ≠ .returned result) (sees : FutexRelay.edge point = some true) :
    FutexRelay.edge (point.next g m.shared) = some true := by
  cases point with
  | copyHeader inPlace pos wasEmpty => cases inPlace <;> exact sees
  | copyPayload | storeSeq | storeWritePos => exact sees
  | returned result => exact absurd rfl (live result)
  | _ => cases sees

theorem client_sees_push (valid : SlotRing.Invariant g m) (theirs : action.consumers = true)
    (ran : execute g m action = some after) : ProducerSees m after := by
  cases execute_enters ran with
  | tryPopInto | tryPopIntoSlice | peekFrame | unpeek | advance | isEmpty => exact ⟨rfl,rfl,rfl,rfl,rfl,Nat.le_refl _⟩
  | consumer moved =>
    cases stepConsumer_moves valid.consumer moved with
    | pop room point => exact pop_sees g m room point
    | advance point =>
      refine ⟨rfl,?_,?_,rfl,rfl,?_⟩
      · cases point <;> rfl
      · cases point <;> rfl
      · unfold afterAdvance
        dsimp only
        split <;> omega
    | _ => exact ⟨rfl,rfl,rfl,rfl,rfl,Nat.le_refl _⟩
  | _ => cases theirs

theorem drained_unread (drained : Drained m) (next : NextFrame m frame) : False := by
  have left := (List.getElem?_eq_some_iff.mp next).1
  rw [drained.1] at left
  exact Nat.lt_irrefl _ left

-- The client has no slot to release, and a `read_pos` still to be stored is the one it has.
theorem drained_kept (valid : SlotRing.Invariant g m) (drained : Drained m)
    (theirs : action.consumers = true) (ran : execute g m action = some after) : Drained after := by
  cases execute_enters ran with
  | tryPopInto | tryPopIntoSlice | peekFrame | unpeek | advance | isEmpty => exact drained
  | consumer moved =>
    cases stepConsumer_moves valid.consumer moved with
    | pop room point facts live =>
      cases point with
      | looking point => exact drained
      | storeSeq pos idx frame =>
        obtain ⟨_,_,_,whole,there,_⟩ := facts
        exact (drained_unread drained there).elim
      | storeReadPos pos frame =>
        obtain ⟨⟨count,_⟩,rfl⟩ := facts
        refine ⟨drained.1,?_⟩
        change UInt64.ofNat m.obtained.length+1 = UInt64.ofNat m.released
        rw [← count]
        exact Wrapping.ofNat_succ
      | returned frame => cases live
    | advance point facts live =>
      cases point with
      | loadReadPos | loadSeq => exact drained
      | storeSeq pos =>
        have left := facts.1.2.2
        rw [drained.1] at left
        exact (Nat.lt_irrefl _ left).elim
      | storeReadPos pos => exact ⟨drained.1,facts.2⟩
      | returned => exact absurd rfl live
    | _ => exact drained
  | _ => cases theirs

theorem asks_loadSeq (valid : ConsumerValid g m) (asked : asks m.consumer = some (.loadSeq idx)) :
    m.shared.readPos = UInt64.ofNat m.released ∧ idx = g.index (UInt64.ofNat m.released) := by
  unfold ConsumerValid at valid
  cases doing : m.consumer with rw [doing] at valid asked
  | idle | peeked => cases asked
  | popping room call =>
    obtain ⟨⟨_ | pos | _ | _ | _⟩ | _ | _ | _,rfl,facts⟩ := valid <;> cases asked
    exact ⟨facts.1.1,congrArg g.index facts.2⟩
  | peeking call =>
    obtain ⟨⟨_ | pos | _ | _ | _⟩ | _,rfl,facts⟩ := valid <;> cases asked
    exact ⟨facts.1.1,congrArg g.index facts.2⟩
  | advancing call =>
    obtain ⟨_ | pos | _ | _ | _,rfl,facts⟩ := valid <;> cases asked
    exact ⟨facts.1.1,congrArg g.index facts.2⟩
  | checking call =>
    obtain ⟨quiet,_ | pos | _,rfl,facts⟩ := valid <;> cases asked
    exact ⟨quiet.1,congrArg g.index facts⟩

theorem looksEmpty_drained (valid : SlotRing.Invariant g m)
    (looks : (slotChannel g).looksEmpty m action = true) : Drained m := by
  simp only [slotChannel] at looks
  split at looks
  · rename_i idx asked
    obtain ⟨position,rfl⟩ := asks_loadSeq valid.consumer asked
    have word := seq_at_read valid.ring
    have behind := valid.ring.behind
    rw [Bool.not_eq_true',position] at looks
    simp only [looks,Bool.false_eq_true,false_iff] at word
    exact ⟨by omega,position⟩
  · cases looks

theorem perform_readPos (shared : Shared) (op : Op) : (shared.perform op).2.readPos = shared.readPos ∨
    op = .storeReadPos (shared.perform op).2.readPos := by
  cases op with
  | storeReadPos word => exact .inr rfl
  | _ => exact .inl rfl

theorem client_readPos (theirs : action.consumers = true)
    (ran : execute g m action = some after) : after.shared.readPos = m.shared.readPos ∨
      action = .consumer ∧ asks m.consumer = some (.storeReadPos after.shared.readPos) := by
  cases execute_enters ran with
  | tryPopInto | tryPopIntoSlice | peekFrame | unpeek | advance | isEmpty => exact .inl rfl
  | consumer moved =>
    have stored : ∀ op, asks m.consumer = some op → after.shared = (m.shared.perform op).2 →
        after.shared.readPos = m.shared.readPos ∨
        SlotRing.Action.consumer = .consumer ∧ asks m.consumer = some (.storeReadPos after.shared.readPos) := by
      intro op asked same
      rw [asked,same]
      rcases perform_readPos m.shared op with kept | store
      · exact .inl kept
      · exact .inr ⟨rfl,congrArg some store⟩
    unfold stepConsumer at moved
    split at moved <;> rename_i doing
    all_goals first
      | (cases moved; exact .inl rfl)
      | (cases moved; exact stored _ (by rw [doing]; rfl) rfl)
      | cases moved
  | _ => cases theirs

end Ring

def Stands (g : Geometry) (s : State Machine) (point : PushPoint) : Prop :=
  match s.stage with
  | .pushing frame _ _ => s.ring.producer = .publishing frame (point.call g frame) ∧ PushFacts g s.ring frame point
  | _ => s.ring.producer = .idle

def Latches (s : State Machine) (point : PushPoint) : Prop :=
  match s.stage with
  | .batch _ any => any = true
  | .pushing _ _ any => any = true ∨ FutexRelay.edge point = some true
  | .full _ _ any => any = true
  | _ => True

def latched : Stage → Bool
  | .pushing _ _ any => any
  | _ => false

def Apart (s : State Machine) (point : PushPoint) : Prop :=
  match s.stage with
  | .pushing _ _ any =>
    any = false → FutexRelay.windowOpen point = true → FutexRelay.edge point = some false →
      s.ring.shared.readPos ≠ UInt64.ofNat s.ring.pushed.length
  | _ => True

-- The client does not catch up with the writer between a push's sample of `read_pos` and
-- its READY store, unless an earlier push of the batch already saw the ring empty.
def NoCatchUp (s : State Machine) (move : Move SlotRing.Action) : Prop :=
  ∀ word, move = .client .consumer → asks s.ring.consumer = some (.storeReadPos word) →
    FutexRelay.midPush s.ring.producer = true → latched s.stage = false → word ≠ s.ring.shared.writePos

def MeetsDrained (s : State Machine) (move : Move SlotRing.Action) : Prop :=
  ∀ any sslPending, move = .decode sslPending → s.stage = .batch true any →
    s.decoder.nextFrame.1 = .ok none → s.drained = true

-- `raceless` stands for runs under `NoCatchUp`; the first four fields hold in any run.
structure Watching (g : Geometry) (raceless : Prop) (s : State Machine) (point : PushPoint) : Prop where
  ring : SlotRing.Invariant g s.ring
  stands : Stands g s point
  sampled : s.drained = true → Latches s point
  seen : s.signalled = [] → s.unsignalled = [] → Drained s.ring
  apart : raceless → Apart s point
  withheld : raceless → Withheld true s → Latches s point

variable {raceless : Prop}

theorem signal_watching (watching : Watching g raceless s point) :
    Watching g raceless (s.signal true wasEmpty) point := by
  unfold State.signal
  split
  · exact watching
  · obtain ⟨ring,stands,sampled,seen,apart,withheld⟩ := watching
    refine ⟨ring,stands,sampled,?_,apart,fun _ open_ => absurd rfl open_.1⟩
    intro signalled _
    obtain ⟨first,second⟩ := List.append_eq_nil_iff.mp signalled
    exact seen first second

theorem push_apart (stands : s.stage = .pushing frame earlier any)
    (facts : PushFacts g s.ring frame point) (apart : Apart s point) :
    Apart {s with ring := afterPush g s.ring frame point} (point.next g s.ring.shared) := by
  cases s
  cases stands
  exact FutexRelay.push_edge_fresh (s := ⟨_,0,.pushing frame [] any,.trying⟩) rfl facts apart

theorem publish_latches (stands : s.stage = .pushing frame earlier any) (apart : Apart s (.storeSeq pos wasEmpty))
    (drained : Drained s.ring) : any = true ∨ wasEmpty = true := by
  cases s
  cases stands
  cases any with
  | true => exact .inl rfl
  | false =>
    cases wasEmpty with
    | true => exact .inr rfl
    | false =>
      have late := apart rfl rfl rfl
      rw [drained.2,drained.1] at late
      exact absurd rfl late

def outside : Stage → Bool
  | .polling | .reading | .returned _ => true
  | _ => false

section
variable (watching : Watching g raceless s point)
include watching

theorem Watching.idle (apart : ∀ frame earlier any, s.stage ≠ .pushing frame earlier any) :
    s.ring.producer = .idle := by
  have at_ := watching.stands
  unfold Stands at at_
  split at at_
  · rename_i stands
    exact absurd stands (apart _ _ _)
  · exact at_

theorem Watching.leaves (idle : s.ring.producer = .idle)
    (left : outside stage = true) (decoder : FrameDecoder) (fresh drained : Bool) :
    Watching g raceless {s with stage := stage,decoder := decoder,fresh := fresh,drained := drained} point := by
  obtain ⟨ring,_,_,seen,_,_⟩ := watching
  cases stage with
  | polling | reading | returned exit => exact ⟨ring,idle,fun _ => trivial,seen,fun _ => trivial,fun _ _ => trivial⟩
  | batch | pushing | full => cases left

theorem push_starts (idle : s.ring.producer = .idle) (started : (slotChannel g).start s.ring frame = some ring)
    (latch : Latches s point → any = true) (decoder : FrameDecoder) (fresh earlier : Bool) :
    ∃ first, Watching g raceless
      {s with ring := ring,decoder := decoder,fresh := fresh,stage := .pushing frame earlier any} first := by
  obtain ⟨valid,_,sampled,seen,_,withheld⟩ := watching
  obtain ⟨first,same,begun⟩ := FutexRelay.start_push valid idle frame
  have ran : execute g s.ring (.tryPush frame) = some ring := started
  rw [same] at ran
  cases ran
  refine ⟨first,step_preserved valid same,⟨rfl,begun.facts⟩,fun drained => .inl (latch (sampled drained)),seen,?_,
    fun still open_ => .inl (latch (withheld still open_))⟩
  intro _ _ open_
  rw [begun.closed] at open_
  cases open_

theorem decode_watching (stands : s.stage = .batch some_ any)
    (ran : decode (slotChannel g) true s some_ any sslPending = some next) : ∃ later, Watching g raceless next later := by
  cases s
  cases stands
  have idle := watching.stands
  unfold decode at ran
  split at ran
  · rename_i frame decoder decoded
    obtain ⟨ring,started,rfl⟩ := map_eq_some_iff.mp ran
    exact push_starts watching idle started id decoder _ some_
  · rename_i decoder decoded
    cases ran
    have away : outside (if sslPending then .reading else .polling) = true := by cases sslPending <;> rfl
    have left := watching.leaves idle away decoder false
    cases some_ with
    | true => exact ⟨point,signal_watching (left _)⟩
    | false => exact ⟨point,left _⟩
  · cases ran
    exact ⟨point,watching.leaves idle rfl _ _ _⟩

theorem backoff_watching (stands : s.stage = .full frame some_ any)
    (ran : backoff (slotChannel g) true s frame some_ any shutdown gone = some next) :
    ∃ later, Watching g raceless next later := by
  cases s
  cases stands
  have idle := watching.stands
  unfold backoff at ran
  split at ran
  · cases ran
    exact ⟨point,watching.leaves idle rfl _ _ _⟩
  · split at ran
    · cases ran
      exact ⟨point,watching.leaves idle rfl _ _ _⟩
    · obtain ⟨ring,started,rfl⟩ := map_eq_some_iff.mp ran
      have nudged : Watching g raceless (State.signal _ true true) point := signal_watching watching
      exact push_starts nudged idle started id _ false some_

theorem live_watching (stands : s.stage = .pushing frame earlier any) (live : ∀ result, point ≠ .returned result)
    (running : s.ring.producer = .publishing frame (point.call g frame)) (facts : PushFacts g s.ring frame point) :
    Watching g raceless
      (pushed {s with ring := afterPush g s.ring frame point,drained := s.drained || (slotChannel g).drained s.ring}
        frame earlier any (.access point.publishes)) (point.next g s.ring.shared) := by
  have valid := producer_preserved watching.ring (stepProducer_point point live running)
  have later := push_facts watching.ring.ring point facts live
  have apart := fun still => push_apart stands facts (watching.apart still)
  obtain ⟨_,_,m,_,sampled,signalled,unsignalled⟩ := s
  cases stands
  have latch : any = true ∨ FutexRelay.edge point = some true →
      any = true ∨ FutexRelay.edge (point.next g m.shared) = some true := Or.imp_right (edge_kept live)
  have samples : (sampled || (slotChannel g).drained m) = true →
      any = true ∨ FutexRelay.edge (point.next g m.shared) = some true := by
    intro drained
    rcases Bool.or_eq_true_iff.mp drained with before | now
    · exact latch (watching.sampled before)
    · exact .inr (drained_edge facts running now)
  cases publishing : point.publishes with
  | true =>
    cases point with
    | storeSeq pos wasEmpty =>
      refine ⟨valid,⟨rfl,later⟩,samples,fun _ empty => by simp [pushed] at empty,apart,fun still open_ => ?_⟩
      by_cases before : unsignalled = []
      · have drained := watching.seen (open_.2 rfl) before
        exact (publish_latches rfl (watching.apart still) drained).imp_right (congrArg some)
      · exact latch (watching.withheld still ⟨before,open_.2⟩)
    | _ => cases publishing
  | false =>
    refine ⟨valid,⟨rfl,later⟩,samples,fun none_notified none_left => ?_,apart,
      fun still open_ => latch (watching.withheld still open_)⟩
    have drained := watching.seen none_notified none_left
    refine ⟨?_,(push_sees g m frame point).readPos.trans drained.2⟩
    simpa [pushed,afterPush,publishing] using drained.1

end

theorem returned_watching
    (watching : Watching g raceless s (.returned result)) (stands : s.stage = .pushing frame earlier any)
    (running : s.ring.producer = .publishing frame (PushPoint.call g frame (.returned result)))
    (stepped : execute g s.ring .producer = some after) (idle : after.producer = .idle)
    (drained : Drained s.ring → Drained after) :
    ∃ later, Watching g raceless
      (pushed {s with ring := after,drained := s.drained || (slotChannel g).drained s.ring} frame earlier any
        (.returned (slotOutcome result))) later := by
  have unsampled : (slotChannel g).drained s.ring = false := by simp only [slotChannel,running,PushPoint.call]
  have valid := step_preserved watching.ring stepped
  have seen := fun signalled unsignalled => drained (watching.seen signalled unsignalled)
  rw [unsampled,Bool.or_false]
  cases s
  cases stands
  rcases result with _ | _ | _
  case ok.pushed wasEmpty =>
    have reported : any = true ∨ some wasEmpty = some true → (any || wasEmpty) = true :=
      fun latches => Bool.or_eq_true_iff.mpr (latches.imp_right Option.some.inj)
    exact ⟨.loadWritePos,valid,idle,fun before => reported (watching.sampled before),seen,fun _ => trivial,
      fun still open_ => reported (watching.withheld still open_)⟩
  case ok.full =>
    have reported : any = true ∨ none = some true → any = true := fun latches => latches.resolve_right (by simp)
    exact ⟨.loadWritePos,valid,idle,fun before => reported (watching.sampled before),seen,fun _ => trivial,
      fun still open_ => reported (watching.withheld still open_)⟩
  case error => exact ⟨.loadWritePos,valid,idle,fun _ => trivial,seen,fun _ => trivial,fun _ _ => trivial⟩

theorem access_watching (watching : Watching g raceless s point)
    (ran : step (slotChannel g) true s .access = some next) : ∃ later, Watching g raceless next later := by
  simp only [step] at ran
  split at ran
  · rename_i frame earlier any stands
    have at_ := watching.stands
    rw [Stands,stands] at at_
    obtain ⟨running,facts⟩ := at_
    by_cases live : ∃ result, point = .returned result
    · obtain ⟨result,rfl⟩ := live
      rw [access_returned running] at ran
      cases ran
      exact returned_watching watching stands running (stepProducer_returned running) rfl id
    · rw [not_exists] at live
      rw [access_live live running] at ran
      cases ran
      exact ⟨_,live_watching watching stands live running facts⟩
  · cases ran

theorem window_writes (running : m.producer = .publishing frame (point.call g frame))
    (facts : PushFacts g m frame point) (open_ : FutexRelay.windowOpen point = true) :
    FutexRelay.midPush m.producer = true ∧ m.shared.writePos = UInt64.ofNat m.pushed.length := by
  rw [running]
  cases point with
  | copyHeader | copyPayload | storeSeq => exact ⟨rfl,facts.1.1.1⟩
  | _ => cases open_

theorem client_stands (stands : Stands g s point) (sees : ProducerSees s.ring ring) :
    Stands g {s with ring := ring} point := by
  unfold Stands at stands ⊢
  cases doing : s.stage with rw [doing] at stands
  | pushing frame earlier any => exact ⟨sees.producer.trans stands.1,stands.2.stable sees⟩
  | _ => exact sees.producer.trans stands

theorem client_apart (stands : Stands g s point) (apart : Apart s point)
    (sees : ProducerSees s.ring ring) (theirs : action.consumers = true) (ran : execute g s.ring action = some ring)
    (behind : NoCatchUp s (.client action)) : Apart {s with ring := ring} point := by
  unfold Stands at stands
  unfold Apart at apart ⊢
  cases doing : s.stage with
  | pushing frame earlier any =>
    rw [doing] at stands apart
    intro unlatched open_ late
    obtain ⟨mid,written⟩ := window_writes stands.1 stands.2 open_
    rw [sees.pushed]
    rcases client_readPos theirs ran with same | ⟨rfl,asked⟩
    · rw [same]
      exact apart unlatched open_ late
    · rw [← written]
      refine behind _ rfl asked mid ?_
      rwa [doing]
  | _ => trivial

theorem client_watching (watching : Watching g raceless s point)
    (behind : raceless → NoCatchUp s (.client action))
    (ran : step (slotChannel g) true s (.client action) = some next) : Watching g raceless next point := by
  obtain ⟨ring,acted,rfl⟩ := map_eq_some_iff.mp ran
  obtain ⟨theirs,moved⟩ := slotChannel_client acted
  obtain ⟨valid,stands,sampled,seen,apart,withheld⟩ := watching
  have sees := client_sees_push valid theirs moved
  have later := client_stands stands sees
  have kept : raceless → Apart {s with ring := ring} point :=
    fun still => client_apart stands (apart still) sees theirs moved (behind still)
  split
  · rename_i looks
    refine ⟨step_preserved valid moved,later,sampled,fun _ _ => ?_,kept,fun _ open_ => absurd rfl open_.1⟩
    exact drained_kept valid (looksEmpty_drained valid looks) theirs moved
  · refine ⟨step_preserved valid moved,later,sampled,fun signalled unsignalled => ?_,kept,withheld⟩
    exact drained_kept valid (seen signalled unsignalled) theirs moved

theorem step_watching (watching : Watching g raceless s point)
    (behind : raceless → NoCatchUp s move) (settled : raceless → s.stage = .reading → ¬ Withheld true s)
    (ran : step (slotChannel g) true s move = some next) : ∃ later, Watching g raceless next later := by
  cases move with
  | poll polled =>
    simp only [step] at ran
    split at ran <;> cases ran
    rename_i stands
    have rests := watching.idle (by simp [stands])
    cases polled with
    | quiet => exact ⟨point,watching⟩
    | _ => exact ⟨point,watching.leaves rests rfl s.decoder s.fresh s.drained⟩
  | read arrived =>
    simp only [step] at ran
    split at ran <;> cases ran
    rename_i stands
    have rests := watching.idle (by simp [stands])
    cases arrived with
    | interrupted => exact ⟨point,watching⟩
    | bytes data =>
      exact ⟨point,watching.ring,rests,fun other => absurd other Bool.false_ne_true,watching.seen,fun _ => trivial,
        fun still open_ => absurd open_ (settled still stands)⟩
    | _ => exact ⟨point,watching.leaves rests rfl s.decoder s.fresh s.drained⟩
  | decode sslPending =>
    simp only [step] at ran
    split at ran
    · rename_i stands
      exact decode_watching watching stands ran
    · cases ran
  | access => exact access_watching watching ran
  | backoff shutdown gone =>
    simp only [step] at ran
    split at ran
    · rename_i stands
      exact backoff_watching watching stands ran
    · cases ran
  | client action => exact ⟨point,client_watching watching behind ran⟩

def begun (m : Machine) : Prop := ∃ data, m = SlotRing.initial data

theorem start_watching (data : Nat → UInt8) : Watching g raceless (start (SlotRing.initial data)) .loadWritePos :=
  ⟨initial_invariant g data,rfl,nofun,fun _ _ => ⟨rfl,rfl⟩,fun _ => trivial,fun _ open_ => absurd rfl open_.1⟩

theorem latches_batch (stands : s.stage = .batch some_ any) (latches : Latches s point) : any = true := by
  rwa [Latches,stands] at latches

theorem drained_sound (path : Transition.ReachedWhen (system (slotChannel g) true begun)
    (fun s move => Orderly (slotChannel g) s move ∧ MeetsDrained s move) s) : Sound Pushes false s := by
  have both : Sound Pushes false s ∧ ∃ point, Watching g False s point := by
    refine path.invariant (I := fun s => Sound Pushes false s ∧ ∃ point, Watching g False s point) ?_ ?_
    · rintro s ⟨ring,⟨data,rfl⟩,rfl⟩
      exact ⟨start_sound rfl,.loadWritePos,start_watching data⟩
    · intro s move next ⟨sound,point,watching⟩ guarded ran
      refine ⟨step_sound (slot_lawful g) sound guarded.1 ?_ ran,step_watching watching nofun nofun ran⟩
      intro any sslPending decoding stands _ over_ _
      exact latches_batch stands (watching.sampled (guarded.2 any sslPending decoding stands over_))
  exact both.1

theorem raceless_sound (path : Transition.ReachedWhen (system (slotChannel g) true begun)
    (fun s move => Orderly (slotChannel g) s move ∧ NoCatchUp s move) s) : Sound Pushes true s := by
  have both : Sound Pushes true s ∧ ∃ point, Watching g True s point := by
    refine path.invariant (I := fun s => Sound Pushes true s ∧ ∃ point, Watching g True s point) ?_ ?_
    · rintro s ⟨ring,⟨data,rfl⟩,rfl⟩
      exact ⟨start_sound rfl,.loadWritePos,start_watching data⟩
    · intro s move next ⟨sound,point,watching⟩ guarded ran
      refine ⟨step_sound (slot_lawful g) sound guarded.1 ?_ ran,
        step_watching watching (fun _ => guarded.2) (fun _ stands => sound.settled (.inl stands)) ran⟩
      intro any sslPending _ stands open_ _ _
      exact latches_batch stands (watching.withheld trivial open_)
  exact both.1

-- A relay whose batches are not cut short after a push returns with every frame notified:
-- over the eventfd always, over the futex where each batch meets a drained ring.
theorem relay_exit_withholds_nothing (g : Geometry) :
    (∀ (W : Type) (perform : W → (op : SlotRing.Op) → SlotRing.Reply op × W) s exit,
      Transition.ReachedWhen (system (memoryChannel perform (slotPush g) marksReady) false fun r => r.2 = none)
        (Orderly (memoryChannel perform (slotPush g) marksReady)) s →
      s.stage = .returned exit → s.unsignalled = []) ∧
    (∀ (r : ByteRing.Ring) (W : Type) (perform : W → (op : ByteRing.Op) → ByteRing.Reply op × W) s exit,
      Transition.ReachedWhen (system (memoryChannel perform (bytePush r) ByteRing.publishes) false fun r => r.2 = none)
        (Orderly (memoryChannel perform (bytePush r) ByteRing.publishes)) s →
      s.stage = .returned exit → s.unsignalled = []) ∧
    (∀ s exit,
      Transition.ReachedWhen (system (slotChannel g) true begun)
        (fun s move => Orderly (slotChannel g) s move ∧ MeetsDrained s move) s →
      s.stage = .returned exit → s.unsignalled = []) ∧
    (∀ s exit,
      Transition.ReachedWhen (system (slotChannel g) true begun)
        (fun s move => Orderly (slotChannel g) s move ∧ NoCatchUp s move) s →
      s.stage = .returned exit → s.unsignalled = [] ∨ s.signalled ≠ []) := by
  refine ⟨?_,?_,?_,?_⟩
  · intro W perform s exit path stands
    exact settled_notified (returned_settled (memory_settled (slotPush_commits g) path) stands)
  · intro r W perform s exit path stands
    exact settled_notified (returned_settled (memory_settled (bytePush_commits r) path) stands)
  · intro s exit path stands
    exact settled_notified (returned_settled (drained_sound path) stands)
  · intro s exit path stands
    have settled := returned_settled (raceless_sound path) stands
    by_cases notified : s.unsignalled = []
    · exact .inl notified
    · exact .inr fun silent => settled ⟨notified,fun _ => silent⟩

section Runs
variable {R A : Type}

def orderlyNow (C : Channel R A) (s : State R) (move : Move A) : Bool :=
  match s.stage,move with
  | .batch _ _,.decode _ => match s.decoder.nextFrame.1 with
      | .error _ => !s.fresh
      | .ok _ => true
  | .pushing _ _ _,.access => match C.step s.ring with
      | some (_,.returned (.error _)) => !s.fresh
      | _ => true
  | .full _ _ _,.backoff shutdown gone => !(shutdown || gone) || !s.fresh
  | _,_ => true

theorem orderlyNow_sound (C : Channel R A) (s : State R) (move : Move A) (checked : orderlyNow C s move = true) :
    Orderly C s move := by
  unfold Orderly
  split
  · rename_i stands
    rintro ⟨e,malformed⟩
    simp only [orderlyNow,stands,malformed] at checked
    simpa using checked
  · rename_i stands
    rintro ⟨ring,e,failed⟩
    simp only [orderlyNow,stands,failed] at checked
    simpa using checked
  · rename_i shutdown gone stands
    intro ends
    rw [← Bool.or_eq_true_iff] at ends
    simp only [orderlyNow,stands,ends] at checked
    simpa using checked
  · trivial

def ending (s : State R) : Option Exit × List Frame × List Frame :=
  match s.stage with
  | .returned exit => (some exit,s.signalled,s.unsignalled)
  | _ => (none,s.signalled,s.unsignalled)

theorem ending_returned {s : State R} {exit : Exit} {signalled unsignalled : List Frame}
    (ended : ending s = (some exit,signalled,unsignalled)) :
    s.stage = .returned exit ∧ s.signalled = signalled ∧ s.unsignalled = unsignalled := by
  unfold ending at ended
  split at ended <;> cases ended
  exact ⟨by assumption,rfl,rfl⟩

def oneRead (tail : List UInt8) (pushing : Nat) : List (Move A) :=
  Move.poll .ready :: Move.read (.bytes (encodeInto ⟨1,[]⟩ ++ tail)) :: Move.decode false ::
    List.replicate pushing Move.access

end Runs

def noCatchUpNow (s : State Machine) (move : Move SlotRing.Action) : Bool :=
  match move,asks s.ring.consumer with
  | .client .consumer,some (.storeReadPos word) =>
    !FutexRelay.midPush s.ring.producer || latched s.stage || word != s.ring.shared.writePos
  | _,_ => true

def meetsDrainedNow (s : State Machine) (move : Move SlotRing.Action) : Bool :=
  match move,s.stage,s.decoder.nextFrame.1 with
  | .decode _,.batch true _,.ok none => s.drained
  | _,_,_ => true

theorem noCatchUpNow_sound (s : State Machine) (move : Move SlotRing.Action) (checked : noCatchUpNow s move = true) :
    NoCatchUp s move := by
  rintro word rfl asked mid unlatched
  simp only [noCatchUpNow,asked,mid,unlatched] at checked
  simpa using checked

theorem meetsDrainedNow_sound (s : State Machine) (move : Move SlotRing.Action)
    (checked : meetsDrainedNow s move = true) : MeetsDrained s move := by
  rintro any sslPending rfl stands ended
  simp only [meetsDrainedNow,stands,ended] at checked
  exact checked

def quietExit (pushing : Nat) : List (Move A) := oneRead [] pushing ++ [Move.decode false,Move.poll .shutdown]

abbrev slotPages : Channel (Shared × Option (Call Outcome)) (Shared → Shared) :=
  memoryChannel Shared.perform (slotPush smallest) marksReady

abbrev bytePages : Channel (ByteRing.Shared × Option (ByteRing.Call Outcome)) (ByteRing.Shared → ByteRing.Shared) :=
  memoryChannel ByteRing.Shared.perform (bytePush ByteRing.twelveBytes) ByteRing.publishes

theorem slotPages_run : (runChecked (system slotPages false fun r => r.2 = none) (orderlyNow slotPages)
    (start (initRingControl fun _ => 0,none)) (quietExit 8)).map ending = some (some .shutdown,[⟨1,[]⟩],[]) := by rfl

theorem bytePages_run : (runChecked (system bytePages false fun r => r.2 = none) (orderlyNow bytePages)
    (start (ByteRing.Shared.init fun _ => 0,none)) (quietExit 5)).map ending = some (some .shutdown,[⟨1,[]⟩],[]) := by
  rfl

def futexNow (s : State Machine) (move : Move SlotRing.Action) : Bool :=
  orderlyNow (slotChannel smallest) s move && noCatchUpNow s move && meetsDrainedNow s move

theorem futex_run : (runChecked (system (slotChannel smallest) true begun) futexNow
    (start (SlotRing.initial fun _ => 0)) (quietExit 8)).map ending = some (some .shutdown,[⟨1,[]⟩],[]) := by rfl

theorem futexNow_sound (s : State Machine) (move : Move SlotRing.Action) (checked : futexNow s move = true) :
    Orderly (slotChannel smallest) s move ∧ NoCatchUp s move ∧ MeetsDrained s move := by
  rw [futexNow,Bool.and_eq_true,Bool.and_eq_true] at checked
  exact ⟨orderlyNow_sound _ s move checked.1.1,noCatchUpNow_sound s move checked.1.2,
    meetsDrainedNow_sound s move checked.2⟩

theorem relay_exit_after_one_frame : (∃ s, ending s = (some .shutdown,[⟨1,[]⟩],[]) ∧
      Transition.ReachedWhen (system slotPages false fun r => r.2 = none) (Orderly slotPages) s ∧ s.unsignalled = []) ∧
    (∃ s, ending s = (some .shutdown,[⟨1,[]⟩],[]) ∧
      Transition.ReachedWhen (system bytePages false fun r => r.2 = none) (Orderly bytePages) s ∧ s.unsignalled = []) ∧
    (∃ s, ending s = (some .shutdown,[⟨1,[]⟩],[]) ∧
      Transition.ReachedWhen (system (slotChannel smallest) true begun)
        (fun s move => Orderly (slotChannel smallest) s move ∧ MeetsDrained s move) s ∧ s.unsignalled = []) ∧
    (∃ s, ending s = (some .shutdown,[⟨1,[]⟩],[]) ∧
      Transition.ReachedWhen (system (slotChannel smallest) true begun)
        (fun s move => Orderly (slotChannel smallest) s move ∧ NoCatchUp s move) s ∧
      (s.unsignalled = [] ∨ s.signalled ≠ [])) := by
  obtain ⟨slots,bytes,drained,raceless⟩ := relay_exit_withholds_nothing smallest
  have meets : ∀ s move, futexNow s move = true → Orderly (slotChannel smallest) s move ∧ MeetsDrained s move :=
    fun s move checked => ⟨(futexNow_sound s move checked).1,(futexNow_sound s move checked).2.2⟩
  have behind : ∀ s move, futexNow s move = true → Orderly (slotChannel smallest) s move ∧ NoCatchUp s move :=
    fun s move checked => ⟨(futexNow_sound s move checked).1,(futexNow_sound s move checked).2.1⟩
  refine ⟨?_,?_,?_,?_⟩
  · obtain ⟨s,path,ended⟩ := Transition.runChecked_shows (orderlyNow_sound slotPages) slotPages_run ⟨_,rfl,rfl⟩
    exact ⟨s,ended,path,slots _ _ s _ path (ending_returned ended).1⟩
  · obtain ⟨s,path,ended⟩ := Transition.runChecked_shows (orderlyNow_sound bytePages) bytePages_run ⟨_,rfl,rfl⟩
    exact ⟨s,ended,path,bytes _ _ _ s _ path (ending_returned ended).1⟩
  · obtain ⟨s,path,ended⟩ := Transition.runChecked_shows meets futex_run ⟨_,⟨_,rfl⟩,rfl⟩
    exact ⟨s,ended,path,drained s _ path (ending_returned ended).1⟩
  · obtain ⟨s,path,ended⟩ := Transition.runChecked_shows behind futex_run ⟨_,⟨_,rfl⟩,rfl⟩
    exact ⟨s,ended,path,raceless s _ path (ending_returned ended).1⟩

def cutExit : List (Move A) := oneRead (List.replicate 8 255) 8 ++ [Move.decode false]

theorem malformed_tail_withholds : (∃ s, Transition.Reached (system slotPages false fun r => r.2 = none) s ∧
      s.stage = .returned (.malformed (.tooLarge 0xffffffff)) ∧ s.signalled = [] ∧ s.unsignalled = [⟨1,[]⟩]) ∧
    (∃ s, Transition.Reached (system (slotChannel smallest) true begun) s ∧
      s.stage = .returned (.malformed (.tooLarge 0xffffffff)) ∧ s.signalled = [] ∧ s.unsignalled = [⟨1,[]⟩]) := by
  have eventfd : (Transition.run (system slotPages false fun r => r.2 = none)
      (start (initRingControl fun _ => 0,none)) cutExit).map ending =
        some (some (.malformed (.tooLarge 0xffffffff)),[],[⟨1,[]⟩]) := rfl
  have futex : (Transition.run (system (slotChannel smallest) true begun) (start (SlotRing.initial fun _ => 0))
      cutExit).map ending = some (some (.malformed (.tooLarge 0xffffffff)),[],[⟨1,[]⟩]) := rfl
  refine ⟨?_,?_⟩
  · obtain ⟨s,path,ended⟩ := Transition.run_shows eventfd ⟨_,rfl,rfl⟩
    exact ⟨s,path,ending_returned ended⟩
  · obtain ⟨s,path,ended⟩ := Transition.run_shows futex ⟨_,⟨_,rfl⟩,rfl⟩
    exact ⟨s,path,ending_returned ended⟩

end Scg.RelayExit
