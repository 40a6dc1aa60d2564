import Scg.Ipc.ByteWindow

namespace Scg.ByteRing
open Ipc Interaction List Transition Program
open SlotRing (Obtained clipFrame)

variable {world : World}

def publishes : Op → Bool
  | .storeWriteIdx _ => true
  | _ => false

-- The `write_idx` store is the last access of a call and makes it return `Ok(true)`.
def Unpublished : Call (Except ShmError Bool) → Prop
  | .ret result => isPushed result = false
  | .request op next => (publishes op = true → ∀ reply, next reply = .ret (.ok true)) ∧
      (publishes op = false → ∀ reply, Unpublished (next reply))

theorem unpublished_bind {α : Type} {program : Call α} {f : α → Call (Except ShmError Bool)}
    (copied : program.Every (copies · = true) (fun _ => True)) (rest : ∀ a, Unpublished (f a)) :
    Unpublished (program >>= f) := by
  induction program with
  | ret a => exact rest a
  | request op next ih =>
    refine ⟨fun store => ?_,fun _ reply => ih reply (copied.2 reply)⟩
    have copy := copied.1
    cases op with
    | copyIn off src => cases store
    | _ => cases copy

theorem pushRest_unpublished (r : Ring) (frame : Frame) (write read : UInt64) :
    Unpublished (pushRest r frame write read) := by
  unfold pushRest
  split
  · rfl
  · split
    · rfl
    · apply unpublished_bind (writeWrapping_copies _ _ _)
      intro off
      apply unpublished_bind (writeWrapping_copies _ _ _)
      intro _
      exact ⟨fun _ _ => rfl,nofun⟩

theorem tryPush_unpublished (r : Ring) (frame : Frame) : Unpublished (tryPush r frame) := by
  rw [tryPush_call]
  split
  · rfl
  · exact ⟨nofun,fun _ write => ⟨nofun,fun _ read => pushRest_unpublished r frame write read⟩⟩

-- The frame of a running push joins the history at the `write_idx` store.
def ProducerValid (r : Ring) (m : Machine) : Prop :=
  match m.producer with
  | .idle => m.world.pushed = m.acknowledged
  | .publishing frame call => (producer r frame).Waits Honest call m.world ∧
      (m.world.pushed = m.acknowledged ∧ Unpublished call ∨
        m.world.pushed = m.acknowledged ++ [frame] ∧ call = .ret (.ok true))

def ConsumerValid (r : Ring) (m : Machine) : Prop :=
  match m.consumer with
  | .idle => m.world.released = m.obtained.length
  | .popping room call => (consumer r).Waits (Popped r m.obtained.length room) call m.world
  | .checking call =>
    (consumer r).Waits (fun _ now => RingValid r now ∧ now.released = m.obtained.length) call m.world

def Delivered (m : Machine) : Prop :=
  ∀ (i : Nat) entry, m.obtained[i]? = some entry →
    ∃ frame, m.world.pushed[i]? = some frame ∧ entry.frame = clipFrame entry.room frame

structure Invariant (r : Ring) (m : Machine) : Prop where
  ring : RingValid r m.world
  producer : ProducerValid r m
  consumer : ConsumerValid r m
  delivered : Delivered m
  honest : Except.error ShmError.ringCorrupt ∉ m.reports

theorem initial_ring (r : Ring) (data : Nat → UInt8) : RingValid r (initial data).world := by
  refine ⟨Nat.le_refl _,rfl,rfl,Nat.zero_le _,Nat.two_pow_pos 64,?_,Cyclic.spans_nil⟩
  intro frame absent
  exact absurd absent not_mem_nil

theorem initial_invariant (r : Ring) (data : Nat → UInt8) : Invariant r (initial data) :=
  ⟨initial_ring r data,rfl,rfl,fun i entry present => by simp [initial] at present,by simp [initial]⟩

theorem ProducerValid.stable {consumer : Consumer} (valid : ProducerValid r m) (gives : Gives r m.world world) :
    ProducerValid r {m with world := world,consumer := consumer,obtained := obtained} := by
  unfold ProducerValid at valid ⊢
  cases doing : m.producer with
  | idle =>
    rw [doing] at valid
    exact gives.pushed.trans valid
  | publishing frame call =>
    rw [doing] at valid
    refine ⟨valid.1.stable (fun _ _ _ => Gives.trans) gives,?_⟩
    rw [gives.pushed]
    exact valid.2

theorem ConsumerValid.stable {producer : Producer} (valid : ConsumerValid r m) (fills : Fills r m.world world) :
    ConsumerValid r {m with world := world,producer := producer,acknowledged := acknowledged,reports := reports} := by
  unfold ConsumerValid at valid ⊢
  cases doing : m.consumer with
  | idle =>
    rw [doing] at valid
    exact fills.released.trans valid
  | popping | checking =>
    rw [doing] at valid
    exact Thread.Waits.stable (fun _ _ _ => Fills.trans) valid fills

theorem Delivered.grows (delivered : Delivered m) (pushed : m.world.pushed <+: world.pushed) :
    ∀ (i : Nat) entry, m.obtained[i]? = some entry →
      ∃ frame, world.pushed[i]? = some frame ∧ entry.frame = clipFrame entry.room frame := by
  intro i entry present
  obtain ⟨frame,there,same⟩ := delivered i entry present
  exact ⟨frame,SlotRing.prefix_getElem pushed there,same⟩

section
variable (valid : Invariant r m)
include valid

theorem access_published {op : Op} {call : Reply op → Call (Except ShmError Bool)}
    (doing : m.producer = .publishing frame (.request op call)) (small : (m.world.publish frame op).2.sent < 2^64) :
    Invariant r {m with
      world := (m.world.publish frame op).2
      producer := .publishing frame (call (m.world.publish frame op).1)} := by
  have running := valid.producer
  unfold ProducerValid at running
  rw [doing] at running
  obtain ⟨fills,waits⟩ := running.1.request valid.ring.gives small
  refine ⟨fills.valid,⟨waits,?_⟩,valid.consumer.stable fills,valid.delivered.grows fills.pushed,valid.honest⟩
  rcases running.2 with ⟨settled,unpublished⟩ | ⟨_,ended⟩
  · cases store : publishes op with
    | true =>
      right
      refine ⟨?_,unpublished.1 store _⟩
      cases op with
      | storeWriteIdx word => exact congrArg (· ++ [frame]) settled
      | _ => cases store
    | false =>
      left
      refine ⟨?_,unpublished.2 store _⟩
      cases op with
      | storeWriteIdx word => cases store
      | _ => exact settled
  · cases ended

theorem push_returned {result : Except ShmError Bool}
    (doing : m.producer = .publishing frame (.ret result)) :
    Invariant r {m with
      producer := .idle
      acknowledged := if isPushed result then m.acknowledged ++ [frame] else m.acknowledged
      reports := m.reports ++ [result]} := by
  have running := valid.producer
  unfold ProducerValid at running
  rw [doing] at running
  refine ⟨valid.ring,?_,valid.consumer.stable valid.ring.fills,valid.delivered,?_⟩
  · rcases running.2 with ⟨settled,unpublished⟩ | ⟨settled,ended⟩
    · have refused : isPushed result = false := unpublished
      rwa [refused]
    · cases ended
      exact settled
  · have honest := running.1.result valid.ring.gives
    intro corrupt
    rcases mem_append.mp corrupt with old | last
    · exact valid.honest old
    · exact honest (mem_singleton.mp last).symm

theorem producer_preserved {next : Machine} (ran : stepProducer m = some next)
    (small : next.world.sent < 2^64) : Invariant r next := by
  unfold stepProducer at ran
  split at ran <;> cases ran
  · rename_i frame op call doing
    exact access_published valid doing small
  · rename_i frame result doing
    exact push_returned valid doing

theorem access_consumed {α : Type} {Q : α → World → Prop} {op : Op} {call : Reply op → Call α}
    (waits : (consumer r).Waits Q (.request op call) m.world)
    (resumed : (consumer r).Waits Q (call (m.world.consume op).1) (m.world.consume op).2 →
      ConsumerValid r {m with world := (m.world.consume op).2,consumer := running}) :
    Invariant r {m with world := (m.world.consume op).2,consumer := running} := by
  obtain ⟨gives,later⟩ := waits.request valid.ring.fills trivial
  exact ⟨gives.valid,valid.producer.stable gives,resumed later,
    valid.delivered.grows (gives.pushed ▸ prefix_refl _),valid.honest⟩

theorem consumer_rests (here : m.world.released = m.obtained.length) :
    Invariant r {m with consumer := .idle} :=
  ⟨valid.ring,valid.producer.stable valid.ring.gives,here,valid.delivered,valid.honest⟩

theorem frame_popped {room : Option Nat}
    (popped : Popped r m.obtained.length room (some frame) m.world) :
    Invariant r {m with consumer := .idle,obtained := m.obtained ++ [⟨frame,room⟩]} := by
  obtain ⟨_,released,whole,present,cut⟩ := popped
  refine ⟨valid.ring,valid.producer.stable valid.ring.gives,?_,?_,valid.honest⟩
  · change m.world.released = (m.obtained ++ [_]).length
    rwa [List.length_append]
  · intro i entry there
    by_cases old : i < m.obtained.length
    · exact valid.delivered i entry (by rwa [List.getElem?_append_left old] at there)
    · obtain ⟨inside,same⟩ := List.getElem?_eq_some_iff.mp there
      have last : i = m.obtained.length := by
        rw [List.length_append,List.length_singleton] at inside
        omega
      subst last
      rw [List.getElem_concat_length rfl] at same
      rw [← same]
      exact ⟨whole,present,cut⟩

theorem consumer_preserved {next : Machine} (ran : stepConsumer m = some next) : Invariant r next := by
  have running := valid.consumer
  unfold ConsumerValid at running
  unfold stepConsumer at ran
  split at ran <;> cases ran
  · rename_i room op call doing
    rw [doing] at running
    exact access_consumed valid running id
  · rename_i room frame doing
    rw [doing] at running
    exact frame_popped valid (running.result valid.ring.fills)
  · rename_i room doing
    rw [doing] at running
    exact consumer_rests valid (running.result valid.ring.fills).2
  · rename_i op call doing
    rw [doing] at running
    exact access_consumed valid running id
  · rename_i empty doing
    rw [doing] at running
    exact consumer_rests valid (running.result valid.ring.fills).2

theorem consumer_starts {running : Consumer} (idle : m.consumer = .idle)
    (begun : m.world.released = m.obtained.length → ConsumerValid r {m with consumer := running}) :
    Invariant r {m with consumer := running} := by
  have here := valid.consumer
  unfold ConsumerValid at here
  rw [idle] at here
  exact ⟨valid.ring,valid.producer.stable valid.ring.gives,begun here,valid.delivered,valid.honest⟩

end

def Representable : Machine → Action → Prop
  | _,.tryPush frame => frame.payload.length < 2^32
  | _,_ => True

theorem step_preserved {next : Machine} {action : Action} (valid : Invariant r m) (representable : Representable m action)
    (ran : execute r m action = some next) (small : next.world.sent < 2^64) : Invariant r next := by
  cases action with
  | tryPush frame =>
    simp only [execute] at ran
    split at ran <;> cases ran
    rename_i idle
    have settled := valid.producer
    unfold ProducerValid at settled
    rw [idle] at settled
    refine ⟨valid.ring,⟨?_,.inl ⟨settled,tryPush_unpublished r frame⟩⟩,
      valid.consumer.stable valid.ring.fills,valid.delivered,valid.honest⟩
    exact fun now gives => tryPush_ends gives.valid representable
  | producer => exact producer_preserved valid ran small
  | consumer => exact consumer_preserved valid ran
  | tryPopInto =>
    simp only [execute] at ran
    split at ran <;> cases ran
    rename_i idle
    exact consumer_starts valid idle fun here now fills => tryPopInto_pops fills.valid (fills.released.trans here)
  | tryPopIntoSlice room =>
    simp only [execute] at ran
    split at ran <;> cases ran
    rename_i idle
    exact consumer_starts valid idle fun here now fills => tryPopIntoSlice_pops room fills.valid (fills.released.trans here)
  | isEmpty =>
    simp only [execute] at ran
    split at ran <;> cases ran
    rename_i idle
    exact consumer_starts valid idle fun here now fills => isEmpty_ends fills.valid (fills.released.trans here)

theorem step_grows {next : Machine} (ran : execute r m action = some next) : m.world.pushed <+: next.world.pushed := by
  cases action with
  | producer =>
    simp only [execute,stepProducer] at ran
    split at ran <;> cases ran
    · rename_i frame op call doing
      cases op with
      | storeWriteIdx word => exact prefix_append _ _
      | _ => exact prefix_refl _
    · exact prefix_refl _
  | consumer =>
    simp only [execute,stepConsumer] at ran
    split at ran <;> cases ran <;> exact prefix_refl _
  | _ =>
    simp only [execute] at ran
    split at ran <;> cases ran
    exact prefix_refl _

theorem sent_grows {w now : World} (pushed : w.pushed <+: now.pushed) : w.sent ≤ now.sent := by
  obtain ⟨more,grown⟩ := pushed
  unfold World.sent
  rw [← grown,stream_append,length_append]
  exact Nat.le_add_right _ _

theorem reached_invariant (path : Transition.ReachedWhen (system r) Representable m) (small : m.world.sent < 2^64) :
    Invariant r m := by
  induction path with
  | initial begun =>
    obtain ⟨data,rfl⟩ := begun
    exact initial_invariant r data
  | step _ representable ran ih =>
    have before := sent_grows (step_grows ran)
    exact step_preserved (ih (Nat.lt_of_le_of_lt before small)) representable ran small

theorem obtained_in_order (delivered : Delivered m)
    (large : ∀ (i : Nat) entry frame, m.obtained[i]? = some entry → m.world.pushed[i]? = some frame →
      entry.LargeEnough frame) : m.obtained.map (·.frame) <+: m.world.pushed := by
  apply SlotRing.prefix_of_getElem?
  intro i frame present
  rw [getElem?_map,Option.map_eq_some_iff] at present
  obtain ⟨entry,there,rfl⟩ := present
  obtain ⟨whole,pushed,cut⟩ := delivered i entry there
  rwa [cut,SlotRing.clipFrame_whole (large i entry whole there pushed)]

theorem pushRest_full {write read : UInt64} (trace : (pushRest r frame write read).Trace events (.ok false)) :
    events = [] ∧ r.cap-(write-read).toNat < FRAME_HEADER_LEN+frame.payload.length := by
  unfold pushRest at trace
  split at trace
  · cases trace.2
  · split at trace
    · rename_i space
      exact ⟨trace.1,space⟩
    · -- Past the test the call can only end with `Ok(true)`.
      have copied (off : Nat) (src : List UInt8) : (writeWrapping r off src).Every (fun _ => True) (fun _ => True) :=
        (writeWrapping_copies r off src).weaken fun _ _ => trivial
      have pushed := every_bind (copied (write.toNat % r.cap) (SlotRing.header frame)) fun off _ =>
        every_bind (R := fun result : Except ShmError Bool => result = .ok true) (copied off frame.payload)
          (f := fun _ => storeWriteIdx (write+UInt64.ofNat (FRAME_HEADER_LEN+frame.payload.length)) >>= fun _ =>
            pure (Except.ok true)) fun _ _ => ⟨trivial,fun _ => rfl⟩
      cases (pushed.trace trace).2

theorem tryPush_full {events : List (Program.Event Op Reply)}
    (trace : (tryPush r frame).Trace events (.ok false)) :
    ∃ write read, events = [⟨.loadWriteIdx,write⟩,⟨.loadReadIdx,read⟩] ∧
      r.cap-(write-read).toNat < FRAME_HEADER_LEN+frame.payload.length := by
  rw [tryPush_call] at trace
  split at trace
  · obtain ⟨_,other⟩ := trace
    cases other
  · obtain ⟨write,_,rfl,read,rest,rfl,later⟩ := trace
    obtain ⟨rfl,space⟩ := pushRest_full later
    exact ⟨write,read,rfl,space⟩

-- Over every interleaving of the index accesses and the split copies, while fewer than
-- 2^64 bytes have been pushed.
theorem byte_ring_fifo (r : Ring) (m : Machine) (path : Transition.ReachedWhen (system r) Representable m)
    (small : m.world.sent < 2^64) :
    (∀ (i : Nat) entry, m.obtained[i]? = some entry →
      ∃ frame, m.world.pushed[i]? = some frame ∧ entry.frame = clipFrame entry.room frame) ∧
    ((∀ (i : Nat) entry frame, m.obtained[i]? = some entry → m.world.pushed[i]? = some frame →
      entry.LargeEnough frame) → m.obtained.map (·.frame) <+: m.world.pushed) ∧
    (m.world.pushed = m.acknowledged ∨ ∃ frame, m.producer = .publishing frame (.ret (.ok true)) ∧
      m.world.pushed = m.acknowledged ++ [frame]) ∧
    (m.world.shared.writeIdx-m.world.shared.readIdx).toNat ≤ r.cap ∧
    Except.error ShmError.ringCorrupt ∉ m.reports ∧
    (∀ frame events, (tryPush r frame).Trace events (.ok false) →
      ∃ write read, events = [⟨.loadWriteIdx,write⟩,⟨.loadReadIdx,read⟩] ∧
        r.cap-(write-read).toNat < FRAME_HEADER_LEN+frame.payload.length) := by
  have valid := reached_invariant path small
  refine ⟨valid.delivered,obtained_in_order valid.delivered,?_,?_,valid.honest,fun _ _ trace => tryPush_full trace⟩
  · have producer := valid.producer
    unfold ProducerValid at producer
    cases doing : m.producer with
    | idle =>
      rw [doing] at producer
      exact .inl producer
    | publishing frame call =>
      rw [doing] at producer
      rcases producer.2 with ⟨settled,_⟩ | ⟨grown,ended⟩
      · exact .inl settled
      · exact .inr ⟨frame,by rw [ended],grown⟩
  · rw [valid.ring.used]
    have within := valid.ring.within
    omega

def representable : Machine → Action → Bool
  | _,.tryPush frame => decide (frame.payload.length < 2^32)
  | _,_ => true

theorem representable_sound (m : Machine) (action : Action) (checked : representable m action = true) :
    Representable m action := by
  cases action with
  | tryPush frame =>
    have short := of_decide_eq_true checked
    exact short
  | _ => trivial

def twelveBytes : Ring := ⟨12,12,Nat.le_refl _⟩

def wrappingSchedule : List Action :=
  Action.tryPush ⟨7,[1,2]⟩ :: List.replicate 6 Action.producer ++ Action.tryPopInto :: List.replicate 6 Action.consumer ++
    Action.tryPush ⟨8,[3,4]⟩ :: List.replicate 7 Action.producer ++ Action.tryPopInto :: List.replicate 7 Action.consumer

theorem byte_ring_fifo_wrapped : ∃ m, Transition.ReachedWhen (system twelveBytes) Representable m ∧
    m.obtained.map (·.frame) = [⟨7,[1,2]⟩,⟨8,[3,4]⟩] ∧ m.obtained.map (·.frame) <+: m.world.pushed ∧
    (m.world.shared.writeIdx-m.world.shared.readIdx).toNat ≤ 12 := by
  have ran : (Transition.runChecked (system twelveBytes) representable (initial fun _ => 0) wrappingSchedule).map
      (fun m => (m.obtained.map (·.frame),m.obtained.map (·.room),m.world.sent)) =
        some ([⟨7,[1,2]⟩,⟨8,[3,4]⟩],[none,none],20) := by decide +kernel
  obtain ⟨m,path,same⟩ := Transition.runChecked_shows representable_sound ran ⟨_,rfl⟩
  obtain ⟨got,same⟩ := Prod.mk.inj same
  obtain ⟨rooms,sent⟩ := Prod.mk.inj same
  obtain ⟨_,fifo,_,within,_,_⟩ := byte_ring_fifo twelveBytes m path (by omega)
  refine ⟨m,path,got,fifo ?_,within⟩
  intro i entry frame there _ room given
  have growable : entry.room ∈ m.obtained.map (·.room) := List.mem_map_of_mem (List.mem_of_getElem? there)
  rw [rooms] at growable
  simp [given] at growable

theorem writeWrapping_single (some_left : 0 < src.length) (fits : off+src.length ≤ r.cap) :
    writeWrapping r off src = .request (.copyIn off src) fun _ => .ret ((off+src.length) % r.cap) := by
  have nonzero : ¬ src.length = 0 := by omega
  have whole : min src.length (r.cap-off) = src.length := by omega
  simp [writeWrapping,nonzero,whole,copyIn]

-- The length field of a payload of 2^32 bytes reads zero: the push returns `Ok(true)` and
-- the consumer gets an empty frame.
section Truncated
theorem long_push (long : frame.payload.length = 2^32) (wide : r.cap = 2^32+8) :
    pushRest r frame 0 0 = .request (.copyIn 0 (SlotRing.header frame)) fun _ =>
      .request (.copyIn 8 frame.payload) fun _ => .request (.storeWriteIdx (UInt64.ofNat (2^32+8))) fun _ =>
        .ret (.ok true) := by
  have start : (0 : UInt64).toNat % r.cap = 0 := by simp
  have used : ((0 : UInt64)-0).toNat = 0 := by decide
  have header := SlotRing.header_length frame
  unfold FRAME_HEADER_LEN at header
  have eight : (0+(SlotRing.header frame).length) % r.cap = 8 := by
    rw [header,wide]
    decide
  unfold pushRest FRAME_HEADER_LEN
  rw [start,if_neg (by omega),if_neg (by omega),writeWrapping_single (by omega) (by omega)]
  simp only [request_bind,ret_bind,eight]
  rw [writeWrapping_single (by omega) (by omega),long]
  rfl

theorem long_header (long : frame.payload.length = 2^32) (data : Nat → UInt8) :
    decodeHeader (ByteMemory.readVector (ByteMemory.write (ByteMemory.write data 0 (SlotRing.header frame)) 8 frame.payload)
      0 FRAME_HEADER_LEN) = (0,frame.trafficId) := by
  have wrote : ByteMemory.readVector (ByteMemory.write data 0 (SlotRing.header frame)) 0 FRAME_HEADER_LEN =
      encodeHeader (UInt32.ofNat frame.payload.length) frame.trafficId := ByteMemory.readVector_write _
  have apart : 0+FRAME_HEADER_LEN ≤ 8 ∨ 8+frame.payload.length ≤ 0 := .inl (Nat.le_refl 8)
  rw [ByteMemory.readVector_write_outside apart,wrote,decodeHeader_encodeHeader,long]
  rfl

def longPushed (frame : Frame) (data : Nat → UInt8) : Machine :=
  {world := {
      shared := {
        writeIdx := UInt64.ofNat (2^32+8)
        readIdx := 0
        data := ByteMemory.write (ByteMemory.write data 0 (SlotRing.header frame)) 8 frame.payload}
      pushed := [frame]
      released := 0}
   producer := .idle,consumer := .idle,acknowledged := [frame],reports := [.ok true],obtained := []}

theorem long_pushed (long : frame.payload.length = 2^32) (wide : r.cap = 2^32+8) (data : Nat → UInt8) :
    run (system r) (initial data) (.tryPush frame :: replicate 6 .producer) =
      some (longPushed frame data) := by
  have call : tryPush r frame = .request .loadWriteIdx fun write => .request .loadReadIdx fun read =>
      pushRest r frame write read := by
    rw [tryPush_call,if_neg]
    unfold FRAME_HEADER_LEN
    omega
  simp only [replicate,run,system,execute,initial,call,stepProducer,World.publish,Shared.perform,
    Shared.init,Option.bind_some,long_push long wide]
  rfl

def wideRing : Ring := ⟨2^32+8,2^32+8,Nat.le_refl _⟩

theorem wide_found : nextRest wideRing 0 (UInt64.ofNat (2^32+8)) = .request (.copyOut 0 FRAME_HEADER_LEN) fun dst =>
    if (decodeHeader dst).1.toNat > 2^32 || 2^32+8 < FRAME_HEADER_LEN+(decodeHeader dst).1.toNat then .ret none
    else .ret (some ⟨0,8,(decodeHeader dst).1.toNat,(decodeHeader dst).2⟩) := rfl

theorem long_popped (long : frame.payload.length = 2^32) (data : Nat → UInt8) :
    (run (system wideRing) (longPushed frame data) (.tryPopInto :: replicate 5 .consumer)).map
      (fun m => (m.world.pushed,m.obtained)) = some ([frame],[⟨⟨frame.trafficId,[]⟩,none⟩]) := by
  simp only [replicate,run,system,execute,longPushed,tryPopInto,nextFrame_call,stepConsumer,World.consume,
    Shared.perform,Option.bind_some,wide_found,request_bind,long_header long]
  rfl

end Truncated

theorem byte_ring_truncates : ∃ m, Transition.Reached (system wideRing) m ∧ m.world.sent < 2^64 ∧
    (∀ entry ∈ m.obtained, entry.room = none) ∧ ¬ m.obtained.map (·.frame) <+: m.world.pushed := by
  obtain ⟨frame,long⟩ : ∃ frame : Frame, frame.payload.length = 2^32 :=
    ⟨⟨7,List.replicate (2^32) 0⟩,List.length_replicate⟩
  obtain ⟨m,popped,same⟩ := Option.map_eq_some_iff.mp (long_popped long fun _ => 0)
  obtain ⟨pushed,obtained⟩ := Prod.mk.inj same
  have begun : Transition.Reached (system wideRing) (longPushed frame fun _ => 0) :=
    Transition.reached_run (.initial ⟨_,rfl⟩) (long_pushed long rfl fun _ => 0)
  refine ⟨m,Transition.reached_run begun popped,?_,?_,?_⟩
  · unfold World.sent
    rw [pushed,stream_single,encodeInto_length,long]
    decide
  · rw [obtained]
    intro entry present
    rw [List.mem_singleton.mp present]
  · rw [obtained,pushed]
    intro order
    have shorter : (⟨frame.trafficId,[]⟩ : Frame) = frame := (List.cons_prefix_cons.mp order).1
    have empty := congrArg (fun f : Frame => f.payload.length) shorter
    rw [long] at empty
    cases empty

end Scg.ByteRing
