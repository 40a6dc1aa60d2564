import Scg.Ipc.SlotMoves

namespace Scg.SlotRing
open Ipc Interaction List

variable {m : Machine}

def Delivered (m : Machine) : Prop :=
  ∀ (i : Nat) entry, m.obtained[i]? = some entry →
    ∃ frame, m.pushed[i]? = some frame ∧ entry.frame = clipFrame entry.room frame

structure Invariant (g : Geometry) (m : Machine) : Prop where
  ring : RingValid g m.shared.seq m.shared.data m.pushed m.released
  producer : ProducerValid g m
  consumer : ConsumerValid g m
  delivered : Delivered m
  honest : Except.error ShmError.ringCorrupt ∉ m.reports

section
variable (ring : RingValid g m.shared.seq m.shared.data m.pushed m.released)
include ring

-- "One lap behind" stands there only while the frame of the last lap is in the slot.
theorem seq_at_write : (HasRoom g m ∧ checkSeq g (m.shared.seq (g.index (UInt64.ofNat m.pushed.length)))
        (UInt64.ofNat m.pushed.length) = .free) ∨
    (m.pushed.length = m.released+g.capacity ∧
      checkSeq g (m.shared.seq (g.index (UInt64.ofNat m.pushed.length)))
        (UInt64.ofNat m.pushed.length) = .full) := by
  have within := ring.within
  have bound := g.capacity_bound
  rw [g.index_ofNat]
  by_cases room : m.pushed.length < m.released+g.capacity
  · left
    refine ⟨room,?_⟩
    rw [ring.free m.pushed.length (Nat.le_refl _) room]
    exact checkSeq_free_iff.mpr rfl
  · right
    have full : m.pushed.length = m.released+g.capacity := by omega
    refine ⟨full,?_⟩
    have word := ring.ready m.released (Nat.le_refl _) (by omega)
    rw [full,Nat.add_mod_right,word]
    exact checkSeq_full g m.released

theorem seq_at_read : isReady (m.shared.seq (g.index (UInt64.ofNat m.released))) (UInt64.ofNat m.released) = true ↔
      m.released < m.pushed.length := by
  have bound := g.capacity_bound
  rw [g.index_ofNat,isReady_iff,Wrapping.ofNat_succ]
  constructor
  · intro ready
    by_cases left : m.released < m.pushed.length
    · exact left
    · rw [ring.free m.released (by omega) (by omega)] at ready
      have same := (Wrapping.ofNat_inj_near (by omega) (by omega)).mp ready
      omega
  · intro left
    exact ring.ready m.released (Nat.le_refl _) left

theorem push_ring (point : PushPoint) (facts : PushFacts g m frame point) :
    RingValid g (afterPush g m frame point).shared.seq (afterPush g m frame point).shared.data
      (afterPush g m frame point).pushed (afterPush g m frame point).released := by
  have fill := g.payload_fits
  cases point with
  | copyHeader inPlace pos wasEmpty =>
    obtain ⟨⟨_,_,rfl,room⟩,_⟩ := facts
    have wrote := ring.write (g.slot (m.pushed.length % g.capacity)) (header frame) room
      ⟨Nat.le_refl _,by rw [header_length]; omega⟩
    rwa [← g.index_ofNat] at wrote
  | copyPayload pos wasEmpty =>
    obtain ⟨⟨_,fits,rfl,room⟩,_⟩ := facts
    have wrote := ring.write (g.slot (m.pushed.length % g.capacity)+FRAME_HEADER_LEN)
      frame.payload room ⟨Nat.le_add_right _ _,by omega⟩
    rwa [← g.index_ofNat] at wrote
  | storeSeq pos wasEmpty =>
    obtain ⟨⟨_,fits,rfl,room⟩,headerIn,payloadIn⟩ := facts
    have published := ring.publish room ⟨headerIn,payloadIn,fits⟩
    rwa [← Wrapping.ofNat_succ,← g.index_ofNat] at published
  | _ => exact ring

theorem push_facts
    (point : PushPoint) (facts : PushFacts g m frame point) (live : ∀ result, point ≠ .returned result) :
    PushFacts g (afterPush g m frame point) frame (point.next g m.shared) := by
  cases point with
  | loadWritePos => exact ⟨facts.1,facts.2,facts.1.1⟩
  | loadSeq pos =>
    obtain ⟨settled,fits,rfl⟩ := facts
    rcases seq_at_write ring with ⟨room,word⟩ | ⟨_,word⟩ <;> simp only [PushPoint.next,word]
    · exact ⟨⟨settled,fits,rfl,room⟩,fun other => absurd other Bool.false_ne_true⟩
    · exact settled
  | loadReadPos inPlace pos => exact facts
  | copyHeader inPlace pos wasEmpty =>
    obtain ⟨⟨settled,fits,rfl,room⟩,payloadIn⟩ := facts
    have headerIn : HeaderIn g (afterPush g m frame (.copyHeader inPlace (UInt64.ofNat m.pushed.length) wasEmpty))
        frame := by
      change ByteMemory.readVector (ByteMemory.write _ (g.slot (g.index _)) _) _ _ = _
      rw [g.index_ofNat]
      exact ByteMemory.readVector_write _
    cases inPlace with
    | false => exact ⟨⟨settled,fits,rfl,room⟩,headerIn⟩
    | true =>
      refine ⟨⟨settled,fits,rfl,room⟩,headerIn,?_⟩
      change ByteMemory.read (ByteMemory.write _ (g.slot (g.index _)) _) _ _ = _
      rw [g.index_ofNat,ByteMemory.read_write_outside (by rw [header_length]; exact .inr (Nat.le_refl _))]
      exact payloadIn rfl
  | copyPayload pos wasEmpty =>
    obtain ⟨⟨settled,fits,rfl,room⟩,headerIn⟩ := facts
    refine ⟨⟨settled,fits,rfl,room⟩,?_,?_⟩
    · change ByteMemory.readVector (ByteMemory.write _ (g.slot (g.index _)+FRAME_HEADER_LEN) _) _ _ = _
      rw [g.index_ofNat]
      exact (ByteMemory.readVector_write_outside (.inl (Nat.le_refl _))).trans headerIn
    · change ByteMemory.read (ByteMemory.write _ (g.slot (g.index _)+FRAME_HEADER_LEN) _) _ _ = _
      rw [g.index_ofNat]
      exact ByteMemory.read_write
  | storeSeq pos wasEmpty =>
    obtain ⟨⟨settled,_,rfl,_⟩,_⟩ := facts
    change m.pushed ++ [frame] = m.acknowledged ++ [frame] ∧ _ = UInt64.ofNat m.acknowledged.length
    rw [← settled.2]
    exact ⟨rfl,rfl⟩
  | storeWritePos pos wasEmpty =>
    obtain ⟨history,rfl⟩ := facts
    refine ⟨history,?_⟩
    change UInt64.ofNat m.acknowledged.length+1 = UInt64.ofNat m.pushed.length
    rw [history,length_append,length_singleton,Wrapping.ofNat_succ]
  | returned result => exact absurd rfl (live result)

end

theorem push_sees (g : Geometry) (m : Machine) (frame : Frame) (point : PushPoint) :
    ConsumerSees m (afterPush g m frame point) := by
  refine ⟨rfl,?_,rfl,rfl,?_⟩
  · cases point <;> rfl
  · unfold afterPush
    cases point.publishes with
    | false => exact prefix_refl _
    | true => exact prefix_append _ _

theorem Delivered.grows {next : Machine} (delivered : Delivered m) (sees : ConsumerSees m next) : Delivered next := by
  intro i entry present
  rw [sees.obtained] at present
  obtain ⟨frame,there,same⟩ := delivered i entry present
  exact ⟨frame,prefix_getElem sees.pushed there,same⟩

theorem Invariant.producer_moves {producer : Producer}
    (valid : Invariant g m) (moved : ProducerValid g {m with producer := producer,reports := reports})
    (honest : Except.error ShmError.ringCorrupt ∉ reports) :
    Invariant g {m with producer := producer,reports := reports} :=
  ⟨valid.ring,moved,valid.consumer.stable ⟨rfl,rfl,rfl,rfl,prefix_refl _⟩,valid.delivered,honest⟩

theorem Invariant.consumer_moves {consumer : Consumer} (valid : Invariant g m)
    (moved : ConsumerValid g {m with consumer := consumer}) : Invariant g {m with consumer := consumer} :=
  ⟨valid.ring,valid.producer.stable ⟨rfl,rfl,rfl,rfl,rfl,Nat.le_refl _⟩,moved,valid.delivered,valid.honest⟩

theorem honest_append (honest : Except.error ShmError.ringCorrupt ∉ m.reports)
    (other : result ≠ .error .ringCorrupt) : Except.error ShmError.ringCorrupt ∉ m.reports ++ [result] := by
  intro corrupt
  rcases mem_append.mp corrupt with old | last
  · exact honest old
  · exact other (mem_singleton.mp last).symm

theorem producer_preserved {next : Machine} (valid : Invariant g m) (ran : stepProducer m = some next) : Invariant g next := by
  cases stepProducer_moves valid.producer ran with
  | push frame point _ facts live =>
    have sees := push_sees g m frame point
    exact ⟨push_ring valid.ring point facts,⟨_,rfl,push_facts valid.ring point facts live⟩,
      valid.consumer.stable sees,valid.delivered.grows sees,valid.honest⟩
  | pushed frame result facts =>
    refine ⟨valid.ring,?_,valid.consumer.stable ⟨rfl,rfl,rfl,rfl,prefix_refl _⟩,valid.delivered,
      honest_append valid.honest ?_⟩
    · match result with
      | .ok (.pushed wasEmpty) => exact ⟨facts.2,facts.1⟩
      | .ok .full => exact facts
      | .error e => exact facts.1
    · rintro rfl
      exact facts.2 rfl
  | reserve point settled facts live =>
    refine valid.producer_moves ⟨settled,_,rfl,?_⟩ valid.honest
    cases point with
    | loadWritePos => exact settled.1
    | loadSeq pos =>
      have position : pos = UInt64.ofNat m.pushed.length := facts
      subst position
      rcases seq_at_write valid.ring with ⟨room,word⟩ | ⟨_,word⟩ <;> simp only [ReservePoint.next,word]
      · exact ⟨rfl,room⟩
      · trivial
    | returned result => exact absurd rfl (live result)
  | reserved slot settled facts => exact valid.producer_moves ⟨settled,facts⟩ valid.honest
  | refused result settled honest => exact valid.producer_moves settled (honest_append valid.honest honest)

theorem clip_le (room : Option Nat) (len : Nat) : clip room len ≤ len := by
  cases room with
  | none => exact Nat.le_refl _
  | some room => exact Nat.min_le_left _ _

theorem decode_holds {data : Nat → UInt8} (pos : UInt64) (holds : Holds g data idx frame) (same : g.index pos = idx) :
    ReadyPoint.decode g pos (ByteMemory.readVector data (g.slot (g.index pos)) FRAME_HEADER_LEN) =
      ⟨pos,idx,frame.payload.length,frame.trafficId⟩ := by
  have small := g.segment_u32
  have room := g.payload_fits
  have fits := holds.fits
  unfold ReadyPoint.decode
  rw [same,holds.header,decodeHeader_encodeHeader]
  have exact_len : (UInt32.ofNat frame.payload.length).toNat = frame.payload.length := by
    rw [UInt32.toNat_ofNat',Nat.mod_eq_of_lt (by omega)]
  simp [exact_len,Nat.min_eq_left fits]

theorem ready_facts (ring : RingValid g m.shared.seq m.shared.data m.pushed m.released) (quiet : Quiet m)
    (point : ReadyPoint) (facts : ReadyFacts g m point) : ReadyFacts g m (point.next g m.shared) := by
  cases point with
  | loadReadPos => exact quiet.1
  | loadSeq pos =>
    have position : pos = UInt64.ofNat m.released := facts
    subst position
    have word := seq_at_read ring
    cases ready : isReady (m.shared.seq (g.index (UInt64.ofNat m.released))) (UInt64.ofNat m.released) with
    | false => simp [ReadyPoint.next,ready,ReadyFacts]
    | true =>
      have left := word.mp ready
      simpa [ReadyPoint.next,ready,ReadyFacts] using left
  | copyHeader pos =>
    obtain ⟨rfl,left⟩ := facts
    have present := getElem?_eq_getElem left
    have holds := ring.stored _ _ (Nat.le_refl _) present
    have decoded := decode_holds (UInt64.ofNat m.released) holds (g.index_ofNat _)
    simp only [ReadyPoint.next,decoded]
    exact ⟨rfl,(g.index_ofNat _).symm,_,present,rfl,rfl⟩
  | found ready => exact facts

theorem Delivered.append {next : Machine} (delivered : Delivered m)
    (present : m.pushed[m.obtained.length]? = some whole) (cut : entry.frame = clipFrame entry.room whole)
    (pushed : next.pushed = m.pushed) (obtained : next.obtained = m.obtained ++ [entry]) : Delivered next := by
  intro i other there
  rw [obtained] at there
  rw [pushed]
  by_cases old : i < m.obtained.length
  · rw [getElem?_append_left old] at there
    exact delivered i other there
  · have last : i = m.obtained.length := by
      have bound := (List.getElem?_eq_some_iff.mp there).1
      rw [length_append,length_singleton] at bound
      omega
    subst last
    have same : entry = other := by simpa using there
    rw [← same]
    exact ⟨whole,present,cut⟩

theorem pop_facts (valid : Invariant g m) (point : PopPoint)
    (facts : PopFacts g m room point) (live : point.ended = false) :
    PopFacts g (afterPop g m room point) room (point.next g room m.shared) := by
  match point with
  | .looking (.found none) | .returned _ => cases live
  | .looking (.found (some ready)) =>
    obtain ⟨quiet,position,index,frame,present,len,trafficId⟩ := facts
    refine ⟨quiet,position,by rw [position]; exact index,frame,present,?_⟩
    have holds := valid.ring.stored _ _ (Nat.le_refl _) present
    rw [← g.index_ofNat] at holds
    unfold clipFrame
    rw [len,trafficId,index,ByteMemory.read_take (clip_le room _),holds.payload]
  | .looking .loadReadPos | .looking (.loadSeq _) | .looking (.copyHeader _) =>
    have later := ready_facts valid.ring facts.1 _ facts.2
    exact ⟨facts.1,later⟩
  | .storeSeq pos idx frame =>
    obtain ⟨quiet,position,_,whole,present,cut⟩ := facts
    rw [NextFrame,← quiet.2] at present
    rw [← quiet.2] at position
    exact ⟨⟨congrArg (·+1) quiet.2,whole,present,cut⟩,position⟩
  | .storeReadPos pos frame =>
    obtain ⟨freed,position⟩ := facts
    refine ⟨freed,?_⟩
    change pos+1 = UInt64.ofNat m.released
    rw [position,Wrapping.ofNat_succ,freed.1]

theorem pop_ring (valid : Invariant g m) (point : PopPoint) (facts : PopFacts g m room point) :
    RingValid g (afterPop g m room point).shared.seq (afterPop g m room point).shared.data
      (afterPop g m room point).pushed (afterPop g m room point).released := by
  cases point with
  | storeSeq pos idx frame =>
    obtain ⟨_,rfl,rfl,whole,present,_⟩ := facts
    have left := (List.getElem?_eq_some_iff.mp present).1
    have freed := valid.ring.release left
    rwa [← g.index_ofNat,← Wrapping.ofNat_add] at freed
  | _ => exact valid.ring

theorem pop_sees (g : Geometry) (m : Machine) (room : Option Nat) (point : PopPoint) :
    ProducerSees m (afterPop g m room point) := by
  refine ⟨rfl,?_,?_,rfl,rfl,?_⟩
  · cases point <;> rfl
  · cases point <;> rfl
  · unfold afterPop
    cases point.frees with
    | false => exact Nat.le_refl _
    | true => exact Nat.le_succ _

theorem popped_preserved (valid : Invariant g m) (facts : PopFacts g m room (.returned frame)) :
    Invariant g {m with consumer := .idle,obtained := m.obtained ++ [⟨frame,room⟩]} := by
  obtain ⟨⟨count,whole,present,cut⟩,position⟩ := facts
  refine ⟨valid.ring,valid.producer.stable ⟨rfl,rfl,rfl,rfl,rfl,Nat.le_refl _⟩,⟨position,?_⟩,
    valid.delivered.append present cut rfl rfl,valid.honest⟩
  rwa [length_append]

theorem peek_facts (valid : Invariant g m) (point : PeekPoint) (facts : PeekFacts g m point)
    (live : point.ended = false) : PeekFacts g m (point.next g m.shared) := by
  match point with
  | .looking (.found none) | .returned _ => cases live
  | .looking (.found (some ready)) =>
    obtain ⟨quiet,_,index,frame,present,len,_⟩ := facts
    exact ⟨quiet,frame,present,by rw [index,len]⟩
  | .looking .loadReadPos | .looking (.loadSeq _) | .looking (.copyHeader _) =>
    have later := ready_facts valid.ring facts.1 _ facts.2
    exact ⟨facts.1,later⟩

-- A slot that `advance` finds is the one it peeked, so the silent no-op of an
-- unmatched call is never taken.
theorem advance_preserved (valid : Invariant g m) (point : AdvancePoint) (facts : AdvanceFacts m point)
    (live : point ≠ .returned) : Invariant g (afterAdvance g m point) := by
  cases point with
  | loadReadPos => exact valid.consumer_moves ⟨_,rfl,facts,facts.1⟩
  | loadSeq pos =>
    obtain ⟨ahead,rfl⟩ := facts
    refine valid.consumer_moves ⟨_,rfl,?_⟩
    have ready := (seq_at_read valid.ring).mpr ahead.2.2
    simp only [AdvancePoint.next,ready]
    exact ⟨ahead,rfl⟩
  | storeSeq pos =>
    obtain ⟨⟨_,count,left⟩,rfl⟩ := facts
    have freed := valid.ring.release left
    rw [← g.index_ofNat,← Wrapping.ofNat_add] at freed
    exact ⟨freed,valid.producer.stable ⟨rfl,rfl,rfl,rfl,rfl,Nat.le_succ _⟩,
      ⟨_,rfl,count,Wrapping.ofNat_succ⟩,valid.delivered,valid.honest⟩
  | storeReadPos pos =>
    exact ⟨valid.ring,valid.producer.stable ⟨rfl,rfl,rfl,rfl,rfl,Nat.le_refl _⟩,
      ⟨_,rfl,facts.2,facts.1⟩,valid.delivered,valid.honest⟩
  | returned => exact absurd rfl live

theorem check_facts (quiet : Quiet m) (point : CheckPoint) (live : ∀ empty, point ≠ .returned empty) :
    CheckFacts m (point.next g m.shared) := by
  cases point with
  | loadReadPos => exact quiet.1
  | loadSeq pos => trivial
  | returned empty => exact absurd rfl (live empty)

theorem consumer_preserved {next : Machine} (valid : Invariant g m) (ran : stepConsumer m = some next) : Invariant g next := by
  cases stepConsumer_moves valid.consumer ran with
  | pop room point facts live =>
    exact ⟨pop_ring valid point facts,valid.producer.stable (pop_sees g m room point),
      ⟨_,rfl,pop_facts valid point facts live⟩,valid.delivered,valid.honest⟩
  | popped room frame facts => exact popped_preserved valid facts
  | peek point facts live => exact valid.consumer_moves ⟨_,rfl,peek_facts valid point facts live⟩
  | peeked slice quiet shown => exact valid.consumer_moves ⟨quiet,shown⟩
  | advance point facts live => exact advance_preserved valid point facts live
  | check point quiet _ live => exact valid.consumer_moves ⟨quiet,_,rfl,check_facts quiet point live⟩
  | rests quiet => exact valid.consumer_moves quiet

theorem initial_invariant (g : Geometry) (data : Nat → UInt8) : Invariant g (initial data) :=
  ⟨initial_ring g data,⟨rfl,rfl⟩,⟨rfl,rfl⟩,fun i entry present => by simp [initial] at present,by simp [initial]⟩

theorem slice_frame {slice : Slice} (ring : RingValid g m.shared.seq m.shared.data m.pushed m.released)
    (present : NextFrame m frame)
    (same : slice = ⟨g.slot (g.index (UInt64.ofNat m.released)),FRAME_HEADER_LEN+frame.payload.length⟩) :
    slice.frame m.shared = frame ∧
      ByteMemory.read m.shared.data slice.off slice.len = encodeInto frame := by
  have holds := ring.stored _ _ (Nat.le_refl _) present
  rw [← g.index_ofNat] at holds
  subst same
  constructor
  · unfold Slice.frame
    rw [holds.header,decodeHeader_encodeHeader,Nat.add_sub_cancel_left,holds.payload]
  · rw [ByteMemory.read_append,← ByteMemory.readVector_toList,holds.header,holds.payload]
    rfl

theorem clipFrame_none (frame : Frame) : clipFrame none frame = frame := by simp [clipFrame,clip]

section
variable (valid : Invariant g m)
include valid

theorem tryPush_starts (idle : m.producer = .idle) (frame : Frame) :
    Invariant g {m with producer := .publishing frame (tryPush g frame)} := by
  have settled := valid.producer
  rw [ProducerValid,idle] at settled
  refine valid.producer_moves ?_ valid.honest
  rw [tryPush_call]
  split
  · exact ⟨.returned (.error .frameTooLarge),rfl,settled,by simp⟩
  · rename_i small
    exact ⟨.loadWritePos,rfl,settled,Nat.le_of_not_gt small⟩

theorem commit_starts (held : m.producer = .reserved slot) (trafficId : UInt32) (len : Nat) :
    Invariant g {m with
      producer := .publishing ⟨trafficId,payloadOf g m.shared slot len⟩ (commit g slot trafficId len)} := by
  have producer := valid.producer
  rw [ProducerValid,held] at producer
  obtain ⟨settled,rfl,room⟩ := producer
  refine valid.producer_moves ?_ valid.honest
  have equation := commit_call g ⟨trafficId,payloadOf g m.shared
    ⟨g.index (UInt64.ofNat m.pushed.length),UInt64.ofNat m.pushed.length⟩ len⟩ (UInt64.ofNat m.pushed.length)
  simp only [payloadOf,ByteMemory.read_length] at equation
  rw [equation]
  split
  · exact ⟨.returned (.error .frameTooLarge),rfl,settled,by simp⟩
  · rename_i small
    refine ⟨.loadReadPos true (UInt64.ofNat m.pushed.length),rfl,⟨settled,?_,rfl,room⟩,fun _ => ?_⟩
    · simp only [payloadOf,ByteMemory.read_length]
      exact Nat.le_of_not_gt small
    · simp only [PayloadIn,payloadOf,ByteMemory.read_length,g.index_ofNat]

theorem fill_preserved (held : m.producer = .reserved slot) (within : start+bytes.length ≤ g.maxPayload) :
    Invariant g {m with shared := {m.shared with
      data := ByteMemory.write m.shared.data (g.slot slot.idx+FRAME_HEADER_LEN+start) bytes}} := by
  have producer := valid.producer
  unfold ProducerValid at producer
  rw [held] at producer
  obtain ⟨settled,rfl,room⟩ := producer
  have fill := g.payload_fits
  have wrote := valid.ring.write (g.slot (m.pushed.length % g.capacity)+FRAME_HEADER_LEN+start)
    bytes room ⟨by omega,by omega⟩
  rw [← g.index_ofNat] at wrote
  refine ⟨wrote,?_,valid.consumer.stable ⟨rfl,rfl,rfl,rfl,prefix_refl _⟩,valid.delivered,valid.honest⟩
  rw [held]
  exact ⟨settled,rfl,room⟩

theorem advance_starts (held : m.consumer = .peeked slice) :
    Invariant g {m with
      consumer := .advancing (advance g)
      obtained := m.obtained ++ [⟨slice.frame m.shared,none⟩]} := by
  have consumer := valid.consumer
  unfold ConsumerValid at consumer
  rw [held] at consumer
  obtain ⟨quiet,frame,present,same⟩ := consumer
  have shown := (slice_frame valid.ring present same).1
  have left := (List.getElem?_eq_some_iff.mp present).1
  have there : m.pushed[m.obtained.length]? = some frame := by rwa [quiet.2]
  refine ⟨valid.ring,valid.producer.stable ⟨rfl,rfl,rfl,rfl,rfl,Nat.le_refl _⟩,
    ⟨.loadReadPos,advance_call g,quiet.1,?_,left⟩,valid.delivered.append there ?_ rfl rfl,valid.honest⟩
  · rw [length_append,length_singleton,quiet.2]
  · rwa [clipFrame_none]

theorem step_preserved {next : Machine} (ran : execute g m action = some next) : Invariant g next := by
  cases m
  cases execute_enters ran with
  | tryPush frame idle => exact tryPush_starts valid idle frame
  | reserve idle =>
    cases idle
    exact valid.producer_moves ⟨valid.producer,.loadWritePos,rfl,trivial⟩ valid.honest
  | fill slot start bytes held within => exact fill_preserved valid held within
  | commit slot trafficId len held => exact commit_starts valid held trafficId len
  | abandon slot held =>
    cases held
    exact valid.producer_moves valid.producer.1 valid.honest
  | producer ran => exact producer_preserved valid ran
  | tryPopInto idle =>
    cases idle
    exact valid.consumer_moves ⟨_,tryPopInto_call g,valid.consumer,trivial⟩
  | tryPopIntoSlice room idle =>
    cases idle
    exact valid.consumer_moves ⟨_,tryPopIntoSlice_call g room,valid.consumer,trivial⟩
  | peekFrame idle =>
    cases idle
    exact valid.consumer_moves ⟨.looking .loadReadPos,peekFrame_call g,valid.consumer,trivial⟩
  | unpeek slice held =>
    cases held
    exact valid.consumer_moves valid.consumer.1
  | advance slice held => exact advance_starts valid held
  | isEmpty idle =>
    cases idle
    exact valid.consumer_moves ⟨valid.consumer,.loadReadPos,isEmpty_call g,trivial⟩
  | consumer ran => exact consumer_preserved valid ran

end

theorem reached_invariant (path : Transition.Reached (system g) m) : Invariant g m := by
  refine Transition.Reached.invariant ?_ (fun s action next valid ran => step_preserved valid ran) path
  rintro s ⟨data,rfl⟩
  exact initial_invariant g data

end Scg.SlotRing
