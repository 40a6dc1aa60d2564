import Scg.Ipc.SlotInvariant

namespace Scg.SlotRing
open Ipc Interaction

def afterPush (g : Geometry) (m : Machine) (frame : Frame) (point : PushPoint) : Machine :=
  {m with
    shared := point.effect g frame m.shared
    producer := .publishing frame ((point.next g m.shared).call g frame)
    pushed := if point.publishes then m.pushed ++ [frame] else m.pushed}

def afterPop (g : Geometry) (m : Machine) (room : Option Nat) (point : PopPoint) : Machine :=
  {m with
    shared := point.effect g m.shared
    consumer := .popping room ((point.next g room m.shared).call g room)
    released := if point.frees then m.released+1 else m.released}

def afterAdvance (g : Geometry) (m : Machine) (point : AdvancePoint) : Machine :=
  {m with
    shared := point.effect g m.shared
    consumer := .advancing ((point.next g m.shared).call g)
    released := if point.frees then m.released+1 else m.released}

-- What one step of the producer thread does, by the point its call stands at and with
-- what is known there.
inductive ProducerMoves (g : Geometry) (m : Machine) : Machine → Prop where
  | push (frame : Frame) (point : PushPoint) : m.producer = .publishing frame (point.call g frame) →
      PushFacts g m frame point → (∀ result, point ≠ .returned result) →
      ProducerMoves g m (afterPush g m frame point)
  | pushed (frame : Frame) (result : Except ShmError PushOutcome) : PushFacts g m frame (.returned result) →
      ProducerMoves g m {m with
        producer := .idle
        acknowledged := if isPushed result then m.acknowledged ++ [frame] else m.acknowledged
        reports := m.reports ++ [result]}
  | reserve (point : ReservePoint) : Settled m → ReserveFacts g m point → (∀ result, point ≠ .returned result) →
      ProducerMoves g m {m with producer := .reserving ((point.next g m.shared).call g)}
  | reserved (slot : ReservedSlot) : Settled m → ReserveFacts g m (.returned (.ok (some slot))) →
      ProducerMoves g m {m with producer := .reserved slot}
  | refused (result : Except ShmError PushOutcome) : Settled m → result ≠ .error .ringCorrupt →
      ProducerMoves g m {m with producer := .idle,reports := m.reports ++ [result]}

theorem stepProducer_moves (producer : ProducerValid g m) (ran : stepProducer m = some next) :
    ProducerMoves g m next := by
  cases doing : m.producer with rw [ProducerValid,doing] at producer
  | publishing frame call =>
    obtain ⟨point,rfl,facts⟩ := producer
    by_cases live : ∃ result, point = .returned result
    · obtain ⟨result,rfl⟩ := live
      rw [stepProducer_returned doing] at ran
      cases ran
      exact .pushed frame result facts
    · rw [not_exists] at live
      rw [stepProducer_point point live doing] at ran
      cases ran
      exact .push frame point doing facts live
  | reserving call =>
    obtain ⟨settled,point,rfl,facts⟩ := producer
    by_cases live : ∃ result, point = .returned result
    · obtain ⟨result,rfl⟩ := live
      rw [stepProducer,doing] at ran
      match result with
      | .ok (some slot) => cases ran; exact .reserved slot settled facts
      | .ok none => cases ran; exact .refused _ settled nofun
      | .error e => cases ran; exact .refused _ settled fun same => facts (Except.error.inj same)
    · rw [not_exists] at live
      rw [stepProducer_reserve point live doing] at ran
      cases ran
      exact .reserve point settled facts live
  | idle | reserved slot =>
    rw [stepProducer,doing] at ran
    cases ran

-- The same for the consumer thread. A call that ends without a frame leaves it at rest.
inductive ConsumerMoves (g : Geometry) (m : Machine) : Machine → Prop where
  | pop (room : Option Nat) (point : PopPoint) : PopFacts g m room point → point.ended = false →
      ConsumerMoves g m (afterPop g m room point)
  | popped (room : Option Nat) (frame : Frame) : PopFacts g m room (.returned frame) →
      ConsumerMoves g m {m with consumer := .idle,obtained := m.obtained ++ [⟨frame,room⟩]}
  | peek (point : PeekPoint) : PeekFacts g m point → point.ended = false →
      ConsumerMoves g m {m with consumer := .peeking ((point.next g m.shared).call g)}
  | peeked (slice : Slice) : Quiet m → Shows g m slice → ConsumerMoves g m {m with consumer := .peeked slice}
  | advance (point : AdvancePoint) : AdvanceFacts m point → point ≠ .returned →
      ConsumerMoves g m (afterAdvance g m point)
  | check (point : CheckPoint) : Quiet m → CheckFacts m point → (∀ empty, point ≠ .returned empty) →
      ConsumerMoves g m {m with consumer := .checking ((point.next g m.shared).call g)}
  | rests : Quiet m → ConsumerMoves g m {m with consumer := .idle}

theorem stepConsumer_moves (consumer : ConsumerValid g m) (ran : stepConsumer m = some next) :
    ConsumerMoves g m next := by
  cases doing : m.consumer with rw [ConsumerValid,doing] at consumer
  | popping room call =>
    obtain ⟨point,rfl,facts⟩ := consumer
    cases live : point.ended with
    | false =>
      rw [stepConsumer_pop point live doing] at ran
      cases ran
      exact .pop room point facts live
    | true =>
      match point with
      | .looking (.found none) =>
        rw [stepConsumer_nothing doing] at ran
        cases ran
        exact .rests facts.1
      | .returned frame =>
        rw [stepConsumer_popped doing] at ran
        cases ran
        exact .popped room frame facts
  | peeking call =>
    obtain ⟨point,rfl,facts⟩ := consumer
    cases live : point.ended with
    | false =>
      rw [stepConsumer_peek point live doing] at ran
      cases ran
      exact .peek point facts live
    | true =>
      rw [stepConsumer,doing] at ran
      match point with
      | .looking (.found none) => cases ran; exact .rests facts.1
      | .returned slice => cases ran; exact .peeked slice facts.1 facts.2
  | advancing call =>
    obtain ⟨point,rfl,facts⟩ := consumer
    by_cases live : point = .returned
    · subst live
      rw [stepConsumer,doing] at ran
      cases ran
      exact .rests facts
    · rw [stepConsumer_advance point live doing] at ran
      cases ran
      exact .advance point facts live
  | checking call =>
    obtain ⟨quiet,point,rfl,facts⟩ := consumer
    by_cases live : ∃ empty, point = .returned empty
    · obtain ⟨empty,rfl⟩ := live
      rw [stepConsumer,doing] at ran
      cases ran
      exact .rests quiet
    · rw [not_exists] at live
      rw [stepConsumer_check point live doing] at ran
      cases ran
      exact .check point quiet facts live
  | idle | peeked slice =>
    rw [stepConsumer,doing] at ran
    cases ran

inductive Enters (g : Geometry) (m : Machine) : Action → Machine → Prop where
  | tryPush (frame : Frame) : m.producer = .idle →
      Enters g m (.tryPush frame) {m with producer := .publishing frame (SlotRing.tryPush g frame)}
  | reserve : m.producer = .idle → Enters g m .reserve {m with producer := .reserving (SlotRing.reserve g)}
  | fill (slot : ReservedSlot) (start : Nat) (bytes : List UInt8) : m.producer = .reserved slot →
      start+bytes.length ≤ g.maxPayload →
      Enters g m (.fill start bytes) {m with shared := {m.shared with
        data := ByteMemory.write m.shared.data (g.slot slot.idx+FRAME_HEADER_LEN+start) bytes}}
  | commit (slot : ReservedSlot) (trafficId : UInt32) (len : Nat) : m.producer = .reserved slot →
      Enters g m (.commit trafficId len) {m with
        producer := .publishing ⟨trafficId,payloadOf g m.shared slot len⟩ (SlotRing.commit g slot trafficId len)}
  | abandon (slot : ReservedSlot) : m.producer = .reserved slot → Enters g m .abandon {m with producer := .idle}
  | producer {after : Machine} : stepProducer m = some after → Enters g m .producer after
  | tryPopInto : m.consumer = .idle →
      Enters g m .tryPopInto {m with consumer := .popping none (SlotRing.tryPopInto g)}
  | tryPopIntoSlice (room : Nat) : m.consumer = .idle →
      Enters g m (.tryPopIntoSlice room) {m with consumer := .popping (some room) (SlotRing.tryPopIntoSlice g room)}
  | peekFrame : m.consumer = .idle → Enters g m .peekFrame {m with consumer := .peeking (SlotRing.peekFrame g)}
  | unpeek (slice : Slice) : m.consumer = .peeked slice → Enters g m .unpeek {m with consumer := .idle}
  | advance (slice : Slice) : m.consumer = .peeked slice →
      Enters g m .advance {m with
        consumer := .advancing (SlotRing.advance g)
        obtained := m.obtained ++ [⟨slice.frame m.shared,none⟩]}
  | isEmpty : m.consumer = .idle → Enters g m .isEmpty {m with consumer := .checking (SlotRing.isEmpty g)}
  | consumer {after : Machine} : stepConsumer m = some after → Enters g m .consumer after

theorem execute_enters (ran : execute g m action = some next) : Enters g m action next := by
  cases action with
  | producer => exact .producer ran
  | consumer => exact .consumer ran
  | fill start bytes =>
    simp only [execute] at ran
    split at ran
    · rename_i slot held
      split at ran <;> cases ran
      rename_i within
      exact .fill slot start bytes held within
    · cases ran
  | commit trafficId len =>
    simp only [execute] at ran
    split at ran <;> cases ran
    rename_i slot held
    exact .commit slot trafficId len held
  | _ =>
    simp only [execute] at ran
    split at ran <;> cases ran
    rename_i held
    constructor
    exact held

end Scg.SlotRing
