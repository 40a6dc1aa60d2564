import Scg.Library.Transition
import Scg.Ipc.SlotRing

namespace Scg.SlotRing
open Ipc Interaction

structure Shared where
  writePos : UInt64
  readPos : UInt64
  seq : Nat → UInt64
  data : Nat → UInt8

-- `init_ring_control`; the data segment keeps whatever the mapping holds.
def initRingControl (data : Nat → UInt8) : Shared :=
  {writePos := 0,readPos := 0,seq := fun i => UInt64.ofNat i,data := data}

-- An honest memory: a load returns the last value stored.
def Shared.perform (s : Shared) : (op : Op) → Reply op × Shared
  | .loadWritePos => (s.writePos,s)
  | .loadReadPos => (s.readPos,s)
  | .loadSeq idx => (s.seq idx,s)
  | .storeSeq idx word => ((),{s with seq := Function.update s.seq idx word})
  | .storeWritePos word => ((),{s with writePos := word})
  | .storeReadPos word => ((),{s with readPos := word})
  | .copyIn off src => ((),{s with data := ByteMemory.write s.data off src})
  | .copyOut off n => (ByteMemory.readVector s.data off n,s)
  | .borrow _ _ => ((),s)

-- What the one producer is doing: nothing, a running call, or holding a
-- `ReservedSlot` that it fills before it commits or drops it.
inductive Producer where
  | idle
  | publishing (frame : Frame) (call : Call (Except ShmError PushOutcome))
  | reserving (call : Call (Except ShmError (Option ReservedSlot)))
  | reserved (slot : ReservedSlot)

-- `room` is the length of the caller's slice, absent for a growable buffer.
inductive Consumer where
  | idle
  | popping (room : Option Nat) (call : Call (Option Frame))
  | peeking (call : Call (Option Slice))
  | peeked (slice : Slice)
  | advancing (call : Call Unit)
  | checking (call : Call Bool)

structure Obtained where
  frame : Frame
  room : Option Nat

-- A frame is pushed by the store that marks its slot READY and acknowledged when its call
-- returns `Pushed`; a slot is released by the consumer's store to its sequence.
structure Machine where
  shared : Shared
  producer : Producer
  consumer : Consumer
  pushed : List Frame
  acknowledged : List Frame
  reports : List (Except ShmError PushOutcome)
  obtained : List Obtained
  released : Nat

def initial (data : Nat → UInt8) : Machine :=
  {shared := initRingControl data,producer := .idle,consumer := .idle,pushed := [],acknowledged := [],
    reports := [],obtained := [],released := 0}

inductive Action where
  | tryPush (frame : Frame)
  | reserve
  | fill (start : Nat) (bytes : List UInt8)
  | commit (trafficId : UInt32) (len : Nat)
  | abandon
  | producer
  | tryPopInto
  | tryPopIntoSlice (room : Nat)
  | peekFrame
  | unpeek
  | advance
  | isEmpty
  | consumer

def marksReady : Op → Bool
  | .storeSeq _ _ => true
  | _ => false

def isPushed : Except ShmError PushOutcome → Bool
  | .ok (.pushed _) => true
  | _ => false

def payloadOf (g : Geometry) (s : Shared) (slot : ReservedSlot) (len : Nat) : List UInt8 :=
  ByteMemory.read s.data (g.slot slot.idx+FRAME_HEADER_LEN) len

def Slice.frame (slice : Slice) (s : Shared) : Frame :=
  ⟨(decodeHeader (ByteMemory.readVector s.data slice.off FRAME_HEADER_LEN)).2,
    ByteMemory.read s.data (slice.off+FRAME_HEADER_LEN) (slice.len-FRAME_HEADER_LEN)⟩

def stepProducer (m : Machine) : Option Machine :=
  match m.producer with
  | .publishing frame (.request op next) =>
    let (reply,shared) := m.shared.perform op
    some {m with
      shared := shared
      producer := .publishing frame (next reply)
      pushed := if marksReady op then m.pushed ++ [frame] else m.pushed}
  | .publishing frame (.ret result) =>
    some {m with
      producer := .idle
      acknowledged := if isPushed result then m.acknowledged ++ [frame] else m.acknowledged
      reports := m.reports ++ [result]}
  | .reserving (.request op next) =>
    let (reply,shared) := m.shared.perform op
    some {m with shared := shared,producer := .reserving (next reply)}
  | .reserving (.ret (.ok (some slot))) => some {m with producer := .reserved slot}
  | .reserving (.ret (.ok none)) => some {m with producer := .idle,reports := m.reports ++ [.ok .full]}
  | .reserving (.ret (.error e)) => some {m with producer := .idle,reports := m.reports ++ [.error e]}
  | _ => none

def stepConsumer (m : Machine) : Option Machine :=
  match m.consumer with
  | .popping room (.request op next) =>
    let (reply,shared) := m.shared.perform op
    some {m with
      shared := shared
      consumer := .popping room (next reply)
      released := if marksReady op then m.released+1 else m.released}
  | .popping room (.ret (some frame)) =>
    some {m with consumer := .idle,obtained := m.obtained ++ [⟨frame,room⟩]}
  | .popping _ (.ret none) => some {m with consumer := .idle}
  | .peeking (.request op next) =>
    let (reply,shared) := m.shared.perform op
    some {m with shared := shared,consumer := .peeking (next reply)}
  | .peeking (.ret (some slice)) => some {m with consumer := .peeked slice}
  | .peeking (.ret none) => some {m with consumer := .idle}
  | .advancing (.request op next) =>
    let (reply,shared) := m.shared.perform op
    some {m with
      shared := shared
      consumer := .advancing (next reply)
      released := if marksReady op then m.released+1 else m.released}
  | .advancing (.ret ()) => some {m with consumer := .idle}
  | .checking (.request op next) =>
    let (reply,shared) := m.shared.perform op
    some {m with shared := shared,consumer := .checking (next reply)}
  | .checking (.ret _) => some {m with consumer := .idle}
  | _ => none

-- A new call starts only on a thread that has none; `fill`, `commit` and `abandon`
-- need the reservation, `advance` the peeked slice, as the borrows demand.
def execute (g : Geometry) (m : Machine) : Action → Option Machine
  | .tryPush frame =>
    match m.producer with
    | .idle => some {m with producer := .publishing frame (SlotRing.tryPush g frame)}
    | _ => none
  | .reserve =>
    match m.producer with
    | .idle => some {m with producer := .reserving (SlotRing.reserve g)}
    | _ => none
  | .fill start bytes =>
    match m.producer with
    | .reserved slot =>
      if start+bytes.length ≤ g.maxPayload then
        some {m with shared := {m.shared with
          data := ByteMemory.write m.shared.data (g.slot slot.idx+FRAME_HEADER_LEN+start) bytes}}
      else none
    | _ => none
  | .commit trafficId len =>
    match m.producer with
    | .reserved slot =>
      let frame : Frame := ⟨trafficId,payloadOf g m.shared slot len⟩
      some {m with producer := .publishing frame (SlotRing.commit g slot trafficId len)}
    | _ => none
  | .abandon =>
    match m.producer with
    | .reserved _ => some {m with producer := .idle}
    | _ => none
  | .producer => stepProducer m
  | .tryPopInto =>
    match m.consumer with
    | .idle => some {m with consumer := .popping none (SlotRing.tryPopInto g)}
    | _ => none
  | .tryPopIntoSlice room =>
    match m.consumer with
    | .idle => some {m with consumer := .popping (some room) (SlotRing.tryPopIntoSlice g room)}
    | _ => none
  | .peekFrame =>
    match m.consumer with
    | .idle => some {m with consumer := .peeking (SlotRing.peekFrame g)}
    | _ => none
  | .unpeek =>
    match m.consumer with
    | .peeked _ => some {m with consumer := .idle}
    | _ => none
  | .advance =>
    match m.consumer with
    | .peeked slice =>
      some {m with
        consumer := .advancing (SlotRing.advance g)
        obtained := m.obtained ++ [⟨slice.frame m.shared,none⟩]}
    | _ => none
  | .isEmpty =>
    match m.consumer with
    | .idle => some {m with consumer := .checking (SlotRing.isEmpty g)}
    | _ => none
  | .consumer => stepConsumer m

def system (g : Geometry) : Transition.System Machine Action where
  initial m := ∃ data, m = initial data
  step := execute g

end Scg.SlotRing
