import Scg.Ipc.ByteRing
import Scg.Ipc.SlotFifo
import Scg.Library.Cyclic
import Scg.Library.Thread

namespace Scg.ByteRing
open Ipc Interaction
open SlotRing (Obtained)

structure Shared where
  writeIdx : UInt64
  readIdx : UInt64
  data : Nat → UInt8

-- `ShmControl::init` zeroes the indices; what the data region holds does not matter.
def Shared.init (data : Nat → UInt8) : Shared := {writeIdx := 0,readIdx := 0,data := data}

def Shared.perform (s : Shared) : (op : Op) → Reply op × Shared
  | .loadWriteIdx => (s.writeIdx,s)
  | .loadReadIdx => (s.readIdx,s)
  | .storeWriteIdx word => ((),{s with writeIdx := word})
  | .storeReadIdx word => ((),{s with readIdx := word})
  | .copyIn off src => ((),{s with data := ByteMemory.write s.data off src})
  | .copyOut off n => (ByteMemory.readVector s.data off n,s)

-- The shared pages, the frames whose `write_idx` store has happened, and how many are given back.
structure World where
  shared : Shared
  pushed : List Frame
  released : Nat

namespace World

def publish (frame : Frame) (op : Op) (w : World) : Reply op × World :=
  let (reply,shared) := w.shared.perform op
  (reply,{w with
    shared := shared
    pushed := match op with
      | .storeWriteIdx _ => w.pushed ++ [frame]
      | _ => w.pushed})

def consume (op : Op) (w : World) : Reply op × World :=
  let (reply,shared) := w.shared.perform op
  (reply,{w with
    shared := shared
    released := match op with
      | .storeReadIdx _ => w.released+1
      | _ => w.released})

end World

inductive Producer where
  | idle
  | publishing (frame : Frame) (call : Call (Except ShmError Bool))

inductive Consumer where
  | idle
  | popping (room : Option Nat) (call : Call (Option Frame))
  | checking (call : Call Bool)

structure Machine where
  world : World
  producer : Producer
  consumer : Consumer
  acknowledged : List Frame
  reports : List (Except ShmError Bool)
  obtained : List Obtained

def initial (data : Nat → UInt8) : Machine :=
  {world := {shared := Shared.init data,pushed := [],released := 0},producer := .idle,consumer := .idle,
    acknowledged := [],reports := [],obtained := []}

inductive Action where
  | tryPush (frame : Frame)
  | producer
  | tryPopInto
  | tryPopIntoSlice (room : Nat)
  | isEmpty
  | consumer

def isPushed : Except ShmError Bool → Bool
  | .ok true => true
  | _ => false

def stepProducer (m : Machine) : Option Machine :=
  match m.producer with
  | .publishing frame (.request op next) =>
    let (reply,world) := m.world.publish frame op
    some {m with world := world,producer := .publishing frame (next reply)}
  | .publishing frame (.ret result) =>
    some {m with
      producer := .idle
      acknowledged := if isPushed result then m.acknowledged ++ [frame] else m.acknowledged
      reports := m.reports ++ [result]}
  | .idle => none

def stepConsumer (m : Machine) : Option Machine :=
  match m.consumer with
  | .popping room (.request op next) =>
    let (reply,world) := m.world.consume op
    some {m with world := world,consumer := .popping room (next reply)}
  | .popping room (.ret (some frame)) =>
    some {m with consumer := .idle,obtained := m.obtained ++ [⟨frame,room⟩]}
  | .popping _ (.ret none) => some {m with consumer := .idle}
  | .checking (.request op next) =>
    let (reply,world) := m.world.consume op
    some {m with world := world,consumer := .checking (next reply)}
  | .checking (.ret _) => some {m with consumer := .idle}
  | .idle => none

def execute (r : Ring) (m : Machine) : Action → Option Machine
  | .tryPush frame =>
    match m.producer with
    | .idle => some {m with producer := .publishing frame (ByteRing.tryPush r frame)}
    | _ => none
  | .producer => stepProducer m
  | .tryPopInto =>
    match m.consumer with
    | .idle => some {m with consumer := .popping none (ByteRing.tryPopInto r)}
    | _ => none
  | .tryPopIntoSlice room =>
    match m.consumer with
    | .idle => some {m with consumer := .popping (some room) (ByteRing.tryPopIntoSlice r room)}
    | _ => none
  | .isEmpty =>
    match m.consumer with
    | .idle => some {m with consumer := .checking ByteRing.isEmpty}
    | _ => none
  | .consumer => stepConsumer m

def system (r : Ring) : Transition.System Machine Action where
  initial m := ∃ data, m = initial data
  step := execute r

def stream (frames : List Frame) : List UInt8 := frames.flatMap encodeInto

namespace World

def sent (w : World) : Nat := (stream w.pushed).length

def consumed (w : World) : Nat := (stream (w.pushed.take w.released)).length

end World

end Scg.ByteRing
