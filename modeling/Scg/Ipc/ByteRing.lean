import Scg.Ipc.SlotRing

namespace Scg.ByteRing
open Ipc Interaction

def SHM_MAGIC : UInt32 := 0x53434731
def SHM_VERSION : UInt32 := 1

-- Four `u32`s, two capacities and two index blocks of 24 bytes, padded to the
-- cache-line alignment of the page.
def SHM_CONTROL_SIZE : Nat := 128

structure Ring where
  cap : Nat
  dataLen : Nat
  fits : cap ≤ dataLen

-- The geometry words are read here, before the peer gets the descriptors, and never again.
structure Mapping where
  controlLen : Nat
  magic : UInt32
  version : UInt32
  ctlCapC2g : UInt64
  ctlCapG2c : UInt64
  capC2g : Nat
  capG2c : Nat

def attach (m : Mapping) : Except ShmError Unit :=
  if m.controlLen < SHM_CONTROL_SIZE then .error .tooSmall
  else if m.magic ≠ SHM_MAGIC then .error .badMagic
  else if m.version ≠ SHM_VERSION then .error .badVersion
  else .ok ()

def gatewayRings (m : Mapping) : Except ShmError (Ring × Ring) := do
  attach m
  if big : m.ctlCapC2g.toNat > m.capC2g ∨ m.ctlCapG2c.toNat > m.capG2c then .error .badGeometry
  else
    .ok (⟨m.ctlCapC2g.toNat,m.capC2g,by omega⟩,⟨m.ctlCapG2c.toNat,m.capG2c,by omega⟩)

inductive Op where
  | loadWriteIdx
  | loadReadIdx
  | storeWriteIdx (word : UInt64)
  | storeReadIdx (word : UInt64)
  | copyIn (off : Nat) (src : List UInt8)
  | copyOut (off n : Nat)
  deriving DecidableEq

abbrev Reply : Op → Type
  | .loadWriteIdx => UInt64
  | .loadReadIdx => UInt64
  | .copyOut _ n => Vector UInt8 n
  | _ => Unit

abbrev Call := Program Op Reply

def loadWriteIdx : Call UInt64 := .request .loadWriteIdx .ret
def loadReadIdx : Call UInt64 := .request .loadReadIdx .ret
def storeWriteIdx (word : UInt64) : Call Unit := .request (.storeWriteIdx word) .ret
def storeReadIdx (word : UInt64) : Call Unit := .request (.storeReadIdx word) .ret
def copyIn (off : Nat) (src : List UInt8) : Call Unit := .request (.copyIn off src) .ret
def copyOut (off n : Nat) : Call (Vector UInt8 n) := .request (.copyOut off n) .ret

def writeWrapping (r : Ring) (off : Nat) (src : List UInt8) : Call Nat := do
  let n := src.length
  if n = 0 then return off
  let first := min n (r.cap-off)
  copyIn off (src.take first)
  if n > first then
    copyIn 0 (src.drop first)
  return (off+n) % r.cap

def copies : Op → Bool
  | .copyIn _ _ => true
  | _ => false

theorem writeWrapping_copies (r : Ring) (off : Nat) (src : List UInt8) :
    (writeWrapping r off src).Every (copies · = true) (fun _ => True) := by
  unfold writeWrapping
  by_cases none : src.length = 0
  · simp [none]
  · by_cases more : src.length > min src.length (r.cap-off) <;> simp [none,more,copyIn,copies]

def tryPush (r : Ring) (frame : Frame) : Call (Except ShmError Bool) := do
  let total := FRAME_HEADER_LEN+frame.payload.length
  if total > r.cap then return .error .frameTooLarge
  let write ← loadWriteIdx
  let read ← loadReadIdx
  let used := (write-read).toNat
  if used > r.cap then return .error .ringCorrupt
  if r.cap-used < total then return .ok false
  let off ← writeWrapping r (write.toNat % r.cap) (SlotRing.header frame)
  let _ ← writeWrapping r off frame.payload
  storeWriteIdx (write+UInt64.ofNat total)
  return .ok true

def isEmpty : Call Bool := do
  let write ← loadWriteIdx
  let read ← loadReadIdx
  return (write-read).toNat < FRAME_HEADER_LEN

def readWrappingPtr (r : Ring) (off n : Nat) : Call (Vector UInt8 n) :=
  if n = 0 then return Vector.replicate n 0
  else do
    let head ← copyOut off (min n (r.cap-off))
    if more : n > min n (r.cap-off) then
      let tail ← copyOut 0 (n-min n (r.cap-off))
      return (head ++ tail).cast (by omega)
    else
      return head.cast (by omega)

def readWrapping (r : Ring) (off n : Nat) : Call (Vector UInt8 n × Nat) := do
  let dst ← readWrappingPtr r off n
  return (dst,if n = 0 then off else (off+n) % r.cap)

structure Next where
  read : UInt64
  off : Nat
  len : Nat
  trafficId : UInt32

def nextFrame (r : Ring) : Call (Option Next) := do
  let read ← loadReadIdx
  let write ← loadWriteIdx
  let avail := min (write-read).toNat r.cap
  if avail < FRAME_HEADER_LEN then return none
  let (header,off) ← readWrapping r (read.toNat % r.cap) FRAME_HEADER_LEN
  let (len,trafficId) := decodeHeader header
  if len.toNat > r.cap-FRAME_HEADER_LEN || avail < FRAME_HEADER_LEN+len.toNat then return none
  return some ⟨read,off,len.toNat,trafficId⟩

def consumeFrame (read : UInt64) (len : Nat) : Call Unit :=
  storeReadIdx (read+UInt64.ofNat (FRAME_HEADER_LEN+len))

def tryPopInto (r : Ring) : Call (Option Frame) := do
  let some next ← nextFrame r | return none
  let dst ← readWrappingPtr r next.off next.len
  consumeFrame next.read next.len
  return some ⟨next.trafficId,dst.toList⟩

-- A frame longer than `out` is truncated and still consumed whole.
def tryPopIntoSlice (r : Ring) (room : Nat) : Call (Option Frame) := do
  let some next ← nextFrame r | return none
  let out ← readWrappingPtr r next.off (min next.len room)
  consumeFrame next.read next.len
  return some ⟨next.trafficId,out.toList⟩

end Scg.ByteRing
