import Scg.Library.ByteMemory
import Scg.Library.Interaction
import Scg.Library.Wrapping
import Scg.Ipc.Frame

namespace Scg.Ipc

inductive ShmError where
  | tooSmall | badMagic | badVersion | badGeometry | frameTooLarge | ringCorrupt
  deriving DecidableEq,Repr

end Scg.Ipc

namespace Scg.SlotRing
open Ipc Interaction

def CACHE_LINE : Nat := 64

def isPowerOfTwo (n : Nat) : Bool := n == 2^n.log2

def validateGeometry (capacity segmentSize : Nat) : Except ShmError Unit :=
  if capacity < 2 || !isPowerOfTwo capacity then .error .badGeometry
  else if segmentSize < CACHE_LINE || segmentSize % CACHE_LINE != 0 || segmentSize ≤ FRAME_HEADER_LEN then
    .error .badGeometry
  else .ok ()

-- What both constructors hand to a producer and a consumer; `segment_size` reaches them
-- as a widened `u32`.
structure Geometry where
  capacity : Nat
  segmentSize : Nat
  validated : validateGeometry capacity segmentSize = .ok ()
  capacity_usize : capacity < 2^64
  segment_u32 : segmentSize < 2^32

namespace Geometry

def mask (g : Geometry) : UInt64 := UInt64.ofNat (g.capacity-1)
def index (g : Geometry) (pos : UInt64) : Nat := (pos &&& g.mask).toNat
def maxPayload (g : Geometry) : Nat := g.segmentSize-FRAME_HEADER_LEN
def slot (g : Geometry) (idx : Nat) : Nat := idx*g.segmentSize

end Geometry

def smallest : Geometry :=
  {capacity := 2,segmentSize := 64,validated := rfl,capacity_usize := by decide,segment_u32 := by decide}

def SLOT_MAGIC : UInt32 := 0x53434732
def SLOT_VERSION : UInt32 := 1
def SLOT_HEADER_SIZE : Nat := 4*CACHE_LINE

-- `align` is a power of two, so clearing its low bits is rounding to a multiple.
def roundUp (v align : Nat) : Nat := (v+align-1)/align*align
def ringControlBytes (capacity : Nat) : Nat := SLOT_HEADER_SIZE+roundUp (capacity*8) CACHE_LINE
def slotControlSize (capacity : Nat) : Nat := 2*ringControlBytes capacity
def ringDataBytes (capacity segmentSize : Nat) : Nat := capacity*segmentSize

structure RingHeader where
  magic : UInt32
  version : UInt32

def attachRingHeader (hdr : RingHeader) : Except ShmError Unit :=
  if hdr.magic ≠ SLOT_MAGIC then .error .badMagic
  else if hdr.version ≠ SLOT_VERSION then .error .badVersion
  else .ok ()

-- The one caller widens both geometry words from `u32`, so none of the size products can wrap.
structure Mapping where
  controlLen : Nat
  capacity : UInt32
  segmentSize : UInt32
  dataC2gLen : Nat
  dataG2cLen : Nat
  c2g : RingHeader
  g2c : RingHeader

-- Both halves get the one geometry, each over its own header and data mapping.
def gatewaySlotRings (m : Mapping) : Except ShmError Geometry :=
  match valid : validateGeometry m.capacity.toNat m.segmentSize.toNat with
  | .error e => .error e
  | .ok () =>
    let need := ringDataBytes m.capacity.toNat m.segmentSize.toNat
    if m.controlLen < slotControlSize m.capacity.toNat then .error .tooSmall
    else if m.dataC2gLen < need || m.dataG2cLen < need then .error .badGeometry
    else do
      attachRingHeader m.c2g
      attachRingHeader m.g2c
      return ⟨m.capacity.toNat,m.segmentSize.toNat,valid,Nat.lt_trans m.capacity.toNat_lt (by decide),
        m.segmentSize.toNat_lt⟩

-- The accesses of either side; the geometry words are read once at attach and never again.
inductive Op where
  | loadWritePos
  | loadReadPos
  | loadSeq (idx : Nat)
  | storeSeq (idx : Nat) (word : UInt64)
  | storeWritePos (word : UInt64)
  | storeReadPos (word : UInt64)
  | copyIn (off : Nat) (src : List UInt8)
  | copyOut (off n : Nat)
  | borrow (off n : Nat)
  deriving DecidableEq

abbrev Reply : Op → Type
  | .loadWritePos => UInt64
  | .loadReadPos => UInt64
  | .loadSeq _ => UInt64
  | .copyOut _ n => Vector UInt8 n
  | _ => Unit

abbrev Call := Program Op Reply

def loadWritePos : Call UInt64 := .request .loadWritePos .ret
def loadReadPos : Call UInt64 := .request .loadReadPos .ret
def loadSeq (idx : Nat) : Call UInt64 := .request (.loadSeq idx) .ret
def storeSeq (idx : Nat) (word : UInt64) : Call Unit := .request (.storeSeq idx word) .ret
def storeWritePos (word : UInt64) : Call Unit := .request (.storeWritePos word) .ret
def storeReadPos (word : UInt64) : Call Unit := .request (.storeReadPos word) .ret
def copyIn (off : Nat) (src : List UInt8) : Call Unit := .request (.copyIn off src) .ret
def copyOut (off n : Nat) : Call (Vector UInt8 n) := .request (.copyOut off n) .ret
def borrow (off n : Nat) : Call Unit := .request (.borrow off n) .ret

inductive PushOutcome where
  | full
  | pushed (wasEmpty : Bool)
  deriving DecidableEq,Repr

inductive SlotState where
  | free | full | corrupt
  deriving DecidableEq

-- The three-way match both `try_push` and `reserve` make on the loaded word.
def checkSeq (g : Geometry) (seq pos : UInt64) : SlotState :=
  let diff := (seq-pos).toInt64
  if diff = 0 then .free
  else if diff = 1-(UInt64.ofNat g.capacity).toInt64 then .full
  else .corrupt

def isReady (seq pos : UInt64) : Bool := (seq-(pos+1)).toInt64 == 0

def header (frame : Frame) : List UInt8 :=
  (encodeHeader (UInt32.ofNat frame.payload.length) frame.trafficId).toList

def tryPush (g : Geometry) (frame : Frame) : Call (Except ShmError PushOutcome) := do
  if frame.payload.length > g.maxPayload then return .error .frameTooLarge
  let pos ← loadWritePos
  let idx := g.index pos
  let seq ← loadSeq idx
  match checkSeq g seq pos with
  | .full => return .ok .full
  | .corrupt => return .error .ringCorrupt
  | .free =>
    let readPos ← loadReadPos
    let wasEmpty := readPos == pos
    copyIn (g.slot idx) (header frame)
    copyIn (g.slot idx+FRAME_HEADER_LEN) frame.payload
    storeSeq idx (pos+1)
    storeWritePos (pos+1)
    return .ok (.pushed wasEmpty)

structure ReservedSlot where
  idx : Nat
  pos : UInt64
  deriving DecidableEq

def reserve (g : Geometry) : Call (Except ShmError (Option ReservedSlot)) := do
  let pos ← loadWritePos
  let idx := g.index pos
  let seq ← loadSeq idx
  match checkSeq g seq pos with
  | .full => return .ok none
  | .corrupt => return .error .ringCorrupt
  | .free => return .ok (some ⟨idx,pos⟩)

-- The writable view: the caller fills any part of it until it commits.
def payloadMut (g : Geometry) (slot : ReservedSlot) : Call Unit :=
  borrow (g.slot slot.idx+FRAME_HEADER_LEN) g.maxPayload

def commit (g : Geometry) (slot : ReservedSlot) (trafficId : UInt32) (len : Nat) :
    Call (Except ShmError PushOutcome) := do
  if len > g.maxPayload then return .error .frameTooLarge
  let readPos ← loadReadPos
  let wasEmpty := readPos == slot.pos
  copyIn (g.slot slot.idx) (encodeHeader (UInt32.ofNat len) trafficId).toList
  storeSeq slot.idx (slot.pos+1)
  storeWritePos (slot.pos+1)
  return .ok (.pushed wasEmpty)

def isEmpty (g : Geometry) : Call Bool := do
  let pos ← loadReadPos
  let seq ← loadSeq (g.index pos)
  return !isReady seq pos

structure Ready where
  pos : UInt64
  idx : Nat
  len : Nat
  trafficId : UInt32

def nextReady (g : Geometry) : Call (Option Ready) := do
  let pos ← loadReadPos
  let idx := g.index pos
  let seq ← loadSeq idx
  if !isReady seq pos then return none
  let hdr ← copyOut (g.slot idx) FRAME_HEADER_LEN
  let (len,trafficId) := decodeHeader hdr
  return some ⟨pos,idx,min len.toNat g.maxPayload,trafficId⟩

def releaseSlot (g : Geometry) (pos : UInt64) (idx : Nat) : Call Unit := do
  storeSeq idx (pos+UInt64.ofNat g.capacity)
  storeReadPos (pos+1)

def tryPopInto (g : Geometry) : Call (Option Frame) := do
  let some ready ← nextReady g | return none
  let dst ← copyOut (g.slot ready.idx+FRAME_HEADER_LEN) ready.len
  releaseSlot g ready.pos ready.idx
  return some ⟨ready.trafficId,dst.toList⟩

-- The frame returned is the traffic id with the bytes written to `out`.
def tryPopIntoSlice (g : Geometry) (room : Nat) : Call (Option Frame) := do
  let some ready ← nextReady g | return none
  let out ← copyOut (g.slot ready.idx+FRAME_HEADER_LEN) (min ready.len room)
  releaseSlot g ready.pos ready.idx
  return some ⟨ready.trafficId,out.toList⟩

structure Slice where
  off : Nat
  len : Nat
  deriving DecidableEq

def peekFrame (g : Geometry) : Call (Option Slice) := do
  let some ready ← nextReady g | return none
  let total := FRAME_HEADER_LEN+ready.len
  borrow (g.slot ready.idx) total
  return some ⟨g.slot ready.idx,total⟩

def advance (g : Geometry) : Call Unit := do
  let pos ← loadReadPos
  let idx := g.index pos
  let seq ← loadSeq idx
  if !isReady seq pos then return ()
  releaseSlot g pos idx

theorem header_length (frame : Frame) : (header frame).length = FRAME_HEADER_LEN := by simp [header]

theorem toInt64_eq_zero {word : UInt64} : word.toInt64 = 0 ↔ word = 0 := by
  constructor
  · intro zero
    have back : word.toInt64.toUInt64 = (0 : UInt64) := congrArg Int64.toUInt64 zero
    simpa using back
  · rintro rfl
    rfl

theorem sub_eq_zero_iff {one two : UInt64} : one-two = 0 ↔ one = two := by
  constructor
  · grind
  · rintro rfl
    exact UInt64.sub_self _

theorem checkSeq_free_iff : checkSeq g seq pos = .free ↔ seq = pos := by
  rw [← sub_eq_zero_iff,← toInt64_eq_zero]
  simp only [checkSeq]
  split
  · simp [*]
  · rename_i occupied
    split <;> simpa using occupied

theorem isReady_iff {seq pos : UInt64} : isReady seq pos = true ↔ seq = pos+1 := by
  rw [← sub_eq_zero_iff,← toInt64_eq_zero]
  simp [isReady]

namespace Geometry
variable (g : Geometry)

theorem validated_parts : 2 ≤ g.capacity ∧ g.capacity = 2^g.capacity.log2 ∧
    CACHE_LINE ≤ g.segmentSize ∧ g.segmentSize % CACHE_LINE = 0 := by
  have checked := g.validated
  unfold validateGeometry at checked
  split at checked
  · cases checked
  · rename_i capacity
    split at checked
    · cases checked
    · rename_i segment
      simp [isPowerOfTwo] at capacity segment
      exact ⟨capacity.1,capacity.2,segment.1.1,segment.1.2⟩

theorem capacity_pow : ∃ k, 1 ≤ k ∧ k ≤ 63 ∧ g.capacity = 2^k := by
  obtain ⟨two,power,_,_⟩ := g.validated_parts
  refine ⟨g.capacity.log2,?_,?_,power⟩
  · exact (Nat.le_log2 (by omega)).mpr two
  · have small : g.capacity.log2 < 64 := (Nat.log2_lt (by omega)).mpr g.capacity_usize
    omega

theorem capacity_bound : 2 ≤ g.capacity ∧ g.capacity ≤ 2^63 := by
  obtain ⟨k,_,bound,power⟩ := g.capacity_pow
  refine ⟨g.validated_parts.1,?_⟩
  rw [power]
  exact Nat.pow_le_pow_right (by decide) bound

theorem payload_fits : FRAME_HEADER_LEN+g.maxPayload = g.segmentSize := by
  obtain ⟨_,_,line,_⟩ := g.validated_parts
  unfold maxPayload
  simp only [CACHE_LINE,FRAME_HEADER_LEN] at *
  omega

theorem index_ofNat (p : Nat) : g.index (UInt64.ofNat p) = p % g.capacity := by
  obtain ⟨k,_,bound,power⟩ := g.capacity_pow
  unfold index mask
  rw [power]
  exact Wrapping.index_toNat (by omega)

end Geometry

theorem checkSeq_full (g : Geometry) (p : Nat) :
    checkSeq g (UInt64.ofNat (p+1)) (UInt64.ofNat (p+g.capacity)) = .full := by
  have distance : UInt64.ofNat (p+1)-UInt64.ofNat (p+g.capacity) = 1-UInt64.ofNat g.capacity := by
    rw [← Wrapping.ofNat_add p 1,← Wrapping.ofNat_add p g.capacity]
    grind
  have occupied : (1-UInt64.ofNat g.capacity).toInt64 ≠ 0 := by
    obtain ⟨two,bound⟩ := g.capacity_bound
    rw [ne_eq,toInt64_eq_zero,sub_eq_zero_iff]
    intro same
    have equal := (Wrapping.ofNat_inj_near (a := 1) (b := g.capacity) (by omega) (by omega)).mp same
    omega
  unfold checkSeq
  simp only [distance,occupied]
  simp

end Scg.SlotRing
