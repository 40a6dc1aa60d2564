import Scg.Ipc.ByteRing
import Scg.Ipc.SlotInvariant
import Scg.Library.Checks

namespace Scg.SlotRing
open Ipc Interaction List Checks Program

variable {g : Geometry}

theorem le_roundUp (v : Nat) (positive : 0 < align) : v ≤ roundUp v align := by
  unfold roundUp
  have split := Nat.div_add_mod (v+align-1) align
  have rest := Nat.mod_lt (v+align-1) positive
  rw [Nat.mul_comm] at split
  omega

structure Sized (m : Mapping) (g : Geometry) : Prop where
  capacity : g.capacity = m.capacity.toNat
  segmentSize : g.segmentSize = m.segmentSize.toNat
  control : slotControlSize g.capacity ≤ m.controlLen
  fromClient : ringDataBytes g.capacity g.segmentSize ≤ m.dataC2gLen
  toClient : ringDataBytes g.capacity g.segmentSize ≤ m.dataG2cLen

theorem gatewaySlotRings_sized (accepted : gatewaySlotRings m = .ok g) : Sized m g := by
  unfold gatewaySlotRings at accepted
  split at accepted
  · cases accepted
  · obtain ⟨control,accepted⟩ := unless_ok accepted
    obtain ⟨sized,accepted⟩ := unless_ok accepted
    simp only [Bool.or_eq_true,decide_eq_true_eq,not_or,Nat.not_lt] at control sized
    obtain ⟨_,_,accepted⟩ := bind_ok accepted
    obtain ⟨_,_,accepted⟩ := bind_ok accepted
    cases accepted
    exact ⟨rfl,rfl,control,sized.1,sized.2⟩

-- The calls either half offers; a reservation is filled through its view and then committed.
inductive Operation where
  | tryPush (frame : Frame)
  | fillReserved (trafficId : UInt32) (len : Nat)
  | isEmpty
  | tryPopInto
  | tryPopIntoSlice (room : Nat)
  | peekFrame
  | advance

namespace Operation

def call (g : Geometry) : Operation → Call (Option Nat)
  | .tryPush frame => do
    let _ ← SlotRing.tryPush g frame
    return none
  | .fillReserved trafficId len => do
    let .ok (some slot) ← reserve g | return none
    payloadMut g slot
    let _ ← commit g slot trafficId len
    return none
  | .isEmpty => do
    let _ ← SlotRing.isEmpty g
    return none
  | .tryPopInto => do
    let popped ← SlotRing.tryPopInto g
    return popped.map (·.payload.length)
  | .tryPopIntoSlice room => do
    let popped ← SlotRing.tryPopIntoSlice g room
    return popped.map (·.payload.length)
  | .peekFrame => do
    let shown ← SlotRing.peekFrame g
    return shown.map (·.len-FRAME_HEADER_LEN)
  | .advance => do
    SlotRing.advance g
    return none

def produces : Operation → Bool
  | .tryPush _ | .fillReserved _ _ => true
  | _ => false

def position (op : Operation) (pos : UInt64) : Program.Event Op Reply :=
  if op.produces then ⟨.loadWritePos,pos⟩ else ⟨.loadReadPos,pos⟩

end Operation

def Within (g : Geometry) (idx : Nat) : Op → Prop
  | .loadSeq i | .storeSeq i _ => i = idx
  | .copyIn off src => InSlot g idx off src.length
  | .copyOut off n | .borrow off n => InSlot g idx off n
  | .loadWritePos | .loadReadPos | .storeWritePos _ | .storeReadPos _ => True

def writesSlot : Op → Bool
  | .copyIn _ _ | .borrow _ _ | .storeSeq _ _ => true
  | _ => false

def Afterwards (g : Geometry) (op : Operation) (pos seq : UInt64) (rest : Call (Option Nat)) : Prop :=
  rest.Every (fun access => Within g (g.index pos) access ∧
      (op.produces = true → writesSlot access = true → seq = pos))
    (fun len => ∀ n ∈ len, n ≤ g.maxPayload)

def opening (g : Geometry) (op : Operation) (rest : UInt64 → UInt64 → Call (Option Nat)) : Call (Option Nat) :=
  if op.produces then .request .loadWritePos fun pos => .request (.loadSeq (g.index pos)) (rest pos)
  else .request .loadReadPos fun pos => .request (.loadSeq (g.index pos)) (rest pos)

def Opens (g : Geometry) (op : Operation) : Prop :=
  ∃ rest, op.call g = opening g op rest ∧ ∀ pos seq, Afterwards g op pos seq (rest pos seq)

end Scg.SlotRing

namespace Scg.ByteRing
open Ipc Interaction Program

inductive Operation where
  | tryPush (frame : Frame)
  | isEmpty
  | tryPopInto
  | tryPopIntoSlice (room : Nat)

def Operation.call (r : Ring) : Operation → Call (Option Nat)
  | .tryPush frame => do
    let _ ← ByteRing.tryPush r frame
    return none
  | .isEmpty => do
    let _ ← ByteRing.isEmpty
    return none
  | .tryPopInto => do
    let popped ← ByteRing.tryPopInto r
    return popped.map (·.payload.length)
  | .tryPopIntoSlice room => do
    let popped ← ByteRing.tryPopIntoSlice r room
    return popped.map (·.payload.length)

def InRegion (r : Ring) : Op → Prop
  | .copyIn off src => off+src.length ≤ r.cap
  | .copyOut off n => off+n ≤ r.cap
  | .loadWriteIdx | .loadReadIdx | .storeWriteIdx _ | .storeReadIdx _ => True

theorem writeWrapping_inside (low : off < r.cap)
    (fits : src.length ≤ r.cap) : (writeWrapping r off src).Every (InRegion r) (· < r.cap) := by
  unfold writeWrapping
  by_cases none : src.length = 0
  · simp [none,low]
  · have wraps : (off+src.length) % r.cap < r.cap := Nat.mod_lt _ (by omega)
    by_cases more : src.length > min src.length (r.cap-off)
    all_goals
      simp [none,more,copyIn,InRegion]
      omega

theorem readWrappingPtr_inside (low : off < r.cap) (fits : n ≤ r.cap) :
    (readWrappingPtr r off n).Every (InRegion r) (fun _ => True) := by
  unfold readWrappingPtr
  by_cases none : n = 0
  · simp [none]
  · by_cases more : n > min n (r.cap-off)
    all_goals
      simp [none,more,copyOut,InRegion]
      omega

theorem readWrapping_inside (low : off < r.cap) (fits : n ≤ r.cap) :
    (readWrapping r off n).Every (InRegion r) (fun read => read.2 < r.cap) := by
  refine every_bind (readWrappingPtr_inside low fits) ?_
  have wraps : (off+n) % r.cap < r.cap := Nat.mod_lt _ (by omega)
  by_cases none : n = 0
  · simp [none,low]
  · simp [none,wraps]

theorem tryPush_inside (r : Ring) (frame : Frame) :
    (tryPush r frame).Every (InRegion r) (fun _ => True) := by
  unfold tryPush
  by_cases big : FRAME_HEADER_LEN+frame.payload.length > r.cap
  · simp [big]
  · simp only [if_neg big,loadReadIdx,request_bind,ret_bind]
    refine ⟨trivial,fun write => ⟨trivial,fun read => ?_⟩⟩
    by_cases corrupt : (write-read).toNat > r.cap
    · simp [corrupt]
    · by_cases full : r.cap-(write-read).toNat < FRAME_HEADER_LEN+frame.payload.length
      · simp [corrupt,full]
      · have room : FRAME_HEADER_LEN ≤ r.cap := by omega
        have positive : 0 < r.cap := Nat.lt_of_lt_of_le (by decide) room
        simp only [if_neg corrupt,if_neg full]
        refine every_bind (writeWrapping_inside (Nat.mod_lt _ positive)
          (by rw [SlotRing.header_length]; exact room)) ?_
        intro off low
        refine every_bind (writeWrapping_inside low (by omega)) ?_
        simp [storeWriteIdx,InRegion]

theorem nextFrame_inside (r : Ring) : (nextFrame r).Every (InRegion r)
    (fun found => ∀ next ∈ found, next.off < r.cap ∧ next.len ≤ r.cap-FRAME_HEADER_LEN) := by
  simp only [nextFrame,loadWriteIdx,request_bind,ret_bind]
  refine ⟨trivial,fun read => ⟨trivial,fun write => ?_⟩⟩
  by_cases empty : min (write-read).toNat r.cap < FRAME_HEADER_LEN
  · simp [empty]
  · have room : FRAME_HEADER_LEN ≤ r.cap := by omega
    have positive : 0 < r.cap := Nat.lt_of_lt_of_le (by decide) room
    simp only [if_neg empty]
    refine every_bind (readWrapping_inside (Nat.mod_lt _ positive) room) ?_
    rintro ⟨hdr,off⟩ low
    by_cases invalid : ((decodeHeader hdr).1.toNat > r.cap-FRAME_HEADER_LEN ||
        min (write-read).toNat r.cap < FRAME_HEADER_LEN+(decodeHeader hdr).1.toNat) = true
    · simp only [if_pos invalid]
      exact nofun
    · have sized : (decodeHeader hdr).1.toNat ≤ r.cap-FRAME_HEADER_LEN := by
        simp only [Bool.or_eq_true,decide_eq_true_eq,not_or,Nat.not_lt] at invalid
        exact invalid.1
      simp only [if_neg invalid]
      rintro next ⟨⟩
      exact ⟨low,sized⟩

def Bounded (r : Ring) (popped : Option Frame) : Prop :=
  ∀ frame ∈ popped, frame.payload.length ≤ r.cap-FRAME_HEADER_LEN

theorem pop_inside {next : Next} (low : next.off < r.cap) (fits : n ≤ r.cap-FRAME_HEADER_LEN) : (do
      let dst ← readWrappingPtr r next.off n
      consumeFrame next.read next.len
      return some ⟨next.trafficId,dst.toList⟩ : Call (Option Frame)).Every (InRegion r) (Bounded r) := by
  refine every_bind (readWrappingPtr_inside low (by omega)) ?_
  simp [consumeFrame,storeReadIdx,InRegion,Bounded,fits]

theorem tryPopInto_inside (r : Ring) : (tryPopInto r).Every (InRegion r) (Bounded r) := by
  refine every_bind (nextFrame_inside r) ?_
  rintro (_ | next) valid
  · simp [Bounded]
  · obtain ⟨low,sized⟩ := valid next rfl
    exact pop_inside low sized

theorem tryPopIntoSlice_inside (r : Ring) (room : Nat) :
    (tryPopIntoSlice r room).Every (InRegion r) (Bounded r) := by
  refine every_bind (nextFrame_inside r) ?_
  rintro (_ | next) valid
  · simp [Bounded]
  · obtain ⟨low,sized⟩ := valid next rfl
    exact pop_inside low (Nat.le_trans (Nat.min_le_left _ _) sized)

theorem Operation.inside (r : Ring) (op : Operation) :
    (op.call r).Every (InRegion r) (fun len => ∀ n ∈ len, n ≤ r.cap-FRAME_HEADER_LEN) := by
  cases op with
  | tryPush frame => exact every_bind (tryPush_inside r frame) (by simp)
  | isEmpty => simp [Operation.call,ByteRing.isEmpty,loadWriteIdx,loadReadIdx,InRegion]
  | tryPopInto => exact every_bind (tryPopInto_inside r) (by simp [Bounded])
  | tryPopIntoSlice room => exact every_bind (tryPopIntoSlice_inside r room) (by simp [Bounded])

def loads : Op → Bool
  | .loadWriteIdx | .loadReadIdx => true
  | _ => false

end Scg.ByteRing

namespace Scg.Ipc
open Interaction

end Scg.Ipc
