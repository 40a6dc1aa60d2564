import Scg.Ipc.SlotPoints

namespace Scg.SlotRing
open Ipc Interaction Function

variable {g : Geometry} {data : Nat → UInt8} {seq : Nat → UInt64} {pushed : List Frame} {released : Nat}
structure Holds (g : Geometry) (data : Nat → UInt8) (idx : Nat) (frame : Frame) : Prop where
  header : ByteMemory.readVector data (g.slot idx) FRAME_HEADER_LEN =
    encodeHeader (UInt32.ofNat frame.payload.length) frame.trafficId
  payload : ByteMemory.read data (g.slot idx+FRAME_HEADER_LEN) frame.payload.length = frame.payload
  fits : frame.payload.length ≤ g.maxPayload

theorem slot_apart (g : Geometry) (different : i ≠ j) :
    g.slot i+g.segmentSize ≤ g.slot j ∨ g.slot j+g.segmentSize ≤ g.slot i := by
  unfold Geometry.slot
  rcases Nat.lt_or_gt_of_ne different with less | greater
  · left
    rw [← Nat.succ_mul]
    exact Nat.mul_le_mul_right _ less
  · right
    rw [← Nat.succ_mul]
    exact Nat.mul_le_mul_right _ greater

def InSlot (g : Geometry) (idx off len : Nat) : Prop :=
  g.slot idx ≤ off ∧ off+len ≤ g.slot idx+g.segmentSize

theorem inSlot_header (g : Geometry) (idx : Nat) : InSlot g idx (g.slot idx) FRAME_HEADER_LEN := by
  have fill := g.payload_fits
  exact ⟨Nat.le_refl _,by omega⟩

theorem inSlot_payload (fits : n ≤ g.maxPayload) : InSlot g idx (g.slot idx+FRAME_HEADER_LEN) n := by
  have fill := g.payload_fits
  exact ⟨Nat.le_add_right _ _,by omega⟩

theorem inSlot_frame (fits : n ≤ g.maxPayload) : InSlot g idx (g.slot idx) (FRAME_HEADER_LEN+n) := by
  have fill := g.payload_fits
  exact ⟨Nat.le_refl _,by omega⟩

theorem Holds.write_other (holds : Holds g data idx frame)
    (different : idx ≠ other) (inside : InSlot g other off src.length) :
    Holds g (ByteMemory.write data off src) idx frame := by
  obtain ⟨low,high⟩ := inside
  have room := g.payload_fits
  have fits := holds.fits
  have apart := slot_apart g different
  refine ⟨?_,?_,fits⟩
  · rw [ByteMemory.readVector_write_outside (by omega)]
    exact holds.header
  · rw [ByteMemory.read_write_outside (by omega)]
    exact holds.payload

-- Positions below `released` are free again, those up to `pushed` hold frames, and
-- the rest of the lap is free; each slot's word says which of these it is.
structure RingValid (g : Geometry) (seq : Nat → UInt64) (data : Nat → UInt8) (pushed : List Frame)
    (released : Nat) : Prop where
  behind : released ≤ pushed.length
  within : pushed.length ≤ released+g.capacity
  ready : ∀ p, released ≤ p → p < pushed.length → seq (p % g.capacity) = UInt64.ofNat (p+1)
  free : ∀ p, pushed.length ≤ p → p < released+g.capacity → seq (p % g.capacity) = UInt64.ofNat p
  stored : ∀ p frame, released ≤ p → pushed[p]? = some frame → Holds g data (p % g.capacity) frame

theorem slots_differ (g : Geometry) (low : p < q) (near : q < p+g.capacity) : p % g.capacity ≠ q % g.capacity := by
  intro same
  have equal := Wrapping.mod_inj_near (Nat.le_of_lt low) near same
  omega

theorem initial_ring (g : Geometry) (data : Nat → UInt8) :
    RingValid g (initRingControl data).seq data [] 0 := by
  refine ⟨Nat.le_refl _,Nat.zero_le _,?_,?_,?_⟩
  · intro p _ below
    exact absurd below (Nat.not_lt_zero p)
  · intro p _ below
    change UInt64.ofNat (p % g.capacity) = UInt64.ofNat p
    rw [Nat.mod_eq_of_lt (by omega)]
  · intro p frame _ present
    simp at present

section
variable (ring : RingValid g seq data pushed released)
include ring

theorem RingValid.write (off : Nat) (src : List UInt8)
    (room : pushed.length < released+g.capacity)
    (inside : InSlot g (pushed.length % g.capacity) off src.length) :
    RingValid g seq (ByteMemory.write data off src) pushed released := by
  refine ⟨ring.behind,ring.within,ring.ready,ring.free,?_⟩
  intro p frame low present
  have below : p < pushed.length := (List.getElem?_eq_some_iff.mp present).1
  exact (ring.stored p frame low present).write_other (slots_differ g below (by omega)) inside

theorem RingValid.publish (room : pushed.length < released+g.capacity)
    (holds : Holds g data (pushed.length % g.capacity) frame) :
    RingValid g (Function.update seq (pushed.length % g.capacity) (UInt64.ofNat (pushed.length+1)))
      data (pushed ++ [frame]) released := by
  have behind := ring.behind
  refine ⟨by simp; omega,by simp; omega,?_,?_,?_⟩
  · intro p low below
    rw [List.length_append,List.length_singleton] at below
    by_cases last : p = pushed.length
    · subst p
      rw [Function.update_self]
    · rw [Function.update_of_ne (slots_differ g (by omega) (by omega))]
      exact ring.ready p low (by omega)
  · intro p low below
    rw [List.length_append,List.length_singleton] at low
    rw [Function.update_of_ne (Ne.symm (slots_differ g (by omega) (by omega)))]
    exact ring.free p (by omega) below
  · intro p other low present
    by_cases old : p < pushed.length
    · rw [List.getElem?_append_left old] at present
      exact ring.stored p other low present
    · rw [List.getElem?_append_right (by omega)] at present
      obtain ⟨single,equal⟩ := List.getElem?_eq_some_iff.mp present
      have last : p = pushed.length := by
        rw [List.length_singleton] at single
        omega
      subst last
      have same : frame = other := by simpa using present
      rwa [← same]

theorem RingValid.release (some_left : released < pushed.length) :
    RingValid g (update seq (released % g.capacity) (UInt64.ofNat (released+g.capacity)))
      data pushed (released+1) := by
  have within := ring.within
  refine ⟨some_left,by omega,?_,?_,?_⟩
  · intro p low below
    rw [update_of_ne (Ne.symm (slots_differ g (by omega) (by omega)))]
    exact ring.ready p (by omega) below
  · intro p low below
    by_cases lap : p = released+g.capacity
    · subst lap
      rw [Nat.add_mod_right,update_self]
    · rw [update_of_ne (Ne.symm (slots_differ g (by omega) (by omega)))]
      exact ring.free p low (by omega)
  · intro p other low present
    exact ring.stored p other (by omega) present

end

def Settled (m : Machine) : Prop :=
  m.shared.writePos = UInt64.ofNat m.pushed.length ∧ m.pushed = m.acknowledged

def HasRoom (g : Geometry) (m : Machine) : Prop := m.pushed.length < m.released+g.capacity

def Working (g : Geometry) (m : Machine) (frame : Frame) (pos : UInt64) : Prop :=
  Settled m ∧ frame.payload.length ≤ g.maxPayload ∧ pos = UInt64.ofNat m.pushed.length ∧ HasRoom g m

def PayloadIn (g : Geometry) (m : Machine) (frame : Frame) : Prop :=
  ByteMemory.read m.shared.data (g.slot (m.pushed.length % g.capacity)+FRAME_HEADER_LEN)
    frame.payload.length = frame.payload

def HeaderIn (g : Geometry) (m : Machine) (frame : Frame) : Prop :=
  ByteMemory.readVector m.shared.data (g.slot (m.pushed.length % g.capacity)) FRAME_HEADER_LEN =
    encodeHeader (UInt32.ofNat frame.payload.length) frame.trafficId

def PushFacts (g : Geometry) (m : Machine) (frame : Frame) : PushPoint → Prop
  | .loadWritePos => Settled m ∧ frame.payload.length ≤ g.maxPayload
  | .loadSeq pos =>
    Settled m ∧ frame.payload.length ≤ g.maxPayload ∧ pos = UInt64.ofNat m.pushed.length
  | .loadReadPos inPlace pos => Working g m frame pos ∧ (inPlace = true → PayloadIn g m frame)
  | .copyHeader inPlace pos _ => Working g m frame pos ∧ (inPlace = true → PayloadIn g m frame)
  | .copyPayload pos _ => Working g m frame pos ∧ HeaderIn g m frame
  | .storeSeq pos _ => Working g m frame pos ∧ HeaderIn g m frame ∧ PayloadIn g m frame
  | .storeWritePos pos _ =>
    m.pushed = m.acknowledged ++ [frame] ∧ pos = UInt64.ofNat m.acknowledged.length
  | .returned (.ok (.pushed _)) =>
    m.pushed = m.acknowledged ++ [frame] ∧ m.shared.writePos = UInt64.ofNat m.pushed.length
  | .returned (.ok .full) => Settled m
  | .returned (.error e) => Settled m ∧ e ≠ .ringCorrupt

def ReserveFacts (g : Geometry) (m : Machine) : ReservePoint → Prop
  | .loadWritePos => True
  | .loadSeq pos => pos = UInt64.ofNat m.pushed.length
  | .returned (.ok (some slot)) =>
    slot = ⟨g.index (UInt64.ofNat m.pushed.length),UInt64.ofNat m.pushed.length⟩ ∧ HasRoom g m
  | .returned (.ok none) => True
  | .returned (.error e) => e ≠ .ringCorrupt

def ProducerValid (g : Geometry) (m : Machine) : Prop :=
  match m.producer with
  | .idle => Settled m
  | .publishing frame call => ∃ point, call = PushPoint.call g frame point ∧ PushFacts g m frame point
  | .reserving call => Settled m ∧ ∃ point, call = ReservePoint.call g point ∧ ReserveFacts g m point
  | .reserved slot =>
    Settled m ∧ slot = ⟨g.index (UInt64.ofNat m.pushed.length),UInt64.ofNat m.pushed.length⟩ ∧ HasRoom g m

-- What a step of the consumer may change under the producer.
structure ProducerSees (m next : Machine) : Prop where
  producer : next.producer = m.producer
  writePos : next.shared.writePos = m.shared.writePos
  data : next.shared.data = m.shared.data
  pushed : next.pushed = m.pushed
  acknowledged : next.acknowledged = m.acknowledged
  released : m.released ≤ next.released

theorem ProducerSees.room (sees : ProducerSees m next) (room : HasRoom g m) : HasRoom g next := by
  unfold HasRoom
  rw [sees.pushed]
  exact Nat.lt_of_lt_of_le room (Nat.add_le_add_right sees.released _)

theorem PushFacts.stable (facts : PushFacts g m frame point)
    (sees : ProducerSees m next) : PushFacts g next frame point := by
  have free := sees.room (g := g)
  obtain ⟨⟨⟩⟩ := m
  obtain ⟨rfl,rfl,rfl,rfl,rfl,_⟩ := sees
  cases point with
  | loadReadPos | copyHeader | copyPayload | storeSeq =>
    obtain ⟨⟨settled,fits,same,room⟩,rest⟩ := facts
    exact ⟨⟨settled,fits,same,free room⟩,rest⟩
  | returned result =>
    match result with
    | .ok (.pushed _) | .ok .full | .error _ => exact facts
  | _ => exact facts

theorem ProducerValid.stable (valid : ProducerValid g m) (sees : ProducerSees m next) :
    ProducerValid g next := by
  have free := sees.room (g := g)
  have kept := fun frame point (facts : PushFacts g m frame point) => facts.stable sees
  obtain ⟨⟨⟩,producer⟩ := m
  obtain ⟨⟨⟩,producer⟩ := next
  obtain ⟨rfl,rfl,rfl,rfl,rfl,_⟩ := sees
  cases producer with
  | idle => exact valid
  | publishing frame call =>
    obtain ⟨point,same,facts⟩ := valid
    exact ⟨point,same,kept frame point facts⟩
  | reserving call =>
    obtain ⟨quiet,point,same,facts⟩ := valid
    refine ⟨quiet,point,same,?_⟩
    match point with
    | .returned (.ok (some slot)) => exact ⟨facts.1,free facts.2⟩
    | .loadWritePos | .loadSeq _ | .returned (.ok none) | .returned (.error _) => exact facts
  | reserved slot => exact ⟨valid.1,valid.2.1,free valid.2.2⟩

def clipFrame (room : Option Nat) (frame : Frame) : Frame :=
  ⟨frame.trafficId,frame.payload.take (clip room frame.payload.length)⟩

def Quiet (m : Machine) : Prop :=
  m.shared.readPos = UInt64.ofNat m.released ∧ m.obtained.length = m.released

def NextFrame (m : Machine) (frame : Frame) : Prop := m.pushed[m.released]? = some frame

def ReadyFacts (g : Geometry) (m : Machine) : ReadyPoint → Prop
  | .loadReadPos => True
  | .loadSeq pos => pos = UInt64.ofNat m.released
  | .copyHeader pos => pos = UInt64.ofNat m.released ∧ m.released < m.pushed.length
  | .found none => True
  | .found (some ready) =>
    ready.pos = UInt64.ofNat m.released ∧ ready.idx = g.index (UInt64.ofNat m.released) ∧
      ∃ frame, NextFrame m frame ∧ ready.len = frame.payload.length ∧ ready.trafficId = frame.trafficId

-- The slot is given back but its frame not yet handed to the caller.
def Freed (m : Machine) (room : Option Nat) (frame : Frame) : Prop :=
  m.obtained.length+1 = m.released ∧
    ∃ whole, m.pushed[m.obtained.length]? = some whole ∧ frame = clipFrame room whole

def PopFacts (g : Geometry) (m : Machine) (room : Option Nat) : PopPoint → Prop
  | .looking point => Quiet m ∧ ReadyFacts g m point
  | .storeSeq pos idx frame =>
    Quiet m ∧ pos = UInt64.ofNat m.released ∧ idx = g.index pos ∧
      ∃ whole, NextFrame m whole ∧ frame = clipFrame room whole
  | .storeReadPos pos frame => Freed m room frame ∧ pos = UInt64.ofNat m.obtained.length
  | .returned frame => Freed m room frame ∧ m.shared.readPos = UInt64.ofNat m.released

def Shows (g : Geometry) (m : Machine) (slice : Slice) : Prop :=
  ∃ frame, NextFrame m frame ∧
    slice = ⟨g.slot (g.index (UInt64.ofNat m.released)),FRAME_HEADER_LEN+frame.payload.length⟩

def PeekFacts (g : Geometry) (m : Machine) : PeekPoint → Prop
  | .looking point => Quiet m ∧ ReadyFacts g m point
  | .returned slice => Quiet m ∧ Shows g m slice

-- `advance` runs with the peeked frame already counted as obtained.
def Ahead (m : Machine) : Prop :=
  m.shared.readPos = UInt64.ofNat m.released ∧ m.obtained.length = m.released+1 ∧
    m.released < m.pushed.length

def AdvanceFacts (m : Machine) : AdvancePoint → Prop
  | .loadReadPos => Ahead m
  | .loadSeq pos => Ahead m ∧ pos = UInt64.ofNat m.released
  | .storeSeq pos => Ahead m ∧ pos = UInt64.ofNat m.released
  | .storeReadPos pos => m.obtained.length = m.released ∧ pos+1 = UInt64.ofNat m.released
  | .returned => Quiet m

def CheckFacts (m : Machine) : CheckPoint → Prop
  | .loadReadPos => True
  | .loadSeq pos => pos = UInt64.ofNat m.released
  | .returned _ => True

def ConsumerValid (g : Geometry) (m : Machine) : Prop :=
  match m.consumer with
  | .idle => Quiet m
  | .popping room call => ∃ point, call = PopPoint.call g room point ∧ PopFacts g m room point
  | .peeking call => ∃ point, call = PeekPoint.call g point ∧ PeekFacts g m point
  | .peeked slice => Quiet m ∧ Shows g m slice
  | .advancing call => ∃ point, call = AdvancePoint.call g point ∧ AdvanceFacts m point
  | .checking call => Quiet m ∧ ∃ point, call = CheckPoint.call g point ∧ CheckFacts m point

structure ConsumerSees (m next : Machine) : Prop where
  consumer : next.consumer = m.consumer
  readPos : next.shared.readPos = m.shared.readPos
  released : next.released = m.released
  obtained : next.obtained = m.obtained
  pushed : m.pushed <+: next.pushed

theorem prefix_getElem {i : Nat} (initial : one <+: two) (present : one[i]? = some a) : two[i]? = some a := by
  obtain ⟨more,rfl⟩ := initial
  rwa [List.getElem?_append_left (List.getElem?_eq_some_iff.mp present).1]

section ConsumerSees
section
variable (sees : ConsumerSees m next)
include sees

theorem ConsumerSees.nextFrame (present : NextFrame m frame) : NextFrame next frame := by
  unfold NextFrame
  rw [sees.released]
  exact prefix_getElem sees.pushed present

theorem ConsumerSees.ready (facts : ReadyFacts g m point) : ReadyFacts g next point := by
  have kept := fun frame (present : NextFrame m frame) => sees.nextFrame present
  have longer := sees.pushed.length_le
  obtain ⟨⟨⟩⟩ := m
  obtain ⟨rfl,rfl,rfl,rfl,_⟩ := sees
  match point with
  | .copyHeader pos => exact ⟨facts.1,Nat.lt_of_lt_of_le facts.2 longer⟩
  | .found (some ready) =>
    obtain ⟨pos,idx,frame,present,rest⟩ := facts
    exact ⟨pos,idx,frame,kept frame present,rest⟩
  | .loadReadPos | .loadSeq _ | .found none => exact facts

end

theorem ConsumerValid.stable (valid : ConsumerValid g m) (sees : ConsumerSees m next) : ConsumerValid g next := by
  have kept := fun frame (present : NextFrame m frame) => sees.nextFrame present
  have ready := fun point (facts : ReadyFacts g m point) => sees.ready facts
  have longer := sees.pushed.length_le
  have grown := fun i frame (present : m.pushed[i]? = some frame) => prefix_getElem sees.pushed present
  obtain ⟨⟨⟩,_,consumer⟩ := m
  obtain ⟨⟨⟩,_,consumer⟩ := next
  obtain ⟨rfl,rfl,rfl,rfl,_⟩ := sees
  cases consumer with
  | idle => exact valid
  | popping room call =>
    obtain ⟨point,same,facts⟩ := valid
    refine ⟨point,same,?_⟩
    cases point with
    | looking point => exact ⟨facts.1,ready point facts.2⟩
    | storeSeq pos idx frame =>
      obtain ⟨quiet,position,index,whole,present,cut⟩ := facts
      exact ⟨quiet,position,index,whole,kept whole present,cut⟩
    | storeReadPos | returned =>
      obtain ⟨⟨count,whole,present,cut⟩,position⟩ := facts
      exact ⟨⟨count,whole,grown _ whole present,cut⟩,position⟩
  | peeking call =>
    obtain ⟨point,same,facts⟩ := valid
    refine ⟨point,same,?_⟩
    cases point with
    | looking point => exact ⟨facts.1,ready point facts.2⟩
    | returned slice =>
      obtain ⟨quiet,frame,present,shown⟩ := facts
      exact ⟨quiet,frame,kept frame present,shown⟩
  | peeked slice =>
    obtain ⟨quiet,frame,present,shown⟩ := valid
    exact ⟨quiet,frame,kept frame present,shown⟩
  | advancing call =>
    obtain ⟨point,same,facts⟩ := valid
    refine ⟨point,same,?_⟩
    cases point with
    | loadReadPos =>
      obtain ⟨position,count,left⟩ := facts
      exact ⟨position,count,Nat.lt_of_lt_of_le left longer⟩
    | loadSeq | storeSeq =>
      obtain ⟨⟨position,count,left⟩,here⟩ := facts
      exact ⟨⟨position,count,Nat.lt_of_lt_of_le left longer⟩,here⟩
    | storeReadPos | returned => exact facts
  | checking call =>
    obtain ⟨quiet,point,same,facts⟩ := valid
    refine ⟨quiet,point,same,?_⟩
    cases point <;> exact facts

end ConsumerSees

end Scg.SlotRing
