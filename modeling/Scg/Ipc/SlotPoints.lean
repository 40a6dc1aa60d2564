import Scg.Ipc.SlotMachine

namespace Scg.SlotRing
open Ipc Interaction

-- The program points of the ring calls: `call` is what remains of the source function at
-- that point, `next` the point its next access leads to.
inductive PushPoint where
  | loadWritePos
  | loadSeq (pos : UInt64)
  | loadReadPos (inPlace : Bool) (pos : UInt64)
  | copyHeader (inPlace : Bool) (pos : UInt64) (wasEmpty : Bool)
  | copyPayload (pos : UInt64) (wasEmpty : Bool)
  | storeSeq (pos : UInt64) (wasEmpty : Bool)
  | storeWritePos (pos : UInt64) (wasEmpty : Bool)
  | returned (result : Except ShmError PushOutcome)

namespace PushPoint

def atStoreWritePos (pos : UInt64) (wasEmpty : Bool) : Call (Except ShmError PushOutcome) :=
  .request (.storeWritePos (pos+1)) fun _ => .ret (.ok (.pushed wasEmpty))
def atStoreSeq (g : Geometry) (pos : UInt64) (wasEmpty : Bool) : Call (Except ShmError PushOutcome) :=
  .request (.storeSeq (g.index pos) (pos+1)) fun _ => atStoreWritePos pos wasEmpty
def atCopyPayload (g : Geometry) (frame : Frame) (pos : UInt64) (wasEmpty : Bool) :
    Call (Except ShmError PushOutcome) :=
  .request (.copyIn (g.slot (g.index pos)+FRAME_HEADER_LEN) frame.payload) fun _ => atStoreSeq g pos wasEmpty
def atCopyHeader (g : Geometry) (frame : Frame) (inPlace : Bool) (pos : UInt64) (wasEmpty : Bool) :
    Call (Except ShmError PushOutcome) :=
  .request (.copyIn (g.slot (g.index pos)) (header frame)) fun _ =>
    if inPlace then atStoreSeq g pos wasEmpty else atCopyPayload g frame pos wasEmpty
def atLoadReadPos (g : Geometry) (frame : Frame) (inPlace : Bool) (pos : UInt64) :
    Call (Except ShmError PushOutcome) :=
  .request .loadReadPos fun readPos => atCopyHeader g frame inPlace pos (readPos == pos)
def atLoadSeq (g : Geometry) (frame : Frame) (pos : UInt64) : Call (Except ShmError PushOutcome) :=
  .request (.loadSeq (g.index pos)) fun seq =>
    match checkSeq g seq pos with
    | .full => .ret (.ok .full)
    | .corrupt => .ret (.error .ringCorrupt)
    | .free => atLoadReadPos g frame false pos

def call (g : Geometry) (frame : Frame) : PushPoint → Call (Except ShmError PushOutcome)
  | .loadWritePos => .request .loadWritePos (atLoadSeq g frame)
  | .loadSeq pos => atLoadSeq g frame pos
  | .loadReadPos inPlace pos => atLoadReadPos g frame inPlace pos
  | .copyHeader inPlace pos wasEmpty => atCopyHeader g frame inPlace pos wasEmpty
  | .copyPayload pos wasEmpty => atCopyPayload g frame pos wasEmpty
  | .storeSeq pos wasEmpty => atStoreSeq g pos wasEmpty
  | .storeWritePos pos wasEmpty => atStoreWritePos pos wasEmpty
  | .returned result => .ret result

def next (g : Geometry) (s : Shared) : PushPoint → PushPoint
  | .loadWritePos => .loadSeq s.writePos
  | .loadSeq pos =>
    match checkSeq g (s.seq (g.index pos)) pos with
    | .full => .returned (.ok .full)
    | .corrupt => .returned (.error .ringCorrupt)
    | .free => .loadReadPos false pos
  | .loadReadPos inPlace pos => .copyHeader inPlace pos (s.readPos == pos)
  | .copyHeader inPlace pos wasEmpty => if inPlace then .storeSeq pos wasEmpty else .copyPayload pos wasEmpty
  | .copyPayload pos wasEmpty => .storeSeq pos wasEmpty
  | .storeSeq pos wasEmpty => .storeWritePos pos wasEmpty
  | .storeWritePos _ wasEmpty => .returned (.ok (.pushed wasEmpty))
  | .returned result => .returned result

def effect (g : Geometry) (frame : Frame) (s : Shared) : PushPoint → Shared
  | .copyHeader _ pos _ => {s with data := ByteMemory.write s.data (g.slot (g.index pos)) (header frame)}
  | .copyPayload pos _ =>
    {s with data := ByteMemory.write s.data (g.slot (g.index pos)+FRAME_HEADER_LEN) frame.payload}
  | .storeSeq pos _ => {s with seq := Function.update s.seq (g.index pos) (pos+1)}
  | .storeWritePos pos _ => {s with writePos := pos+1}
  | _ => s

def publishes : PushPoint → Bool
  | .storeSeq _ _ => true
  | _ => false

end PushPoint

theorem tryPush_call (g : Geometry) (frame : Frame) : tryPush g frame =
    if frame.payload.length > g.maxPayload then .ret (.error .frameTooLarge)
    else PushPoint.call g frame .loadWritePos := by
  unfold tryPush
  split <;> rfl

theorem commit_call (g : Geometry) (frame : Frame) (pos : UInt64) :
    commit g ⟨g.index pos,pos⟩ frame.trafficId frame.payload.length =
    if frame.payload.length > g.maxPayload then .ret (.error .frameTooLarge)
    else PushPoint.call g frame (.loadReadPos true pos) := by
  unfold commit
  split <;> rfl

inductive ReservePoint where
  | loadWritePos
  | loadSeq (pos : UInt64)
  | returned (result : Except ShmError (Option ReservedSlot))

namespace ReservePoint

def atLoadSeq (g : Geometry) (pos : UInt64) : Call (Except ShmError (Option ReservedSlot)) :=
  .request (.loadSeq (g.index pos)) fun seq =>
    match checkSeq g seq pos with
    | .full => .ret (.ok none)
    | .corrupt => .ret (.error .ringCorrupt)
    | .free => .ret (.ok (some ⟨g.index pos,pos⟩))

def call (g : Geometry) : ReservePoint → Call (Except ShmError (Option ReservedSlot))
  | .loadWritePos => .request .loadWritePos (atLoadSeq g)
  | .loadSeq pos => atLoadSeq g pos
  | .returned result => .ret result

def next (g : Geometry) (s : Shared) : ReservePoint → ReservePoint
  | .loadWritePos => .loadSeq s.writePos
  | .loadSeq pos =>
    match checkSeq g (s.seq (g.index pos)) pos with
    | .full => .returned (.ok none)
    | .corrupt => .returned (.error .ringCorrupt)
    | .free => .returned (.ok (some ⟨g.index pos,pos⟩))
  | .returned result => .returned result

end ReservePoint

theorem stepProducer_point (point : PushPoint) (live : ∀ result, point ≠ .returned result)
    (running : m.producer = .publishing frame (point.call g frame)) :
    stepProducer m = some {m with
      shared := point.effect g frame m.shared
      producer := .publishing frame ((point.next g m.shared).call g frame)
      pushed := if point.publishes then m.pushed ++ [frame] else m.pushed} := by
  unfold stepProducer
  rw [running]
  cases point with
  | loadSeq pos =>
    simp only [PushPoint.call,PushPoint.atLoadSeq,PushPoint.next,Shared.perform]
    cases checkSeq g (m.shared.seq (g.index pos)) pos <;> rfl
  | copyHeader inPlace pos wasEmpty => cases inPlace <;> rfl
  | returned result => exact absurd rfl (live result)
  | _ => rfl

theorem stepProducer_returned (running : m.producer = .publishing frame (PushPoint.call g frame (.returned result))) :
    stepProducer m = some {m with
      producer := .idle
      acknowledged := if isPushed result then m.acknowledged ++ [frame] else m.acknowledged
      reports := m.reports ++ [result]} := by
  unfold stepProducer
  rw [running]
  rfl

theorem stepProducer_reserve (point : ReservePoint) (live : ∀ result, point ≠ .returned result)
    (running : m.producer = .reserving (point.call g)) :
    stepProducer m = some {m with producer := .reserving ((point.next g m.shared).call g)} := by
  unfold stepProducer
  rw [running]
  cases point with
  | loadWritePos => rfl
  | loadSeq pos =>
    simp only [ReservePoint.call,ReservePoint.atLoadSeq,ReservePoint.next,Shared.perform]
    cases checkSeq g (m.shared.seq (g.index pos)) pos <;> rfl
  | returned result => exact absurd rfl (live result)

inductive ReadyPoint where
  | loadReadPos
  | loadSeq (pos : UInt64)
  | copyHeader (pos : UInt64)
  | found (ready : Option Ready)

namespace ReadyPoint

def decode (g : Geometry) (pos : UInt64) (hdr : Vector UInt8 FRAME_HEADER_LEN) : Ready :=
  ⟨pos,g.index pos,min (decodeHeader hdr).1.toNat g.maxPayload,(decodeHeader hdr).2⟩

def atCopyHeader (g : Geometry) (pos : UInt64) : Call (Option Ready) :=
  .request (.copyOut (g.slot (g.index pos)) FRAME_HEADER_LEN) fun hdr => .ret (some (decode g pos hdr))
def atLoadSeq (g : Geometry) (pos : UInt64) : Call (Option Ready) :=
  .request (.loadSeq (g.index pos)) fun seq =>
    if !isReady seq pos then .ret none else atCopyHeader g pos

def call (g : Geometry) : ReadyPoint → Call (Option Ready)
  | .loadReadPos => .request .loadReadPos (atLoadSeq g)
  | .loadSeq pos => atLoadSeq g pos
  | .copyHeader pos => atCopyHeader g pos
  | .found ready => .ret ready

def next (g : Geometry) (s : Shared) : ReadyPoint → ReadyPoint
  | .loadReadPos => .loadSeq s.readPos
  | .loadSeq pos => if !isReady (s.seq (g.index pos)) pos then .found none else .copyHeader pos
  | .copyHeader pos =>
    .found (some (decode g pos (ByteMemory.readVector s.data (g.slot (g.index pos)) FRAME_HEADER_LEN)))
  | .found ready => .found ready

end ReadyPoint

theorem ReadyPoint.call_step (g : Geometry) (s : Shared) (point : ReadyPoint) :
    (∃ ready, point = .found ready) ∨
    ∃ op next, point.call g = .request op next ∧ (s.perform op).2 = s ∧ marksReady op = false ∧
      next (s.perform op).1 = (point.next g s).call g := by
  cases point with
  | loadReadPos | copyHeader => exact .inr ⟨_,_,rfl,rfl,rfl,rfl⟩
  | loadSeq pos =>
    refine .inr ⟨_,_,rfl,rfl,rfl,?_⟩
    cases ready : isReady (s.seq (g.index pos)) pos <;> simp [Shared.perform,ReadyPoint.next,ReadyPoint.call,ready]
  | found ready => exact .inl ⟨ready,rfl⟩

def clip (room : Option Nat) (len : Nat) : Nat := (room.map (min len)).getD len

-- What follows the prologue in the pops and in `peek_frame`, and the release common to them.
def release (g : Geometry) (pos : UInt64) (idx : Nat) (result : α) : Call α :=
  .request (.storeSeq idx (pos+UInt64.ofNat g.capacity)) fun _ =>
    .request (.storeReadPos (pos+1)) fun _ => .ret result

def popRest (g : Geometry) (room : Option Nat) : Option Ready → Call (Option Frame)
  | none => .ret none
  | some ready =>
    .request (.copyOut (g.slot ready.idx+FRAME_HEADER_LEN) (clip room ready.len)) fun dst =>
      release g ready.pos ready.idx (some ⟨ready.trafficId,dst.toList⟩)

def peekRest (g : Geometry) : Option Ready → Call (Option Slice)
  | none => .ret none
  | some ready =>
    .request (.borrow (g.slot ready.idx) (FRAME_HEADER_LEN+ready.len)) fun _ =>
      .ret (some ⟨g.slot ready.idx,FRAME_HEADER_LEN+ready.len⟩)

inductive PopPoint where
  | looking (point : ReadyPoint)
  | storeSeq (pos : UInt64) (idx : Nat) (frame : Frame)
  | storeReadPos (pos : UInt64) (frame : Frame)
  | returned (frame : Frame)

def PopPoint.call (g : Geometry) (room : Option Nat) : PopPoint → Call (Option Frame)
  | .looking point => point.call g >>= popRest g room
  | .storeSeq pos idx frame => release g pos idx (some frame)
  | .storeReadPos pos frame => .request (.storeReadPos (pos+1)) fun _ => .ret (some frame)
  | .returned frame => .ret (some frame)

namespace PopPoint

def ended : PopPoint → Bool
  | .looking (.found none) => true
  | .returned _ => true
  | _ => false

def next (g : Geometry) (room : Option Nat) (s : Shared) : PopPoint → PopPoint
  | .looking (.found (some ready)) =>
    .storeSeq ready.pos ready.idx
      ⟨ready.trafficId,ByteMemory.read s.data (g.slot ready.idx+FRAME_HEADER_LEN) (clip room ready.len)⟩
  | .looking point => .looking (point.next g s)
  | .storeSeq pos _ frame => .storeReadPos pos frame
  | .storeReadPos _ frame => .returned frame
  | .returned frame => .returned frame

def effect (g : Geometry) (s : Shared) : PopPoint → Shared
  | .storeSeq pos idx _ => {s with seq := Function.update s.seq idx (pos+UInt64.ofNat g.capacity)}
  | .storeReadPos pos _ => {s with readPos := pos+1}
  | _ => s

def frees : PopPoint → Bool
  | .storeSeq _ _ _ => true
  | _ => false

end PopPoint

inductive PeekPoint where
  | looking (point : ReadyPoint)
  | returned (slice : Slice)

namespace PeekPoint

def call (g : Geometry) : PeekPoint → Call (Option Slice)
  | .looking point => point.call g >>= peekRest g
  | .returned slice => .ret (some slice)

def ended : PeekPoint → Bool
  | .looking (.found none) => true
  | .returned _ => true
  | _ => false

def next (g : Geometry) (s : Shared) : PeekPoint → PeekPoint
  | .looking (.found (some ready)) => .returned ⟨g.slot ready.idx,FRAME_HEADER_LEN+ready.len⟩
  | .looking point => .looking (point.next g s)
  | .returned slice => .returned slice

end PeekPoint

inductive CheckPoint where
  | loadReadPos
  | loadSeq (pos : UInt64)
  | returned (empty : Bool)

namespace CheckPoint

def atLoadSeq (g : Geometry) (pos : UInt64) : Call Bool :=
  .request (.loadSeq (g.index pos)) fun seq => .ret (!isReady seq pos)

def call (g : Geometry) : CheckPoint → Call Bool
  | .loadReadPos => .request .loadReadPos (atLoadSeq g)
  | .loadSeq pos => atLoadSeq g pos
  | .returned empty => .ret empty

def next (g : Geometry) (s : Shared) : CheckPoint → CheckPoint
  | .loadReadPos => .loadSeq s.readPos
  | .loadSeq pos => .returned (!isReady (s.seq (g.index pos)) pos)
  | .returned empty => .returned empty

end CheckPoint

inductive AdvancePoint where
  | loadReadPos
  | loadSeq (pos : UInt64)
  | storeSeq (pos : UInt64)
  | storeReadPos (pos : UInt64)
  | returned

namespace AdvancePoint

def atLoadSeq (g : Geometry) (pos : UInt64) : Call Unit :=
  .request (.loadSeq (g.index pos)) fun seq =>
    if !isReady seq pos then .ret () else release g pos (g.index pos) ()

def call (g : Geometry) : AdvancePoint → Call Unit
  | .loadReadPos => .request .loadReadPos (atLoadSeq g)
  | .loadSeq pos => atLoadSeq g pos
  | .storeSeq pos => release g pos (g.index pos) ()
  | .storeReadPos pos => .request (.storeReadPos (pos+1)) fun _ => .ret ()
  | .returned => .ret ()

def next (g : Geometry) (s : Shared) : AdvancePoint → AdvancePoint
  | .loadReadPos => .loadSeq s.readPos
  | .loadSeq pos => if !isReady (s.seq (g.index pos)) pos then .returned else .storeSeq pos
  | .storeSeq pos => .storeReadPos pos
  | .storeReadPos _ => .returned
  | .returned => .returned

def effect (g : Geometry) (s : Shared) : AdvancePoint → Shared
  | .storeSeq pos => {s with seq := Function.update s.seq (g.index pos) (pos+UInt64.ofNat g.capacity)}
  | .storeReadPos pos => {s with readPos := pos+1}
  | _ => s

def frees : AdvancePoint → Bool
  | .storeSeq _ => true
  | _ => false

end AdvancePoint

theorem tryPopInto_call (g : Geometry) : tryPopInto g = PopPoint.call g none (.looking .loadReadPos) := by
  change nextReady g >>= _ = nextReady g >>= _
  congr 1
  funext ready
  cases ready <;> rfl

theorem tryPopIntoSlice_call (g : Geometry) (room : Nat) :
    tryPopIntoSlice g room = PopPoint.call g (some room) (.looking .loadReadPos) := by
  change nextReady g >>= _ = nextReady g >>= _
  congr 1
  funext ready
  cases ready <;> rfl

theorem peekFrame_call (g : Geometry) : peekFrame g = ReadyPoint.call g .loadReadPos >>= peekRest g := by
  change nextReady g >>= _ = nextReady g >>= _
  congr 1
  funext ready
  cases ready <;> rfl

theorem advance_call (g : Geometry) : advance g = AdvancePoint.call g .loadReadPos := rfl

theorem isEmpty_call (g : Geometry) : isEmpty g = CheckPoint.call g .loadReadPos := rfl

theorem stepConsumer_pop (point : PopPoint) (live : point.ended = false)
    (running : m.consumer = .popping room (point.call g room)) :
    stepConsumer m = some {m with
      shared := point.effect g m.shared
      consumer := .popping room ((point.next g room m.shared).call g room)
      released := if point.frees then m.released+1 else m.released} := by
  unfold stepConsumer
  rw [running]
  cases point with
  | looking point =>
    rcases point.call_step g m.shared with ⟨ready,rfl⟩ | ⟨op,next,asked,same,quiet,moved⟩
    · cases ready with
      | none => cases live
      | some ready =>
        simp only [PopPoint.call,ReadyPoint.call,Program.ret_bind,popRest,Shared.perform,
          ByteMemory.readVector_toList]
        rfl
    · have ahead : PopPoint.next g room m.shared (.looking point) = .looking (point.next g m.shared) := by
        cases point with
        | found ready => cases asked
        | _ => rfl
      simp only [PopPoint.call,asked,Program.request_bind,ahead,same,quiet,moved]
      rfl
  | storeSeq | storeReadPos => rfl
  | returned frame => cases live

theorem stepConsumer_popped (running : m.consumer = .popping room (PopPoint.call g room (.returned frame))) :
    stepConsumer m = some {m with consumer := .idle,obtained := m.obtained ++ [⟨frame,room⟩]} := by
  unfold stepConsumer
  rw [running]
  rfl

theorem stepConsumer_nothing (running : m.consumer = .popping room (PopPoint.call g room (.looking (.found none)))) :
    stepConsumer m = some {m with consumer := .idle} := by
  unfold stepConsumer
  rw [running]
  rfl

theorem stepConsumer_peek (point : PeekPoint) (live : point.ended = false)
    (running : m.consumer = .peeking (point.call g)) :
    stepConsumer m = some {m with consumer := .peeking ((point.next g m.shared).call g)} := by
  unfold stepConsumer
  rw [running]
  cases point with
  | looking point =>
    rcases point.call_step g m.shared with ⟨ready,rfl⟩ | ⟨op,next,asked,same,_,moved⟩
    · cases ready with
      | none => cases live
      | some ready => rfl
    · have ahead : PeekPoint.next g m.shared (.looking point) = .looking (point.next g m.shared) := by
        cases point with
        | found ready => cases asked
        | _ => rfl
      simp only [PeekPoint.call,asked,Program.request_bind,ahead,same,moved]
  | returned slice => cases live

theorem stepConsumer_advance (point : AdvancePoint) (live : point ≠ .returned)
    (running : m.consumer = .advancing (point.call g)) :
    stepConsumer m = some {m with
      shared := point.effect g m.shared
      consumer := .advancing ((point.next g m.shared).call g)
      released := if point.frees then m.released+1 else m.released} := by
  unfold stepConsumer
  rw [running]
  cases point with
  | loadSeq pos =>
    cases ready : isReady (m.shared.seq (g.index pos)) pos with
    | false | true =>
      simp [AdvancePoint.call,AdvancePoint.atLoadSeq,AdvancePoint.next,AdvancePoint.effect,
        AdvancePoint.frees,Shared.perform,marksReady,ready]
  | returned => exact absurd rfl live
  | _ => rfl

theorem stepConsumer_check (point : CheckPoint) (live : ∀ empty, point ≠ .returned empty)
    (running : m.consumer = .checking (point.call g)) :
    stepConsumer m = some {m with consumer := .checking ((point.next g m.shared).call g)} := by
  unfold stepConsumer
  rw [running]
  cases point with
  | loadReadPos | loadSeq => rfl
  | returned empty => exact absurd rfl (live empty)

end Scg.SlotRing
