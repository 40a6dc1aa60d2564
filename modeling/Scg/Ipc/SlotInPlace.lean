import Scg.Ipc.SlotOwnership
import Scg.Library.Interleave

namespace Scg.SlotRing
open Ipc Interaction

variable {g : Geometry} {m : Machine} {data : Nat → UInt8} {slot : ReservedSlot}
-- A producer call beside the consumer thread: its accesses one by one, with any steps of
-- the consumer between them.
def beside (g : Geometry) : Setting Machine Action Op Reply where
  perform m op := ((m.shared.perform op).1,{m with shared := (m.shared.perform op).2})
  peer m action := if action.consumers then execute g m action else none

def Machine.withData (m : Machine) (data : Nat → UInt8) : Machine := {m with shared := {m.shared with data := data}}

def AgreeOutside (off n : Nat) (data other : Nat → UInt8) : Prop := ∀ i, i < off ∨ off+n ≤ i → data i = other i

structure Free (g : Geometry) (slot : ReservedSlot) (m : Machine) : Prop where
  idx : slot.idx = g.index slot.pos
  seq : m.shared.seq (g.index slot.pos) = slot.pos
  writePos : m.shared.writePos = slot.pos

section Accesses
variable {s : Shared}

theorem ready_apart (isFree : s.seq (g.index free) = free) (isReady : s.seq (g.index pos) = pos+1) :
    g.index pos ≠ g.index free := by
  intro same
  rw [same,isFree] at isReady
  exact marks_apart same.symm isReady

theorem spans_apart (different : g.index pos ≠ g.index free)
    (mine : InSlot g (g.index pos) at_ count) (inside : InSlot g (g.index free) off n)
    (agree : AgreeOutside off n data s.data) (i : Nat) (low : at_ ≤ i) (high : i < at_+count) : data i = s.data i := by
  apply agree
  have apart := slot_apart g different
  obtain ⟨from_,to_⟩ := mine
  obtain ⟨start,stop⟩ := inside
  omega

theorem consumer_access_follows (inside : InSlot g (g.index free) off n) (agree : AgreeOutside off n data s.data)
    (isFree : s.seq (g.index free) = free) (holds : Held g .consumer s reading) (may : Side.consumer.may op = true)
    (touches : Touches g reading op) :
    (Shared.perform {s with data := data} op).1 = (s.perform op).1 ∧
    (Shared.perform {s with data := data} op).2 = {(s.perform op).2 with data := data} := by
  cases op with
  | storeWritePos | copyIn => cases may
  | copyOut at_ count =>
    obtain ⟨pos,rfl,mine⟩ := touches
    have different := ready_apart isFree (holds pos rfl)
    refine ⟨?_,rfl⟩
    exact ByteMemory.readVector_congr (spans_apart different mine inside agree)
  | _ => exact ⟨rfl,rfl⟩

end Accesses

theorem stepConsumer_follows (inside : InSlot g (g.index free) off n)
    (agree : AgreeOutside off n data m.shared.data) (isFree : m.shared.seq (g.index free) = free)
    (stands : ConsumerAt g m.consumer reading) (holds : Held g .consumer m.shared reading)
    (ran : stepConsumer m = some next) : stepConsumer (m.withData data) = some (next.withData data) := by
  have same : (m.withData data).consumer = m.consumer := rfl
  unfold stepConsumer at ran ⊢
  rw [same]
  split at ran <;> rename_i doing <;> cases ran <;> rw [doing] at stands
  all_goals first
    | rfl
    | obtain ⟨reply,memory⟩ := consumer_access_follows inside agree isFree holds stands.1 stands.2.1
      simp only [Machine.withData,reply,memory]
      rfl

theorem peer_parts (ran : (beside g).peer m action = some next) :
    action.consumers = true ∧ execute g m action = some next := Option.ite_none_right_eq_some.mp ran

theorem frame_agrees {slice : Slice} (different : g.index pos ≠ g.index slot.pos)
    (mine : InSlot g (g.index pos) slice.off slice.len) (long : FRAME_HEADER_LEN ≤ slice.len)
    (inside : InSlot g (g.index slot.pos) off n) (agree : AgreeOutside off n data m.shared.data) :
    slice.frame (m.withData data).shared = slice.frame m.shared := by
  have same := spans_apart different mine inside agree
  have header : ByteMemory.readVector data slice.off FRAME_HEADER_LEN =
      ByteMemory.readVector m.shared.data slice.off FRAME_HEADER_LEN :=
    ByteMemory.readVector_congr fun i low high => same i low (by omega)
  have payload : ByteMemory.read data (slice.off+FRAME_HEADER_LEN) (slice.len-FRAME_HEADER_LEN) =
      ByteMemory.read m.shared.data (slice.off+FRAME_HEADER_LEN) (slice.len-FRAME_HEADER_LEN) :=
    ByteMemory.read_congr fun i low high => same i (by omega) (by omega)
  exact congrArg₂ Frame.mk (congrArg (fun hdr => (decodeHeader hdr).2) header) payload

theorem peer_follows (consuming : Consuming g m) (free : Free g slot m) (inside : InSlot g (g.index slot.pos) off n)
    (agree : AgreeOutside off n data m.shared.data) (ran : (beside g).peer m action = some next) :
    (beside g).peer (m.withData data) action = some (next.withData data) := by
  obtain ⟨theirs,ran⟩ := peer_parts ran
  obtain ⟨reading,stands,holds⟩ := consuming
  cases execute_enters ran with
  | tryPopInto idle | tryPopIntoSlice room idle | peekFrame idle | isEmpty idle =>
    simp [beside,Action.consumers,execute,Machine.withData,idle]
  | unpeek slice held => simp [beside,Action.consumers,execute,Machine.withData,held]
  | advance slice held =>
    rw [held] at stands
    obtain ⟨pos,rfl,mine,long⟩ := stands slice rfl
    have same := frame_agrees (ready_apart free.seq (holds pos rfl)) mine long inside agree
    simp [beside,Action.consumers,execute,Machine.withData,held] at same ⊢
    exact same
  | consumer moved => exact stepConsumer_follows inside agree free.seq stands holds moved
  | _ => cases theirs

theorem peer_keeps (consuming : Consuming g m) (ran : (beside g).peer m action = some next) :
    Consuming g next ∧ next.shared.writePos = m.shared.writePos ∧ next.shared.data = m.shared.data ∧
      ∀ pos, m.shared.seq (g.index pos) = pos → next.shared.seq (g.index pos) = pos := by
  obtain ⟨theirs,ran⟩ := peer_parts ran
  have moves := execute_consumer consuming theirs ran
  refine ⟨moves.steps.mine,moves.writePos,moves.data,?_⟩
  intro pos isFree
  refine moves.steps.theirs (some pos) ?_ pos rfl
  rintro _ ⟨rfl⟩
  exact isFree

theorem Free.peer (consuming : Consuming g m) (free : Free g slot m)
    (ran : (beside g).peer m action = some next) : Free g slot next := by
  obtain ⟨_,writePos,_,stays⟩ := peer_keeps consuming ran
  exact ⟨free.idx,stays slot.pos free.seq,writePos.trans free.writePos⟩

section Peers
theorem peers_keep (consuming : Consuming g m) (ran : (beside g).peers m actions = some after) :
    Consuming g after ∧ after.shared.writePos = m.shared.writePos ∧ after.shared.data = m.shared.data ∧
      ∀ pos, m.shared.seq (g.index pos) = pos → after.shared.seq (g.index pos) = pos := by
  refine Setting.peers_keep (I := fun next => Consuming g next ∧ next.shared.writePos = m.shared.writePos ∧
    next.shared.data = m.shared.data ∧ ∀ pos, m.shared.seq (g.index pos) = pos → next.shared.seq (g.index pos) = pos)
    ?_ ⟨consuming,rfl,rfl,fun _ isFree => isFree⟩ ran
  rintro one action two ⟨still,writePos,data,words⟩ moved
  obtain ⟨onward,same,bytes,free⟩ := peer_keeps still moved
  exact ⟨onward,same.trans writePos,bytes.trans data,fun pos isFree => free pos (words pos isFree)⟩

theorem Free.peers (consuming : Consuming g m) (free : Free g slot m)
    (ran : (beside g).peers m actions = some after) : Free g slot after := by
  obtain ⟨_,writePos,_,stays⟩ := peers_keep consuming ran
  exact ⟨free.idx,stays slot.pos free.seq,writePos.trans free.writePos⟩

theorem peers_follow (consuming : Consuming g m) (free : Free g slot m) (inside : InSlot g (g.index slot.pos) off n)
    (agree : AgreeOutside off n data m.shared.data) (ran : (beside g).peers m actions = some after) :
    (beside g).peers (m.withData data) actions = some (after.withData data) := by
  have followed := Setting.peers_follow (R := fun one two => Consuming g one ∧ Free g slot one ∧
    one.shared.data = m.shared.data ∧ two = one.withData data) ?_ ⟨consuming,free,rfl,rfl⟩ ran
  · obtain ⟨final,reached,_,_,_,rfl⟩ := followed
    exact reached
  · rintro one _ action two ⟨still,unused,bytes,rfl⟩ moved
    obtain ⟨onward,_,same,_⟩ := peer_keeps still moved
    rw [← bytes] at agree
    exact ⟨two.withData data,peer_follows still unused inside agree moved,onward,unused.peer still moved,
      same.trans bytes,rfl⟩

end Peers

def payloadAt (g : Geometry) (slot : ReservedSlot) : Nat := g.slot slot.idx+FRAME_HEADER_LEN

def fillEach (payload : Nat) : List (Nat × List UInt8) → Call Unit
  | [] => .ret ()
  | (start,bytes) :: rest => do
    copyIn (payload+start) bytes
    fillEach payload rest

def reserveAndFill (g : Geometry) (fills : List (Nat × List UInt8)) : Call (Except ShmError (Option ReservedSlot)) := do
  let result ← reserve g
  match result with
  | .ok (some slot) =>
    payloadMut g slot
    fillEach (payloadAt g slot) fills
    return .ok (some slot)
  | refused => return refused

def applyFills (data : Nat → UInt8) (off : Nat) : List (Nat × List UInt8) → Nat → UInt8
  | [] => data
  | (start,bytes) :: rest => applyFills (ByteMemory.write data (off+start) bytes) off rest

def FillsWithin (n : Nat) (fills : List (Nat × List UInt8)) : Prop := ∀ fill ∈ fills, fill.1+fill.2.length ≤ n

structure Writes (fills : List (Nat × List UInt8)) (payload : List UInt8) : Prop where
  within : FillsWithin payload.length fills
  content : ∀ data off, ByteMemory.read (applyFills data off fills) off payload.length = payload

section Programs
def look (g : Geometry) (rest : UInt64 → UInt64 → Call α) : Call α :=
  .request .loadWritePos fun pos => .request (.loadSeq (g.index pos)) (rest pos)

theorem look_iff {rest : UInt64 → UInt64 → Call α} {result : α} :
    Interleaved (beside g) m (look g rest) actions after result ↔
      ∃ first second third one two, actions = first ++ (second ++ third) ∧ (beside g).peers m first = some one ∧
        (beside g).peers one second = some two ∧
        Interleaved (beside g) two (rest one.shared.writePos (two.shared.seq (g.index one.shared.writePos))) third after
          result := by
  constructor
  · intro ran
    obtain ⟨first,later,one,rfl,waited,ran⟩ := Interleaved.request_iff.mp ran
    obtain ⟨second,third,two,rfl,again,ran⟩ := Interleaved.request_iff.mp ran
    exact ⟨first,second,third,one,two,rfl,waited,again,ran⟩
  · rintro ⟨first,second,third,one,two,rfl,waited,again,ran⟩
    exact Interleaved.wait waited (.own (Interleaved.wait again (.own ran)))

theorem reserve_look (g : Geometry) : reserve g = look g fun pos seq =>
    match checkSeq g seq pos with
    | .full => .ret (.ok none)
    | .corrupt => .ret (.error .ringCorrupt)
    | .free => .ret (.ok (some ⟨g.index pos,pos⟩)) := rfl

theorem tryPush_look (fits : frame.payload.length ≤ g.maxPayload) : tryPush g frame = look g fun pos seq =>
    match checkSeq g seq pos with
    | .full => .ret (.ok .full)
    | .corrupt => .ret (.error .ringCorrupt)
    | .free => PushPoint.atLoadReadPos g frame false pos := by
  rw [tryPush_call,if_neg (Nat.not_lt.mpr fits)]
  rfl

def refusal : Except ShmError (Option ReservedSlot) → Option (Except ShmError PushOutcome)
  | .ok none => some (.ok .full)
  | .error e => some (.error e)
  | .ok (some _) => none

theorem reserve_runs {result : Except ShmError (Option ReservedSlot)} (consuming : Consuming g m)
    (ran : Interleaved (beside g) m (reserve g) actions after result) :
    (beside g).peers m actions = some after ∧ Consuming g after ∧ ∀ slot, result = .ok (some slot) → Free g slot after := by
  rw [reserve_look] at ran
  obtain ⟨first,second,third,one,two,rfl,waited,again,ran⟩ := look_iff.mp ran
  have kept := peers_keep consuming waited
  have still := peers_keep kept.1 again
  cases state : checkSeq g (two.shared.seq (g.index one.shared.writePos)) one.shared.writePos
  all_goals
    rw [state] at ran
    obtain ⟨rested,rfl⟩ := Interleaved.ret_iff.mp ran
    refine ⟨Setting.peers_trans waited (Setting.peers_trans again rested),(peers_keep still.1 rested).1,?_⟩
    rintro _ ⟨rfl⟩
  have unused : Free g ⟨g.index one.shared.writePos,one.shared.writePos⟩ two := ⟨rfl,checkSeq_free_iff.mp state,still.2.1⟩
  exact unused.peers still.1 rested

theorem reserve_refused {result : Except ShmError (Option ReservedSlot)}
    (fits : frame.payload.length ≤ g.maxPayload) (refused : refusal result = some report)
    (ran : Interleaved (beside g) m (reserve g) actions after result) :
    Interleaved (beside g) m (tryPush g frame) actions after report := by
  rw [reserve_look] at ran
  rw [tryPush_look fits]
  obtain ⟨first,second,third,one,two,rfl,waited,again,ran⟩ := look_iff.mp ran
  refine look_iff.mpr ⟨first,second,third,one,two,rfl,waited,again,?_⟩
  cases state : checkSeq g (two.shared.seq (g.index one.shared.writePos)) one.shared.writePos
  all_goals
    rw [state] at ran
    obtain ⟨rested,rfl⟩ := Interleaved.ret_iff.mp ran
    cases refused
  all_goals exact Interleaved.ret_iff.mpr ⟨rested,rfl⟩

theorem reserve_again {result : Except ShmError (Option ReservedSlot)} (consuming : Consuming g m) (free : Free g slot m)
    (ran : Interleaved (beside g) m (reserve g) actions after result) : result = .ok (some slot) := by
  rw [reserve_look] at ran
  obtain ⟨first,second,third,one,two,rfl,waited,again,ran⟩ := look_iff.mp ran
  have unused := free.peers consuming waited
  have later := unused.peers (peers_keep consuming waited).1 again
  have state : checkSeq g (two.shared.seq (g.index one.shared.writePos)) one.shared.writePos = .free := by
    rw [unused.writePos]
    exact checkSeq_free_iff.mpr later.seq
  rw [state] at ran
  obtain ⟨_,rfl⟩ := Interleaved.ret_iff.mp ran
  rw [unused.writePos,← free.idx]

theorem payloadMut_runs (ran : Interleaved (beside g) m (payloadMut g slot) actions after ()) :
    (beside g).peers m actions = some after := by
  obtain ⟨first,rest,one,rfl,waited,ran⟩ := Interleaved.request_iff.mp ran
  exact Setting.peers_trans waited (Interleaved.ret_iff.mp ran).1

theorem fillEach_runs (consuming : Consuming g m) (free : Free g slot m) (room : n ≤ g.maxPayload)
    (within : FillsWithin n fills) (agree : AgreeOutside (payloadAt g slot) n data m.shared.data)
    (ran : Interleaved (beside g) m (fillEach (payloadAt g slot) fills) actions after ()) :
    (beside g).peers (m.withData data) actions = some (after.withData data) ∧ Consuming g after ∧ Free g slot after ∧
    AgreeOutside (payloadAt g slot) n data after.shared.data ∧
    after.shared.data = applyFills m.shared.data (payloadAt g slot) fills := by
  have inside : InSlot g (g.index slot.pos) (payloadAt g slot) n := by
    rw [payloadAt,free.idx]
    exact inSlot_payload room
  induction fills generalizing m actions with
  | nil =>
    obtain ⟨rested,_⟩ := Interleaved.ret_iff.mp ran
    obtain ⟨still,_,bytes,_⟩ := peers_keep consuming rested
    refine ⟨peers_follow consuming free inside agree rested,still,free.peers consuming rested,?_,bytes⟩
    rwa [bytes]
  | cons fill fills ih =>
    obtain ⟨start,bytes⟩ := fill
    obtain ⟨first,rest,one,rfl,waited,ran⟩ := Interleaved.request_iff.mp ran
    obtain ⟨still,_,same,_⟩ := peers_keep consuming waited
    have unused := free.peers consuming waited
    have spot := within (start,bytes) List.mem_cons_self
    have written : AgreeOutside (payloadAt g slot) n data
        (ByteMemory.write one.shared.data (payloadAt g slot+start) bytes) := by
      intro i outside
      dsimp only at spot
      rw [ByteMemory.write_outside (by omega),same]
      exact agree i outside
    obtain ⟨follows,consumes,frees,agrees,content⟩ :=
      @ih (one.withData (ByteMemory.write one.shared.data (payloadAt g slot+start) bytes)) rest still
        ⟨unused.idx,unused.seq,unused.writePos⟩ (fun fill found => within fill (List.mem_cons_of_mem _ found)) written ran
    refine ⟨Setting.peers_trans (peers_follow consuming free inside agree waited) follows,consumes,frees,agrees,?_⟩
    rw [content,← same]
    rfl

-- With the payload in place, what is left of a commit is what is left of a push.
theorem commit_copies (consuming : Consuming g m) (free : Free g slot m) (fits : frame.payload.length ≤ g.maxPayload)
    (there : ByteMemory.read m.shared.data (payloadAt g slot) frame.payload.length = frame.payload)
    (agree : AgreeOutside (payloadAt g slot) frame.payload.length data m.shared.data)
    (ran : Interleaved (beside g) m (commit g slot frame.trafficId frame.payload.length) actions after result) :
    Interleaved (beside g) (m.withData data) (tryPush g frame) actions after result := by
  obtain ⟨idx,pos⟩ := slot
  obtain rfl : idx = g.index pos := free.idx
  have inside : InSlot g (g.index pos) (g.slot (g.index pos)+FRAME_HEADER_LEN) frame.payload.length := inSlot_payload fits
  rw [commit_call,if_neg (Nat.not_lt.mpr fits)] at ran
  obtain ⟨first,rest,one,rfl,waited,ran⟩ := Interleaved.request_iff.mp ran
  obtain ⟨second,third,two,rfl,again,ran⟩ := Interleaved.request_iff.mp ran
  obtain ⟨still,_,same,_⟩ := peers_keep consuming waited
  have unused := free.peers consuming waited
  have agreeOne : AgreeOutside (g.slot (g.index pos)+FRAME_HEADER_LEN) frame.payload.length data one.shared.data := by
    rwa [same]
  have moved : (beside g).peers one second = some two := again
  have bytes := (peers_keep still moved).2.2.1
  have equal : ByteMemory.write (ByteMemory.write data (g.slot (g.index pos)) (header frame))
      (g.slot (g.index pos)+FRAME_HEADER_LEN) frame.payload =
      ByteMemory.write two.shared.data (g.slot (g.index pos)) (header frame) := by
    apply ByteMemory.write_again
    · intro i outside
      apply ByteMemory.write_at_congr
      rw [bytes]
      exact agreeOne i outside
    · rwa [ByteMemory.read_write_outside (by rw [header_length]; omega),bytes,same]
  have published : Interleaved (beside g) (two.withData (ByteMemory.write two.shared.data (g.slot (g.index pos)) (header frame)))
      (PushPoint.atStoreSeq g pos (one.shared.readPos == pos)) third after result := ran
  rw [← equal] at published
  have copied : Interleaved (beside g) (one.withData data) (PushPoint.atLoadReadPos g frame false pos) (second ++ third)
      after result :=
    .own (Interleaved.wait (peers_follow still unused inside agreeOne moved) (.own (.own published)))
  have state : checkSeq g ((one.withData data).shared.seq (g.index (one.withData data).shared.writePos))
      (one.withData data).shared.writePos = .free := by
    have position : (one.withData data).shared.writePos = pos := unused.writePos
    rw [position]
    exact checkSeq_free_iff.mpr unused.seq
  rw [tryPush_look fits]
  refine look_iff.mpr ⟨first,[],second ++ third,one.withData data,one.withData data,rfl,
    peers_follow consuming free inside agree waited,rfl,?_⟩
  rw [state]
  have position : (one.withData data).shared.writePos = pos := unused.writePos
  rwa [position]

-- Up to the commit point the producer has only written into a slot that is free.
structure Prepared (g : Geometry) (m : Machine) (before : List Action) (n : Nat) (slot : ReservedSlot) (mid : Machine) :
    Prop where
  consuming : Consuming g mid
  free : Free g slot mid
  idle : ∃ data, (beside g).peers m before = some (mid.withData data) ∧
    AgreeOutside (payloadAt g slot) n data mid.shared.data

theorem reserveAndFill_prepares (consuming : Consuming g m) (room : n ≤ g.maxPayload) (within : FillsWithin n fills)
    (ran : Interleaved (beside g) m (reserveAndFill g fills) actions mid (.ok (some slot))) :
    Prepared g m actions n slot mid ∧ ∃ data, mid.shared.data = applyFills data (payloadAt g slot) fills := by
  obtain ⟨first,second,one,result,rfl,reserved,ran⟩ := Interleaved.bind_iff.mp ran
  obtain ⟨waited,still,found⟩ := reserve_runs consuming reserved
  match result with
  | .error e | .ok none => cases (Interleaved.ret_iff.mp ran).2
  | .ok (some lent) =>
    obtain ⟨second,later,two,_,rfl,viewed,ran⟩ := Interleaved.bind_iff.mp ran
    obtain ⟨third,fourth,three,_,rfl,filled,ran⟩ := Interleaved.bind_iff.mp ran
    obtain ⟨rested,same⟩ := Interleaved.ret_iff.mp ran
    cases same
    have seen := payloadMut_runs viewed
    have free := (found slot rfl).peers still seen
    have same : AgreeOutside (payloadAt g slot) n two.shared.data two.shared.data := fun _ _ => rfl
    obtain ⟨follows,consumes,frees,agrees,content⟩ :=
      fillEach_runs (peers_keep still seen).1 free room within same filled
    have inside : InSlot g (g.index slot.pos) (payloadAt g slot) n := by
      rw [payloadAt,free.idx]
      exact inSlot_payload room
    have onward := peers_follow consumes frees inside agrees rested
    obtain ⟨consumed,_,bytes,_⟩ := peers_keep consumes rested
    have idle := Setting.peers_trans waited (Setting.peers_trans seen (Setting.peers_trans follows onward))
    rw [← bytes] at agrees content
    exact ⟨⟨consumed,frees.peers consumes rested,two.shared.data,idle,agrees⟩,two.shared.data,content⟩

theorem Prepared.commit_copies (prepared : Prepared g m before payload.length slot mid)
    (fits : payload.length ≤ g.maxPayload)
    (there : ByteMemory.read mid.shared.data (payloadAt g slot) payload.length = payload)
    (ran : Interleaved (beside g) mid (commit g slot trafficId payload.length) later after result) :
    ∃ idle, (beside g).peers m before = some idle ∧
      Interleaved (beside g) idle (tryPush g ⟨trafficId,payload⟩) later after result := by
  obtain ⟨data,waited,agree⟩ := prepared.idle
  let frame : Frame := ⟨trafficId,payload⟩
  have committed : Interleaved (beside g) mid (commit g slot frame.trafficId frame.payload.length) later after result := ran
  exact ⟨mid.withData data,waited,SlotRing.commit_copies prepared.consuming prepared.free fits there agree committed⟩

theorem commit_oversize (oversize : g.maxPayload < len)
    (ran : Interleaved (beside g) m (commit g slot trafficId len) actions after result) :
    result = .error .frameTooLarge ∧ (beside g).peers m actions = some after := by
  unfold commit at ran
  rw [if_pos oversize] at ran
  obtain ⟨rested,same⟩ := Interleaved.ret_iff.mp ran
  exact ⟨same,rested⟩

theorem commit_publishes (fits : len ≤ g.maxPayload)
    (ran : Interleaved (beside g) m (commit g slot trafficId len) actions after result) :
    ∃ wasEmpty, result = .ok (.pushed wasEmpty) := by
  unfold commit at ran
  rw [if_neg (Nat.not_lt.mpr fits)] at ran
  obtain ⟨_,_,_,_,_,ran⟩ := Interleaved.request_iff.mp ran
  obtain ⟨_,_,_,_,_,ran⟩ := Interleaved.request_iff.mp ran
  obtain ⟨_,_,_,_,_,ran⟩ := Interleaved.request_iff.mp ran
  obtain ⟨_,_,_,_,_,ran⟩ := Interleaved.request_iff.mp ran
  exact ⟨_,(Interleaved.ret_iff.mp ran).2⟩

end Programs

end Scg.SlotRing
