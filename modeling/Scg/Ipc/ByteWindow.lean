import Scg.Ipc.ByteMachine

namespace Scg.ByteRing
open Ipc Interaction Program
open SlotRing (clipFrame clip header)

variable {r : Ring} {w now : World}
variable {after : List UInt8}

theorem stream_append (one two : List Frame) : stream (one ++ two) = stream one ++ stream two := List.flatMap_append

theorem stream_single (frame : Frame) : stream [frame] = encodeInto frame := by simp [stream]

theorem encodeInto_header (frame : Frame) : encodeInto frame = header frame ++ frame.payload := rfl

theorem encodeInto_length (frame : Frame) : (encodeInto frame).length = FRAME_HEADER_LEN+frame.payload.length := by
  rw [encodeInto_header,List.length_append,SlotRing.header_length]

theorem stream_split (w : World) :
    stream w.pushed = stream (w.pushed.take w.released) ++ stream (w.pushed.drop w.released) := by
  rw [← stream_append,List.take_append_drop]

theorem sent_split (w : World) : w.sent = w.consumed+(stream (w.pushed.drop w.released)).length := by
  unfold World.sent World.consumed
  rw [stream_split,List.length_append]

-- The indices count the bytes of the frames pushed and given back; between them the
-- region shows exactly the frames still in the ring.
structure RingValid (r : Ring) (w : World) : Prop where
  behind : w.released ≤ w.pushed.length
  write : w.shared.writeIdx = UInt64.ofNat w.sent
  read : w.shared.readIdx = UInt64.ofNat w.consumed
  within : w.sent ≤ w.consumed+r.cap
  small : w.sent < 2^64
  coded : ∀ frame ∈ w.pushed, frame.payload.length < 2^32
  held : Cyclic.Spans r.cap w.shared.data w.consumed (stream (w.pushed.drop w.released))

structure Gives (r : Ring) (w now : World) : Prop where
  valid : RingValid r now
  writeIdx : now.shared.writeIdx = w.shared.writeIdx
  data : now.shared.data = w.shared.data
  pushed : now.pushed = w.pushed
  released : w.released ≤ now.released

structure Fills (r : Ring) (w now : World) : Prop where
  valid : RingValid r now
  readIdx : now.shared.readIdx = w.shared.readIdx
  released : now.released = w.released
  pushed : w.pushed <+: now.pushed

theorem RingValid.gives (valid : RingValid r w) : Gives r w w := ⟨valid,rfl,rfl,rfl,Nat.le_refl _⟩

theorem RingValid.fills (valid : RingValid r w) : Fills r w w := ⟨valid,rfl,rfl,List.prefix_refl _⟩

theorem Gives.trans (first : Gives r w now) (second : Gives r now later) : Gives r w later :=
  ⟨second.valid,second.writeIdx.trans first.writeIdx,second.data.trans first.data,second.pushed.trans first.pushed,
    Nat.le_trans first.released second.released⟩

theorem Fills.trans (first : Fills r w now) (second : Fills r now later) : Fills r w later :=
  ⟨second.valid,second.readIdx.trans first.readIdx,second.released.trans first.released,
    first.pushed.trans second.pushed⟩

theorem consumed_le (w : World) : w.consumed ≤ w.sent := by
  rw [sent_split]
  exact Nat.le_add_right _ _

theorem RingValid.used (valid : RingValid r w) :
    (w.shared.writeIdx-w.shared.readIdx).toNat = w.sent-w.consumed := by
  rw [valid.write,valid.read]
  exact Wrapping.toNat_distance (consumed_le w) valid.small

theorem consumed_mono (pushed : now.pushed = w.pushed) (released : w.released ≤ now.released) :
    w.consumed ≤ now.consumed := by
  unfold World.consumed
  rw [pushed]
  have split : w.pushed.take now.released = w.pushed.take w.released ++ (w.pushed.take now.released).drop w.released := by
    have cut := List.take_append_drop w.released (w.pushed.take now.released)
    rw [List.take_take,Nat.min_eq_left released] at cut
    exact cut.symm
  rw [split,stream_append,List.length_append]
  exact Nat.le_add_right _ _

theorem Gives.sent (gives : Gives r w now) : now.sent = w.sent := by
  unfold World.sent
  rw [gives.pushed]

theorem Fills.consumed (fills : Fills r w now) (behind : w.released ≤ w.pushed.length) : now.consumed = w.consumed := by
  obtain ⟨more,grown⟩ := fills.pushed
  unfold World.consumed
  rw [fills.released,← grown,List.take_append_of_le_length behind]

structure Copied (r : Ring) (frame : Frame) (pos k : Nat) (w : World) : Prop where
  valid : RingValid r w
  here : w.sent = pos
  room : pos+(encodeInto frame).length ≤ w.consumed+r.cap
  done : Cyclic.Spans r.cap w.shared.data pos ((encodeInto frame).take k)

theorem Copied.stable (copied : Copied r frame pos k w) (gives : Gives r w now) : Copied r frame pos k now := by
  have grown := consumed_mono gives.pushed gives.released
  refine ⟨gives.valid,gives.sent.trans copied.here,?_,?_⟩
  · exact Nat.le_trans copied.room (Nat.add_le_add_right grown _)
  · rw [gives.data]
    exact copied.done

def producer (r : Ring) (frame : Frame) : Thread Op Reply World where
  act := World.publish frame
  rely := Gives r
  promise := Fills r
  scope w := w.sent < 2^64

def consumer (r : Ring) : Thread Op Reply World where
  act := World.consume
  rely := Fills r
  promise := Gives r
  scope _ := True

def filled (w : World) (off : Nat) (src : List UInt8) : World :=
  {w with shared := {w.shared with data := ByteMemory.write w.shared.data off src}}

theorem Copied.piece (copied : Copied r frame pos before.length w)
    (split : encodeInto frame = before ++ (src ++ after)) (start : off = (pos+before.length) % r.cap)
    (fits : off+src.length ≤ r.cap) :
    Copied r frame pos (before.length+src.length) (filled w off src) ∧ Fills r w (filled w off src) := by
  have room := copied.room
  rw [split,List.length_append,List.length_append] at room
  have valid := copied.valid
  have sent := sent_split w
  have here := copied.here
  have held := valid.held.kept (by omega) (by omega) start fits
  have ring : RingValid r (filled w off src) :=
    ⟨valid.behind,valid.write,valid.read,valid.within,valid.small,valid.coded,held⟩
  have done := copied.done
  rw [split,List.take_left] at done
  refine ⟨⟨ring,here,copied.room,?_⟩,ring,rfl,rfl,List.prefix_refl _⟩
  rw [split,← List.append_assoc,← List.length_append,List.take_left,Cyclic.spans_append]
  exact ⟨done.kept (Nat.le_refl _) (by omega) start fits,Cyclic.Spans.copied start fits⟩

theorem recut {whole before src after : List UInt8} (split : whole = before ++ (src ++ after)) (n : Nat) :
    whole = before ++ (src.take n ++ (src.drop n ++ after)) := by rwa [← List.append_assoc (src.take n),List.take_append_drop]

theorem writeWrapping_fills (positive : 0 < r.cap)
    (copied : Copied r frame pos before.length w) (split : encodeInto frame = before ++ (src ++ after))
    (start : off = (pos+before.length) % r.cap) :
    (producer r frame).Ends
      (fun next now => Copied r frame pos (before.length+src.length) now ∧ next = (pos+(before.length+src.length)) % r.cap)
      (writeWrapping r off src) w := by
  have inside : off < r.cap := by rw [start]; exact Nat.mod_lt _ positive
  have landed : (off+src.length) % r.cap = (pos+(before.length+src.length)) % r.cap := by
    rw [start,Nat.mod_add_mod,Nat.add_assoc]
  unfold writeWrapping
  by_cases empty : src.length = 0
  · simp only [empty]
    exact ⟨copied,start⟩
  · simp only [empty]
    generalize reach : min src.length (r.cap-off) = first
    have upTo : (src.take first).length = first := by rw [List.length_take]; omega
    have cut := recut split first
    obtain ⟨head,fills⟩ := copied.piece cut start (by omega)
    intro _
    refine ⟨fills,fun now gives => ?_⟩
    have head := head.stable gives
    by_cases more : src.length > first
    · simp only [more]
      rw [← List.length_append] at head
      have wrapped : 0 = (pos+(before ++ src.take first).length) % r.cap := by
        have full : first = r.cap-off := by omega
        rw [List.length_append,upTo,full,← Nat.add_assoc,Cyclic.mod_end start inside]
      rw [← List.append_assoc] at cut
      have short : 0+(src.drop first).length ≤ r.cap := by
        have room := head.room
        have here := head.here
        have behind := consumed_le now
        rw [cut] at room
        simp only [List.length_append] at room
        omega
      obtain ⟨tail,fills⟩ := head.piece cut wrapped short
      intro _
      refine ⟨fills,fun now gives => ⟨?_,landed⟩⟩
      have tail := tail.stable gives
      rwa [List.length_append,Nat.add_assoc,← List.length_append,List.take_append_drop] at tail
    · simp only [more]
      rw [List.take_of_length_le (by omega)] at head
      exact ⟨head,landed⟩

theorem published_valid (valid : RingValid r w) (room : w.sent+(encodeInto frame).length ≤ w.consumed+r.cap)
    (done : Cyclic.Spans r.cap w.shared.data w.sent (encodeInto frame)) (fits : frame.payload.length < 2^32)
    (small : (stream (w.pushed ++ [frame])).length < 2^64) :
    RingValid r {w with
      shared := {w.shared with writeIdx := UInt64.ofNat w.sent+UInt64.ofNat (FRAME_HEADER_LEN+frame.payload.length)}
      pushed := w.pushed ++ [frame]} := by
  have behind := valid.behind
  have length : (stream (w.pushed ++ [frame])).length = w.sent+(encodeInto frame).length := by
    rw [stream_append,stream_single,List.length_append]
    rfl
  have consumed : (stream ((w.pushed ++ [frame]).take w.released)).length = w.consumed := by
    rw [List.take_append_of_le_length behind]
    rfl
  refine ⟨?_,?_,?_,?_,small,?_,?_⟩
  · rw [List.length_append]
    exact Nat.le_add_right_of_le behind
  · change _ = UInt64.ofNat (stream (w.pushed ++ [frame])).length
    rw [length,Wrapping.ofNat_add,encodeInto_length]
  · unfold World.consumed
    rw [consumed]
    exact valid.read
  · unfold World.sent World.consumed
    rw [length,consumed]
    exact room
  · exact List.forall_mem_append.mpr ⟨valid.coded,List.forall_mem_singleton.mpr fits⟩
  · change Cyclic.Spans r.cap w.shared.data (stream ((w.pushed ++ [frame]).take w.released)).length _
    rw [consumed,List.drop_append_of_le_length behind,stream_append,stream_single,Cyclic.spans_append,← sent_split]
    exact ⟨valid.held,done⟩

def Honest (result : Except ShmError Bool) (_ : World) : Prop := result ≠ .error .ringCorrupt

def pushRest (r : Ring) (frame : Frame) (write read : UInt64) : Call (Except ShmError Bool) :=
  if (write-read).toNat > r.cap then .ret (.error .ringCorrupt)
  else if r.cap-(write-read).toNat < FRAME_HEADER_LEN+frame.payload.length then .ret (.ok false)
  else do
    let off ← writeWrapping r (write.toNat % r.cap) (header frame)
    let _ ← writeWrapping r off frame.payload
    storeWriteIdx (write+UInt64.ofNat (FRAME_HEADER_LEN+frame.payload.length))
    return .ok true

theorem tryPush_call (r : Ring) (frame : Frame) : tryPush r frame =
    if FRAME_HEADER_LEN+frame.payload.length > r.cap then .ret (.error .frameTooLarge)
    else .request .loadWriteIdx fun write => .request .loadReadIdx fun read => pushRest r frame write read := rfl

theorem publish_ends (copied : Copied r frame pos (encodeInto frame).length w) (fits : frame.payload.length < 2^32) :
    (producer r frame).Ends Honest
      (.request (.storeWriteIdx (UInt64.ofNat pos+UInt64.ofNat (FRAME_HEADER_LEN+frame.payload.length)))
        fun _ => .ret (.ok true)) w := by
  intro small
  have done := copied.done
  have here := copied.here
  subst here
  rw [List.take_length] at done
  refine ⟨⟨published_valid copied.valid copied.room done fits small,rfl,rfl,List.prefix_append _ _⟩,fun _ _ => nofun⟩

theorem pushRest_ends (valid : RingValid r w) (fits : frame.payload.length < 2^32)
    (small : FRAME_HEADER_LEN+frame.payload.length ≤ r.cap) (gives : Gives r w now) :
    (producer r frame).Ends Honest
      (pushRest r frame w.shared.writeIdx w.shared.readIdx) now := by
  have within := valid.within
  unfold pushRest
  rw [valid.used,if_neg (by omega)]
  split
  · exact nofun
  · have positive : 0 < r.cap := by unfold FRAME_HEADER_LEN at small; omega
    have begun : Copied r frame w.sent ([] : List UInt8).length w :=
      ⟨valid,rfl,by rw [encodeInto_length]; omega,Cyclic.spans_nil⟩
    have offset : w.shared.writeIdx.toNat % r.cap = w.sent % r.cap := by
      rw [valid.write,Wrapping.toNat_small valid.small]
    apply (writeWrapping_fills positive (begun.stable gives) rfl offset).bind
    rintro off now ⟨headed,rfl⟩
    have whole : encodeInto frame = header frame ++ (frame.payload ++ []) := by rw [List.append_nil]; rfl
    rw [List.length_nil,Nat.zero_add] at headed ⊢
    apply (writeWrapping_fills positive headed whole rfl).bind
    rintro _ now ⟨copied,_⟩
    rw [← List.length_append] at copied
    rw [valid.write]
    exact publish_ends copied fits

theorem tryPush_ends (valid : RingValid r w) (fits : frame.payload.length < 2^32) :
    (producer r frame).Ends Honest (tryPush r frame) w := by
  rw [tryPush_call]
  split
  · exact nofun
  · rename_i small
    intro _
    refine ⟨valid.fills,fun now gives _ => ⟨gives.valid.fills,fun later more => ?_⟩⟩
    have written : w.shared.writeIdx = now.shared.writeIdx := gives.writeIdx.symm
    change (producer r frame).Ends _ (pushRest r frame w.shared.writeIdx now.shared.readIdx) later
    rw [written]
    exact pushRest_ends gives.valid fits (Nat.le_of_not_gt small) more

structure Serving (r : Ring) (n base : Nat) (whole : Frame) (w : World) : Prop where
  valid : RingValid r w
  here : w.released = n
  start : w.consumed = base
  present : w.pushed[n]? = some whole

section
variable (serving : Serving r n base whole w)
include serving

theorem Serving.stable (fills : Fills r w now) : Serving r n base whole now := by
  refine ⟨fills.valid,fills.released.trans serving.here,?_,SlotRing.prefix_getElem fills.pushed serving.present⟩
  rw [fills.consumed serving.valid.behind]
  exact serving.start

theorem Serving.rest : stream (w.pushed.drop w.released) = encodeInto whole ++ stream (w.pushed.drop (n+1)) := by
  obtain ⟨inside,same⟩ := List.getElem?_eq_some_iff.mp serving.present
  rw [serving.here,List.drop_eq_getElem_cons inside,same]
  rfl

theorem Serving.fits : FRAME_HEADER_LEN+whole.payload.length ≤ w.sent-w.consumed := by
  have split := sent_split w
  rw [serving.rest,List.length_append,encodeInto_length] at split
  omega

theorem Serving.spans (split : encodeInto whole = before ++ (src ++ after)) :
    Cyclic.Spans r.cap w.shared.data (base+before.length) (src ++ (after ++ stream (w.pushed.drop (n+1)))) := by
  have held := serving.valid.held
  rw [serving.rest,serving.start,split,List.append_assoc,List.append_assoc,Cyclic.spans_append] at held
  exact held.2

end

-- The bytes up to the region's end and, where the read goes round, those from its start.
theorem Serving.halves {count first : Nat} (serving : Serving r n base whole w)
    (split : encodeInto whole = before ++ (src ++ after)) (length : src.length = count)
    (start : off = (base+before.length) % r.cap) (inside : off < r.cap) (reach : min count (r.cap-off) = first) :
    (ByteMemory.readVector w.shared.data off first).toList = src.take first ∧
      (count > first → (ByteMemory.readVector w.shared.data 0 (count-first)).toList = src.drop first) := by
  have cut := recut split first
  have upTo : (src.take first).length = first := by rw [List.length_take]; omega
  rw [ByteMemory.readVector_toList,ByteMemory.readVector_toList]
  refine ⟨?_,fun more => ?_⟩
  · have head := (serving.spans cut).read start (by omega)
    rwa [upTo] at head
  · rw [← List.append_assoc] at cut
    have wrapped : 0 = (base+(before ++ src.take first).length) % r.cap := by
      have full : first = r.cap-off := by omega
      rw [List.length_append,upTo,full,← Nat.add_assoc,Cyclic.mod_end start inside]
    have fits := serving.fits
    have within := serving.valid.within
    have total := congrArg List.length split
    simp only [encodeInto_length,List.length_append] at total
    have tail := (serving.spans cut).read wrapped (by rw [List.length_drop]; omega)
    rwa [List.length_drop,length] at tail

theorem readWrappingPtr_reads {count : Nat} (positive : 0 < r.cap)
    (serving : Serving r n base whole w) (split : encodeInto whole = before ++ (src ++ after)) (length : src.length = count)
    (start : off = (base+before.length) % r.cap) :
    (consumer r).Ends (fun (dst : Vector UInt8 count) now => Serving r n base whole now ∧ dst.toList = src)
      (readWrappingPtr r off count) w := by
  have inside : off < r.cap := by rw [start]; exact Nat.mod_lt _ positive
  unfold readWrappingPtr
  by_cases empty : count = 0
  · subst empty
    refine ⟨serving,?_⟩
    rw [List.length_eq_zero_iff.mp length]
    rfl
  · rw [if_neg empty]
    intro _
    refine ⟨serving.valid.gives,fun now fills => ?_⟩
    have head := (serving.halves split length start inside rfl).1
    have serving := serving.stable fills
    by_cases more : count > min count (r.cap-off)
    · have tail := (serving.halves split length start inside rfl).2 more
      simp only [more]
      intro _
      refine ⟨serving.valid.gives,fun later fills => ⟨serving.stable fills,?_⟩⟩
      change ((ByteMemory.readVector w.shared.data off _ ++ ByteMemory.readVector now.shared.data 0 _).cast _).toList = src
      rw [Vector.toList_cast,Vector.toList_append,head,tail,List.take_append_drop]
    · simp only [more]
      refine ⟨serving,?_⟩
      change ((ByteMemory.readVector w.shared.data off _).cast _).toList = src
      rw [Vector.toList_cast,head,List.take_of_length_le (by omega)]

def Found (r : Ring) (n base : Nat) : Option Next → World → Prop
  | none,now => RingValid r now ∧ now.released = n
  | some next,now => ∃ whole, Serving r n base whole now ∧ next.read = UInt64.ofNat base ∧
      next.off = (base+(header whole).length) % r.cap ∧ next.len = whole.payload.length ∧
      next.trafficId = whole.trafficId

def nextRest (r : Ring) (read write : UInt64) : Call (Option Next) :=
  if min (write-read).toNat r.cap < FRAME_HEADER_LEN then .ret none
  else do
    let (header,off) ← readWrapping r (read.toNat % r.cap) FRAME_HEADER_LEN
    let (len,trafficId) := decodeHeader header
    if len.toNat > r.cap-FRAME_HEADER_LEN || min (write-read).toNat r.cap < FRAME_HEADER_LEN+len.toNat then return none
    return some ⟨read,off,len.toNat,trafficId⟩

theorem nextFrame_call (r : Ring) : nextFrame r =
    .request .loadReadIdx fun read => .request .loadWriteIdx fun write => nextRest r read write := rfl

theorem nothing_left (none_left : w.pushed[w.released]? = none) : w.sent = w.consumed := by
  have split := sent_split w
  rwa [List.drop_eq_nil_of_le (List.getElem?_eq_none_iff.mp none_left)] at split

theorem header_decoded (fits : whole.payload.length < 2^32) (read : dst.toList = header whole) :
    ∃ len, decodeHeader dst = (len,whole.trafficId) ∧ len.toNat = whole.payload.length := by
  have same := Vector.toList_inj.mp read
  refine ⟨UInt32.ofNat whole.payload.length,?_,?_⟩
  · rw [same,decodeHeader_encodeHeader]
  · rw [UInt32.toNat_ofNat',Nat.mod_eq_of_lt fits]

theorem nextRest_finds (serving : Serving r n base whole w) (fills : Fills r w now) :
    (consumer r).Ends (Found r n base) (nextRest r w.shared.readIdx w.shared.writeIdx) now := by
  have fits := serving.fits
  have within := serving.valid.within
  have small := serving.valid.small
  have behind := consumed_le w
  have start := serving.start
  have coded := serving.valid.coded whole (List.mem_of_getElem? serving.present)
  have avail : min (w.shared.writeIdx-w.shared.readIdx).toNat r.cap = w.sent-w.consumed := by
    rw [serving.valid.used]
    omega
  have positive : 0 < r.cap := by unfold FRAME_HEADER_LEN at fits; omega
  have offset : w.shared.readIdx.toNat % r.cap = (base+([] : List UInt8).length) % r.cap := by
    rw [serving.valid.read,Wrapping.toNat_small (by omega),start]
    rfl
  unfold nextRest
  rw [if_neg (by omega)]
  unfold readWrapping
  rw [bind_assoc]
  apply (readWrappingPtr_reads positive (serving.stable fills) rfl (SlotRing.header_length whole) offset).bind
  rintro dst later ⟨still,read⟩
  obtain ⟨len,decoded,length⟩ := header_decoded coded read
  rw [pure_eq,ret_bind]
  simp only [decoded,length]
  rw [if_neg]
  · refine ⟨whole,still,?_,?_,rfl,rfl⟩
    · rw [← start]
      exact serving.valid.read
    · rw [offset,Nat.mod_add_mod]
      rfl
  · simp only [Bool.or_eq_true,decide_eq_true_eq]
    omega

theorem nextFrame_finds (valid : RingValid r w) (here : w.released = n) :
    (consumer r).Ends (Found r n w.consumed) (nextFrame r) w := by
  rw [nextFrame_call]
  intro _
  refine ⟨valid.gives,fun now fills _ => ⟨fills.valid.gives,fun later more => ?_⟩⟩
  have fills : Fills r w now := fills
  have unread : w.shared.readIdx = now.shared.readIdx := fills.readIdx.symm
  have place : now.released = n := fills.released.trans here
  change (consumer r).Ends _ (nextRest r w.shared.readIdx now.shared.writeIdx) later
  rw [unread,← fills.consumed valid.behind]
  cases next : now.pushed[n]? with
  | some whole => exact nextRest_finds ⟨fills.valid,place,rfl,next⟩ more
  | none =>
    have empty : now.sent = now.consumed := nothing_left (by rw [place]; exact next)
    unfold nextRest
    rw [fills.valid.used,if_pos]
    · exact ⟨more.valid,more.released.trans place⟩
    · unfold FRAME_HEADER_LEN
      omega

theorem given_valid (serving : Serving r n base whole w) :
    RingValid r {w with
      shared := {w.shared with readIdx := UInt64.ofNat base+UInt64.ofNat (FRAME_HEADER_LEN+whole.payload.length)}
      released := w.released+1} := by
  obtain ⟨inside,same⟩ := List.getElem?_eq_some_iff.mp serving.present
  have valid := serving.valid
  have here := serving.here
  have within := valid.within
  have held := valid.held
  rw [serving.rest,Cyclic.spans_append] at held
  have consumed : (stream (w.pushed.take (w.released+1))).length = base+(encodeInto whole).length := by
    rw [here,List.take_succ_eq_append_getElem inside,same,stream_append,stream_single,List.length_append,← here,← serving.start]
    rfl
  refine ⟨by rw [here]; exact inside,valid.write,?_,?_,valid.small,valid.coded,?_⟩
  · change _ = UInt64.ofNat (stream (w.pushed.take (w.released+1))).length
    rw [consumed,Wrapping.ofNat_add,encodeInto_length]
  · change w.sent ≤ (stream (w.pushed.take (w.released+1))).length+r.cap
    have start := serving.start
    omega
  · change Cyclic.Spans r.cap w.shared.data (stream (w.pushed.take (w.released+1))).length (stream (w.pushed.drop (w.released+1)))
    rw [consumed,here,← serving.start]
    exact held.2

-- What a finished pop has done, by its result: the whole frame is given back even where
-- the caller's buffer cuts it.
def Popped (r : Ring) (n : Nat) (room : Option Nat) : Option Frame → World → Prop
  | none,now => RingValid r now ∧ now.released = n
  | some frame,now => RingValid r now ∧ now.released = n+1 ∧
      ∃ whole, now.pushed[n]? = some whole ∧ frame = clipFrame room whole

theorem consumeFrame_pops (serving : Serving r n base whole w)
    (cut : src = whole.payload.take (clip room whole.payload.length)) : (consumer r).Ends (Popped r n room)
      (.request (.storeReadIdx (UInt64.ofNat base+UInt64.ofNat (FRAME_HEADER_LEN+whole.payload.length)))
        fun _ => .ret (some ⟨whole.trafficId,src⟩)) w := by
  intro _
  refine ⟨⟨given_valid serving,rfl,rfl,rfl,Nat.le_succ _⟩,fun now fills => ?_⟩
  refine ⟨fills.valid,?_,whole,SlotRing.prefix_getElem fills.pushed serving.present,?_⟩
  · rw [← serving.here]
    exact fills.released
  · rw [cut]
    rfl

theorem readPayload_pops {next : Next} (found : Found r n base (some next) w) : (consumer r).Ends (Popped r n room) (do
      let dst ← readWrappingPtr r next.off (clip room next.len)
      consumeFrame next.read next.len
      return some ⟨next.trafficId,dst.toList⟩) w := by
  obtain ⟨whole,serving,read,off,len,trafficId⟩ := found
  have fits := serving.fits
  have within := serving.valid.within
  have positive : 0 < r.cap := by unfold FRAME_HEADER_LEN at fits; omega
  have split : encodeInto whole = header whole ++ (whole.payload.take (clip room next.len) ++
      whole.payload.drop (clip room next.len)) := by
    rw [List.take_append_drop]
    rfl
  have length : (whole.payload.take (clip room next.len)).length = clip room next.len := by
    rw [List.length_take,← len]
    exact Nat.min_eq_left (SlotRing.clip_le room _)
  apply (readWrappingPtr_reads positive serving split length off).bind
  rintro dst later ⟨still,copied⟩
  rw [copied,read,len,trafficId]
  exact consumeFrame_pops still rfl

theorem tryPopInto_pops (valid : RingValid r w) (here : w.released = n) :
    (consumer r).Ends (Popped r n none) (tryPopInto r) w := by
  apply (nextFrame_finds valid here).bind
  intro next now found
  cases next with
  | none => exact found
  | some next => exact readPayload_pops found

theorem tryPopIntoSlice_pops (room : Nat) (valid : RingValid r w) (here : w.released = n) :
    (consumer r).Ends (Popped r n (some room)) (tryPopIntoSlice r room) w := by
  apply (nextFrame_finds valid here).bind
  intro next now found
  cases next with
  | none => exact found
  | some next => exact readPayload_pops found

theorem isEmpty_ends (valid : RingValid r w) (here : w.released = n) :
    (consumer r).Ends (fun _ now => RingValid r now ∧ now.released = n) isEmpty w := by
  intro _
  refine ⟨valid.gives,fun now fills _ => ⟨fills.valid.gives,fun later more => ⟨more.valid,?_⟩⟩⟩
  exact more.released.trans (fills.released.trans here)

end Scg.ByteRing
