import Scg.Client.UdsReceive
import Scg.Ipc.RelayExit

namespace Scg.Client.UdsReceive
open Ipc Deframe RelayExit List

variable {dec : FrameDecoder}

def expected (maxLen : Nat) (kept : List Frame → List Frame) : List UInt8 → List Poll → List Frame
  | xs,[] =>
    let found := decode (frameStream maxLen) xs
    if found.bad then kept found.items else found.items
  | xs,poll :: rest =>
    let found := decode (frameStream maxLen) xs
    if found.bad then kept found.items
    else found.items ++
      match poll with
      | .timeout | .interrupted => expected maxLen kept found.rest rest
      | .gave first more => expected maxLen kept (found.rest ++ first :: more) rest
      | .eof | .failed _ => []

section Expected
variable {kept : List Frame → List Frame}

theorem expected_bad (spoilt : (decode (frameStream maxLen) xs).bad = true) :
    expected maxLen kept xs socket = kept (decode (frameStream maxLen) xs).items := by
  cases socket <;> exact if_pos spoilt

theorem expected_group (split : decode (frameStream maxLen) xs =
      ⟨group ++ later,(decode (frameStream maxLen) ys).rest,(decode (frameStream maxLen) ys).bad⟩)
    (rest : (decode (frameStream maxLen) ys).items = later)
    (keeps : (decode (frameStream maxLen) ys).bad = true → kept (group ++ later) = group ++ kept later) :
    expected maxLen kept xs socket = group ++ expected maxLen kept ys socket := by
  cases spoilt : (decode (frameStream maxLen) ys).bad with
  | true =>
    have bad : (decode (frameStream maxLen) xs).bad = true := by rw [split,spoilt]
    rw [expected_bad bad,expected_bad spoilt,split,rest]
    exact keeps spoilt
  | false =>
    cases socket with
    | nil => simp only [expected,split,spoilt,rest,Bool.false_eq_true,if_false]
    | cons poll more => simp only [expected,split,spoilt,rest,Bool.false_eq_true,if_false,append_assoc]

theorem expected_polls (kept : List Frame → List Frame) (waiting : frameFront maxLen xs = .more) (poll : Poll)
    (rest : List Poll) :
    expected maxLen kept xs (poll :: rest) =
      match poll with
      | .timeout | .interrupted => expected maxLen kept xs rest
      | .gave first more => expected maxLen kept (xs ++ first :: more) rest
      | .eof | .failed _ => [] := by
  have nothing : decode (frameStream maxLen) xs = ⟨[],xs,false⟩ := decode_more waiting
  cases poll <;> simp [expected,nothing]

theorem expected_idle (kept : List Frame → List Frame) (waiting : frameFront maxLen xs = .more) :
    expected maxLen kept xs [] = [] := by
  have nothing : decode (frameStream maxLen) xs = ⟨[],xs,false⟩ := decode_more waiting
  simp [expected,nothing]

end Expected

section Drains
variable {α : Type}

-- A group of frames, an error at the length behind frames of which none is kept, or nothing.
inductive Look (maxLen : Nat) (kept : List Frame → List Frame) (view : α → List (List UInt8)) (stride : Nat)
    (dec : FrameDecoder) : Except ScgError (Option α) × FrameDecoder → Prop where
  | gives {found : α} {next : FrameDecoder} {group later : List Frame} : group ≠ [] →
      view found = group.map (fun frame => frame.payload.take stride) → next.maxLen = maxLen →
      decode (frameStream maxLen) dec.unread =
        ⟨group ++ later,(decode (frameStream maxLen) next.unread).rest,(decode (frameStream maxLen) next.unread).bad⟩ →
      (decode (frameStream maxLen) next.unread).items = later →
      ((decode (frameStream maxLen) next.unread).bad = true → kept (group ++ later) = group ++ kept later) →
      Look maxLen kept view stride dec (.ok (some found),next)
  | fails {e : ScgError} {next : FrameDecoder} : (decode (frameStream maxLen) dec.unread).bad = true →
      kept (decode (frameStream maxLen) dec.unread).items = [] → Look maxLen kept view stride dec (.error e,next)
  | waits {next : FrameDecoder} : frameFront maxLen dec.unread = .more → next.maxLen = maxLen →
      next.unread = dec.unread → Look maxLen kept view stride dec (.ok none,next)

def Looks (maxLen : Nat) (kept : List Frame → List Frame) (view : α → List (List UInt8)) (stride : Nat)
    (buffered : FrameDecoder → Except ScgError (Option α) × FrameDecoder) : Prop :=
  ∀ dec, dec.maxLen = maxLen → Look maxLen kept view stride dec (buffered dec)

def calling (view : α → List (List UInt8)) (buffered : FrameDecoder → Except ScgError (Option α) × FrameDecoder)
    (client : UdsClient) : Option (Except ScgError (List (List UInt8)) × UdsClient) :=
  (receive buffered client.dec client.socket).map fun (result,next) => (result.map fun found => found.toList.flatMap view,next)

variable {kept : List Frame → List Frame} {view : α → List (List UInt8)}
variable {buffered : FrameDecoder → Except ScgError (Option α) × FrameDecoder}

theorem calling_gives {next : FrameDecoder} (look : buffered dec = (.ok (some found),next)) :
    calling view buffered ⟨dec,socket⟩ = some (.ok (view found),⟨next,socket⟩) := by
  have given : receive buffered dec socket = some (.ok (some found),⟨next,socket⟩) := by
    cases socket <;> rw [receive,look]
  rw [calling,given]
  simp [Except.map]

theorem calling_fails {next : FrameDecoder} (look : buffered dec = (.error e,next)) (payloads : List (List UInt8)) (after : UdsClient) :
    calling view buffered ⟨dec,socket⟩ ≠ some (.ok payloads,after) := by
  have failed : receive buffered dec socket = some (.error e,⟨next,socket⟩) := by cases socket <;> rw [receive,look]
  rw [calling,failed]
  simp [Except.map]

theorem sequence_waits {next : FrameDecoder} (waiting : frameFront maxLen dec.unread = .more) (sized : next.maxLen = maxLen)
    (kept_unread : next.unread = dec.unread) (look : buffered dec = (.ok none,next))
    (ih : ∀ poll rest, socket = poll :: rest → ∀ dec : FrameDecoder, dec.maxLen = maxLen →
      Sequence (calling view buffered) ⟨dec,rest⟩
        ((expected maxLen kept dec.unread rest).map fun frame => frame.payload.take stride)) :
    Sequence (calling view buffered) ⟨dec,socket⟩
      ((expected maxLen kept dec.unread socket).map fun frame => frame.payload.take stride) := by
  cases socket with
  | nil =>
    rw [expected_idle kept waiting]
    apply sequence_ends
    simp [calling,receive,look]
  | cons poll rest =>
    have continues := ih poll rest rfl
    rw [expected_polls kept waiting,← kept_unread]
    cases poll with
    | timeout =>
      have given : calling view buffered ⟨dec,.timeout :: rest⟩ = some (.ok [],⟨next,rest⟩) := by
        simp only [calling,receive,look]
        rfl
      exact sequence_gives given (continues next sized)
    | gave first more =>
      have fed := continues (next.feed (first :: more)) (by simp [sized])
      rw [feed_unread] at fed
      exact sequence_same (by simp only [calling,receive,look,fillOnce]) fed
    | interrupted => exact sequence_same (by simp only [calling,receive,look,fillOnce]) (continues next sized)
    | eof | failed =>
      apply sequence_ends
      simp [calling,receive,look,fillOnce,Except.map]

-- Between two polls: by induction on what the decoder holds.
theorem sequence_drains (looks : Looks maxLen kept view stride buffered)
    (ih : ∀ poll rest, socket = poll :: rest → ∀ dec : FrameDecoder, dec.maxLen = maxLen →
      Sequence (calling view buffered) ⟨dec,rest⟩
        ((expected maxLen kept dec.unread rest).map fun frame => frame.payload.take stride))
    (dec : FrameDecoder) (sized : dec.maxLen = maxLen) :
    Sequence (calling view buffered) ⟨dec,socket⟩
      ((expected maxLen kept dec.unread socket).map fun frame => frame.payload.take stride) := by
  induction size : (decode (frameStream maxLen) dec.unread).items.length using Nat.strongRecOn generalizing dec with
  | ind n inside =>
    have look := looks dec sized
    generalize came : buffered dec = result at look
    cases look with
    | @gives found next group later some_group shown next_sized split rest keeps =>
      have fewer : (decode (frameStream maxLen) next.unread).items.length < n := by
        have positive := length_pos_iff.mpr some_group
        rw [rest,← size,split,length_append]
        omega
      rw [expected_group split rest keeps,map_append,← shown]
      exact sequence_gives (calling_gives came) (inside _ fewer next next_sized rfl)
    | fails spoilt none_kept =>
      rw [expected_bad spoilt,none_kept]
      exact sequence_ends (calling_fails came)
    | waits waiting next_sized same => exact sequence_waits waiting next_sized same came ih

theorem sequence_expected (looks : Looks maxLen kept view stride buffered) (socket : List Poll) (dec : FrameDecoder)
    (sized : dec.maxLen = maxLen) :
    Sequence (calling view buffered) ⟨dec,socket⟩
      ((expected maxLen kept dec.unread socket).map fun frame => frame.payload.take stride) := by
  induction socket generalizing dec with
  | nil =>
    refine sequence_drains looks ?_ dec sized
    rintro poll rest ⟨⟩
  | cons poll rest ih =>
    refine sequence_drains looks ?_ dec sized
    rintro poll rest ⟨⟩
    exact ih

end Drains

theorem nextFrame_split (sized : dec.maxLen = maxLen) (shown : frameFront maxLen dec.unread = .item frame rest) :
    ∃ next : FrameDecoder, dec.nextFrame = (.ok (some frame),next) ∧ next.maxLen = maxLen ∧
      decode (frameStream maxLen) dec.unread =
        ⟨frame :: (decode (frameStream maxLen) next.unread).items,(decode (frameStream maxLen) next.unread).rest,
          (decode (frameStream maxLen) next.unread).bad⟩ := by
  subst sized
  obtain ⟨found,left,sized⟩ := nextFrame_item shown
  have split := decode_item (D := frameStream dec.maxLen) shown
  rw [← left] at split
  exact ⟨dec.nextFrame.2,Prod.ext found rfl,sized,split⟩

section Single

theorem single_looks (maxLen stride : Nat) :
    Looks maxLen id (fun frame : Frame => [frame.payload.take stride]) stride nextBuffered := by
  rintro dec rfl
  cases shown : frameFront dec.maxLen dec.unread with
  | more =>
    rw [nextBuffered,nextFrame_more shown]
    exact .waits shown rfl rfl
  | bad =>
    have spoilt : decode (frameStream dec.maxLen) dec.unread = ⟨[],dec.unread,true⟩ := decode_bad shown
    rw [nextBuffered,nextFrame_bad shown]
    exact .fails (by rw [spoilt]) (by rw [spoilt]; rfl)
  | item frame rest =>
    obtain ⟨next,taken,next_sized,split⟩ := nextFrame_split rfl shown
    rw [nextBuffered,taken]
    exact .gives (cons_ne_nil frame []) rfl next_sized split rfl fun _ => rfl

theorem single_calling (stride : Nat) :
    single stride = calling (fun frame : Frame => [frame.payload.take stride]) nextBuffered := by
  funext client
  unfold single calling recvTimeout
  congr 1
  funext (result,next)
  cases result with
  | error e => rfl
  | ok found => cases found <;> rfl

end Single

section Batched

theorem Batch.payloads_put (batch : Batch stride) (payload : List UInt8) :
    (batch.put payload).payloads = batch.payloads ++ [payload.take stride] := by
  have short : payload.take (min payload.length stride) = payload.take stride := by
    rw [take_eq_take_iff]
    omega
  unfold Batch.payloads
  have counted : (batch.put payload).count = batch.count+1 := rfl
  rw [counted,range_succ,map_append,map_singleton]
  congr 1
  · apply map_congr_left
    intro i below
    have bound := mem_range.mp below
    have len : (batch.put payload).lens i = batch.lens i := if_neg (Nat.ne_of_lt bound)
    have fits : (payload.take (min payload.length stride)).length ≤ stride := by
      rw [length_take]
      omega
    rw [len]
    exact ByteMemory.read_write_slot (Nat.ne_of_lt bound) fits (batch.within i bound)
  · have len : (batch.put payload).lens batch.count = (payload.take stride).length := by
      rw [length_take,Nat.min_comm]
      exact if_pos rfl
    rw [len,Batch.put,short]
    exact congrArg ([·]) ByteMemory.read_write

theorem fillBatch_takes (room : Nat) (dec : FrameDecoder) (batch : Batch stride)
    (sized : dec.maxLen = maxLen) (holds : decode (frameStream maxLen) dec.unread = found)
    (enough : found.bad = true → room ≤ found.items.length) :
    ∃ filled next, fillBatch room dec batch = (.ok filled,next) ∧ next.maxLen = maxLen ∧
      filled.payloads = batch.payloads ++ (found.items.take room).map (fun frame => frame.payload.take stride) ∧
      filled.count = batch.count+(found.items.take room).length ∧
      decode (frameStream maxLen) next.unread = {found with items := found.items.drop room} := by
  induction room generalizing dec batch found with
  | zero => exact ⟨batch,dec,rfl,sized,by simp,by simp,by simp [holds]⟩
  | succ room ih =>
    subst holds
    cases shown : frameFront maxLen dec.unread with
    | more =>
      have nothing : decode (frameStream maxLen) dec.unread = ⟨[],dec.unread,false⟩ := decode_more shown
      refine ⟨batch,dec,?_,sized,by simp [nothing],by simp [nothing],by simp [nothing]⟩
      rw [fillBatch,nextFrame_more (by rw [sized]; exact shown)]
    | bad =>
      have spoilt : decode (frameStream maxLen) dec.unread = ⟨[],dec.unread,true⟩ := decode_bad shown
      simp [spoilt] at enough
    | item frame rest =>
      obtain ⟨after,taken,after_sized,split⟩ := nextFrame_split sized shown
      rw [split] at enough
      obtain ⟨filled,next,ran,next_sized,payloads,count,left⟩ :=
        ih after (batch.put frame.payload) after_sized rfl fun spoilt => Nat.le_of_succ_le_succ (enough spoilt)
      refine ⟨filled,next,?_,next_sized,?_,?_,?_⟩
      · rwa [fillBatch,taken]
      · rw [payloads,Batch.payloads_put,split,append_assoc]
        rfl
      · rw [count,split,take_succ_cons,length_cons]
        change batch.count+1+_ = _
        omega
      · rw [left,split]
        rfl

theorem fillBatch_fails (room : Nat) (dec : FrameDecoder) (batch : Batch stride) (sized : dec.maxLen = maxLen)
    (spoilt : (decode (frameStream maxLen) dec.unread).bad = true)
    (few : (decode (frameStream maxLen) dec.unread).items.length < room) :
    ∃ next, fillBatch room dec batch = (.error .frameTooLarge,next) := by
  subst sized
  induction room generalizing dec batch with
  | zero => exact absurd few (Nat.not_lt_zero _)
  | succ room ih =>
    cases shown : frameFront dec.maxLen dec.unread with
    | more =>
      have nothing : decode (frameStream dec.maxLen) dec.unread = ⟨[],dec.unread,false⟩ := decode_more shown
      simp [nothing] at spoilt
    | bad =>
      refine ⟨dec,?_⟩
      rw [fillBatch,nextFrame_bad shown]
    | item frame rest =>
      obtain ⟨after,taken,after_sized,split⟩ := nextFrame_split rfl shown
      rw [split,← after_sized] at spoilt few
      obtain ⟨next,ran⟩ := ih after (batch.put frame.payload) spoilt (Nat.lt_of_succ_lt_succ few)
      refine ⟨next,?_⟩
      rwa [fillBatch,taken]

def fullBatches (cap : Nat) (items : List Frame) : List Frame := items.take (cap*(items.length/cap))

theorem fullBatches_few (few : items.length < cap) : fullBatches cap items = [] := by
  rw [fullBatches,Nat.div_eq_of_lt few,Nat.mul_zero,take_zero]

theorem fullBatches_group (room : 0 < cap) (enough : cap ≤ items.length) :
    fullBatches cap items = items.take cap ++ fullBatches cap (items.drop cap) := by
  have more : cap*(items.length/cap) = cap+cap*((items.length-cap)/cap) := by
    rw [Nat.div_eq_sub_div room enough,Nat.mul_succ,Nat.add_comm]
  rw [fullBatches,fullBatches,length_drop,more,take_add]

theorem no_items (more : frameFront maxLen dec.unread ≠ .more)
    (none_left : (decode (frameStream maxLen) dec.unread).items = [])
    (sound : (decode (frameStream maxLen) dec.unread).bad ≠ true) : False := by
  cases shown : frameFront maxLen dec.unread with
  | more => exact more shown
  | bad => exact sound (by rw [decode_bad (D := frameStream maxLen) shown])
  | item frame rest => simp [decode_item (D := frameStream maxLen) shown] at none_left

theorem batched_looks (empty : Batch stride) (fresh : empty.count = 0) (room : 0 < cap) :
    Looks maxLen (fullBatches cap) Batch.payloads stride (batchBuffered cap empty) := by
  rintro dec rfl
  have blank : empty.payloads = [] := by rw [Batch.payloads,fresh]; rfl
  by_cases more : frameFront dec.maxLen dec.unread = .more
  · have filled : fillBatch cap dec empty = (.ok empty,dec) := by
      obtain ⟨n,rfl⟩ := Nat.exists_eq_succ_of_ne_zero (Nat.ne_of_gt room)
      rw [fillBatch,nextFrame_more more]
    have waits : batchBuffered cap empty dec = (.ok none,dec) := by
      rw [batchBuffered,filled]
      exact if_neg (by omega)
    rw [waits]
    exact .waits more rfl rfl
  · obtain ⟨found,holds⟩ : ∃ found, decode (frameStream dec.maxLen) dec.unread = found := ⟨_,rfl⟩
    by_cases short : found.bad = true ∧ found.items.length < cap
    · rw [← holds] at short
      obtain ⟨next,failed⟩ := fillBatch_fails cap dec empty rfl short.1 short.2
      rw [batchBuffered,failed]
      exact .fails short.1 (fullBatches_few short.2)
    · have enough : found.bad = true → cap ≤ found.items.length := by
        intro spoilt
        by_contra less
        exact short ⟨spoilt,Nat.lt_of_not_le less⟩
      obtain ⟨filled,next,ran,next_sized,payloads,count,left⟩ := fillBatch_takes cap dec empty rfl holds enough
      have some_group : found.items.take cap ≠ [] := by
        rw [Ne,take_eq_nil_iff]
        rintro (nothing | nothing)
        · omega
        · rw [nothing] at enough
          exact no_items more (holds ▸ nothing) fun spoilt => Nat.not_le_of_lt room (enough (holds ▸ spoilt))
      have positive : 0 < filled.count := by
        have size := length_pos_iff.mpr some_group
        omega
      have gives : batchBuffered cap empty dec = (.ok (some filled),next) := by
        rw [batchBuffered,ran]
        exact if_pos positive
      rw [gives]
      refine .gives some_group ?_ next_sized ?_ (by rw [left]) ?_
      · rw [payloads,blank,nil_append]
      · rw [left,take_append_drop,holds]
      · intro spoilt
        rw [left] at spoilt
        rw [take_append_drop]
        exact fullBatches_group room (enough spoilt)

theorem batched_calling (buffers : Buffers) (stride : Nat) (room : 0 < buffers.cap stride) :
    batched buffers stride =
      calling Batch.payloads (batchBuffered (buffers.cap stride) (buffers.unused stride)) := by
  have usable : ¬(stride = 0 ∨ buffers.lensLen = 0 ∨ buffers.outLen < stride) := by
    unfold Buffers.cap at room
    rintro (none_wide | none_many | short)
    · simp [none_wide] at room
    · simp [none_many] at room
    · simp [Nat.div_eq_of_lt short] at room
  funext client
  rw [batched,recvBatchInto,if_neg usable,calling]

theorem batched_nothing (buffers : Buffers) (stride : Nat) (full : buffers.cap stride = 0) (client : UdsClient) :
    Sequence (batched buffers stride) client [] := by
  have guarded : stride = 0 ∨ buffers.lensLen = 0 ∨ buffers.outLen < stride := by
    by_contra usable
    obtain ⟨wide,many,long⟩ := not_or.mp usable |>.imp_right not_or.mp
    have fits : 0 < buffers.outLen/stride := Nat.div_pos (Nat.le_of_not_lt long) (Nat.pos_of_ne_zero wide)
    unfold Buffers.cap at full
    omega
  have given : batched buffers stride client = some (.ok [],client) := by
    rw [batched,recvBatchInto,if_pos guarded]
    rfl
  exact sequence_nothing given

end Batched

section Chunks

def chunks : List Poll → List (List UInt8)
  | [] | .eof :: _ | .failed _ :: _ => []
  | .timeout :: rest | .interrupted :: rest => chunks rest
  | .gave first more :: rest => (first :: more) :: chunks rest

theorem expected_drain (kept : List Frame → List Frame) (sound : (decode (frameStream maxLen) xs).bad = false)
    (socket : List Poll) :
    expected maxLen kept xs socket =
      (decode (frameStream maxLen) xs).items ++ expected maxLen kept (decode (frameStream maxLen) xs).rest socket := by
  have drained := decode_more (decode_rest_more sound)
  have split : decode (frameStream maxLen) xs =
      ⟨(decode (frameStream maxLen) xs).items ++ [],
        (decode (frameStream maxLen) (decode (frameStream maxLen) xs).rest).rest,
        (decode (frameStream maxLen) (decode (frameStream maxLen) xs).rest).bad⟩ := by rw [drained,append_nil,← sound]
  refine expected_group split (by rw [drained]) ?_
  intro spoilt
  rw [drained] at spoilt
  cases spoilt

theorem expected_id (maxLen : Nat) (socket : List Poll) (xs : List UInt8) :
    expected maxLen id xs socket = (decode (frameStream maxLen) (xs ++ (chunks socket).flatten)).items := by
  induction socket generalizing xs with
  | nil =>
    cases spoilt : (decode (frameStream maxLen) xs).bad with
    | true => simp [expected_bad spoilt,chunks]
    | false => rw [expected_drain id spoilt,expected_idle id (decode_rest_more spoilt)]; simp [chunks]
  | cons poll rest ih =>
    cases spoilt : (decode (frameStream maxLen) xs).bad with
    | true =>
      rw [expected_bad spoilt,decode_append_bad _ spoilt]
      rfl
    | false =>
      have waiting := decode_rest_more spoilt
      have nothing := decode_more waiting
      rw [expected_drain id spoilt,decode_append _ spoilt,expected_polls id waiting]
      congr 1
      cases poll with
      | timeout | interrupted => exact ih _
      | gave first more =>
        rw [chunks,flatten_cons,← append_assoc]
        exact ih _
      | eof | failed => simp [chunks,nothing]

def FaultAfterBatches (maxLen cap : Nat) (pending : List UInt8) (reads : List (List UInt8)) : Prop :=
  ∀ before chunk later, reads = before ++ chunk :: later →
    (decode (frameStream maxLen) (pending ++ before.flatten)).bad = false →
    (decode (frameStream maxLen) ((decode (frameStream maxLen) (pending ++ before.flatten)).rest ++ chunk)).bad = true →
    cap ∣ (decode (frameStream maxLen) ((decode (frameStream maxLen) (pending ++ before.flatten)).rest ++ chunk)).items.length

theorem faultAfterBatches_iff : FaultAfterBatches maxLen cap xs reads ↔
    AtFault (frameStream maxLen)
      (fun held chunk => cap ∣ (decode (frameStream maxLen) ((decode (frameStream maxLen) held).rest ++ chunk)).items.length)
      xs reads := by
  constructor
  · intro all before chunk later cut sound fault
    rw [decode_append chunk sound] at fault
    exact all before chunk later cut sound fault
  · intro all before chunk later cut sound fault
    apply all before chunk later cut sound
    rwa [decode_append chunk sound]

theorem fullBatches_all :
    items.map (fun frame => frame.payload.take stride) =
      (fullBatches cap items).map (fun frame => frame.payload.take stride) ↔ cap ∣ items.length := by
  constructor
  · intro same
    have size := congrArg length same
    rw [length_map,length_map,fullBatches,length_take] at size
    have less := Nat.mul_div_le items.length cap
    exact ⟨items.length/cap,by omega⟩
  · intro even
    rw [fullBatches,Nat.mul_div_cancel' even,take_length]

-- By induction on the polls: the two receives part at the fault only. `sofar` is what the
-- decoder has been fed.
theorem expected_same (cap stride : Nat) (socket : List Poll) (sofar : List UInt8)
    (sound : (decode (frameStream maxLen) sofar).bad = false) :
    (expected maxLen id (decode (frameStream maxLen) sofar).rest socket).map (fun frame => frame.payload.take stride) =
      (expected maxLen (fullBatches cap) (decode (frameStream maxLen) sofar).rest socket).map
        (fun frame => frame.payload.take stride) ↔
    FaultAfterBatches maxLen cap sofar (chunks socket) := by
  rw [faultAfterBatches_iff]
  induction socket generalizing sofar with
  | nil =>
    rw [expected_idle id (decode_rest_more sound),expected_idle (fullBatches cap) (decode_rest_more sound)]
    exact ⟨fun _ => atFault_nil,fun _ => rfl⟩
  | cons poll rest ih =>
    rw [expected_polls id (decode_rest_more sound),expected_polls (fullBatches cap) (decode_rest_more sound)]
    cases poll with
    | timeout | interrupted => exact ih sofar sound
    | eof | failed => exact ⟨fun _ => atFault_nil,fun _ => rfl⟩
    | gave first more =>
      rw [chunks]
      dsimp only
      have whole := decode_append (first :: more) sound
      cases spoilt : (decode (frameStream maxLen) ((decode (frameStream maxLen) sofar).rest ++ first :: more)).bad with
      | true =>
        rw [expected_bad spoilt,expected_bad spoilt,atFault_stops sound (by rw [whole]; exact spoilt)]
        exact fullBatches_all
      | false =>
        have still : (decode (frameStream maxLen) (sofar ++ first :: more)).bad = false := by rwa [whole]
        have onward := ih (sofar ++ first :: more) still
        rw [expected_drain id spoilt,expected_drain (fullBatches cap) spoilt,map_append,map_append,
          append_cancel_left_eq,atFault_goes still,← onward,whole]

end Chunks

-- A batch whose next frame announces too much is lost with the frames it already holds.
theorem recv_batch_same_iff (maxLen stride : Nat) (buffers : Buffers) (socket : List Poll) :
    (∃ payloads, Sequence (single stride) ⟨.new maxLen,socket⟩ payloads ∧
      Sequence (batched buffers stride) ⟨.new maxLen,socket⟩ payloads) ↔
    if buffers.cap stride = 0 then (decode (frameStream maxLen) (chunks socket).flatten).items = []
    else FaultAfterBatches maxLen (buffers.cap stride) [] (chunks socket) := by
  have fresh : decode (frameStream maxLen) [] = ⟨[],[],false⟩ := decode_more rfl
  have one : Sequence (single stride) ⟨.new maxLen,socket⟩
      ((expected maxLen id [] socket).map fun frame => frame.payload.take stride) := by
    rw [single_calling]
    exact sequence_expected (single_looks maxLen stride) socket (.new maxLen) rfl
  split
  · rename_i full
    have none_batched := batched_nothing buffers stride full ⟨.new maxLen,socket⟩
    have all := expected_id maxLen socket []
    rw [List.nil_append] at all
    rw [← all]
    constructor
    · rintro ⟨payloads,each,batches⟩
      have empty := (sequence_unique one each).trans (sequence_unique batches none_batched)
      exact List.map_eq_nil_iff.mp empty
    · intro empty
      rw [empty] at one
      exact ⟨[],one,none_batched⟩
  · rename_i some_room
    have room := Nat.pos_of_ne_zero some_room
    have many : Sequence (batched buffers stride) ⟨.new maxLen,socket⟩
        ((expected maxLen (fullBatches (buffers.cap stride)) [] socket).map fun frame => frame.payload.take stride) := by
      rw [batched_calling buffers stride room]
      exact sequence_expected (batched_looks (buffers.unused stride) rfl room) socket (.new maxLen) rfl
    rw [← expected_same (buffers.cap stride) stride socket [] (by rw [fresh])]
    rw [fresh]
    constructor
    · rintro ⟨payloads,each,batches⟩
      exact (sequence_unique one each).trans (sequence_unique batches many)
    · intro same
      exact ⟨_,one,by rw [same]; exact many⟩

def faultyRead : Poll :=
  .gave 1 ([0,0,0,0,0,0,0,7] ++ (encodeHeader (UInt32.ofNat (DEFAULT_MAX_FRAME_LEN+1)) 0).toList)

theorem recv_batch_loses_frame : ¬∃ payloads,
    Sequence (single 4) ⟨.new DEFAULT_MAX_FRAME_LEN,[faultyRead]⟩ payloads ∧
    Sequence (batched ⟨fun _ => 0,8,fun _ => 0,2⟩ 4) ⟨.new DEFAULT_MAX_FRAME_LEN,[faultyRead]⟩ payloads := by
  rintro ⟨payloads,each,batches⟩
  obtain ⟨next,given,failed⟩ : ∃ next, single 4 ⟨.new DEFAULT_MAX_FRAME_LEN,[faultyRead]⟩ = some (.ok [[7]],next) ∧
      single 4 next = some (.error .frameTooLarge,next) := ⟨_,rfl,rfl⟩
  have one := sequence_gives given (sequence_ends (by simp [failed]))
  have many : Sequence (batched ⟨fun _ => 0,8,fun _ => 0,2⟩ 4) ⟨.new DEFAULT_MAX_FRAME_LEN,[faultyRead]⟩ [] := by
    obtain ⟨next,lost⟩ : ∃ next, batched ⟨fun _ => 0,8,fun _ => 0,2⟩ 4 ⟨.new DEFAULT_MAX_FRAME_LEN,[faultyRead]⟩ =
        some (.error .frameTooLarge,next) := ⟨_,rfl⟩
    exact sequence_ends (by simp [lost])
  have differ := (sequence_unique one each).trans (sequence_unique batches many)
  simp at differ

end Scg.Client.UdsReceive
