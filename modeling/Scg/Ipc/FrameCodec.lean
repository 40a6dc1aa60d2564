import Scg.Ipc.FrameReader

namespace Scg.Ipc
open Deframe List

section Reading
structure Reading where
  frames : List Frame
  ending : Ending
  deriving DecidableEq,Repr

def readFrames (maxLen : Nat) : Nat → Reader → Reading
  | 0,_ => ⟨[],.running⟩
  | fuel+1,reader =>
    match readFrame maxLen reader with
    | .ok none => ⟨[],.clean⟩
    | .error error => ⟨[],.failed error⟩
    | .ok (some (frame,rest)) =>
      let later := readFrames maxLen fuel rest
      {later with frames := frame :: later.frames}

def readAll (maxLen : Nat) (reader : Reader) : Reading := readFrames maxLen (reader.stream.length+1) reader

def endingOf (maxLen : Nat) (done : Decoded UInt8 Frame) : Ending :=
  if done.bad then .failed (exceedsMaximum (announcedLen done.rest) maxLen) else cutOff done.rest

theorem readFrames_decoded (fuel : Nat) (sound : reader.Sound) (enough : reader.stream.length < fuel) :
    readFrames maxLen fuel reader =
      ⟨(decode (frameStream maxLen) reader.stream).items,endingOf maxLen (decode (frameStream maxLen) reader.stream)⟩ := by
  induction fuel generalizing reader with
  | zero => omega
  | succ fuel ih =>
    cases shown : (frameStream maxLen).front reader.stream with
    | more =>
      rw [decode_more shown,readFrames]
      obtain ⟨ran,ended⟩ | ⟨error,ran,ended⟩ := readFrame_more sound shown
      all_goals
        rw [ran]
        exact congrArg (Reading.mk []) ended.symm
    | bad =>
      rw [decode_bad shown,readFrames,readFrame_bad sound shown]
      rfl
    | item frame rest =>
      obtain ⟨later,ran,left,still⟩ := readFrame_item sound shown
      have shorter := frameFront_shrinks shown
      rw [decode_item shown,readFrames,ran]
      dsimp only
      rw [ih still (by rw [left]; omega),left]
      rfl

theorem readAll_decoded (sound : reader.Sound) :
    readAll maxLen reader =
      ⟨(decode (frameStream maxLen) reader.stream).items,endingOf maxLen (decode (frameStream maxLen) reader.stream)⟩ :=
  readFrames_decoded _ sound (Nat.lt_add_one _)

theorem readAll_frames (sound : reader.Sound) :
    (readAll maxLen reader).frames = (decode (frameStream maxLen) reader.stream).items := by
  rw [readAll_decoded sound]

theorem decode_frames (fit : ∀ frame ∈ frames, frame.Fits maxLen) (rest : List UInt8) :
    decode (frameStream maxLen) (frames.flatMap encodeInto ++ rest) =
      {decode (frameStream maxLen) rest with items := frames ++ (decode (frameStream maxLen) rest).items} := by
  have round : ∀ frame ∈ frames, ∀ rest, (frameStream maxLen).front (encodeInto frame ++ rest) = .item frame rest := by
    intro frame found rest
    rw [frameStream_front]
    exact frameFront_encodeInto (fit frame found) rest
  exact decode_encoded frames round rest

end Reading

section Decoding

inductive Call where
  | feed (data : List UInt8)
  | nextFrame
  deriving DecidableEq,Repr

structure Decoding where
  decoder : FrameDecoder
  frames : List Frame

def Decoding.call (decoding : Decoding) : Call → Decoding
  | .feed data => {decoding with decoder := decoding.decoder.feed data}
  | .nextFrame =>
    match decoding.decoder.nextFrame with
    | (.ok (some frame),decoder) => ⟨decoder,decoding.frames ++ [frame]⟩
    | (_,decoder) => ⟨decoder,decoding.frames⟩

def decodeCalls (maxLen : Nat) (calls : List Call) : Decoding := calls.foldl Decoding.call ⟨.new maxLen,[]⟩

def Call.data : Call → List UInt8
  | .feed data => data
  | .nextFrame => []

def fed (calls : List Call) : List UInt8 := calls.flatMap Call.data

structure Decoding.Keeps (maxLen : Nat) (stream : List UInt8) (decoding : Decoding) : Prop where
  conserved : stream = decoding.frames.flatMap encodeInto ++ decoding.decoder.unread
  fit : ∀ frame ∈ decoding.frames, frame.Fits maxLen
  limit : decoding.decoder.maxLen = maxLen

variable {decoding : Decoding}

theorem call_item (shown : frameFront decoding.decoder.maxLen decoding.decoder.unread = .item frame rest) :
    (decoding.call .nextFrame).frames = decoding.frames ++ [frame] ∧
    (decoding.call .nextFrame).decoder.unread = rest ∧
    (decoding.call .nextFrame).decoder.maxLen = decoding.decoder.maxLen := by
  obtain ⟨answer,left,limit⟩ := nextFrame_item shown
  have split : decoding.decoder.nextFrame = (.ok (some frame),decoding.decoder.nextFrame.2) := Prod.ext answer rfl
  rw [Decoding.call,split]
  exact ⟨rfl,left,limit⟩

theorem call_more (shown : frameFront decoding.decoder.maxLen decoding.decoder.unread = .more) :
    decoding.call .nextFrame = decoding := by rw [Decoding.call,nextFrame_more shown]

theorem call_bad (shown : frameFront decoding.decoder.maxLen decoding.decoder.unread = .bad) :
    decoding.call .nextFrame = decoding := by rw [Decoding.call,nextFrame_bad shown]

theorem Decoding.Keeps.call (kept : decoding.Keeps maxLen stream) (next : Call) :
    (decoding.call next).Keeps maxLen (stream ++ next.data) := by
  cases next with
  | feed data =>
    refine ⟨?_,kept.fit,(feed_maxLen _ _).trans kept.limit⟩
    have more : (decoding.call (.feed data)).decoder.unread = decoding.decoder.unread ++ data := feed_unread _ _
    rw [more,← append_assoc]
    exact congrArg (· ++ data) kept.conserved
  | nextFrame =>
    rw [show stream ++ Call.nextFrame.data = stream from append_nil stream]
    cases shown : frameFront decoding.decoder.maxLen decoding.decoder.unread with
    | more => rwa [call_more shown]
    | bad => rwa [call_bad shown]
    | item frame rest =>
      obtain ⟨frames,left,limit⟩ := call_item shown
      obtain ⟨fits,encoded⟩ := frameFront_item_encoded shown
      rw [kept.limit] at fits
      refine ⟨?_,?_,limit.trans kept.limit⟩
      · rw [frames,left,kept.conserved,encoded]
        simp
      · intro other found
        rw [frames,mem_append,mem_singleton] at found
        obtain earlier | rfl := found
        · exact kept.fit other earlier
        · exact fits

theorem Decoding.Keeps.calls (kept : decoding.Keeps maxLen stream) (calls : List Call) :
    (calls.foldl Decoding.call decoding).Keeps maxLen (stream ++ fed calls) := by
  induction calls generalizing decoding stream with
  | nil => rwa [fed,flatMap_nil,append_nil]
  | cons next calls ih =>
    have later := ih (kept.call next)
    rwa [append_assoc] at later

theorem decodeCalls_keeps (maxLen : Nat) (calls : List Call) : (decodeCalls maxLen calls).Keeps maxLen (fed calls) :=
  have begun : Decoding.Keeps maxLen [] ⟨.new maxLen,[]⟩ := ⟨rfl,fun _ found => absurd found not_mem_nil,rfl⟩
  begun.calls calls

theorem Decoding.Keeps.decode (kept : decoding.Keeps maxLen stream) :
    Deframe.decode (frameStream maxLen) stream =
      {Deframe.decode (frameStream maxLen) decoding.decoder.unread with
        items := decoding.frames ++ (Deframe.decode (frameStream maxLen) decoding.decoder.unread).items} := by
  rw [kept.conserved]
  exact decode_frames kept.fit decoding.decoder.unread

theorem call_each (n : Nat) (decoding : Decoding) :
    ((replicate n Call.nextFrame).foldl Decoding.call decoding).frames =
      decoding.frames ++ (decode (frameStream decoding.decoder.maxLen) decoding.decoder.unread).items.take n := by
  induction n generalizing decoding with
  | zero => simp
  | succ n ih =>
    rw [replicate_succ,foldl_cons,ih]
    cases shown : (frameStream decoding.decoder.maxLen).front decoding.decoder.unread with
    | more => rw [call_more shown,decode_more shown]; simp
    | bad => rw [call_bad shown,decode_bad shown]; simp
    | item frame rest =>
      obtain ⟨frames,left,limit⟩ := call_item shown
      rw [frames,left,limit,decode_item shown]
      simp

theorem decodeCalls_each (maxLen n : Nat) (calls : List Call) :
    (decodeCalls maxLen (calls ++ replicate n .nextFrame)).frames =
      (decodeCalls maxLen calls).frames ++
        (decode (frameStream maxLen) (decodeCalls maxLen calls).decoder.unread).items.take n := by
  have each := call_each n (decodeCalls maxLen calls)
  rw [(decodeCalls_keeps maxLen calls).limit] at each
  rwa [decodeCalls,foldl_append]

def Reading.Answers (reading : Reading) (maxLen taken : Nat) (unread : List UInt8) :
    Except FrameError (Option Frame) → Prop
  | .ok (some frame) => reading.frames[taken]? = some frame
  | .ok none => reading.frames.length = taken ∧ reading.ending = cutOff unread
  | .error (.tooLarge len) => reading.frames.length = taken ∧ reading.ending = .failed (exceedsMaximum len maxLen)

theorem Decoding.Keeps.answers (kept : decoding.Keeps maxLen reader.stream) (sound : reader.Sound) :
    (readAll maxLen reader).Answers maxLen decoding.frames.length decoding.decoder.unread decoding.decoder.nextFrame.1 := by
  rw [readAll_decoded sound,kept.decode]
  have limit := kept.limit
  cases shown : frameFront decoding.decoder.maxLen decoding.decoder.unread with
  | more =>
    rw [nextFrame_more shown]
    rw [limit] at shown
    rw [decode_more shown]
    exact ⟨by simp,rfl⟩
  | bad =>
    rw [nextFrame_bad shown]
    rw [limit] at shown
    rw [decode_bad shown]
    exact ⟨by simp,rfl⟩
  | item frame rest =>
    rw [(nextFrame_item shown).1]
    rw [limit] at shown
    rw [decode_item shown]
    simp [Reading.Answers]

theorem decoder_reads_stream (maxLen : Nat) (calls : List Call) (reader : Reader) (sound : reader.Sound)
    (same : reader.stream = fed calls) :
    fed calls = (decodeCalls maxLen calls).frames.flatMap encodeInto ++ (decodeCalls maxLen calls).decoder.unread ∧
    (decodeCalls maxLen calls).frames <+: (readAll maxLen reader).frames ∧
    (readAll maxLen reader).Answers maxLen (decodeCalls maxLen calls).frames.length (decodeCalls maxLen calls).decoder.unread
      (decodeCalls maxLen calls).decoder.nextFrame.1 ∧
    (∀ n,(readAll maxLen reader).frames.length ≤ n →
      (decodeCalls maxLen (calls ++ List.replicate n .nextFrame)).frames = (readAll maxLen reader).frames) ∧
    ∀ frames : List Frame,(∀ frame ∈ frames,frame.payload.length ≤ maxLen ∧ frame.payload.length ≤ 2^32-1) →
      fed calls = frames.flatMap encodeInto → readAll maxLen reader = ⟨frames,.clean⟩ := by
  have kept := decodeCalls_keeps maxLen calls
  rw [← same] at kept ⊢
  have read : (readAll maxLen reader).frames = _ := readAll_frames sound
  rw [kept.decode] at read
  refine ⟨kept.conserved,?_,kept.answers sound,?_,?_⟩
  · rw [read]
    exact List.prefix_append _ _
  · intro n enough
    rw [read,List.length_append] at enough
    rw [decodeCalls_each,read,List.take_of_length_le (by omega)]
  · intro frames fit encoded
    have fits : ∀ frame ∈ frames, frame.Fits maxLen := by
      intro frame found
      obtain ⟨small,word⟩ := fit frame found
      exact ⟨small,by omega⟩
    have decoded := decode_frames fits []
    rw [List.append_nil] at decoded
    rw [readAll_decoded sound,encoded,decoded,decode_more rfl,List.append_nil]
    rfl

def splitCalls : List Call := [.feed [2,0],.nextFrame,.feed [0,0,7,0,0,0,9],.nextFrame,.feed [8]]

def splitReader : Reader := [.gave 2 [0,0],.interrupted,.gave 0 [7,0,0,0,9,8]]

theorem decoder_reads_split :
    splitReader.Sound ∧ splitReader.stream = fed splitCalls ∧ readAll 4 splitReader = ⟨[⟨7,[9,8]⟩],.clean⟩ ∧
    (decodeCalls 4 (splitCalls ++ List.replicate 1 .nextFrame)).frames = [⟨7,[9,8]⟩] := by
  have sound : splitReader.Sound := by unfold Reader.Sound; decide
  obtain ⟨_,_,_,drained,decoded⟩ := decoder_reads_stream 4 splitCalls splitReader sound rfl
  have read : readAll 4 splitReader = ⟨[⟨7,[9,8]⟩],.clean⟩ := decoded [⟨7,[9,8]⟩] (by decide) rfl
  rw [read] at drained
  exact ⟨sound,rfl,read,drained 1 (Nat.le_refl 1)⟩

-- A payload the length field cannot hold: the first frame read back is shorter.
theorem decode_wide (wide : 2^32 ≤ frame.payload.length) (fits : frame.payload.length ≤ maxLen) :
    (decode (frameStream maxLen) (encodeInto frame)).items.head? ≠ some frame := by
  have len := announcedLen_encodeInto frame []
  rw [append_nil] at len
  have size : (encodeInto frame).length = FRAME_HEADER_LEN+frame.payload.length := by simp [encodeInto]
  have whole : FRAME_HEADER_LEN+announcedLen (encodeInto frame) ≤ (encodeInto frame).length := by omega
  have found := frameFront_whole whole (by omega : announcedLen (encodeInto frame) ≤ maxLen)
  rw [← frameStream_front] at found
  rw [decode_item found]
  intro equal
  have payload := congrArg (fun frame => frame.payload.length) (Option.some.inj equal)
  dsimp only at payload
  rw [length_take] at payload
  omega

def hugeFrame : Frame := ⟨0,List.replicate (2^32) 0⟩

theorem huge_frame_misread : hugeFrame.payload.length ≤ 2^32 ∧
    (readAll (2^32) (Reader.keep (encodeInto hugeFrame) [])).frames ≠ [hugeFrame] ∧
    ∀ n,(decodeCalls (2^32) ([.feed (encodeInto hugeFrame)] ++ List.replicate n .nextFrame)).frames ≠ [hugeFrame] := by
  have size : hugeFrame.payload.length = 2^32 := List.length_replicate
  have misread := decode_wide (Nat.le_of_eq size.symm) (Nat.le_of_eq size)
  refine ⟨Nat.le_of_eq size,?_,?_⟩
  · intro read
    have nothing : Reader.Sound [] := fun _ found => absurd found List.not_mem_nil
    have sound := Reader.sound_keep nothing (encodeInto hugeFrame)
    have stream : (Reader.keep (encodeInto hugeFrame) []).stream = encodeInto hugeFrame := by
      rw [Reader.stream_keep]
      exact List.append_nil _
    rw [readAll_frames sound,stream] at read
    apply misread
    rw [read,List.head?_cons]
  · intro n read
    have kept := (decodeCalls_keeps (2^32) ([.feed (encodeInto hugeFrame)] ++ List.replicate n .nextFrame)).decode
    have stream : fed ([.feed (encodeInto hugeFrame)] ++ List.replicate n .nextFrame) = encodeInto hugeFrame := by
      have nothing : fed (List.replicate n .nextFrame) = [] := by simp [fed,Call.data]
      rw [fed,List.flatMap_append,List.flatMap_singleton,← fed,nothing]
      exact List.append_nil _
    rw [stream,read] at kept
    apply misread
    rw [kept]
    rfl

end Decoding

end Scg.Ipc
