import Scg.Ipc.Frame
import Scg.Library.Deframe

namespace Scg.Ipc
open Deframe

def headerAt (bytes : List UInt8) : UInt32 × UInt32 := decodeHeader (Vector.ofFn fun i => bytes.getD i 0)

section FrameDecoder

inductive FrameError where
  | tooLarge (len : Nat)
  deriving DecidableEq,Repr

structure FrameDecoder where
  buf : List UInt8
  pos : Nat
  maxLen : Nat
  within : pos ≤ buf.length

def FrameDecoder.new (maxLen : Nat) : FrameDecoder := ⟨[],0,maxLen,Nat.zero_le _⟩

def FrameDecoder.feed (decoder : FrameDecoder) (data : List UInt8) : FrameDecoder :=
  if decoder.pos = decoder.buf.length then ⟨data,0,decoder.maxLen,Nat.zero_le _⟩
  else if decoder.pos > 64*1024 then ⟨decoder.buf.drop decoder.pos ++ data,0,decoder.maxLen,Nat.zero_le _⟩
  else
    ⟨decoder.buf ++ data,decoder.pos,decoder.maxLen,by
      rw [List.length_append]
      exact Nat.le_add_right_of_le decoder.within⟩

def FrameDecoder.nextFrame (decoder : FrameDecoder) : Except FrameError (Option Frame) × FrameDecoder :=
  let avail := decoder.buf.length-decoder.pos
  if avail < FRAME_HEADER_LEN then (.ok none,decoder)
  else
    let hdr := headerAt (decoder.buf.drop decoder.pos)
    let len := hdr.1.toNat
    -- The cursor stays, so every later call finds the same header again.
    if len > decoder.maxLen then (.error (.tooLarge len),decoder)
    else if short : avail < FRAME_HEADER_LEN+len then (.ok none,decoder)
    else
      (.ok (some ⟨hdr.2,(decoder.buf.drop (decoder.pos+FRAME_HEADER_LEN)).take len⟩),
        ⟨decoder.buf,decoder.pos+(FRAME_HEADER_LEN+len),decoder.maxLen,by
          have within := decoder.within
          omega⟩)

def FrameDecoder.unread (decoder : FrameDecoder) : List UInt8 := decoder.buf.drop decoder.pos

variable (decoder : FrameDecoder) (data : List UInt8)

theorem unread_length : decoder.unread.length = decoder.buf.length-decoder.pos := List.length_drop

@[simp] theorem feed_maxLen : (decoder.feed data).maxLen = decoder.maxLen := by
  unfold FrameDecoder.feed
  split
  · rfl
  · split <;> rfl

theorem feed_unread :
    (decoder.feed data).unread = decoder.unread ++ data := by
  unfold FrameDecoder.feed FrameDecoder.unread
  split
  · rename_i consumed
    rw [consumed,List.drop_length]
    rfl
  · split
    · rfl
    · exact List.drop_append_of_le_length decoder.within

end FrameDecoder

section Front
def announcedLen (xs : List UInt8) : Nat := (headerAt xs).1.toNat

def frameFront (maxLen : Nat) (xs : List UInt8) : Front UInt8 Frame :=
  if xs.length < FRAME_HEADER_LEN then .more
  else if announcedLen xs > maxLen then .bad
  else if xs.length < FRAME_HEADER_LEN+announcedLen xs then .more
  else .item ⟨(headerAt xs).2,(xs.drop FRAME_HEADER_LEN).take (announcedLen xs)⟩ (xs.drop (FRAME_HEADER_LEN+announcedLen xs))

theorem headerAt_append (whole : FRAME_HEADER_LEN ≤ xs.length) : headerAt (xs ++ later) = headerAt xs := by
  unfold headerAt
  congr 2
  funext i
  have inside : i.val < xs.length := Nat.lt_of_lt_of_le i.isLt whole
  simp only [List.getD_eq_getElem?_getD,List.getElem?_append_left inside]

theorem frameFront_item (shown : frameFront maxLen xs = .item frame rest) :
    FRAME_HEADER_LEN+announcedLen xs ≤ xs.length ∧ announcedLen xs ≤ maxLen ∧
    frame = ⟨(headerAt xs).2,(xs.drop FRAME_HEADER_LEN).take (announcedLen xs)⟩ ∧
    rest = xs.drop (FRAME_HEADER_LEN+announcedLen xs) := by
  unfold frameFront at shown
  split at shown
  · cases shown
  · split at shown
    · cases shown
    · rename_i fits
      split at shown <;> cases shown
      rename_i whole
      exact ⟨Nat.le_of_not_lt whole,Nat.le_of_not_lt fits,rfl,rfl⟩

theorem frameFront_more (shown : frameFront maxLen xs = .more) :
    xs.length < FRAME_HEADER_LEN ∨
    FRAME_HEADER_LEN ≤ xs.length ∧ announcedLen xs ≤ maxLen ∧ xs.length < FRAME_HEADER_LEN+announcedLen xs := by
  unfold frameFront at shown
  split at shown
  · rename_i short
    exact .inl short
  · rename_i header
    split at shown
    · cases shown
    · rename_i fits
      split at shown
      · rename_i short
        exact .inr ⟨Nat.le_of_not_lt header,Nat.le_of_not_lt fits,short⟩
      · cases shown

theorem frameFront_bad (shown : frameFront maxLen xs = .bad) :
    FRAME_HEADER_LEN ≤ xs.length ∧ maxLen < announcedLen xs := by
  unfold frameFront at shown
  split at shown
  · cases shown
  · rename_i header
    split at shown
    · rename_i oversize
      exact ⟨Nat.le_of_not_lt header,oversize⟩
    · split at shown <;> cases shown

theorem frameFront_whole (whole : FRAME_HEADER_LEN+announcedLen xs ≤ xs.length) (fits : announcedLen xs ≤ maxLen) :
    frameFront maxLen xs =
      .item ⟨(headerAt xs).2,(xs.drop FRAME_HEADER_LEN).take (announcedLen xs)⟩ (xs.drop (FRAME_HEADER_LEN+announcedLen xs)) := by
  have header : ¬xs.length < FRAME_HEADER_LEN := by omega
  rw [frameFront,if_neg header,if_neg (Nat.not_lt.mpr fits),if_neg (Nat.not_lt.mpr whole)]

theorem frameFront_oversize (header : FRAME_HEADER_LEN ≤ xs.length) (oversize : maxLen < announcedLen xs) :
    frameFront maxLen xs = .bad := by rw [frameFront,if_neg (Nat.not_lt.mpr header),if_pos oversize]

theorem frameFront_item_stays (shown : frameFront maxLen xs = .item frame rest) :
    frameFront maxLen (xs ++ later) = .item frame (rest ++ later) := by
  obtain ⟨whole,fits,taken,left⟩ := frameFront_item shown
  rw [taken,left]
  have header : FRAME_HEADER_LEN ≤ xs.length := by omega
  have same : announcedLen (xs ++ later) = announcedLen xs := by
    unfold announcedLen
    rw [headerAt_append header]
  have longer : FRAME_HEADER_LEN+announcedLen (xs ++ later) ≤ (xs ++ later).length := by
    rw [List.length_append]
    omega
  have body : announcedLen xs ≤ (xs.drop FRAME_HEADER_LEN).length := by
    rw [List.length_drop]
    omega
  rw [frameFront_whole longer (by rw [same]; exact fits),same,headerAt_append header,
    List.drop_append_of_le_length header,List.take_append_of_le_length body,List.drop_append_of_le_length whole]

theorem frameFront_bad_stays (shown : frameFront maxLen xs = .bad) : frameFront maxLen (xs ++ later) = .bad := by
  obtain ⟨header,oversize⟩ := frameFront_bad shown
  have longer : FRAME_HEADER_LEN ≤ (xs ++ later).length := by
    rw [List.length_append]
    omega
  apply frameFront_oversize longer
  rwa [announcedLen,headerAt_append header]

theorem frameFront_shrinks (shown : frameFront maxLen xs = .item frame rest) : rest.length < xs.length := by
  obtain ⟨whole,_,_,left⟩ := frameFront_item shown
  have positive : 0 < FRAME_HEADER_LEN := by decide
  rw [left,List.length_drop]
  omega

def frameStream (maxLen : Nat) : Deframe.Decoder UInt8 Frame where
  front := frameFront maxLen
  shrinks _ _ _ shown := frameFront_shrinks shown
  item_stays _ _ _ _ shown := frameFront_item_stays shown
  bad_stays _ _ shown := frameFront_bad_stays shown

@[simp] theorem frameStream_front (maxLen : Nat) : (frameStream maxLen).front = frameFront maxLen := rfl

end Front

section NextFrame
variable {decoder : FrameDecoder}

theorem nextFrame_more (shown : frameFront decoder.maxLen decoder.unread = .more) :
    decoder.nextFrame = (.ok none,decoder) := by
  obtain short | ⟨header,fits,short⟩ := frameFront_more shown
  · rw [unread_length] at short
    exact if_pos short
  · rw [unread_length] at header short
    exact (if_neg (Nat.not_lt.mpr header)).trans ((if_neg (Nat.not_lt.mpr fits)).trans (dif_pos short))

theorem nextFrame_bad (shown : frameFront decoder.maxLen decoder.unread = .bad) :
    decoder.nextFrame = (.error (.tooLarge (announcedLen decoder.unread)),decoder) := by
  obtain ⟨header,oversize⟩ := frameFront_bad shown
  rw [unread_length] at header
  exact (if_neg (Nat.not_lt.mpr header)).trans (if_pos oversize)

theorem nextFrame_item (shown : frameFront decoder.maxLen decoder.unread = .item frame rest) :
    decoder.nextFrame.1 = .ok (some frame) ∧ decoder.nextFrame.2.unread = rest ∧
    decoder.nextFrame.2.maxLen = decoder.maxLen := by
  obtain ⟨whole,fits,read,left⟩ := frameFront_item shown
  rw [read,left]
  rw [unread_length] at whole
  have header : ¬decoder.buf.length-decoder.pos < FRAME_HEADER_LEN := by omega
  have body : decoder.unread.drop FRAME_HEADER_LEN = decoder.buf.drop (decoder.pos+FRAME_HEADER_LEN) := List.drop_drop
  have rest : decoder.unread.drop (FRAME_HEADER_LEN+announcedLen decoder.unread) =
      decoder.buf.drop (decoder.pos+(FRAME_HEADER_LEN+announcedLen decoder.unread)) := List.drop_drop
  rw [body,rest]
  have moved : decoder.pos+(FRAME_HEADER_LEN+announcedLen decoder.unread) ≤ decoder.buf.length := by
    have within := decoder.within
    omega
  have taken : decoder.nextFrame =
      (.ok (some ⟨(headerAt decoder.unread).2,
          (decoder.buf.drop (decoder.pos+FRAME_HEADER_LEN)).take (announcedLen decoder.unread)⟩),
        ⟨decoder.buf,decoder.pos+(FRAME_HEADER_LEN+announcedLen decoder.unread),decoder.maxLen,moved⟩) := by
    exact (if_neg header).trans ((if_neg (Nat.not_lt.mpr fits)).trans (dif_neg (Nat.not_lt.mpr whole)))
  rw [taken]
  exact ⟨rfl,rfl,rfl⟩

end NextFrame

section Encoding
theorem headerAt_encoded (len trafficId : UInt32) (rest : List UInt8) :
    headerAt ((encodeHeader len trafficId).toList ++ rest) = (len,trafficId) := by
  rw [headerAt_append (by simp)]
  exact decodeHeader_encodeHeader len trafficId

theorem announcedLen_encodeInto (frame : Frame) (rest : List UInt8) :
    announcedLen (encodeInto frame ++ rest) = frame.payload.length % 2^32 := by
  rw [announcedLen,encodeInto,List.append_assoc,headerAt_encoded,UInt32.toNat_ofNat']

def Frame.Fits (maxLen : Nat) (frame : Frame) : Prop := frame.payload.length ≤ maxLen ∧ frame.payload.length < 2^32

theorem frameFront_encodeInto (fits : frame.Fits maxLen) (rest : List UInt8) :
    frameFront maxLen (encodeInto frame ++ rest) = .item frame rest := by
  have len : announcedLen (encodeInto frame ++ rest) = frame.payload.length := by
    rw [announcedLen_encodeInto,Nat.mod_eq_of_lt fits.2]
  have size : (encodeHeader (UInt32.ofNat frame.payload.length) frame.trafficId).toList.length = FRAME_HEADER_LEN := by simp
  have whole : FRAME_HEADER_LEN+announcedLen (encodeInto frame ++ rest) ≤ (encodeInto frame ++ rest).length := by
    rw [len,encodeInto,List.length_append,List.length_append]
    omega
  rw [frameFront_whole whole (by rw [len]; exact fits.1),len]
  rw [encodeInto,List.append_assoc,headerAt_encoded,← List.drop_drop,List.drop_left' size,List.take_left,List.drop_left]

theorem header_bytes (header : FRAME_HEADER_LEN ≤ xs.length) :
    (encodeHeader (headerAt xs).1 (headerAt xs).2).toList = xs.take FRAME_HEADER_LEN := by
  rw [headerAt,encodeHeader_decodeHeader]
  apply List.ext_getElem
  · simp [header]
  · intro i bound _
    have small : i < FRAME_HEADER_LEN := by simpa using bound
    have inside : i < xs.length := Nat.lt_of_lt_of_le small header
    simp [List.getElem?_eq_getElem inside]

theorem frameFront_item_encoded (shown : frameFront maxLen xs = .item frame rest) :
    frame.Fits maxLen ∧ xs = encodeInto frame ++ rest := by
  obtain ⟨whole,fits,taken,left⟩ := frameFront_item shown
  rw [taken,left]
  have header : FRAME_HEADER_LEN ≤ xs.length := by omega
  have size : ((xs.drop FRAME_HEADER_LEN).take (announcedLen xs)).length = announcedLen xs := by
    rw [List.length_take,List.length_drop]
    omega
  have word : UInt32.ofNat (announcedLen xs) = (headerAt xs).1 := UInt32.ofNat_toNat
  constructor
  · unfold Frame.Fits
    rw [size]
    exact ⟨fits,(headerAt xs).1.toNat_lt⟩
  · rw [encodeInto,size,word,header_bytes header,List.append_assoc,← List.drop_drop,List.take_append_drop,
      List.take_append_drop]

end Encoding

end Scg.Ipc
