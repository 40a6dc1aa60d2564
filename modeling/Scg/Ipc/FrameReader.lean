import Scg.Ipc.FrameStream

namespace Scg.Ipc
open Deframe List

inductive ErrorKind where
  | unexpectedEof | invalidData | other
  deriving DecidableEq,Repr

structure IoError where
  kind : ErrorKind
  message : String
  deriving DecidableEq,Repr

-- What one `read` of a blocking reader comes back with; a read that is asked for less
-- than it has keeps the rest for the next one.
inductive Answer where
  | gave (first : UInt8) (more : List UInt8)
  | interrupted
  | failed (error : IoError)

abbrev Reader := List Answer

def Answer.bytes : Answer → List UInt8
  | .gave first more => first :: more
  | .interrupted => []
  | .failed _ => []

def Answer.fails : Answer → Bool
  | .failed _ => true
  | _ => false

namespace Reader

def stream (reader : Reader) : List UInt8 := reader.flatMap Answer.bytes

def Sound (reader : Reader) : Prop := ∀ answer ∈ reader, answer.fails = false

def keep : List UInt8 → Reader → Reader
  | [],reader => reader
  | first :: more,reader => .gave first more :: reader

theorem stream_keep (bytes : List UInt8) (reader : Reader) : stream (keep bytes reader) = bytes ++ stream reader := by
  cases bytes <;> rfl

theorem sound_keep (sound : Sound reader) (bytes : List UInt8) : Sound (keep bytes reader) := by
  cases bytes with
  | nil => exact sound
  | cons first more =>
    intro answer found
    cases found with
    | head => rfl
    | tail _ later => exact sound answer later

end Reader

-- `Partial` of the source is `cut`.
inductive ReadOutcome where
  | full | eof | cut
  deriving DecidableEq,Repr

structure Filled where
  outcome : ReadOutcome
  buf : List UInt8
  reader : Reader

def readFullOrEof (size : Nat) (buf : List UInt8) (reader : Reader) : Except IoError Filled :=
  if size ≤ buf.length then .ok ⟨.full,buf,reader⟩
  else
    match reader with
    | [] => .ok ⟨if buf.isEmpty then .eof else .cut,buf,[]⟩
    | .interrupted :: rest => readFullOrEof size buf rest
    | .failed error :: _ => .error error
    | .gave first more :: rest =>
      let want := size-buf.length
      if (first :: more).length ≤ want then readFullOrEof size (buf ++ first :: more) rest
      else .ok ⟨.full,buf ++ (first :: more).take want,Reader.keep ((first :: more).drop want) rest⟩

def truncatedPayload : IoError := ⟨.unexpectedEof,"failed to fill whole buffer"⟩

-- The standard library's `read_exact`: the same loop, and its own error at the end of the stream.
def readExact (size : Nat) (reader : Reader) : Except IoError (List UInt8 × Reader) :=
  match readFullOrEof size [] reader with
  | .error error => .error error
  | .ok ⟨.full,buf,rest⟩ => .ok (buf,rest)
  | .ok _ => .error truncatedPayload

def truncatedHeader : IoError := ⟨.unexpectedEof,"truncated frame header"⟩
def exceedsMaximum (len maxLen : Nat) : IoError := ⟨.invalidData,s!"frame length {len} exceeds maximum {maxLen}"⟩

def readFrame (maxLen : Nat) (reader : Reader) : Except IoError (Option (Frame × Reader)) :=
  match readFullOrEof FRAME_HEADER_LEN [] reader with
  | .error error => .error error
  | .ok ⟨.eof,_,_⟩ => .ok none
  | .ok ⟨.cut,_,_⟩ => .error truncatedHeader
  | .ok ⟨.full,hdr,rest⟩ =>
    let len := (headerAt hdr).1.toNat
    if len > maxLen then .error (exceedsMaximum len maxLen)
    else
      match readExact len rest with
      | .error error => .error error
      | .ok (data,rest) => .ok (some (⟨(headerAt hdr).2,data⟩,rest))

section Filling
theorem readFullOrEof_full (filled : size ≤ buf.length) : readFullOrEof size buf reader = .ok ⟨.full,buf,reader⟩ := by
  unfold readFullOrEof
  exact if_pos filled

theorem Reader.Sound.tail (sound : Sound (answer :: reader)) : Sound reader :=
  fun next found => sound next (mem_cons_of_mem _ found)

theorem Reader.stream_cons (answer : Answer) (reader : Reader) : stream (answer :: reader) = answer.bytes ++ stream reader :=
  flatMap_cons

theorem readFullOrEof_fills (sound : reader.Sound) (room : buf.length ≤ size)
    (enough : size ≤ buf.length+reader.stream.length) :
    ∃ rest : Reader, readFullOrEof size buf reader = .ok ⟨.full,buf ++ reader.stream.take (size-buf.length),rest⟩ ∧
      rest.stream = reader.stream.drop (size-buf.length) ∧ rest.Sound := by
  induction reader generalizing buf with
  | nil =>
    have filled : size ≤ buf.length := enough
    rw [readFullOrEof_full filled,Nat.sub_eq_zero_of_le filled]
    exact ⟨[],by simp,rfl,sound⟩
  | cons answer reader ih =>
    by_cases filled : size ≤ buf.length
    · rw [readFullOrEof_full filled,Nat.sub_eq_zero_of_le filled,take_zero,append_nil]
      exact ⟨answer :: reader,rfl,rfl,sound⟩
    unfold readFullOrEof
    rw [if_neg filled,Reader.stream_cons]
    rw [Reader.stream_cons,length_append] at enough
    cases answer with
    | interrupted => exact ih sound.tail room (by simpa [Answer.bytes] using enough)
    | failed error => cases sound _ mem_cons_self
    | gave first more =>
      dsimp only [Answer.bytes] at enough ⊢
      generalize first :: more = chunk at enough ⊢
      split
      · rename_i fits
        have joined : (buf ++ chunk).length = buf.length+chunk.length := length_append
        obtain ⟨rest,ran,left,still⟩ := ih sound.tail (by omega : (buf ++ chunk).length ≤ size) (by omega)
        have less : size-(buf ++ chunk).length = size-buf.length-chunk.length := by omega
        rw [less] at ran left
        refine ⟨rest,?_,?_,still⟩
        · rw [ran,take_append,take_of_length_le fits,append_assoc]
        · rw [left,drop_append,drop_of_length_le fits,nil_append]
      · have inside : size-buf.length ≤ chunk.length := by omega
        refine ⟨Reader.keep (chunk.drop (size-buf.length)) reader,?_,?_,Reader.sound_keep sound.tail _⟩
        · rw [take_append_of_le_length inside]
        · rw [Reader.stream_keep,drop_append_of_le_length inside]

theorem readFullOrEof_ends (sound : reader.Sound) (less : buf.length+reader.stream.length < size) :
    readFullOrEof size buf reader = .ok ⟨if (buf ++ reader.stream).isEmpty then .eof else .cut,buf ++ reader.stream,[]⟩ := by
  induction reader generalizing buf with
  | nil =>
    unfold readFullOrEof
    rw [if_neg (by omega)]
    simp [Reader.stream]
  | cons answer reader ih =>
    unfold readFullOrEof
    rw [if_neg (by omega)]
    rw [Reader.stream_cons,length_append] at less
    cases answer with
    | interrupted => exact ih sound.tail (by simpa [Answer.bytes] using less)
    | failed error => cases sound _ mem_cons_self
    | gave first more =>
      dsimp only [Answer.bytes] at less ⊢
      rw [if_pos (by omega)]
      have joined : (buf ++ first :: more).length+(Reader.stream reader).length < size := by
        rw [length_append]
        omega
      have shown := ih sound.tail joined
      rwa [append_assoc] at shown

theorem readExact_fills (sound : reader.Sound) (enough : size ≤ reader.stream.length) :
    ∃ rest : Reader, readExact size reader = .ok (reader.stream.take size,rest) ∧
      rest.stream = reader.stream.drop size ∧ rest.Sound := by
  have total : size ≤ ([] : List UInt8).length+reader.stream.length := by rwa [length_nil,Nat.zero_add]
  obtain ⟨rest,ran,left,still⟩ := readFullOrEof_fills sound (Nat.zero_le size) total
  refine ⟨rest,?_,left,still⟩
  rw [readExact,ran]
  rfl

theorem readExact_ends (sound : reader.Sound) (less : reader.stream.length < size) :
    readExact size reader = .error truncatedPayload := by
  have total : ([] : List UInt8).length+reader.stream.length < size := by rwa [length_nil,Nat.zero_add]
  rw [readExact,readFullOrEof_ends sound total]
  cases reader.stream <;> rfl

end Filling

section Frames
-- What is left of a stream when no further frame is in it, as the blocking reader reports it.
inductive Ending where
  | running
  | clean
  | failed (error : IoError)
  deriving DecidableEq,Repr

def cutOff (rest : List UInt8) : Ending :=
  if rest.isEmpty then .clean
  else if rest.length < FRAME_HEADER_LEN then .failed truncatedHeader
  else .failed truncatedPayload

theorem header_fills (sound : reader.Sound) (header : FRAME_HEADER_LEN ≤ reader.stream.length) :
    ∃ rest : Reader,
      readFullOrEof FRAME_HEADER_LEN [] reader = .ok ⟨.full,reader.stream.take FRAME_HEADER_LEN,rest⟩ ∧
      headerAt (reader.stream.take FRAME_HEADER_LEN) = headerAt reader.stream ∧
      rest.stream = reader.stream.drop FRAME_HEADER_LEN ∧ rest.Sound := by
  have total : FRAME_HEADER_LEN ≤ ([] : List UInt8).length+reader.stream.length := by rwa [length_nil,Nat.zero_add]
  obtain ⟨rest,ran,left,still⟩ := readFullOrEof_fills sound (Nat.zero_le _) total
  have first : FRAME_HEADER_LEN ≤ (reader.stream.take FRAME_HEADER_LEN).length := by
    rw [length_take]
    omega
  have same : headerAt (reader.stream.take FRAME_HEADER_LEN) = headerAt reader.stream := by
    rw [← headerAt_append first,take_append_drop]
  exact ⟨rest,ran,same,left,still⟩

theorem readFrame_item (sound : reader.Sound) (shown : frameFront maxLen reader.stream = .item frame rest) :
    ∃ later : Reader, readFrame maxLen reader = .ok (some (frame,later)) ∧ later.stream = rest ∧ later.Sound := by
  obtain ⟨whole,fits,taken,left⟩ := frameFront_item shown
  rw [taken,left]
  obtain ⟨body,ran,same,left,still⟩ := header_fills sound (by omega)
  have enough : announcedLen reader.stream ≤ body.stream.length := by
    rw [left,length_drop]
    omega
  obtain ⟨later,taken,rest,final⟩ := readExact_fills still enough
  refine ⟨later,?_,by rw [rest,left,drop_drop],final⟩
  have len : (headerAt reader.stream).1.toNat = announcedLen reader.stream := rfl
  rw [readFrame,ran]
  dsimp only
  rw [same,len,if_neg (Nat.not_lt.mpr fits),taken,left]

theorem readFrame_bad (sound : reader.Sound) (shown : frameFront maxLen reader.stream = .bad) :
    readFrame maxLen reader = .error (exceedsMaximum (announcedLen reader.stream) maxLen) := by
  obtain ⟨header,oversize⟩ := frameFront_bad shown
  obtain ⟨body,ran,same,_,_⟩ := header_fills sound header
  have len : (headerAt reader.stream).1.toNat = announcedLen reader.stream := rfl
  rw [readFrame,ran]
  dsimp only
  rw [same,len,if_pos oversize]

theorem readFrame_more (sound : reader.Sound) (shown : frameFront maxLen reader.stream = .more) :
    readFrame maxLen reader = .ok none ∧ cutOff reader.stream = .clean ∨
    ∃ error, readFrame maxLen reader = .error error ∧ cutOff reader.stream = .failed error := by
  obtain short | ⟨header,fits,short⟩ := frameFront_more shown
  · have total : ([] : List UInt8).length+reader.stream.length < FRAME_HEADER_LEN := by rwa [length_nil,Nat.zero_add]
    rw [readFrame,readFullOrEof_ends sound total,nil_append,cutOff]
    cases empty : reader.stream.isEmpty with
    | true => exact .inl ⟨rfl,rfl⟩
    | false => exact .inr ⟨truncatedHeader,rfl,by rw [if_pos short]; rfl⟩
  · obtain ⟨body,ran,same,left,still⟩ := header_fills sound header
    have less : body.stream.length < announcedLen reader.stream := by
      rw [left,length_drop]
      omega
    have len : (headerAt reader.stream).1.toNat = announcedLen reader.stream := rfl
    have some : reader.stream.isEmpty = false := by
      cases empty : reader.stream with
      | nil => rw [empty] at header; cases header
      | cons => rfl
    refine .inr ⟨truncatedPayload,?_,?_⟩
    · rw [readFrame,ran]
      dsimp only
      rw [same,len,if_neg (Nat.not_lt.mpr fits),readExact_ends still less]
    · rw [cutOff,some,if_neg Bool.false_ne_true,if_neg (Nat.not_lt.mpr header)]

end Frames

end Scg.Ipc
