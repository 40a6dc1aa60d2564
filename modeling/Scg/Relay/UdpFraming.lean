import Scg.Ipc.Frame
import Scg.Library.Deframe

namespace Scg.Relay
open Ipc Deframe List

abbrev Datagram := List UInt8

inductive AleType where
  | au1 | au2 | dt | di | other
  deriving DecidableEq

inductive AleError where
  | checksumMismatch (expected got : UInt16)
  | other
  deriving DecidableEq

-- The packet reader of the `ale_pipe` crate: it keeps what is incomplete and returns the
-- packets a feed completes, or an error.
structure AleReader where
  State : Type
  Frame : Type
  packetType : Frame → AleType
  userData : Frame → Datagram
  new : State
  feed : State → List UInt8 → Except AleError (List Frame) × State

-- The inbound half of the framing; the writer of the outbound half is not used here.
inductive UdpFraming (R : AleReader) where
  | ale (reader : R.State)
  | raw (pending : List UInt8)

def UdpFraming.forAppProtocol (R : AleReader) (appProtocol : String) : UdpFraming R :=
  if appProtocol.toLower = "raw" then .raw [] else .ale R.new

def UdpFraming.isAle {R : AleReader} : UdpFraming R → Bool
  | .ale _ => true
  | .raw _ => false

def MAX_RAW_DATAGRAM_LEN : Nat := 65535

structure Scan where
  emitted : List Datagram
  consumed : Nat
  oversize : Bool

def scan (pending : List UInt8) : Nat → Nat → List Datagram → Scan
  | 0,consumed,emitted => ⟨emitted,consumed,false⟩
  | fuel+1,consumed,emitted =>
    match pending.drop consumed with
    | a :: b :: c :: d :: body =>
      let len := (u32FromLeBytes a b c d).toNat
      if len > MAX_RAW_DATAGRAM_LEN then ⟨emitted,consumed,true⟩
      else if body.length < len then ⟨emitted,consumed,false⟩
      else scan pending fuel (consumed+4+len) (emitted ++ [body.take len])
    | _ => ⟨emitted,consumed,false⟩

structure Deframed (R : AleReader) where
  datagrams : List Datagram
  disconnect : Bool
  framing : UdpFraming R

def datagramOf {R : AleReader} (frame : R.Frame) : Option Datagram :=
  if R.packetType frame = .dt then some (R.userData frame) else none

def deframeEach {R : AleReader} : UdpFraming R → List UInt8 → Deframed R
  | .ale reader,data =>
    match R.feed reader data with
    | (.ok frames,reader) =>
      ⟨frames.filterMap datagramOf,frames.any (R.packetType · = .di),.ale reader⟩
    | (.error _,reader) => ⟨[],true,.ale reader⟩
  | .raw pending,data =>
    let pending := pending ++ data
    let found := scan pending (pending.length+1) 0 []
    -- An oversize length returns at once: the datagrams already handed over stay in `pending`.
    if found.oversize then ⟨found.emitted,true,.raw pending⟩
    else if found.consumed = pending.length then ⟨found.emitted,false,.raw []⟩
    else if found.consumed > 0 then ⟨found.emitted,false,.raw (pending.drop found.consumed)⟩
    else ⟨found.emitted,false,.raw pending⟩

def rawFront : List UInt8 → Front UInt8 Datagram
  | a :: b :: c :: d :: body =>
    let len := (u32FromLeBytes a b c d).toNat
    if len > MAX_RAW_DATAGRAM_LEN then .bad
    else if body.length < len then .more
    else .item (body.take len) (body.drop len)
  | _ => .more

section Front
theorem rawFront_item (shown : rawFront xs = .item value rest) : ∃ a b c d body,
    xs = a :: b :: c :: d :: body ∧ (u32FromLeBytes a b c d).toNat ≤ MAX_RAW_DATAGRAM_LEN ∧
    (u32FromLeBytes a b c d).toNat ≤ body.length ∧ value = body.take (u32FromLeBytes a b c d).toNat ∧
    rest = body.drop (u32FromLeBytes a b c d).toNat := by
  unfold rawFront at shown
  split at shown
  · rename_i a b c d body
    dsimp only at shown
    split at shown
    · cases shown
    · rename_i fits
      split at shown <;> cases shown
      rename_i whole
      exact ⟨a,b,c,d,body,rfl,Nat.le_of_not_lt fits,Nat.le_of_not_lt whole,rfl,rfl⟩
  · cases shown

theorem rawFront_bad (shown : rawFront xs = .bad) : ∃ a b c d body,
    xs = a :: b :: c :: d :: body ∧ (u32FromLeBytes a b c d).toNat > MAX_RAW_DATAGRAM_LEN := by
  unfold rawFront at shown
  split at shown
  · rename_i a b c d body
    dsimp only at shown
    split at shown
    · rename_i oversize
      exact ⟨a,b,c,d,body,rfl,oversize⟩
    · split at shown <;> cases shown
  · cases shown

theorem rawFront_whole
    (fits : (u32FromLeBytes a b c d).toNat ≤ MAX_RAW_DATAGRAM_LEN) (whole : (u32FromLeBytes a b c d).toNat ≤ body.length) :
    rawFront (a :: b :: c :: d :: body) =
      .item (body.take (u32FromLeBytes a b c d).toNat) (body.drop (u32FromLeBytes a b c d).toNat) := by
  simp only [rawFront,if_neg (Nat.not_lt.mpr fits),if_neg (Nat.not_lt.mpr whole)]

theorem rawFront_item_stays (shown : rawFront xs = .item value rest) :
    rawFront (xs ++ later) = .item value (rest ++ later) := by
  obtain ⟨a,b,c,d,body,rfl,fits,whole,rfl,rfl⟩ := rawFront_item shown
  have longer : (u32FromLeBytes a b c d).toNat ≤ (body ++ later).length := by
    rw [length_append]
    exact Nat.le_add_right_of_le whole
  simp only [cons_append]
  rw [rawFront_whole fits longer,take_append_of_le_length whole,drop_append_of_le_length whole]

theorem rawFront_bad_stays (shown : rawFront xs = .bad) : rawFront (xs ++ later) = .bad := by
  obtain ⟨a,b,c,d,body,rfl,oversize⟩ := rawFront_bad shown
  simp only [cons_append,rawFront,if_pos oversize]

theorem rawFront_shrinks (shown : rawFront xs = .item value rest) : rest.length < xs.length := by
  obtain ⟨a,b,c,d,body,rfl,_,_,_,rfl⟩ := rawFront_item shown
  simp only [length_drop,length_cons]
  omega

end Front

def rawDecoder : Decoder UInt8 Datagram where
  front := rawFront
  shrinks _ _ _ shown := rawFront_shrinks shown
  item_stays _ _ _ _ shown := rawFront_item_stays shown
  bad_stays _ _ shown := rawFront_bad_stays shown

theorem scan_decodes (pending : List UInt8) (fuel consumed : Nat) (emitted : List Datagram)
    (enough : pending.length < consumed+fuel) (inside : consumed ≤ pending.length) :
    (scan pending fuel consumed emitted).emitted = emitted ++ (decode rawDecoder (pending.drop consumed)).items ∧
    (scan pending fuel consumed emitted).oversize = (decode rawDecoder (pending.drop consumed)).bad ∧
    pending.drop (scan pending fuel consumed emitted).consumed = (decode rawDecoder (pending.drop consumed)).rest ∧
    (scan pending fuel consumed emitted).consumed ≤ pending.length := by
  induction fuel generalizing consumed emitted with
  | zero => omega
  | succ fuel ih =>
    simp only [scan]
    split
    · rename_i a b c d body left
      have front : rawDecoder.front (pending.drop consumed) = rawFront (a :: b :: c :: d :: body) := by rw [left]; rfl
      have size : pending.length-consumed = body.length+4 := by
        rw [← length_drop,left]
        rfl
      split
      · rename_i oversize
        have bad : rawDecoder.front (pending.drop consumed) = .bad := by rw [front,rawFront,if_pos oversize]
        rw [decode_bad bad]
        exact ⟨(append_nil _).symm,rfl,rfl,inside⟩
      · rename_i fits
        split
        · rename_i short
          have more : rawDecoder.front (pending.drop consumed) = .more := by
            rw [front,rawFront,if_neg fits,if_pos short]
          rw [decode_more more]
          exact ⟨(append_nil _).symm,rfl,rfl,inside⟩
        · rename_i whole
          generalize length : (u32FromLeBytes a b c d).toNat = len at fits whole ⊢
          have item : rawDecoder.front (pending.drop consumed) = .item (body.take len) (body.drop len) := by
            rw [front,rawFront_whole (by omega) (by omega),length]
          have behind : body.drop len = pending.drop (consumed+4+len) := by
            rw [Nat.add_assoc,← drop_drop,left,← drop_drop]
            rfl
          rw [decode_item item,behind]
          obtain ⟨emits,oversize,rest,bound⟩ := ih (consumed+4+len) (emitted ++ [body.take len]) (by omega) (by omega)
          refine ⟨?_,oversize,rest,bound⟩
          rw [emits,append_assoc]
          rfl
    · rename_i small
      have more : rawDecoder.front (pending.drop consumed) = .more := by
        change rawFront (pending.drop consumed) = .more
        unfold rawFront
        split
        · rename_i a b c d body left
          exact absurd left (small a b c d body)
        · rfl
      rw [decode_more more]
      exact ⟨(append_nil _).symm,rfl,rfl,inside⟩

theorem deframeEach_raw (pending data : List UInt8) :
    deframeEach (R := R) (.raw pending) data =
      ⟨(decode rawDecoder (pending ++ data)).items,(decode rawDecoder (pending ++ data)).bad,
        .raw (if (decode rawDecoder (pending ++ data)).bad then pending ++ data
          else (decode rawDecoder (pending ++ data)).rest)⟩ := by
  obtain ⟨emits,oversize,rest,bound⟩ := scan_decodes (pending ++ data) ((pending ++ data).length+1) 0 [] (by omega) (by omega)
  rw [drop_zero] at emits oversize rest
  rw [nil_append] at emits
  simp only [deframeEach,oversize,emits]
  split
  · rename_i bad
    simp only [bad]
  · rename_i good
    simp only [good]
    split
    · rename_i all
      rw [← rest,all,drop_length]
    · split
      · rw [rest]
      · have zero : (scan (pending ++ data) ((pending ++ data).length+1) 0 []).consumed = 0 := by omega
        rw [← rest,zero,drop_zero]

end Scg.Relay
