import Scg.Relay.AleReader
import Scg.Relay.Loops

namespace Scg.Relay
open Ipc Net Deframe List

variable {R : AleReader} {W : AleWriter}

def frameAll : Tunnel R W → List Datagram → List UInt8
  | _,[] => []
  | t,payload :: rest =>
    let (bytes,t) := t.frameInto payload
    bytes ++ frameAll t rest

def deframeStep (framing : UdpFraming R) (data : List UInt8) : List Datagram × Bool × UdpFraming R :=
  ((deframeEach framing data).datagrams,(deframeEach framing data).disconnect,(deframeEach framing data).framing)

def deframeFeeds (framing : UdpFraming R) (feeds : List (List UInt8)) : List Datagram × Option Nat :=
  untilStop deframeStep framing feeds

def rawFrame (payload : Datagram) : List UInt8 := (u32ToLeBytes (UInt32.ofNat payload.length)).toList ++ payload

theorem frameAll_raw (writer : W.State) (peer : Option SocketAddr) (pending : List UInt8) (datagrams : List Datagram) :
    frameAll (R := R) ⟨.raw pending,writer,peer⟩ datagrams = datagrams.flatMap rawFrame := by
  induction datagrams with
  | nil => rfl
  | cons payload rest ih =>
    rw [flatMap_cons,← ih]
    rfl

theorem rawFront_frame (small : payload.length < 2^32) (rest : List UInt8) :
    rawFront (rawFrame payload ++ rest) =
      if payload.length > MAX_RAW_DATAGRAM_LEN then .bad else .item payload rest := by
  have length : (UInt32.ofNat payload.length).toNat = payload.length := UInt32.toNat_ofNat_of_lt' small
  change rawFront (_ :: _ :: _ :: _ :: (payload ++ rest)) = _
  simp only [rawFront,u32_round]
  rw [length]
  split
  · rfl
  · have whole : ¬ (payload ++ rest).length < payload.length := by
      rw [length_append]
      omega
    rw [if_neg whole,take_left,drop_left]

theorem rawFront_canonical (shown : rawFront xs = .item value rest) :
    xs = rawFrame value ++ rest ∧ value.length ≤ MAX_RAW_DATAGRAM_LEN := by
  obtain ⟨a,b,c,d,body,rfl,fits,whole,rfl,rfl⟩ := rawFront_item shown
  have length : (body.take (u32FromLeBytes a b c d).toNat).length = (u32FromLeBytes a b c d).toNat :=
    length_take_of_le whole
  refine ⟨?_,length.trans_le fits⟩
  rw [rawFrame,length,UInt32.ofNat_toNat,bytes_round,append_assoc,take_append_drop]
  rfl

theorem deframeFeeds_raw (feeds : List (List UInt8)) :
    deframeFeeds (R := R) (.raw []) feeds = untilStop rawDecoder.step [] feeds := by
  refine untilStop_follow (fun framing pending => framing = .raw pending) ?_ rfl feeds
  rintro _ pending piece rfl
  simp only [deframeStep,deframeEach_raw,Decoder.step,true_and]
  intro sound
  rw [sound]
  rfl

theorem deframeFeeds_whole (feeds : List (List UInt8)) :
    (deframeFeeds (R := R) (.raw []) feeds).1 = (decode rawDecoder feeds.flatten).items ∧
    (deframeFeeds (R := R) (.raw []) feeds).2.isSome = (decode rawDecoder feeds.flatten).bad := by
  rw [deframeFeeds_raw]
  exact untilStop_decode feeds [] rfl

theorem decode_frames (small : ∀ payload ∈ datagrams, payload.length ≤ MAX_RAW_DATAGRAM_LEN) (tail : List UInt8) :
    decode rawDecoder (datagrams.flatMap rawFrame ++ tail) =
      {decode rawDecoder tail with items := datagrams ++ (decode rawDecoder tail).items} := by
  refine decode_encoded datagrams ?_ tail
  intro payload present rest
  have bound := small payload present
  have cap : MAX_RAW_DATAGRAM_LEN < 2^32 := by decide
  have front : rawFront (rawFrame payload ++ rest) = _ := rawFront_frame (by omega) rest
  rwa [if_neg (by omega)] at front

theorem decode_oversize (spoilt : (decode rawDecoder xs).bad = true) :
    ∃ a b c d body, xs = (decode rawDecoder xs).items.flatMap rawFrame ++ a :: b :: c :: d :: body ∧
      (u32FromLeBytes a b c d).toNat > MAX_RAW_DATAGRAM_LEN ∧
      ∀ payload ∈ (decode rawDecoder xs).items, payload.length ≤ MAX_RAW_DATAGRAM_LEN := by
  induction xs using decode_induction (D := rawDecoder) with
  | more xs shown => simp [decode_more shown] at spoilt
  | bad xs shown =>
    obtain ⟨a,b,c,d,body,rfl,oversize⟩ := rawFront_bad shown
    rw [decode_bad shown]
    exact ⟨a,b,c,d,body,rfl,oversize,fun _ present => absurd present (not_mem_nil)⟩
  | item xs value rest shown ih =>
    rw [decode_item shown] at spoilt ⊢
    obtain ⟨a,b,c,d,body,split,oversize,small⟩ := ih spoilt
    obtain ⟨here,fits⟩ := rawFront_canonical shown
    refine ⟨a,b,c,d,body,?_,oversize,?_⟩
    · rwa [flatMap_cons,append_assoc,← split]
    · intro payload present
      rcases mem_cons.mp present with rfl | later
      · exact fits
      · exact small payload later

-- Cut anywhere, the frames of datagrams come out as those datagrams; what comes out of any
-- stream does not depend on the cuts.
theorem raw_framing_splits (R : AleReader) (W : AleWriter) (writer : W.State) (peer : Option SocketAddr) (pending : List UInt8) :
    (∀ datagrams feeds, (∀ payload ∈ datagrams, payload.length ≤ MAX_RAW_DATAGRAM_LEN) →
      feeds.flatten = frameAll (⟨.raw pending,writer,peer⟩ : Tunnel R W) datagrams →
      deframeFeeds (R := R) (.raw []) feeds = (datagrams,none)) ∧
    (∀ one two, one.flatten = two.flatten →
      (deframeFeeds (R := R) (.raw []) one).1 = (deframeFeeds (R := R) (.raw []) two).1 ∧
      (deframeFeeds (R := R) (.raw []) one).2.isSome = (deframeFeeds (R := R) (.raw []) two).2.isSome) ∧
    ∀ feeds before, ((deframeFeeds (R := R) (.raw []) feeds).1 = before ∧ (deframeFeeds (R := R) (.raw []) feeds).2.isSome) ↔
      (∀ payload ∈ before, payload.length ≤ MAX_RAW_DATAGRAM_LEN) ∧ ∃ a b c d body,
        feeds.flatten = frameAll (⟨.raw pending,writer,peer⟩ : Tunnel R W) before ++ a :: b :: c :: d :: body ∧
        (u32FromLeBytes a b c d).toNat > MAX_RAW_DATAGRAM_LEN := by
  refine ⟨?_,?_,?_⟩
  · intro datagrams feeds small stream
    obtain ⟨items,stop⟩ := deframeFeeds_whole (R := R) feeds
    rw [frameAll_raw,← List.append_nil (datagrams.flatMap rawFrame)] at stream
    rw [stream,decode_frames small] at items stop
    refine Prod.ext ?_ ?_
    · rw [items]
      exact List.append_nil _
    · have goes : (deframeFeeds (R := R) (.raw []) feeds).2.isSome = false := stop
      rwa [Option.isSome_eq_false_iff,Option.isNone_iff_eq_none] at goes
  · intro one two same
    obtain ⟨items,stop⟩ := deframeFeeds_whole (R := R) one
    obtain ⟨items',stop'⟩ := deframeFeeds_whole (R := R) two
    rw [items,stop,items',stop',same]
    exact ⟨rfl,rfl⟩
  · intro feeds before
    obtain ⟨items,stop⟩ := deframeFeeds_whole (R := R) feeds
    rw [items,stop,frameAll_raw]
    constructor
    · rintro ⟨rfl,spoilt⟩
      obtain ⟨a,b,c,d,body,split,oversize,small⟩ := decode_oversize spoilt
      exact ⟨small,a,b,c,d,body,split,oversize⟩
    · rintro ⟨small,a,b,c,d,body,split,oversize⟩
      have bad : rawDecoder.front (a :: b :: c :: d :: body) = .bad := if_pos oversize
      rw [split,decode_frames small,decode_bad bad]
      exact ⟨List.append_nil _,rfl⟩

-- A header and a datagram cut in the middle, with an empty datagram behind it.
theorem raw_framing_splits_cut : (∀ payload ∈ [[7,8],[]],payload.length ≤ MAX_RAW_DATAGRAM_LEN) ∧
    deframeFeeds (R := Ale.packetReader) (.raw []) [[2,0],[0,0,7],[8,0,0,0,0]] = ([[7,8],[]],none) :=
  ⟨by decide,(raw_framing_splits Ale.packetReader
    ⟨Unit,fun _ payload => (payload,()),0,fun _ payload => Nat.le_refl payload.length⟩ () none []).1
    [[7,8],[]] [[2,0],[0,0,7],[8,0,0,0,0]] (by decide) rfl⟩

end Scg.Relay
