import Mathlib.Algebra.Order.BigOperators.Group.List
import Mathlib.Algebra.Order.Group.Nat
import Scg.Relay.AleReader
import Scg.Relay.UdpReverse

namespace Scg.Relay.Association
open Ale List
open UdpReverse (bytesOf)

variable {R : AleReader}

inductive Side where
  | encrypt | decrypt
  deriving DecidableEq

-- The initiator waits for the answer to its AU1, the responder for the AU1.
def Side.awaits : Side → AleType
  | .encrypt => .au2
  | .decrypt => .au1

-- The handshake has a reader of its own. A poll without data and a read that would block
-- each cost one of its attempts.
def associate (side : Side) : Nat → R.State → List TlsRead → Option (List TlsRead)
  | 0,_,_ => none
  | _+1,_,[] => none
  | _+1,_,.ok [] :: _ => none
  | attempts+1,reader,.ok (byte :: bytes) :: rest =>
    match R.feed reader (byte :: bytes) with
    | (.ok frames,reader) =>
      if frames.any (R.packetType · = side.awaits) then some rest else associate side attempts reader rest
    | (.error _,_) => none
  | attempts+1,reader,.wouldBlock :: rest => associate side attempts reader rest
  | _+1,_,.interrupted :: _ => none
  | _+1,_,.failed :: _ => none

-- What the relay hands on from a tunnel. `relay_tls_to_udp` returns where the stream ends;
-- the encrypt relay goes on.
def deliver (side : Side) : UdpFraming R → List TlsRead → List Datagram
  | _,[] => []
  | framing,.ok [] :: rest => if side = .encrypt then deliver side framing rest else []
  | framing,.ok (byte :: bytes) :: rest =>
    let found := deframeEach framing (byte :: bytes)
    found.datagrams ++ if side = .decrypt && found.disconnect then [] else deliver side found.framing rest
  | framing,.wouldBlock :: rest => deliver side framing rest
  | framing,.interrupted :: rest => deliver side framing rest
  | framing,.failed :: rest => if side = .encrypt then deliver side framing rest else []

def ATTEMPTS : Nat := 50

def relayed (side : Side) (R : AleReader) (reads : List TlsRead) : List Datagram :=
  match associate side ATTEMPTS R.new reads with
  | some rest => deliver side (.ale R.new) rest
  | none => []

-- The relay loop of the encrypt side hands on what `deliver` says, whatever is still to come.
def Delivers (framing : UdpFraming R) (s : UdpReverse.State R) : Prop :=
  ∀ later, deliver .encrypt framing (s.reads ++ later) = s.handed.map Prod.snd ++ deliver .encrypt s.framing later

section Loop
theorem read_delivers (valid : Delivers framing s) :
    Delivers framing {UdpReverse.onRead s sslPending result with reads := s.reads ++ [result]} := by
  intro later
  simp only [append_assoc]
  rw [valid]
  cases result with
  | ok bytes =>
    cases bytes with
    | nil => rfl
    | cons byte bytes => simp [UdpReverse.onRead,UdpReverse.onData,deliver]
  | _ => rfl

theorem step_delivers {next : UdpReverse.State R} (valid : Delivers framing s)
    (ran : UdpReverse.step s action = some next) : Delivers framing next := by
  cases UdpReverse.step_moves ran with
  | read result sslPending here => exact read_delivers valid
  | turn lastPeer stage turns => exact valid

theorem reached_delivers (path : Transition.Reached (UdpReverse.system framing) s) : Delivers framing s := by
  refine Transition.Reached.invariant (fun s begun => ?_) (fun _ _ _ valid ran => step_delivers valid ran) path
  cases begun
  exact fun _ => rfl

end Loop

def chunkOf : TlsRead → Option (List UInt8)
  | .ok [] => none
  | .ok (byte :: bytes) => some (byte :: bytes)
  | _ => none

def Cut (stream : List UInt8) (reads : List TlsRead) : Prop :=
  (∀ read ∈ reads, read = .wouldBlock ∨ ∃ byte bytes, read = .ok (byte :: bytes)) ∧ reads.flatMap bytesOf = stream

def Aligned (packet : List UInt8) (reads : List TlsRead) : Prop :=
  ∃ count ≤ ATTEMPTS, (reads.take count).flatMap bytesOf = packet

section Handshake
variable {encode : R.Frame → List UInt8}

theorem flatten_concat (past : List (List UInt8)) (bytes : List UInt8) : (past ++ [bytes]).flatten = past.flatten ++ bytes := by
  simp

theorem associate_aligned (past : List (List UInt8)) (laws : Decodes R encode) (isAu : R.packetType au = side.awaits)
    (reads : List TlsRead) (attempts count : Nat) (enough : count ≤ attempts)
    (readable : ∀ read ∈ reads, read = .wouldBlock ∨ ∃ byte bytes, read = .ok (byte :: bytes))
    (fed : feedAll R.new past = some ([],reader)) (open_ : past.flatten ≠ encode au)
    (aligned : past.flatten ++ (reads.take count).flatMap bytesOf = encode au) :
    ∃ first, associate side attempts reader reads = some (reads.drop first) ∧
      past.flatten ++ (reads.take first).flatMap bytesOf = encode au := by
  induction reads generalizing past reader attempts count with
  | nil =>
    rw [take_nil,flatMap_nil,append_nil] at aligned
    exact absurd aligned open_
  | cons read rest ih =>
    cases count with
    | zero =>
      rw [take_zero,flatMap_nil,append_nil] at aligned
      exact absurd aligned open_
    | succ count =>
      obtain ⟨attempts,rfl⟩ : ∃ fewer, attempts = fewer+1 := ⟨attempts-1,by omega⟩
      obtain ⟨here,later⟩ := forall_mem_cons.mp readable
      rw [take_succ_cons,flatMap_cons] at aligned
      rcases here with rfl | ⟨byte,bytes,rfl⟩
      · obtain ⟨first,found,same⟩ := ih past attempts count (by omega) later fed open_ aligned
        exact ⟨first+1,found,same⟩
      · rw [← append_assoc] at aligned
        have grown := flatten_concat past (byte :: bytes)
        by_cases complete : past.flatten ++ (byte :: bytes) = encode au
        · obtain ⟨next,feeds,_⟩ := laws.feed fed [au] (.inl rfl) (by simpa using complete)
          refine ⟨1,?_,by simpa [bytesOf] using complete⟩
          simp [associate,feeds,isAu]
        · have part : Part encode (past.flatten ++ (byte :: bytes)) :=
            .inr ⟨au,⟨_,aligned⟩,complete⟩
          obtain ⟨next,feeds,fed⟩ := laws.feed fed [] part rfl
          obtain ⟨first,found,same⟩ := ih _ attempts count (by omega) later fed (by rwa [grown]) (by rw [grown]; exact aligned)
          refine ⟨first+1,?_,?_⟩
          · simpa [associate,feeds] using found
          · rw [take_succ_cons,flatMap_cons,← append_assoc]
            rwa [grown] at same

theorem feed_compared (laws : Decodes R encode) (stream : encode au <+: (past ++ [bytes]).flatten ++ later)
    (state : encode au <+: past.flatten ∨ feedAll R.new past = some ([],reader)) :
    encode au <+: (past ++ [bytes]).flatten ∨
      ∃ next, R.feed reader bytes = (.ok [],next) ∧ feedAll R.new (past ++ [bytes]) = some ([],next) := by
  rcases state with complete | fed
  · rw [flatten_concat]
    exact .inl (complete.trans (prefix_append _ _))
  · rcases prefix_or_prefix_of_prefix stream (prefix_append _ _) with complete | begun
    · exact .inl complete
    · by_cases same : (past ++ [bytes]).flatten = encode au
      · exact .inl (same ▸ prefix_refl _)
      · exact .inr (laws.feed fed [] (.inr ⟨au,begun,same⟩) (flatten_concat past bytes).symm)

theorem associate_completes (past : List (List UInt8)) (laws : Decodes R encode) (reads rest : List TlsRead) (attempts : Nat)
    (readable : ∀ read ∈ reads, read = .wouldBlock ∨ ∃ byte bytes, read = .ok (byte :: bytes))
    (stream : encode au <+: past.flatten ++ reads.flatMap bytesOf)
    (state : encode au <+: past.flatten ∨ feedAll R.new past = some ([],reader))
    (done : associate side attempts reader reads = some rest) :
    ∃ first ≤ attempts, rest = reads.drop first ∧ encode au <+: past.flatten ++ (reads.take first).flatMap bytesOf := by
  induction reads generalizing past reader attempts with
  | nil => cases attempts <;> cases done
  | cons read reads ih =>
    cases attempts with
    | zero => cases done
    | succ attempts =>
      obtain ⟨here,later⟩ := forall_mem_cons.mp readable
      rcases here with rfl | ⟨byte,bytes,rfl⟩
      · obtain ⟨first,bound,same,complete⟩ := ih past attempts later stream state done
        exact ⟨first+1,by omega,same,complete⟩
      · change encode au <+: past.flatten ++ ((byte :: bytes) ++ reads.flatMap bytesOf) at stream
        rw [← append_assoc,← flatten_concat] at stream
        have rebuild : ∀ first, past.flatten ++ ((.ok (byte :: bytes) :: reads).take (first+1)).flatMap bytesOf =
            (past ++ [byte :: bytes]).flatten ++ (reads.take first).flatMap bytesOf := by
          intro first
          rw [flatten_concat,append_assoc]
          rfl
        simp only [associate] at done
        rcases feed_compared laws stream state with complete | ⟨next,feeds,fed⟩
        · split at done
          · split at done
            · cases done
              refine ⟨1,by omega,rfl,?_⟩
              rw [rebuild 0]
              exact complete.trans (prefix_append _ _)
            · obtain ⟨first,bound,same,whole⟩ := ih _ attempts later stream (.inl complete) done
              exact ⟨first+1,by omega,same,by rwa [rebuild]⟩
          · cases done
        · simp only [feeds] at done
          obtain ⟨first,bound,same,whole⟩ := ih _ attempts later stream (.inr fed) done
          exact ⟨first+1,by omega,same,by rwa [rebuild]⟩

end Handshake

section Data

theorem flatten_chunks (reads : List TlsRead) : (reads.filterMap chunkOf).flatten = reads.flatMap bytesOf := by
  induction reads with
  | nil => rfl
  | cons read reads ih =>
    cases read with
    | ok bytes =>
      cases bytes with
      | nil => exact ih
      | cons byte bytes => simpa [chunkOf,bytesOf] using ih
    | _ => exact ih

theorem data_datagrams {frames : List R.Frame} (data : ∀ frame ∈ frames, R.packetType frame = .dt) :
    frames.filterMap datagramOf = frames.map R.userData := by
  rw [← filterMap_eq_map]
  apply filterMap_congr
  intro frame present
  simp [datagramOf,data frame present]

theorem data_connected {frames : List R.Frame} (data : ∀ frame ∈ frames, R.packetType frame = .dt) :
    frames.any (R.packetType · = .di) = false := by
  rw [any_eq_false]
  intro frame present
  simp [data frame present]

theorem deliver_data {side : Side} (reads : List TlsRead) (reader final : R.State) (frames : List R.Frame)
    (readable : ∀ read ∈ reads, read = .wouldBlock ∨ ∃ byte bytes, read = .ok (byte :: bytes))
    (fed : feedAll reader (reads.filterMap chunkOf) = some (frames,final))
    (data : ∀ frame ∈ frames, R.packetType frame = .dt) : deliver side (.ale reader) reads = frames.map R.userData := by
  induction reads generalizing reader frames with
  | nil =>
    cases fed
    rfl
  | cons read reads ih =>
    obtain ⟨here,later⟩ := forall_mem_cons.mp readable
    rcases here with rfl | ⟨byte,bytes,rfl⟩
    · exact ih reader frames later fed data
    · change feedAll reader ((byte :: bytes) :: reads.filterMap chunkOf) = _ at fed
      rw [feedAll] at fed
      rcases feeding : R.feed reader (byte :: bytes) with ⟨_ | now,next⟩
      · simp [feeding] at fed
      · simp only [feeding,Option.map_eq_some_iff] at fed
        obtain ⟨⟨more,last⟩,fedLater,rfl,rfl⟩ := fed
        have dataNow : ∀ frame ∈ now, R.packetType frame = .dt :=
          fun frame present => data frame (mem_append_left _ present)
        have rest := ih next more later fedLater fun frame present => data frame (mem_append_right _ present)
        simp only [deliver,deframeEach,feeding,data_datagrams dataNow,data_connected dataNow,Bool.and_false,
          Bool.false_eq_true,if_false,rest,map_append]

theorem datagrams_sublist (frames : List R.Frame) : (frames.filterMap datagramOf).Sublist (frames.map R.userData) := by
  induction frames with
  | nil => exact List.Sublist.slnil
  | cons frame frames ih =>
    simp only [filterMap_cons,datagramOf]
    by_cases data : R.packetType frame = .dt
    · simp only [data]
      exact ih.cons_cons _
    · simp only [data]
      exact ih.cons _

theorem deliver_returned (side : Side) (reads : List TlsRead) (reader : R.State) :
    (deliver side (.ale reader) reads).Sublist ((returned reader (reads.filterMap chunkOf)).map R.userData) := by
  induction reads generalizing reader with
  | nil => exact List.Sublist.slnil
  | cons read reads ih =>
    cases read with
    | ok bytes =>
      cases bytes with
      | nil =>
        simp only [deliver]
        split
        · exact ih reader
        · exact nil_sublist _
      | cons byte bytes =>
        change (deliver side (.ale reader) (.ok (byte :: bytes) :: reads)).Sublist
          ((returned reader ((byte :: bytes) :: reads.filterMap chunkOf)).map R.userData)
        rcases feeding : R.feed reader (byte :: bytes) with ⟨_ | frames,next⟩
        · simp only [deliver,returned,deframeEach,feeding]
          split
          · exact nil_sublist _
          · exact ih next
        · simp only [deliver,returned,deframeEach,feeding,map_append]
          refine (datagrams_sublist frames).append ?_
          split
          · exact nil_sublist _
          · exact ih next
    | wouldBlock | interrupted => exact ih reader
    | failed =>
      simp only [deliver]
      split
      · exact ih reader
      · exact nil_sublist _

end Data

section Association
variable {encode : R.Frame → List UInt8} {dts : List R.Frame}

theorem deliver_all (laws : Decodes R encode) (data : ∀ frame ∈ dts, R.packetType frame = .dt)
    (readable : ∀ read ∈ rest, read = .wouldBlock ∨ ∃ byte bytes, read = .ok (byte :: bytes))
    (stream : rest.flatMap bytesOf = dts.flatMap encode) : deliver side (.ale R.new) rest = dts.map R.userData := by
  have decoded := laws dts [] (rest.filterMap chunkOf) (.inl rfl) (by rw [flatten_chunks,stream,append_nil])
  obtain ⟨⟨frames,final⟩,fed,rfl⟩ := Option.map_eq_some_iff.mp decoded
  exact deliver_data rest R.new final frames readable fed data

theorem deliver_length (side : Side) (sized : Sized R encode header) (reads : List TlsRead) :
    ((deliver side (.ale R.new) reads).map fun datagram => header+datagram.length).sum ≤ (reads.flatMap bytesOf).length := by
  have fed := sized.returned (reads.filterMap chunkOf)
  rw [flatten_chunks] at fed
  have within := (deliver_returned side reads R.new).map fun datagram => header+datagram.length
  rw [map_map] at within
  exact (within.sum_le_sum fun _ _ => Nat.zero_le _).trans fed

section Cut
theorem Cut.parts (cut : Cut stream reads) (first : Nat) :
    (reads.take first).flatMap bytesOf ++ (reads.drop first).flatMap bytesOf = stream := by
  rw [← flatMap_append,take_append_drop]
  exact cut.2

theorem Cut.later (cut : Cut stream reads) (first : Nat) :
    ∀ read ∈ reads.drop first, read = .wouldBlock ∨ ∃ byte bytes, read = .ok (byte :: bytes) :=
  fun read present => cut.1 read (mem_of_mem_drop present)

theorem Cut.associated (laws : Decodes R encode) (cut : Cut (encode au ++ dts.flatMap encode) reads)
    (done : associate side ATTEMPTS R.new reads = some rest) :
    ∃ first ≤ ATTEMPTS, rest = reads.drop first ∧ ∃ extra, encode au ++ extra = (reads.take first).flatMap bytesOf ∧
      extra ++ rest.flatMap bytesOf = dts.flatMap encode := by
  have stream : encode au <+: reads.flatMap bytesOf := ⟨_,cut.2.symm⟩
  obtain ⟨first,bound,rfl,extra,taken⟩ := associate_completes [] laws reads rest ATTEMPTS cut.1 stream (.inr rfl) done
  have whole := cut.parts first
  rw [show (reads.take first).flatMap bytesOf = encode au ++ extra from taken.symm,append_assoc] at whole
  exact ⟨first,bound,rfl,extra,taken,append_cancel_left whole⟩

theorem aligned_of_kept (laws : Decodes R encode) (sized : Sized R encode header)
    (cut : Cut (encode au ++ dts.flatMap encode) reads) (kept : relayed side R reads = dts.map R.userData)
    (some_data : dts ≠ []) : Aligned (encode au) reads := by
  unfold relayed at kept
  cases done : associate side ATTEMPTS R.new reads with
  | none =>
    rw [done] at kept
    exact absurd (map_eq_nil_iff.mp kept.symm) some_data
  | some rest =>
    simp only [done] at kept
    obtain ⟨first,bound,_,extra,taken,left⟩ := cut.associated laws done
    have counted := deliver_length side sized rest
    rw [kept,← encoded_length sized,← left,length_append] at counted
    have none_lost : extra = [] := eq_nil_of_length_eq_zero (by omega)
    refine ⟨first,bound,?_⟩
    rw [← taken,none_lost,append_nil]

theorem relayed_nothing (laws : Decodes R encode) (cut : Cut (encode au ++ ([] : List R.Frame).flatMap encode) reads) :
    relayed side R reads = [] := by
  unfold relayed
  cases done : associate side ATTEMPTS R.new reads with
  | none => rfl
  | some rest =>
    obtain ⟨first,_,rfl,extra,_,left⟩ := cut.associated laws done
    have no_packet : ∀ frame ∈ ([] : List R.Frame), R.packetType frame = .dt := nofun
    exact deliver_all laws no_packet (cut.later first) (append_eq_nil_iff.mp left).2

theorem kept_of_aligned (laws : Decodes R encode) (isAu : R.packetType au = side.awaits)
    (data : ∀ frame ∈ dts, R.packetType frame = .dt) (cut : Cut (encode au ++ dts.flatMap encode) reads)
    (aligned : Aligned (encode au) reads) : relayed side R reads = dts.map R.userData := by
  obtain ⟨count,bound,ends⟩ := aligned
  obtain ⟨first,done,taken⟩ := associate_aligned [] laws isAu reads ATTEMPTS count bound cut.1 rfl
    (laws.encode_ne au).symm ends
  have whole := cut.parts first
  rw [show (reads.take first).flatMap bytesOf = encode au from taken] at whole
  unfold relayed
  rw [done]
  exact deliver_all laws data (cut.later first) (append_cancel_left whole)

end Cut

end Association

-- All data packets behind the association packet are handed on if and only if there are
-- none or one of the handshake's reads ends with the association packet.
theorem association_keeps_datagrams (side : Side) (R : AleReader) (encode : R.Frame → List UInt8) (header : Nat)
    (laws : Decodes R encode) (sized : Sized R encode header) (au : R.Frame) (isAu : R.packetType au = side.awaits)
    (dts : List R.Frame) (data : ∀ frame ∈ dts, R.packetType frame = .dt) (reads : List TlsRead)
    (cut : Cut (encode au ++ dts.flatMap encode) reads) :
    relayed side R reads = dts.map R.userData ↔ (dts ≠ [] → Aligned (encode au) reads) := by
  constructor
  · intro kept some_data
    exact aligned_of_kept laws sized cut kept some_data
  · intro aligned
    by_cases empty : dts = []
    · subst empty
      exact relayed_nothing laws cut
    · exact kept_of_aligned laws isAu data cut (aligned empty)

def associationPacket (side : Side) : Packet :=
  match side with
  | .encrypt => ⟨2,[],by decide⟩
  | .decrypt => ⟨1,[],by decide⟩

def dataPacket (byte : UInt8) : Packet := ⟨3,[byte],by simp⟩

-- The association packet in two reads with a wait between them, then two data packets in one.
theorem association_keeps_datagrams_aligned :
    relayed .decrypt packetReader [.ok [1],.wouldBlock,.ok [0],.ok [3,1,7,3,1,8]] = [[7],[8]] := by
  have cut : Cut ((associationPacket .decrypt).encode ++ [dataPacket 7,dataPacket 8].flatMap Packet.encode)
      [.ok [1],.wouldBlock,.ok [0],.ok [3,1,7,3,1,8]] := by
    refine ⟨?_,rfl⟩
    intro read present
    simp only [List.mem_cons,List.not_mem_nil,or_false] at present
    rcases present with rfl | rfl | rfl | rfl
    · exact .inr ⟨_,_,rfl⟩
    · exact .inl rfl
    · exact .inr ⟨_,_,rfl⟩
    · exact .inr ⟨_,_,rfl⟩
  have data : ∀ frame ∈ [dataPacket 7,dataPacket 8], packetReader.packetType frame = .dt := by
    intro frame present
    simp only [List.mem_cons,List.not_mem_nil,or_false] at present
    rcases present with rfl | rfl <;> rfl
  exact (association_keeps_datagrams .decrypt packetReader Packet.encode 2 packetReader_decodes packetReader_sized
    (associationPacket .decrypt) rfl [dataPacket 7,dataPacket 8] data _ cut).mpr
      fun _ => ⟨3,by decide,rfl⟩

-- The same stream, cut in two ways: a data packet that comes in one read with the
-- association packet is lost, on either side.
theorem association_loses_datagram : Decodes packetReader Packet.encode ∧ (∀ side, relayed side packetReader
      [.ok (associationPacket side).encode,.ok (dataPacket 7).encode] = [[7]]) ∧
    (∀ side, relayed side packetReader
      [.ok ((associationPacket side).encode ++ (dataPacket 7).encode)] = []) := by
  refine ⟨packetReader_decodes,?_,?_⟩
  · intro side
    cases side <;> rfl
  · intro side
    cases side <;> rfl

end Scg.Relay.Association
