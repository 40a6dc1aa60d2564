import Scg.AppProtocols.Sessions
import Scg.Relay.RawFraming

namespace Scg.AppProtocols
open Ipc Relay Deframe List Option

namespace Raw

variable {payloads : List Datagram}

theorem drain_front (fuel : Nat) (pending : List UInt8) (datagrams : List Datagram) :
    ∃ e, drain (fuel+1) pending datagrams =
      match rawFront pending with
      | .bad => (.error e,pending)
      | .more => (.ok datagrams,pending)
      | .item value rest => drain fuel rest (datagrams ++ [value]) := by
  match pending with
  | [] | [_] | [_,_] | [_,_,_] => exact ⟨exceedsU32,rfl⟩
  | a :: b :: c :: d :: body =>
    refine ⟨exceedsMaximum (u32FromLeBytes a b c d).toNat,?_⟩
    simp only [drain,rawFront]
    split
    · rfl
    · split <;> rfl

theorem drain_decodes (fuel : Nat) (pending : List UInt8) (datagrams : List Datagram) (enough : pending.length < fuel) :
    ((decode rawDecoder pending).bad = true → ∃ e left, drain fuel pending datagrams = (.error e,left)) ∧
    ((decode rawDecoder pending).bad = false →
      drain fuel pending datagrams = (.ok (datagrams ++ (decode rawDecoder pending).items),(decode rawDecoder pending).rest)) := by
  induction fuel generalizing pending datagrams with
  | zero => omega
  | succ fuel ih =>
    obtain ⟨e,pass⟩ := drain_front fuel pending datagrams
    cases shown : rawFront pending with
    | bad =>
      have bad : rawDecoder.front pending = .bad := shown
      rw [shown] at pass
      rw [decode_bad bad]
      exact ⟨fun _ => ⟨e,pending,pass⟩,fun sound => absurd sound (by simp)⟩
    | more =>
      have more : rawDecoder.front pending = .more := shown
      rw [shown] at pass
      rw [decode_more more,append_nil]
      exact ⟨fun spoilt => absurd spoilt (by simp),fun _ => pass⟩
    | item value rest =>
      have item : rawDecoder.front pending = .item value rest := shown
      rw [shown] at pass
      have shorter := rawFront_shrinks shown
      obtain ⟨fails,gives⟩ := ih rest (datagrams ++ [value]) (by omega)
      rw [decode_item item,pass]
      rw [append_assoc] at gives
      exact ⟨fails,gives⟩

theorem step_bad (spoilt : (decode rawDecoder (pending ++ data)).bad = true) :
    ∃ left, session.step pending data = ([],true,left) := by
  have drained := drain_decodes ((pending ++ data).length+1) (pending ++ data) [] (Nat.lt_succ_self _)
  obtain ⟨e,left,failed⟩ := drained.1 spoilt
  refine ⟨left,?_⟩
  simp only [FramingSession.step,session,deframe,failed]
  rfl

theorem step_good (sound : (decode rawDecoder (pending ++ data)).bad = false) :
    session.step pending data = ((decode rawDecoder (pending ++ data)).items,false,(decode rawDecoder (pending ++ data)).rest) := by
  have drained := drain_decodes ((pending ++ data).length+1) (pending ++ data) [] (Nat.lt_succ_self _)
  simp only [FramingSession.step,session,deframe,drained.2 sound]
  rfl

-- The feed that completes a length that is too large completes no datagram; `sofar` is
-- what came before the feeds.
def NoneLost (sofar : List UInt8) (feeds : List (List UInt8)) : Prop :=
  ∀ before feed later, feeds = before ++ feed :: later →
    (decode rawDecoder (sofar ++ before.flatten)).bad = false →
    (decode rawDecoder (sofar ++ before.flatten ++ feed)).bad = true →
    (decode rawDecoder (sofar ++ before.flatten ++ feed)).items = (decode rawDecoder (sofar ++ before.flatten)).items

theorem noneLost_iff : NoneLost sofar feeds ↔
    AtFault rawDecoder (fun xs feed => (decode rawDecoder (xs ++ feed)).items = (decode rawDecoder xs).items) sofar feeds :=
  Iff.rfl

theorem feeds_agree (feeds : List (List UInt8)) (sofar : List UInt8) (sound : (decode rawDecoder sofar).bad = false) :
    (session.deframeFeeds (decode rawDecoder sofar).rest feeds).2 =
      (untilStop rawDecoder.step (decode rawDecoder sofar).rest feeds).2 ∧
    ((session.deframeFeeds (decode rawDecoder sofar).rest feeds).1 =
      (untilStop rawDecoder.step (decode rawDecoder sofar).rest feeds).1 ↔ NoneLost sofar feeds) := by
  unfold FramingSession.deframeFeeds
  induction feeds generalizing sofar with
  | nil => exact ⟨rfl,fun _ => noneLost_iff.mpr atFault_nil,fun _ => rfl⟩
  | cons feed later ih =>
    have whole := decode_append feed sound
    have bad : (decode rawDecoder (sofar ++ feed)).bad = (decode rawDecoder ((decode rawDecoder sofar).rest ++ feed)).bad := by
      rw [whole]
    have items : (decode rawDecoder (sofar ++ feed)).items =
        (decode rawDecoder sofar).items ++ (decode rawDecoder ((decode rawDecoder sofar).rest ++ feed)).items := by
      rw [whole]
    cases spoilt : (decode rawDecoder (sofar ++ feed)).bad with
    | true =>
      obtain ⟨left,failed⟩ := step_bad (bad ▸ spoilt)
      have taken : rawDecoder.step (decode rawDecoder sofar).rest feed = (_,true,_) :=
        congrArg (fun bad => (_,bad,_)) (bad ▸ spoilt)
      rw [untilStop_stops failed,untilStop_stops taken,noneLost_iff,atFault_stops sound spoilt,items,append_right_eq_self]
      exact ⟨rfl,eq_comm⟩
    | false =>
      have next : (decode rawDecoder (sofar ++ feed)).rest =
          (decode rawDecoder ((decode rawDecoder sofar).rest ++ feed)).rest := by rw [whole]
      have taken : rawDecoder.step (decode rawDecoder sofar).rest feed = (_,false,_) :=
        congrArg (fun bad => (_,bad,_)) (bad ▸ spoilt)
      obtain ⟨stop,same⟩ := ih _ spoilt
      rw [next] at stop same
      rw [untilStop_goes (step_good (bad ▸ spoilt)),untilStop_goes taken,noneLost_iff,atFault_goes spoilt,← noneLost_iff,← same,stop]
      exact ⟨rfl,append_right_inj _⟩

theorem frameAll_frames (framed : session.frameAll pending payloads out = .ok bytes) :
    bytes = out ++ payloads.flatMap rawFrame ∧ ∀ payload ∈ payloads, payload.length < 2^32 := by
  induction payloads generalizing pending out with
  | nil =>
    cases framed
    exact ⟨(append_nil _).symm,fun _ present => absurd present not_mem_nil⟩
  | cons payload rest ih =>
    by_cases small : payload.length < 2^32
    · have onward : session.frameAll pending rest (out ++ rawFrame payload) = .ok bytes := by
        simp only [FramingSession.frameAll,session,frameDatagram,if_pos small] at framed ⊢
        rwa [rawFrame,← append_assoc]
      obtain ⟨same,others⟩ := ih onward
      refine ⟨?_,?_⟩
      · rw [same,flatMap_cons,append_assoc]
      · intro other present
        rcases mem_cons.mp present with rfl | later
        · exact small
        · exact others other later
    · simp only [FramingSession.frameAll,session,frameDatagram,if_neg small] at framed
      cases framed

theorem decode_frames_bad (small : ∀ payload ∈ payloads, payload.length < 2^32)
    (sound : (decode rawDecoder (payloads.flatMap rawFrame)).bad = false) :
    ∀ payload ∈ payloads, payload.length ≤ MAX_RAW_DATAGRAM_LEN := by
  induction payloads with
  | nil => exact fun _ present => absurd present not_mem_nil
  | cons payload rest ih =>
    have front : rawDecoder.front (rawFrame payload ++ rest.flatMap rawFrame) = _ :=
      rawFront_frame (small payload mem_cons_self) _
    rw [flatMap_cons] at sound
    split at front
    · rw [decode_bad front] at sound
      cases sound
    · rename_i fits
      rw [decode_item front] at sound
      intro other present
      rcases mem_cons.mp present with rfl | later
      · exact Nat.le_of_not_lt fits
      · exact ih (fun next found => small next (mem_cons_of_mem _ found)) sound other later

theorem returned_iff (small : ∀ payload ∈ payloads, payload.length < 2^32)
    (stream : feeds.flatten = payloads.flatMap rawFrame) :
    session.deframeFeeds [] feeds = (payloads,none) ↔ ∀ payload ∈ payloads, payload.length ≤ MAX_RAW_DATAGRAM_LEN := by
  obtain ⟨stop,same⟩ := feeds_agree feeds [] rfl
  obtain ⟨items,bad⟩ := untilStop_decode (D := rawDecoder) feeds [] rfl
  rw [nil_append,stream] at items bad
  constructor
  · intro returned
    apply decode_frames_bad small
    rw [← bad]
    change _ = (untilStop rawDecoder.step [] feeds).2 at stop
    rw [← stop]
    exact congrArg isSome (congrArg Prod.snd returned)
  · intro fits
    have whole := decode_frames fits []
    rw [append_nil] at whole
    rw [whole] at items bad
    refine Prod.ext ?_ ?_
    · refine (same.mpr (noneLost_iff.mpr (atFault_sound ?_))).trans (items.trans (append_nil _))
      rw [nil_append,stream,whole]
      rfl
    · have goes : (untilStop rawDecoder.step [] feeds).2.isSome = false := bad
      rw [isSome_eq_false_iff,isNone_iff_eq_none] at goes
      exact stop.trans goes

theorem long_lost (small : payload.length < 2^32) (long : payload.length > MAX_RAW_DATAGRAM_LEN) :
    session.frameAll [] [payload] [] = .ok (rawFrame payload) ∧
      session.deframeFeeds [] [rawFrame payload] ≠ ([payload],none) := by
  refine ⟨?_,?_⟩
  · simp only [FramingSession.frameAll,session,frameDatagram,if_pos small]
    rfl
  · have only : ∀ other ∈ [payload], other.length < 2^32 := fun other present => mem_singleton.mp present ▸ small
    have stream : [rawFrame payload].flatten = [payload].flatMap rawFrame := rfl
    intro returned
    have fits := (returned_iff only stream).mp returned payload mem_cons_self
    omega

end Raw

namespace Ale

variable {R : AleReader}
def notDi (frame : R.Frame) : Bool := R.packetType frame ≠ .di

theorem collect_eq (frames : List R.Frame) (datagrams : List Datagram) :
    collect frames datagrams =
      ⟨datagrams ++ (frames.takeWhile notDi).filterMap datagramOf,frames.any (R.packetType · = .di)⟩ := by
  induction frames generalizing datagrams with
  | nil => simp [collect]
  | cons frame rest ih =>
    cases kind : R.packetType frame with
    | di => simp [collect,kind,notDi]
    | dt | au1 | au2 | other => simp [collect,kind,notDi,datagramOf,ih]

def packets : R.State → List (List UInt8) → List R.Frame
  | _,[] => []
  | reader,bytes :: rest =>
    match R.feed reader bytes with
    | (.ok frames,next) => frames ++ packets next rest
    | (.error _,_) => []

def Apart (reader : R.State) (feeds : List (List UInt8)) : Prop :=
  ∀ before feed later earlier now frames next, feeds = before ++ feed :: later →
    Relay.Ale.feedAll reader before = some (earlier,now) → earlier.all notDi = true →
    R.feed now feed = (.ok frames,next) → (frames.dropWhile notDi).filterMap datagramOf = []

theorem apart_nil : Apart reader [] := by
  intro before feed later earlier now frames next cut
  cases before <;> cases cut

theorem apart_fails {next : R.State} (fed : R.feed reader feed = (.error e,next)) :
    Apart reader (feed :: later) := by
  intro before last rest earlier now frames after cut sound _ taken
  cases before with
  | nil =>
    cases cut
    cases sound
    rw [fed] at taken
    cases taken
  | cons first before =>
    cases cut
    simp only [Relay.Ale.feedAll,fed] at sound
    cases sound

theorem apart_goes {next : R.State} (fed : R.feed reader feed = (.ok frames,next)) :
    Apart reader (feed :: later) ↔
      (frames.dropWhile notDi).filterMap datagramOf = [] ∧ (frames.all notDi = true → Apart next later) := by
  constructor
  · intro apart
    refine ⟨apart [] feed later [] reader frames next rfl rfl rfl fed,?_⟩
    intro quiet before last rest earlier now found after cut sound silent taken
    refine apart (feed :: before) last rest (frames ++ earlier) now found after (by rw [cut]; rfl) ?_ ?_ taken
    · simp only [Relay.Ale.feedAll,fed,sound,map_some]
    · rw [all_append,quiet,silent]
      rfl
  · rintro ⟨here,onward⟩ before last rest earlier now found after cut sound silent taken
    cases before with
    | nil =>
      cases cut
      cases sound
      rw [fed] at taken
      cases taken
      exact here
    | cons first before =>
      cases cut
      simp only [Relay.Ale.feedAll,fed] at sound
      obtain ⟨⟨more,last⟩,later,same⟩ := map_eq_some_iff.mp sound
      cases same
      rw [all_append,Bool.and_eq_true] at silent
      exact onward silent.1 before _ rest more _ found after rfl later silent.2 taken

theorem any_di (frames : List R.Frame) : frames.any (R.packetType · = .di) = !frames.all notDi := by
  rw [not_all_eq_any_not]
  simp [notDi]

theorem step_ok {next : R.State} (fed : R.feed s.reader feed = (.ok frames,next)) :
    (session R W).step s feed =
      ((frames.takeWhile notDi).filterMap datagramOf,!frames.all notDi,{s with reader := next}) := by
  simp only [FramingSession.step,session,deframe,fed,collect_eq,any_di]
  rfl

theorem step_error {next : R.State} (fed : R.feed s.reader feed = (.error e,next)) :
    ∃ after, (session R W).step s feed = ([],true,after) := by
  cases e with
  | checksumMismatch | other =>
    refine ⟨{s with reader := next},?_⟩
    simp only [FramingSession.step,session,deframe,fed]

theorem dataStep_ok {next : R.State} (fed : R.feed reader feed = (.ok frames,next)) :
    deframeStep (.ale reader) feed = (frames.filterMap datagramOf,!frames.all notDi,.ale next) := by
  simp only [deframeStep,deframeEach,fed,any_di]

theorem dataStep_error {next : R.State} (fed : R.feed reader feed = (.error e,next)) :
    deframeStep (.ale reader) feed = ([],true,.ale next) := by simp only [deframeStep,deframeEach,fed]

theorem datagrams_split (frames : List R.Frame) : frames.filterMap datagramOf =
    (frames.takeWhile notDi).filterMap datagramOf ++ (frames.dropWhile notDi).filterMap datagramOf := by
  rw [← filterMap_append,takeWhile_append_dropWhile]

theorem feeds_agree (s : State R W) (feeds : List (List UInt8)) :
    ((session R W).deframeFeeds s feeds).2 = (deframeFeeds (.ale s.reader) feeds).2 ∧
    (((session R W).deframeFeeds s feeds).1 = (deframeFeeds (.ale s.reader) feeds).1 ↔ Apart s.reader feeds) ∧
    ((session R W).deframeFeeds s feeds).1 = ((packets s.reader feeds).takeWhile notDi).filterMap datagramOf := by
  unfold FramingSession.deframeFeeds deframeFeeds
  induction feeds generalizing s with
  | nil => exact ⟨rfl,⟨fun _ => apart_nil,fun _ => rfl⟩,rfl⟩
  | cons feed later ih =>
    rcases fed : R.feed s.reader feed with ⟨e | frames,next⟩
    · obtain ⟨after,failed⟩ := step_error (W := W) fed
      rw [untilStop_stops failed,untilStop_stops (dataStep_error fed),packets,fed]
      exact ⟨rfl,⟨fun _ => apart_fails fed,fun _ => rfl⟩,rfl⟩
    · have here := step_ok fed
      have there := dataStep_ok fed
      rw [packets,fed,apart_goes fed]
      cases quiet : frames.all notDi with
      | true =>
        have all := takeWhile_eq_self_iff.mpr (by simpa using quiet)
        have none := dropWhile_eq_nil_iff.mpr (by simpa using quiet)
        rw [quiet,all] at here
        rw [quiet] at there
        obtain ⟨stop,same,given⟩ := ih {s with reader := next}
        rw [untilStop_goes here,untilStop_goes there,stop,none]
        refine ⟨rfl,?_,?_⟩
        · rw [append_right_inj,same]
          exact ⟨fun apart => ⟨rfl,fun _ => apart⟩,fun apart => apart.2 rfl⟩
        · rw [given,takeWhile_append_of_pos (by simpa using quiet),filterMap_append]
      | false =>
        rw [quiet] at here there
        rw [untilStop_stops here,untilStop_stops there]
        refine ⟨rfl,?_,?_⟩
        · rw [datagrams_split frames]
          constructor
          · intro same
            exact ⟨append_right_eq_self.mp same.symm,fun loud => absurd loud (by simp)⟩
          · intro apart
            rw [apart.1,append_nil]
        · have ends : (frames.takeWhile notDi).length ≠ frames.length := by
            intro same
            have all := takeWhile_eq_self_iff.mp (( takeWhile_prefix notDi).eq_of_length same)
            rw [all_eq_true.mpr all] at quiet
            cases quiet
          rw [takeWhile_append,if_neg ends]

def Writes (W : AleWriter) (encode : R.Frame → List UInt8) : Prop :=
  ∀ writer payload packet next, W.writeAlepkt writer .dt payload = (.ok packet,next) →
    ∃ frame, packet = encode frame ∧ R.packetType frame = .dt ∧ R.userData frame = payload

theorem frameAll_packets {encode : R.Frame → List UInt8} (writes : Writes W encode)
    (framed : (session R W).frameAll s payloads out = .ok bytes) :
    ∃ frames : List R.Frame, bytes = out ++ frames.flatMap encode ∧ frames.all notDi = true ∧
      frames.filterMap datagramOf = payloads := by
  induction payloads generalizing s out with
  | nil =>
    cases framed
    exact ⟨[],(append_nil _).symm,rfl,rfl⟩
  | cons payload rest ih =>
    rcases written : W.writeAlepkt s.writer .dt payload with ⟨e | packet,next⟩
    · simp only [FramingSession.frameAll,session,frameDatagram,written] at framed
      cases framed
    · have onward : (session R W).frameAll {s with writer := next} rest (out ++ packet) = .ok bytes := by
        simp only [FramingSession.frameAll,session,frameDatagram,written] at framed ⊢
        exact framed
      obtain ⟨frame,rfl,kind,data⟩ := writes _ _ _ _ written
      obtain ⟨frames,same,quiet,given⟩ := ih onward
      refine ⟨frame :: frames,?_,?_,?_⟩
      · rw [same,flatMap_cons,append_assoc]
      · rw [all_cons,quiet,notDi,kind]
        rfl
      · rw [filterMap_cons,datagramOf,if_pos kind,data,given]

theorem feeds_sound (fed : Relay.Ale.feedAll s.reader feeds = some (frames,now)) (quiet : frames.all notDi = true) :
    (session R W).deframeFeeds s feeds = (frames.filterMap datagramOf,none) := by
  unfold FramingSession.deframeFeeds
  induction feeds generalizing s frames with
  | nil =>
    cases fed
    rfl
  | cons feed later ih =>
    rcases taken : R.feed s.reader feed with ⟨e | first,next⟩
    · simp only [Relay.Ale.feedAll,taken] at fed
      cases fed
    · simp only [Relay.Ale.feedAll,taken] at fed
      obtain ⟨⟨more,last⟩,onward,same⟩ := map_eq_some_iff.mp fed
      cases same
      rw [all_append,Bool.and_eq_true] at quiet
      have here := step_ok taken
      have all := takeWhile_eq_self_iff.mpr (by simpa using quiet.1)
      rw [quiet.1,all] at here
      have rest : untilStop (session R W).step {s with reader := next} later = _ := ih onward quiet.2
      rw [untilStop_goes here,rest,filterMap_append]
      rfl

end Ale

-- The two ways to frame agree unless a raw feed completes datagrams before a length that
-- is too large, or data stands behind a DI in one feed.
theorem sessions_agree_iff (R : AleReader) (W : AleWriter) :
    (∀ feeds, (Raw.session.deframeFeeds Raw.session.create feeds).1 = (deframeFeeds (R := R) (.raw []) feeds).1 ↔
      Raw.NoneLost [] feeds) ∧
    (∀ feeds, ((Ale.session R W).deframeFeeds (Ale.session R W).create feeds = deframeFeeds (.ale R.new) feeds ∧
      (deframeFeeds (.ale R.new) feeds).1 = ((Ale.packets R.new feeds).takeWhile Ale.notDi).filterMap datagramOf) ↔
      Ale.Apart R.new feeds) ∧
    (∀ payloads feeds, Raw.session.frameAll Raw.session.create payloads [] = .ok feeds.flatten →
      (Raw.session.deframeFeeds Raw.session.create feeds = (payloads,none) ↔
        ∀ payload ∈ payloads, payload.length ≤ MAX_RAW_DATAGRAM_LEN)) ∧
    ∀ encode payloads feeds, Relay.Ale.Decodes R encode → Ale.Writes W encode →
      (Ale.session R W).frameAll (Ale.session R W).create payloads [] = .ok feeds.flatten →
      (Ale.session R W).deframeFeeds (Ale.session R W).create feeds = (payloads,none) := by
  refine ⟨?_,?_,?_,?_⟩
  · intro feeds
    rw [deframeFeeds_raw]
    exact (Raw.feeds_agree feeds [] rfl).2
  · intro feeds
    obtain ⟨stop,same,given⟩ := Ale.feeds_agree (Ale.session R W).create feeds
    constructor
    · rintro ⟨equal,_⟩
      exact same.mp (congrArg Prod.fst equal)
    · intro apart
      have equal := same.mpr apart
      exact ⟨Prod.ext equal stop,equal ▸ given⟩
  · intro payloads feeds framed
    obtain ⟨stream,small⟩ := Raw.frameAll_frames framed
    exact Raw.returned_iff small stream
  · intro encode payloads feeds decodes writes framed
    obtain ⟨frames,stream,quiet,given⟩ := Ale.frameAll_packets writes framed
    have whole := decodes frames [] feeds (.inl rfl) (by rw [stream,List.nil_append,List.append_nil])
    obtain ⟨⟨found,now⟩,fed,rfl⟩ := Option.map_eq_some_iff.mp whole
    rw [Ale.feeds_sound fed quiet,given]

def packetWriter : AleWriter where
  State := Unit
  new := ()
  writeAlepkt _ kind payload :=
    let code : UInt8 := match kind with | .au1 => 1 | .au2 => 2 | .dt => 3 | .di => 4 | .other => 0
    if payload.length < 256 then (.ok (code :: UInt8.ofNat payload.length :: payload),()) else (.error .other,())
  display _ := "packet too long"

theorem packetWriter_writes : Ale.Writes (R := Relay.Ale.packetReader) packetWriter Relay.Ale.Packet.encode := by
  intro writer payload packet next written
  simp only [packetWriter] at written
  split at written <;> cases written
  rename_i short
  exact ⟨⟨3,payload,short⟩,rfl,rfl,rfl⟩

theorem sessions_agree_packet :
    (Ale.session Relay.Ale.packetReader packetWriter).frameAll ⟨(),[]⟩ [[1,2]] [] = .ok [[3,2],[1,2]].flatten ∧
    (Ale.session Relay.Ale.packetReader packetWriter).deframeFeeds ⟨(),[]⟩ [[3,2],[1,2]] = ([[1,2]],none) :=
  ⟨rfl,(sessions_agree_iff Relay.Ale.packetReader packetWriter).2.2.2 Relay.Ale.Packet.encode [[1,2]] [[3,2],[1,2]]
    Relay.Ale.packetReader_decodes packetWriter_writes rfl⟩

-- A datagram and a length of 65536 in one feed; a DI and a data packet in one feed; and a
-- payload of 65536 bytes.
theorem sessions_disagree : (Raw.session.deframeFeeds [] [[1,0,0,0,7,0,0,1,0]]).1 = [] ∧
    (deframeFeeds (R := Relay.Ale.packetReader) (.raw []) [[1,0,0,0,7,0,0,1,0]]).1 = [[7]] ∧
    (Ale.session Relay.Ale.packetReader packetWriter).deframeFeeds ⟨(),[]⟩ [[4,0,3,1,9]] = ([],some 0) ∧
    deframeFeeds (R := Relay.Ale.packetReader) (.ale []) [[4,0,3,1,9]] = ([[9]],some 0) ∧
    ∃ bytes, Raw.session.frameAll [] [List.replicate 65536 0] [] = .ok bytes ∧
      Raw.session.deframeFeeds [] [bytes] ≠ ([List.replicate 65536 0],none) := by
  refine ⟨rfl,rfl,rfl,rfl,rawFrame (List.replicate 65536 0),?_⟩
  have length : (List.replicate 65536 (0 : UInt8)).length = 65536 := List.length_replicate
  exact Raw.long_lost (by rw [length]; decide) (by rw [length]; decide)

end Scg.AppProtocols
