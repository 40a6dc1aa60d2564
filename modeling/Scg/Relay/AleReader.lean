import Scg.Relay.UdpFraming

namespace Scg.Relay.Ale
open Deframe List

variable {R : AleReader}

def feedAll : R.State → List (List UInt8) → Option (List R.Frame × R.State)
  | reader,[] => some ([],reader)
  | reader,bytes :: rest =>
    match R.feed reader bytes with
    | (.ok frames,reader) => (feedAll reader rest).map fun (more,reader) => (frames ++ more,reader)
    | (.error _,_) => none

def returned : R.State → List (List UInt8) → List R.Frame
  | _,[] => []
  | reader,bytes :: rest =>
    match R.feed reader bytes with
    | (.ok frames,reader) => frames ++ returned reader rest
    | (.error _,reader) => returned reader rest

def Part (encode : R.Frame → List UInt8) (bytes : List UInt8) : Prop :=
  bytes = [] ∨ ∃ frame, bytes <+: encode frame ∧ bytes ≠ encode frame

-- Fed a concatenation of packets and perhaps the beginning of another, the reader returns
-- those packets, however the bytes are cut.
def Decodes (R : AleReader) (encode : R.Frame → List UInt8) : Prop :=
  ∀ frames part chunks, Part encode part → chunks.flatten = frames.flatMap encode ++ part →
    (feedAll R.new chunks).map Prod.fst = some frames

structure Sized (R : AleReader) (encode : R.Frame → List UInt8) (header : Nat) : Prop where
  encoded : ∀ frame, (encode frame).length = header+(R.userData frame).length
  returned : ∀ chunks, ((returned R.new chunks).map fun frame => header+(R.userData frame).length).sum ≤ chunks.flatten.length

section Laws
variable {encode : R.Frame → List UInt8}

theorem feedAll_concat (reader : R.State) (past : List (List UInt8)) (bytes : List UInt8) :
    feedAll reader (past ++ [bytes]) = (feedAll reader past).bind fun (frames,reader) =>
      (feedAll reader [bytes]).map fun (more,reader) => (frames ++ more,reader) := by
  induction past generalizing reader with
  | nil => simp [feedAll]
  | cons first past ih =>
    rw [List.cons_append,feedAll,feedAll]
    rcases R.feed reader first with ⟨_ | frames,next⟩
    · rfl
    · simp only [ih next]
      cases feedAll next past with
      | none => rfl
      | some fed =>
        simp only [Option.bind_some,Option.map_map]
        congr 1
        funext last
        simp

theorem Decodes.feed (laws : Decodes R encode) (fed : feedAll R.new past = some ([],reader)) (frames : List R.Frame)
    (begun : Part encode part) (here : past.flatten ++ bytes = frames.flatMap encode ++ part) :
    ∃ next, R.feed reader bytes = (.ok frames,next) ∧ feedAll R.new (past ++ [bytes]) = some (frames,next) := by
  have whole := laws frames part (past ++ [bytes]) begun (by simpa using here)
  rw [feedAll_concat,fed] at whole ⊢
  simp only [Option.bind_some,feedAll] at whole ⊢
  rcases feeding : R.feed reader bytes with ⟨_ | found,next⟩
  · simp [feeding] at whole
  · have same : found = frames := by simpa [feeding] using whole
    subst same
    exact ⟨next,rfl,by simp⟩

theorem Decodes.encode_ne (laws : Decodes R encode) (frame : R.Frame) : encode frame ≠ [] := by
  intro empty
  have nothing := laws [frame] [] [] (.inl rfl) (by simp [empty])
  simp [feedAll] at nothing

theorem encoded_length (sized : Sized R encode header) (frames : List R.Frame) :
    (frames.flatMap encode).length = ((frames.map R.userData).map fun datagram => header+datagram.length).sum := by
  induction frames with
  | nil => rfl
  | cons frame frames ih =>
    rw [flatMap_cons,length_append,sized.encoded,ih]
    rfl

end Laws

-- A reader that keeps one buffer and decodes from its front, for a packet format that can
-- be read so.
@[reducible] def bufferReader {F : Type} (D : Decoder UInt8 F) (packetType : F → AleType) (userData : F → Datagram) : AleReader where
  State := List UInt8
  Frame := F
  packetType := packetType
  userData := userData
  new := []
  feed pending bytes :=
    let found := decode D (pending ++ bytes)
    if found.bad then (.error .other,pending ++ bytes) else (.ok found.items,found.rest)

section Buffer
variable {F : Type} {packetType : F → AleType} {userData : F → Datagram} {encode : F → List UInt8}
theorem buffer_feed (sound : (decode D (pending ++ bytes)).bad = false) :
    (bufferReader D packetType userData).feed pending bytes =
      (.ok (decode D (pending ++ bytes)).items,(decode D (pending ++ bytes)).rest) := by simp [sound]

theorem buffer_fails (spoilt : (decode D (pending ++ bytes)).bad = true) :
    (bufferReader D packetType userData).feed pending bytes = (.error .other,pending ++ bytes) := by simp [spoilt]

theorem feedAll_buffer (chunks : List (List UInt8)) (pending : List UInt8) (drained : D.front pending = .more)
    (sound : (decode D (pending ++ chunks.flatten)).bad = false) :
    feedAll (R := bufferReader D packetType userData) pending chunks =
      some ((decode D (pending ++ chunks.flatten)).items,(decode D (pending ++ chunks.flatten)).rest) := by
  induction chunks generalizing pending with
  | nil => simp [feedAll,decode_more drained]
  | cons bytes chunks ih =>
    rw [flatten_cons,← append_assoc] at sound ⊢
    have now : (decode D (pending ++ bytes)).bad = false := by
      by_contra spoilt
      rw [decode_append_bad chunks.flatten (by simpa using spoilt)] at sound
      cases sound
    rw [decode_append chunks.flatten now] at sound ⊢
    have rest := ih (decode D (pending ++ bytes)).rest (decode_rest_more now) sound
    rw [feedAll,buffer_feed now]
    dsimp only
    rw [rest]
    rfl

theorem buffer_decodes (round : ∀ frame rest, D.front (encode frame ++ rest) = .item frame rest)
    (begun : ∀ bytes, Part (R := bufferReader D packetType userData) encode bytes → D.front bytes = .more) :
    Decodes (bufferReader D packetType userData) encode := by
  intro frames part chunks partly stream
  have whole := decode_encoded frames (fun frame _ => round frame) part
  rw [decode_more (begun part partly),← stream] at whole
  have sound : (decode D ([] ++ chunks.flatten)).bad = false := by rw [nil_append,whole]
  have fed : feedAll (R := bufferReader D packetType userData) [] chunks = _ :=
    feedAll_buffer chunks [] (begun [] (.inl rfl)) sound
  refine (congrArg (Option.map Prod.fst) fed).trans ?_
  simp [whole]

theorem returned_buffer (canonical : ∀ xs frame rest, D.front xs = .item frame rest → xs = encode frame ++ rest)
    (encoded : ∀ frame, (encode frame).length = header+(userData frame).length) (chunks : List (List UInt8))
    (pending : List UInt8) :
    ((returned (R := bufferReader D packetType userData) pending chunks).map fun frame => header+(userData frame).length).sum ≤
      pending.length+chunks.flatten.length := by
  induction chunks generalizing pending with
  | nil => exact Nat.zero_le _
  | cons bytes chunks ih =>
    rw [flatten_cons,length_append]
    cases spoilt : (decode D (pending ++ bytes)).bad with
    | true =>
      rw [returned,buffer_fails spoilt]
      have later := ih (pending ++ bytes)
      rw [length_append] at later
      exact Nat.le_trans later (by omega)
    | false =>
      rw [returned,buffer_feed spoilt]
      have later := ih (decode D (pending ++ bytes)).rest
      have here := congrArg length (decode_canonical canonical (pending ++ bytes))
      rw [length_append,length_append,length_flatMap] at here
      simp only [encoded] at here
      simp only [map_append,sum_append]
      omega

theorem buffer_sized (canonical : ∀ xs frame rest, D.front xs = .item frame rest → xs = encode frame ++ rest)
    (encoded : ∀ frame, (encode frame).length = header+(userData frame).length) :
    Sized (bufferReader D packetType userData) encode header := by
  refine ⟨encoded,?_⟩
  intro chunks
  have nothing_kept : ([] : List UInt8).length+chunks.flatten.length = chunks.flatten.length := Nat.zero_add _
  rw [← nothing_kept]
  exact returned_buffer canonical encoded chunks []

end Buffer

structure Packet where
  kind : UInt8
  userData : Datagram
  short : userData.length < 256

def Packet.packetType (packet : Packet) : AleType :=
  if packet.kind = 1 then .au1 else if packet.kind = 2 then .au2 else if packet.kind = 3 then .dt
  else if packet.kind = 4 then .di else .other

def Packet.encode (packet : Packet) : List UInt8 :=
  packet.kind :: UInt8.ofNat packet.userData.length :: packet.userData

def packetFront : List UInt8 → Front UInt8 Packet
  | kind :: count :: body =>
    if body.length < count.toNat then .more
    else .item ⟨kind,body.take count.toNat,Nat.lt_of_le_of_lt (List.length_take_le _ _) count.toNat_lt⟩ (body.drop count.toNat)
  | _ => .more

section Packet
theorem packetFront_canonical (shown : packetFront xs = .item packet rest) : xs = packet.encode ++ rest := by
  unfold packetFront at shown
  split at shown
  · rename_i kind count body
    split at shown <;> cases shown
    rename_i whole
    have length := length_take_of_le (Nat.le_of_not_lt whole)
    simp only [Packet.encode,length,UInt8.ofNat_toNat,cons_append,take_append_drop]
  · cases shown

theorem packetFront_encode (packet : Packet) (rest : List UInt8) :
    packetFront (packet.encode ++ rest) = .item packet rest := by
  have count := UInt8.toNat_ofNat_of_lt' packet.short
  simp [Packet.encode,packetFront,count]

theorem packetFront_begun (bytes : List UInt8) (packet : Packet) (begun : bytes <+: packet.encode)
    (open_ : bytes ≠ packet.encode) : packetFront bytes = .more := by
  obtain ⟨missing,whole⟩ := begun
  cases shown : packetFront bytes with
  | more => rfl
  | bad =>
    unfold packetFront at shown
    split at shown
    · split at shown <;> cases shown
    · cases shown
  | item other rest =>
    have same := packetFront_canonical shown
    rw [same,append_assoc] at whole
    have front := packetFront_encode packet []
    rw [append_nil,← whole,packetFront_encode,Front.item.injEq] at front
    obtain ⟨rfl,nothing⟩ := front
    rw [(append_eq_nil_iff.mp nothing).1,append_nil] at same
    exact absurd same open_

def packetDecoder : Decoder UInt8 Packet where
  front := packetFront
  shrinks xs packet rest shown := by
    rw [packetFront_canonical shown,List.length_append]
    simp only [Packet.encode,List.length_cons]
    omega
  item_stays xs packet rest later shown := by
    rw [packetFront_canonical shown,List.append_assoc]
    exact packetFront_encode packet _
  bad_stays xs later shown := by
    unfold packetFront at shown
    split at shown
    · split at shown
      · cases shown
      · cases shown
    · cases shown

end Packet

@[reducible] def packetReader : AleReader := bufferReader packetDecoder Packet.packetType Packet.userData

theorem packetReader_decodes : Decodes packetReader Packet.encode := by
  refine buffer_decodes packetFront_encode ?_
  intro bytes partly
  rcases partly with rfl | ⟨packet,begun,open_⟩
  · rfl
  · exact packetFront_begun bytes packet begun open_

theorem packetReader_sized : Sized packetReader Packet.encode 2 := by
  refine buffer_sized (fun _ _ _ shown => packetFront_canonical shown) ?_
  simp only [Packet.encode,length_cons]
  omega

end Scg.Relay.Ale
