import Scg.Ipc.ByteDrain

namespace Scg.Ipc
open Option

-- `RingBackend`: the client-to-gateway ring of a segment with what its pages hold.
inductive Backend where
  | slot (g : SlotRing.Geometry) (s : SlotRing.Shared)
  | byteStream (r : ByteRing.Ring) (s : ByteRing.Shared)

namespace Backend

def consumerIsEmpty : Backend → Bool
  | .slot g s => (s.run (SlotRing.isEmpty g)).1
  | .byteStream _ s => (s.run ByteRing.isEmpty).1

def tryPop : Backend → Option Frame × Backend
  | .slot g s =>
    let (popped,s) := s.run (SlotRing.tryPopInto g)
    (popped,.slot g s)
  | .byteStream r s =>
    let (popped,s) := s.run (ByteRing.tryPopInto r)
    (popped,.byteStream r s)

def forwardC2g (isPlain : Bool) (tls : SlotRing.Upstream) : Backend → Option (List (List UInt8) × Backend)
  | .slot g s => (SlotRing.forwardC2g g isPlain tls s).map fun (sent,s) => (sent,.slot g s)
  | .byteStream r s =>
    let (framed,_,s) := ByteRing.coalesceC2gInto r [] 0 s
    (SlotRing.flush tls [] framed).map fun sent => (sent,.byteStream r s)

def pollTimeout (tlsPending ringPending : Bool) (timeoutMs : Int) : Int :=
  if tlsPending || ringPending then 0 else timeoutMs

-- The relay's passes over a quiet client and a quiet upstream: each one's poll timeout
-- and what it wrote.
def relay (isPlain : Bool) (tls : SlotRing.Upstream) :
    Nat → Backend → Option (List (Int × List (List UInt8)) × Backend)
  | 0,b => some ([],b)
  | n+1,b => do
      let timeout := pollTimeout false (!b.consumerIsEmpty) 100
      let (sent,b) ← b.forwardC2g isPlain tls
      let (log,b) ← relay isPlain tls n b
      return ((timeout,sent) :: log,b)

def Whole : Backend → Prop
  | .slot _ _ => True
  | .byteStream r s => ByteRing.published s < FRAME_HEADER_LEN ∨ ByteRing.Complete r s

theorem slot_isEmpty (g : SlotRing.Geometry) (s : SlotRing.Shared) :
    (slot g s).consumerIsEmpty = !SlotRing.isReady (s.seq (g.index s.readPos)) s.readPos := rfl

theorem byteStream_isEmpty (r : ByteRing.Ring) (s : ByteRing.Shared) :
    (byteStream r s).consumerIsEmpty = false ↔ FRAME_HEADER_LEN ≤ ByteRing.published s := by
  rw [← Nat.not_lt]
  exact decide_eq_false_iff_not

theorem slot_forwards {s : SlotRing.Shared} {after : Backend} (filled : (slot g s).consumerIsEmpty = false)
    (completed : (slot g s).forwardC2g isPlain tls = some (sent,after)) : sent.flatten ≠ [] := by
  rw [slot_isEmpty,Bool.not_eq_false'] at filled
  obtain ⟨⟨wrote,s'⟩,forwarded,same⟩ := map_eq_some_iff.mp completed
  cases same
  obtain ⟨bytes,_⟩ := SlotRing.forwardC2g_eq forwarded
  obtain ⟨rest,taken⟩ := SlotRing.slotsTaken_ready isPlain filled
  rw [bytes,taken,List.flatMap_cons]
  intro nothing
  have long := congrArg List.length nothing
  rw [List.length_append,SlotRing.wireAt_length,List.length_nil] at long
  exact absurd long (by unfold FRAME_HEADER_LEN; omega)

theorem byteStream_stuck (cut : ¬ ByteRing.Complete r s) (isPlain : Bool)
    (tls : SlotRing.Upstream) : (byteStream r s).forwardC2g isPlain tls = some ([],.byteStream r s) := by
  simp only [forwardC2g,ByteRing.coalesceC2gInto_none cut]
  rfl

theorem byteStream_forwards {after : Backend} (whole : ByteRing.Complete r s)
    (completed : (byteStream r s).forwardC2g isPlain tls = some (sent,after)) : sent.flatten ≠ [] := by
  obtain ⟨wrote,flushed,same⟩ := map_eq_some_iff.mp completed
  cases same
  rw [SlotRing.flush_sent flushed]
  exact ByteRing.coalesceC2gInto_some whole

theorem pop_agrees (b : Backend) : (b.consumerIsEmpty = false → ∃ frame, b.tryPop.1 = some frame) ↔ b.Whole := by
  cases b with
  | slot g s =>
    refine ⟨fun _ => trivial,fun _ filled => ?_⟩
    rw [slot_isEmpty,Bool.not_eq_false'] at filled
    exact ⟨_,congrArg Prod.fst (SlotRing.tryPopInto_some filled)⟩
  | byteStream r s =>
    rw [byteStream_isEmpty]
    change (_ → ∃ frame, (s.run (ByteRing.tryPopInto r)).1 = some frame) ↔ _
    rw [ByteRing.tryPopInto_iff,Whole,← Nat.not_le,← imp_iff_not_or]

theorem pass_agrees (b : Backend) :
    (∀ isPlain tls sent after, pollTimeout false (!b.consumerIsEmpty) 100 = 0 →
      b.forwardC2g isPlain tls = some (sent,after) → sent.flatten ≠ []) ↔ b.Whole := by
  have prompt : pollTimeout false (!b.consumerIsEmpty) 100 = 0 ↔ b.consumerIsEmpty = false := by
    cases b.consumerIsEmpty <;> decide
  simp only [prompt]
  cases b with
  | slot g s => exact ⟨fun _ => trivial,fun _ isPlain tls sent after filled => slot_forwards filled⟩
  | byteStream r s =>
    rw [byteStream_isEmpty,Whole,← Nat.not_le,← imp_iff_not_or]
    constructor
    · intro progress filled
      by_contra cut
      exact progress true (fun _ _ => true) _ _ filled (byteStream_stuck cut _ _) rfl
    · intro whole isPlain tls sent after filled
      exact byteStream_forwards (whole filled)

theorem emptiness_agrees_with_pop (b : Backend) :
    ((b.consumerIsEmpty = false → ∃ frame, b.tryPop.1 = some frame) ↔ b.Whole) ∧
    ((∀ isPlain tls sent after, pollTimeout false (!b.consumerIsEmpty) 100 = 0 →
      b.forwardC2g isPlain tls = some (sent,after) → sent.flatten ≠ []) ↔ b.Whole) :=
  ⟨pop_agrees b,pass_agrees b⟩

theorem honest_whole (valid : ByteRing.RingValid r w) : (byteStream r w.shared).Whole := by
  have used := valid.used
  cases present : w.pushed[w.released]? with
  | none =>
    left
    have equal := ByteRing.nothing_left present
    unfold ByteRing.published FRAME_HEADER_LEN
    omega
  | some frame =>
    right
    have serving : ByteRing.Serving r w.released w.consumed frame w := ⟨valid,rfl,rfl,present⟩
    have fits := serving.fits
    have within := valid.within
    have small := valid.small
    have behind := ByteRing.consumed_le w
    have split : encodeInto frame = [] ++ (SlotRing.header frame ++ frame.payload) := rfl
    have shown := serving.spans split
    have header : (ByteRing.headerAt r w.shared).toList = SlotRing.header frame := by
      apply List.ext_getElem
      · rw [SlotRing.header_length,Vector.length_toList]
      · intro i bound inside
        have byte := shown i (SlotRing.header frame)[i] (by
          rw [List.getElem?_append_left inside]
          exact List.getElem?_eq_getElem inside)
        have read : w.shared.readIdx.toNat = w.consumed := by
          rw [valid.read]
          exact Wrapping.toNat_small (by omega)
        simp only [← byte,Vector.getElem_toList,ByteRing.headerAt,Vector.getElem_ofFn,read]
        rfl
    obtain ⟨len,decoded,length⟩ :=
      ByteRing.header_decoded (valid.coded frame (List.mem_of_getElem? present)) header
    unfold ByteRing.Complete ByteRing.announced ByteRing.published
    rw [decoded,length]
    omega

theorem relay_stuck (filled : FRAME_HEADER_LEN ≤ ByteRing.published s)
    (cut : ¬ ByteRing.Complete r s) (isPlain : Bool) (tls : SlotRing.Upstream) (n : Nat) :
    relay isPlain tls n (.byteStream r s) = some (List.replicate n (0,[]),.byteStream r s) := by
  induction n with
  | zero => rfl
  | succ n ih =>
    rw [relay,(byteStream_isEmpty r s).mpr filled,byteStream_stuck cut]
    simp only [bind_eq_bind,bind_some,ih]
    rfl

def garbled : Backend :=
  .byteStream ⟨64,64,Nat.le_refl _⟩ {writeIdx := 8,readIdx := 0,data := fun _ => 0xff}

theorem garbled_ring_spins : garbled.consumerIsEmpty = false ∧ garbled.tryPop.1 = none ∧
    ∀ isPlain tls n, garbled.relay isPlain tls n = some (List.replicate n (0,[]),garbled) := by
  have cut : ¬ ByteRing.Complete ⟨64,64,Nat.le_refl _⟩ {writeIdx := 8,readIdx := 0,data := fun _ => 0xff} := by
    decide
  refine ⟨rfl,congrArg Prod.fst (ByteRing.tryPopInto_none cut),?_⟩
  intro isPlain tls n
  exact relay_stuck (by decide) cut isPlain tls n

end Backend

end Scg.Ipc
