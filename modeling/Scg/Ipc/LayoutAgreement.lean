import Scg.Ipc.ShmLayout

namespace Scg.Segment
open Ipc List Checks

variable {control : Control} {seg : ShmSegment}
theorem roundUp_toNat (power : align.toNat = 2^bits)
    (room : n.toNat+2^bits ≤ 2^64) : (roundUp n align).toNat = SlotRing.roundUp n.toNat (2^bits) := by
  have positive := Nat.two_pow_pos bits
  have small : bits < 64 := (Nat.pow_lt_pow_iff_right (by decide)).mp (power ▸ align.toNat_lt)
  have word : align = UInt64.ofNat (2^bits) := by rw [← power,UInt64.ofNat_toNat]
  have sum : (n+align-1).toNat = n.toNat+2^bits-1 := by
    rw [UInt64.toNat_sub,UInt64.toNat_add]
    have one : (1 : UInt64).toNat = 1 := rfl
    omega
  have mask := Wrapping.clear_low small (n+align-1)
  rw [sum] at mask
  rw [roundUp]
  nth_rewrite 2 [word]
  exact mask

theorem ringControlBytes_toNat (capacity : UInt32) :
    (ringControlBytes capacity.toUInt64).toNat = SlotRing.ringControlBytes capacity.toNat ∧
      SlotRing.ringControlBytes capacity.toNat ≤ 2^36 := by
  have small := capacity.toNat_lt
  have words : (capacity.toUInt64*8).toNat = capacity.toNat*8 := by
    rw [UInt64.toNat_mul,UInt32.toNat_toUInt64]
    have eight : (8 : UInt64).toNat = 8 := rfl
    rw [eight]
    omega
  have rounded : (roundUp (capacity.toUInt64*8) CACHE_LINE).toNat = SlotRing.roundUp (capacity.toUInt64*8).toNat (2^6) :=
    roundUp_toNat rfl (by omega)
  have bound : SlotRing.roundUp (capacity.toNat*8) (2^6) ≤ capacity.toNat*8+63 := Nat.div_mul_le_self _ _
  have header : SLOT_HEADER_SIZE.toNat = 256 := rfl
  have bytes : SlotRing.ringControlBytes capacity.toNat = 256+SlotRing.roundUp (capacity.toNat*8) (2^6) := rfl
  refine ⟨?_,by omega⟩
  rw [ringControlBytes,UInt64.toNat_add,rounded,words]
  exact Nat.mod_eq_of_lt (by omega)

theorem slotControlSize_toNat (capacity : UInt32) :
    (slotControlSize capacity.toUInt64).toNat = SlotRing.slotControlSize capacity.toNat ∧
      0 < SlotRing.slotControlSize capacity.toNat ∧ SlotRing.slotControlSize capacity.toNat ≤ 2^37 := by
  obtain ⟨bytes,small⟩ := ringControlBytes_toNat capacity
  have header : 256 ≤ SlotRing.ringControlBytes capacity.toNat := Nat.le_add_right _ _
  have two : (2 : UInt64).toNat = 2 := rfl
  have twice : SlotRing.slotControlSize capacity.toNat = 2*SlotRing.ringControlBytes capacity.toNat := rfl
  rw [slotControlSize,UInt64.toNat_mul,two]
  omega

theorem pageSize_small (v : Int64) : (pageSize v).toNat < 2^63 := by
  unfold pageSize
  split
  · decide
  · rename_i positive
    have sign : 0 < v.toInt := Int64.lt_iff_toInt_lt.mp (Int64.not_le.mp positive)
    have signed : v.toInt =
        if 2*v.toUInt64.toNat < 2^64 then (v.toUInt64.toNat : Int) else (v.toUInt64.toNat : Int)-(2^64 : Nat) :=
      BitVec.toInt_eq_toNat_cond v.toBitVec
    have bound := v.toUInt64.toNat_lt
    split at signed <;> omega

theorem roundUp_max (power : page.toNat = 2^bits) (small : page.toNat < 2^63)
    (positive : 0 < n.toNat) (low : n.toNat ≤ 2^37) : roundUp (max n page) page = roundUp n page := by
  by_cases less : n ≤ page
  · have most : max n page = page := if_pos less
    have below := UInt64.le_iff_toNat_le.mp less
    apply UInt64.toNat_inj.mp
    rw [most,roundUp_toNat power (by omega),roundUp_toNat power (by omega),power]
    have whole : (2^bits+2^bits-1)/2^bits = 1 := by
      rw [Nat.div_eq_iff (Nat.two_pow_pos bits)]
      omega
    have part : (n.toNat+2^bits-1)/2^bits = 1 := by
      rw [Nat.div_eq_iff (Nat.two_pow_pos bits)]
      omega
    rw [SlotRing.roundUp,SlotRing.roundUp,whole,part]
  · have most : max n page = n := if_neg less
    rw [most]

-- A power of two that keeps two of its low 32 bits' worth was not cut by the cast.
theorem nextPowerOfTwo_widened (n : UInt64) (kept : 2 ≤ (nextPowerOfTwo n).toUInt32.toNat) :
    (nextPowerOfTwo n).toUInt32.toUInt64 = nextPowerOfTwo n := by
  obtain ⟨k,word⟩ : ∃ k, (nextPowerOfTwo n).toNat = 2^k % 2^64 := by
    unfold nextPowerOfTwo
    split
    · exact ⟨0,rfl⟩
    · exact ⟨_,UInt64.toNat_ofNat'⟩
  have cast : (nextPowerOfTwo n).toUInt32.toNat = 2^k % 2^64 % 2^32 := by rw [UInt64.toNat_toUInt32,word]
  have short : k < 32 := by
    by_contra long
    have divides : 2^32 ∣ 2^k := Nat.pow_dvd_pow 2 (by omega)
    omega
  have fits : 2^k < 2^32 := Nat.pow_lt_pow_right (by decide) short
  have whole : 2^k % 2^64 = 2^k := Nat.mod_eq_of_lt (Nat.lt_trans fits (by decide))
  apply UInt64.toNat_inj.mp
  rw [UInt32.toNat_toUInt64,cast,word,whole,Nat.mod_eq_of_lt fits]

theorem syscall_ok (ran : syscall kernel call = .ok ()) : kernel call = true := by
  obtain ⟨_,ran⟩ := when_ok ran
  assumption

theorem mmapShared_ok
    (ran : mmapShared kernel (.memfd file) len prot = .ok mapped) : len ≠ 0 ∧ kernel (.mmap file len prot) = true := by
  obtain ⟨some,ran⟩ := unless_ok ran
  obtain ⟨_,granted,_⟩ := bind_ok ran
  exact ⟨some,syscall_ok granted⟩

theorem mmapShared_granted (some : len ≠ 0)
    (granted : kernel (.mmap file len prot) = true) : mmapShared kernel (.memfd file) len prot = .ok file := by
  simp only [mmapShared,if_neg some,syscall,granted]
  rfl

def gatewayProt : File → MapProt
  | .control => .readWrite
  | .dataC2g => .read
  | .dataG2c => .readWrite

def clientProt : File → MapProt
  | .control => .readWrite
  | .dataC2g => .readWrite
  | .dataG2c => .read

structure Stands (kernel : Kernel) (page : UInt64) (task : ShmEndpointTask) (seg : ShmSegment) : Prop where
  layout : seg.layout = resolveShmLayout page task
  mapped : seg.mapped = seg.layout.length
  granted : ∀ file, seg.layout.length file ≠ 0 ∧ kernel (.mmap file (seg.layout.length file) (gatewayProt file)) = true
  rings : buildRings task seg.layout = .ok (seg.control,seg.backend)

theorem create_stands (created : create kernel page task = .ok seg) : Stands kernel page task seg := by
  obtain ⟨_,_,created⟩ := bind_ok created
  obtain ⟨_,maps,created⟩ := bind_ok created
  obtain ⟨⟨control,backend⟩,rings,created⟩ := bind_ok created
  obtain ⟨_,_,created⟩ := bind_ok created
  cases created
  obtain ⟨_,first,maps⟩ := bind_ok maps
  obtain ⟨_,second,maps⟩ := bind_ok maps
  obtain ⟨_,third,_⟩ := bind_ok maps
  refine ⟨rfl,rfl,?_,rings⟩
  intro file
  cases file with
  | control => exact mmapShared_ok first
  | dataC2g => exact mmapShared_ok second
  | dataG2c => exact mmapShared_ok third

theorem refuse_ok {wrap : String → ShmFailure} (ran : refuse what wrap result = .ok a) : result = .ok a := by
  cases result with
  | ok value => exact congrArg Except.ok (Except.ok.inj ran)
  | error e => cases ran

theorem map_ok {result : Except ShmError α} {f : α → β} (ran : result.map f = .ok b) :
    ∃ a, result = .ok a ∧ f a = b := by
  cases result with
  | ok a => exact ⟨a,rfl,Except.ok.inj ran⟩
  | error e => cases ran

def Half.extents : Half → List (Extent File)
  | .slots hdr seq data capacity segmentSize =>
    ⟨.control,hdr.toNat,SlotRing.SLOT_HEADER_SIZE⟩ :: ⟨.control,seq.toNat,8*capacity.toNat⟩ ::
      Extent.tiles data segmentSize.toNat capacity.toNat
  | .stream idx data cap => [⟨.control,idx.toNat,RING_INDICES_SIZE⟩,⟨data,0,cap.toNat⟩]

structure Placed (lengths : File → UInt64) (c2g g2c : Half) : Prop where
  apart : (c2g.extents ++ g2c.extents).Pairwise Extent.Apart
  within : ∀ e ∈ c2g.extents ++ g2c.extents, e.Within fun file => (lengths file).toNat

section Slots
theorem slots_cases (behind : hdr.toNat+256 = seq.toNat) (present : e ∈ (Half.slots hdr seq data capacity segmentSize).extents) :
    (e.file = .control ∧ hdr.toNat ≤ e.off ∧ e.off+e.len ≤ seq.toNat+8*capacity.toNat) ∨
      e ∈ Extent.tiles data segmentSize.toNat capacity.toNat := by
  rcases mem_cons.mp present with rfl | present
  · have size : SlotRing.SLOT_HEADER_SIZE = 256 := rfl
    exact .inl ⟨rfl,Nat.le_refl _,by simp only; omega⟩
  · rcases mem_cons.mp present with rfl | tile
    · exact .inl ⟨rfl,by simp only; omega,Nat.le_refl _⟩
    · exact .inr tile

theorem slots_apart (behind : hdr.toNat+256 = seq.toNat) (other : data ≠ .control) :
    (Half.slots hdr seq data capacity segmentSize).extents.Pairwise Extent.Apart := by
  have away (e : Extent File) (control : e.file = .control) :
      ∀ tile ∈ Extent.tiles data segmentSize.toNat capacity.toNat, e.Apart tile := by
    intro tile present
    left
    rw [control,Extent.tiles_file present]
    exact other.symm
  refine pairwise_cons.mpr ⟨?_,pairwise_cons.mpr ⟨away _ rfl,Extent.tiles_apart _ _ _⟩⟩
  refine forall_mem_cons.mpr ⟨?_,away _ rfl⟩
  exact .inr (.inl (Nat.le_of_eq behind))

theorem slots_within {lengths : File → Nat} (behind : hdr.toNat+256 = seq.toNat)
    (control : seq.toNat+8*capacity.toNat ≤ lengths .control)
    (room : capacity.toNat*segmentSize.toNat ≤ lengths data)
    (present : e ∈ (Half.slots hdr seq data capacity segmentSize).extents) : e.Within lengths := by
  rcases slots_cases behind present with ⟨file,_,high⟩ | tile
  · unfold Extent.Within
    rw [file]
    omega
  · exact Extent.tiles_within room tile

end Slots

theorem slotHalves_placed {lengths : File → UInt64}
    (accepted : slotHalves control (lengths .control) capacity segmentSize .dataC2g .dataG2c (lengths .dataC2g)
      (lengths .dataG2c) = .ok (c2g,g2c)) : Placed lengths c2g g2c := by
  obtain ⟨g,checked,accepted⟩ := bind_ok accepted
  cases accepted
  obtain ⟨cap,seg,controlLen,c2gLen,g2cLen⟩ := SlotRing.gatewaySlotRings_sized checked
  obtain ⟨bytes,small⟩ := ringControlBytes_toNat capacity
  have count : capacity.toUInt64.toNat = capacity.toNat := UInt32.toNat_toUInt64 _
  rw [cap] at controlLen
  rw [cap,seg] at c2gLen g2cLen
  change SlotRing.slotControlSize capacity.toNat ≤ (lengths .control).toNat at controlLen
  change SlotRing.ringDataBytes capacity.toNat segmentSize.toNat ≤ (lengths .dataC2g).toNat at c2gLen
  change SlotRing.ringDataBytes capacity.toNat segmentSize.toNat ≤ (lengths .dataG2c).toNat at g2cLen
  have words := SlotRing.le_roundUp (capacity.toNat*8) (show 0 < SlotRing.CACHE_LINE by decide)
  have stride : SlotRing.ringControlBytes capacity.toNat =
      256+SlotRing.roundUp (capacity.toNat*8) SlotRing.CACHE_LINE := rfl
  have both : SlotRing.slotControlSize capacity.toNat = 2*SlotRing.ringControlBytes capacity.toNat := rfl
  have header : SLOT_HEADER_SIZE.toNat = 256 := rfl
  have second : (ringControlBytes capacity.toUInt64+SLOT_HEADER_SIZE).toNat =
      SlotRing.ringControlBytes capacity.toNat+256 := by
    rw [UInt64.toNat_add]
    omega
  have behind : (0 : UInt64).toNat+256 = SLOT_HEADER_SIZE.toNat := rfl
  have behind' : (ringControlBytes capacity.toUInt64).toNat+256 =
      (ringControlBytes capacity.toUInt64+SLOT_HEADER_SIZE).toNat := by omega
  have room : capacity.toUInt64.toNat*segmentSize.toUInt64.toNat = SlotRing.ringDataBytes capacity.toNat segmentSize.toNat := by
    rfl
  constructor
  · refine pairwise_append.mpr ⟨slots_apart behind (by decide),slots_apart behind' (by decide),?_⟩
    intro one first two later
    rcases slots_cases behind first with ⟨file,_,high⟩ | tile
    · rcases slots_cases behind' later with ⟨_,low,_⟩ | tile'
      · exact .inr (.inl (by omega))
      · left
        rw [file,Extent.tiles_file tile']
        decide
    · rcases slots_cases behind' later with ⟨file',_,_⟩ | tile'
      · left
        rw [file',Extent.tiles_file tile]
        decide
      · left
        rw [Extent.tiles_file tile,Extent.tiles_file tile']
        decide
  · intro e present
    rcases mem_append.mp present with first | later
    · exact slots_within behind (by omega) (by omega) first
    · exact slots_within behind' (by omega) (by omega) later

theorem streamHalves_placed {lengths : File → UInt64}
    (accepted : streamHalves control (lengths .control) .dataC2g .dataG2c (lengths .dataC2g)
      (lengths .dataG2c) = .ok (c2g,g2c)) : Placed lengths c2g g2c := by
  obtain ⟨rings,checked,accepted⟩ := bind_ok accepted
  cases accepted
  obtain ⟨_,attached,checked⟩ := bind_ok checked
  split at checked
  · cases checked
  · rename_i fits
    simp only at fits
    have page : 128 ≤ (lengths .control).toNat := by
      obtain ⟨long,attached⟩ := unless_ok attached
      exact Nat.not_lt.mp long
    have first : C2G_INDICES.toNat = 32 := rfl
    have second : G2C_INDICES.toNat = 56 := rfl
    constructor
    · simp [Half.extents,Extent.Apart,first,second,RING_INDICES_SIZE]
    · simp only [Half.extents,cons_append,nil_append,forall_mem_cons,Extent.Within,
        RING_INDICES_SIZE]
      refine ⟨?_,?_,?_,?_,by simp⟩
      · omega
      · omega
      · omega
      · omega

theorem placed_of_rings {layout : ShmLayout} (built : buildRings task layout = .ok (control,backend)) :
    Placed layout.length backend.consumer backend.producer := by
  unfold buildRings at built
  split at built
  · obtain ⟨rings,made,built⟩ := bind_ok built
    cases built
    obtain ⟨⟨c2g,g2c⟩,halves,rfl⟩ := map_ok (refuse_ok made)
    exact streamHalves_placed halves
  · obtain ⟨control,_,built⟩ := bind_ok built
    obtain ⟨rings,made,built⟩ := bind_ok built
    cases built
    obtain ⟨⟨c2g,g2c⟩,halves,rfl⟩ := map_ok (refuse_ok made)
    exact slotHalves_placed halves

theorem ctlLen_agrees (power : page.toNat = 2^bits) (small : page.toNat < 2^63) (slot : task.ringKind = .slot)
    (built : buildRings task (resolveShmLayout page task) = .ok (control,backend)) :
    roundUp (slotControlSize (resolveShmLayout page task).capacity.toUInt64) page =
      (resolveShmLayout page task).ctlLen := by
  let cap := nextPowerOfTwo (max task.numSegments 2)
  have capacity : (resolveShmLayout page task).capacity = cap.toUInt32 := by simp only [resolveShmLayout,slot,cap]
  have ctl : (resolveShmLayout page task).ctlLen = roundUp (max (slotControlSize cap) page) page := by
    simp only [resolveShmLayout,slot,cap]
  have two : 2 ≤ cap.toUInt32.toNat := by
    unfold buildRings at built
    rw [slot] at built
    obtain ⟨_,init,_⟩ := bind_ok built
    obtain ⟨_,valid,_⟩ := bind_ok (refuse_ok init)
    obtain ⟨enough,valid⟩ := unless_ok valid
    simp only [Bool.or_eq_true,decide_eq_true_eq,not_or,Nat.not_lt] at enough
    rw [capacity] at enough
    exact enough.1
  have wide : cap.toUInt32.toUInt64 = cap := nextPowerOfTwo_widened _ two
  obtain ⟨bytes,positive,bound⟩ := slotControlSize_toNat cap.toUInt32
  rw [wide] at bytes
  rw [ctl,capacity,wide,roundUp_max power small (by omega) (by omega)]

theorem receiveOffer_offer
    (layout : seg.layout = resolveShmLayout page task) : receiveOffer seg.offer.encode = .ok seg.offer := by
  have notify : ¬ (seg.offer.notify ≠ SHM_NOTIFY_EVENTFD ∧ seg.offer.notify ≠ SHM_NOTIFY_FUTEX) := by
    have chosen : seg.offer.notify = (resolveShmLayout page task).notify := congrArg ShmLayout.notify layout
    rw [chosen]
    unfold resolveShmLayout
    cases task.ringKind with
    | byteStream => exact fun both => both.1 rfl
    | slot =>
      cases task.g2cNotify with
      | eventfd => exact fun both => both.1 rfl
      | futex => exact fun both => both.2 rfl
  rw [receiveOffer,ShmOffer.encode_length,ShmOffer.decode_encode _ rfl]
  exact if_neg notify

structure Attaches (page : UInt64) (seg : ShmSegment) : Prop where
  ctlLen : clientCtlLen page seg.offer = seg.layout.ctlLen
  rings : attachRings page seg.offer seg.control .dataC2g .dataG2c = .ok ⟨seg.backend.producer,seg.backend.consumer⟩

theorem stands_attaches
    (power : page.toNat = 2^bits) (small : page.toNat < 2^63) (stands : Stands kernel page task seg) :
    Attaches page seg := by
  obtain ⟨layout,_,_,built⟩ := stands
  cases kind : task.ringKind with
  | byteStream =>
    have offered : seg.offer.ringKind ≠ SHM_RING_SLOT := by
      change seg.layout.ringKind ≠ SHM_RING_SLOT
      rw [layout]
      simp only [resolveShmLayout,kind]
      decide
    have ctlLen : clientCtlLen page seg.offer = seg.layout.ctlLen := by
      rw [clientCtlLen,if_neg offered,layout]
      simp only [resolveShmLayout,kind]
    refine ⟨ctlLen,?_⟩
    unfold buildRings at built
    rw [kind] at built
    obtain ⟨rings,made,same⟩ := bind_ok built
    obtain ⟨⟨c2g,g2c⟩,halves,rfl⟩ := map_ok (refuse_ok made)
    obtain ⟨control,backend⟩ := Prod.mk.inj (Except.ok.inj same)
    rw [attachRings,if_neg offered,ctlLen,← control,← backend]
    simp only [clientRings,ShmSegment.offer,halves]
    rfl
  | slot =>
    have offered : seg.offer.ringKind = SHM_RING_SLOT := by
      change seg.layout.ringKind = SHM_RING_SLOT
      rw [layout]
      simp only [resolveShmLayout,kind]
    have ctlLen : clientCtlLen page seg.offer = seg.layout.ctlLen := by
      rw [clientCtlLen,if_pos offered]
      rw [layout] at built
      have same := ctlLen_agrees power small kind built
      rwa [← layout] at same
    refine ⟨ctlLen,?_⟩
    unfold buildRings at built
    rw [kind] at built
    obtain ⟨page',init,built⟩ := bind_ok built
    obtain ⟨rings,made,same⟩ := bind_ok built
    obtain ⟨⟨c2g,g2c⟩,halves,rfl⟩ := map_ok (refuse_ok made)
    obtain ⟨control,backend⟩ := Prod.mk.inj (Except.ok.inj same)
    rw [attachRings,if_pos offered,ctlLen,← control,← backend]
    simp only [clientSlotRings,ShmSegment.offer,halves]
    rfl

theorem layout_agreement (v : Int64) (bits : Nat) (power : (pageSize v).toNat = 2^bits) (gateway client : Kernel)
    (serves : ∀ file len, gateway (.mmap file len (gatewayProt file)) = true →
      client (.mmap file len (clientProt file)) = true)
    (task : ShmEndpointTask) (seg : ShmSegment) (created : create gateway (pageSize v) task = .ok seg)
    (memory : File → Control) (shared : memory .control = seg.control) :
    ∃ attached, connect client (pageSize v) seg.offer.encode ShmSegment.fds memory = .ok attached ∧
      attached.backend.producer = seg.backend.consumer ∧ attached.backend.consumer = seg.backend.producer ∧
      attached.mapped = seg.mapped ∧ Placed seg.mapped seg.backend.consumer seg.backend.producer := by
  have stands := create_stands created
  have attaches := stands_attaches power (pageSize_small v) stands
  have maps (file : File) := mmapShared_granted (stands.granted file).1 (serves _ _ (stands.granted file).2)
  have placed := placed_of_rings stands.rings
  rw [← stands.mapped] at placed
  have control : mmapShared client (.memfd .control) (clientCtlLen (pageSize v) seg.offer) .readWrite = .ok .control := by
    rw [attaches.ctlLen]
    exact maps .control
  have c2g : mmapShared client (.memfd .dataC2g) seg.offer.capC2g .readWrite = .ok .dataC2g := maps .dataC2g
  have g2c : mmapShared client (.memfd .dataG2c) seg.offer.capG2c .read = .ok .dataG2c := maps .dataG2c
  have lengths : seg.mapped = fun
      | .control => clientCtlLen (pageSize v) seg.offer
      | .dataC2g => seg.offer.capC2g
      | .dataG2c => seg.offer.capG2c := by
    rw [stands.mapped,attaches.ctlLen]
    funext file
    cases file <;> rfl
  refine ⟨{backend := ⟨seg.backend.producer,seg.backend.consumer⟩,notify := seg.offer.notify,mapped := seg.mapped},
    ?_,rfl,rfl,rfl,placed⟩
  rw [lengths]
  unfold connect ShmSegment.fds
  rw [receiveOffer_offer stands.layout]
  simp only [bind,Except.bind,control,c2g,g2c,shared,attaches.rings]
  rfl

def threeSegments : ShmEndpointTask := ⟨.slot,0,0,100,3,.futex⟩

def grantsAll : Kernel := fun _ => true

theorem layout_agreement_four : ∃ seg attached, create grantsAll (pageSize 4096) threeSegments = .ok seg ∧
    seg.layout.capacity = 4 ∧ seg.layout.segmentSize = 128 ∧
    connect grantsAll (pageSize 4096) seg.offer.encode ShmSegment.fds (fun _ => seg.control) = .ok attached ∧
    attached.backend.producer = seg.backend.consumer ∧ attached.backend.consumer = seg.backend.producer ∧
    Placed seg.mapped seg.backend.consumer seg.backend.producer := by
  obtain ⟨seg,created,capacity,segmentSize⟩ : ∃ seg, create grantsAll (pageSize 4096) threeSegments = .ok seg ∧
      seg.layout.capacity = 4 ∧ seg.layout.segmentSize = 128 := ⟨_,rfl,rfl,rfl⟩
  obtain ⟨attached,accepted,producer,consumer,_,placed⟩ :=
    layout_agreement 4096 12 rfl grantsAll grantsAll (fun _ _ granted => granted) threeSegments seg created
      (fun _ => seg.control) rfl
  exact ⟨seg,attached,created,capacity,segmentSize,accepted,producer,consumer,placed⟩

end Scg.Segment
