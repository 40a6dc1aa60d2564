import Scg.Ipc.Frame
import Scg.Ipc.Handshake

namespace Scg.Ipc
def SHM_OFFER_MAGIC : Vector UInt8 4 := #v[0x53,0x43,0x47,0x4f]

def SHM_OFFER_LEN : Nat := 4+1+1+1+1+8+8+4+4

def SHM_NOTIFY_EVENTFD : UInt8 := 0
def SHM_NOTIFY_FUTEX : UInt8 := 1

def SHM_RING_BYTESTREAM : UInt8 := 0
def SHM_RING_SLOT : UInt8 := 1

structure ShmOffer where
  version : UInt8
  notify : UInt8
  nFds : UInt8
  ringKind : UInt8
  capC2g : UInt64
  capG2c : UInt64
  capacity : UInt32
  segmentSize : UInt32
  deriving DecidableEq

def u64ToLeBytes (w : UInt64) : List UInt8 :=
  (u32ToLeBytes (UInt32.ofNat w.toNat)).toList ++ (u32ToLeBytes (UInt32.ofNat (w.toNat/2^32))).toList

-- The slices of a buffer of fixed length, so no default is ever read.
def u32At (buf : List UInt8) (i : Nat) : UInt32 :=
  u32FromLeBytes (buf.getD i 0) (buf.getD (i+1) 0) (buf.getD (i+2) 0) (buf.getD (i+3) 0)

def u64At (buf : List UInt8) (i : Nat) : UInt64 :=
  UInt64.ofNat ((u32At buf i).toNat+2^32*(u32At buf (i+4)).toNat)

def ShmOffer.encode (offer : ShmOffer) : List UInt8 :=
  SHM_OFFER_MAGIC.toList ++ [offer.version,offer.notify,offer.nFds,offer.ringKind] ++ u64ToLeBytes offer.capC2g ++
    u64ToLeBytes offer.capG2c ++ (u32ToLeBytes offer.capacity).toList ++ (u32ToLeBytes offer.segmentSize).toList

-- The caller passes a buffer of `SHM_OFFER_LEN` bytes.
def ShmOffer.decode (buf : List UInt8) : Except HelloError ShmOffer :=
  if buf.take 4 ≠ SHM_OFFER_MAGIC.toList then .error .badMagic
  else if buf.getD 4 0 ≠ HELLO_VERSION then .error (.unsupportedVersion (buf.getD 4 0))
  else
    .ok {
      version := buf.getD 4 0
      notify := buf.getD 5 0
      nFds := buf.getD 6 0
      ringKind := buf.getD 7 0
      capC2g := u64At buf 8
      capG2c := u64At buf 16
      capacity := u32At buf 24
      segmentSize := u32At buf 28}

theorem u64_round (w : UInt64) :
    UInt64.ofNat ((UInt32.ofNat w.toNat).toNat+2^32*(UInt32.ofNat (w.toNat/2^32)).toNat) = w := by
  have bound := w.toNat_lt
  apply UInt64.toNat_inj.mp
  simp only [UInt32.toNat_ofNat',UInt64.toNat_ofNat']
  omega

theorem ShmOffer.encode_length (offer : ShmOffer) : offer.encode.length = SHM_OFFER_LEN := rfl

theorem u32At_word (before after : List UInt8) (w : UInt32) :
    u32At (before ++ ((u32ToLeBytes w).toList ++ after)) before.length = w := by
  have byte (i : Nat) : (before ++ ((u32ToLeBytes w).toList ++ after)).getD (before.length+i) 0 =
      ((u32ToLeBytes w).toList ++ after).getD i 0 := by
    rw [List.getD_eq_getElem?_getD,List.getElem?_append_right (Nat.le_add_right _ _),Nat.add_sub_cancel_left,
      List.getD_eq_getElem?_getD]
  have first := byte 0
  rw [Nat.add_zero] at first
  rw [u32At,first,byte 1,byte 2,byte 3]
  exact u32_round w

theorem u64At_word (before after : List UInt8) (w : UInt64) :
    u64At (before ++ (u64ToLeBytes w ++ after)) before.length = w := by
  have low := u32At_word before ((u32ToLeBytes (UInt32.ofNat (w.toNat/2^32))).toList ++ after) (UInt32.ofNat w.toNat)
  have high := u32At_word (before ++ (u32ToLeBytes (UInt32.ofNat w.toNat)).toList) after (UInt32.ofNat (w.toNat/2^32))
  rw [List.length_append,Vector.length_toList] at high
  rw [u64At,u64ToLeBytes]
  simp only [List.append_assoc] at low high ⊢
  rw [low,high,u64_round]

theorem ShmOffer.decode_encode (offer : ShmOffer) (current : offer.version = HELLO_VERSION) :
    ShmOffer.decode offer.encode = .ok offer := by
  let head := SHM_OFFER_MAGIC.toList ++ [offer.version,offer.notify,offer.nFds,offer.ringKind]
  let tail := (u32ToLeBytes offer.capacity).toList ++ (u32ToLeBytes offer.segmentSize).toList
  have bytes : offer.encode = head ++ (u64ToLeBytes offer.capC2g ++ (u64ToLeBytes offer.capG2c ++ tail)) := by
    simp only [encode,head,tail,List.append_assoc]
  have capC2g : u64At offer.encode 8 = offer.capC2g := by exact u64At_word head _ _
  have capG2c : u64At offer.encode 16 = offer.capG2c := by
    rw [bytes]
    exact u64At_word (head ++ u64ToLeBytes offer.capC2g) _ _
  have capacity : u32At offer.encode 24 = offer.capacity := by
    rw [bytes,← List.append_assoc,← List.append_assoc]
    exact u32At_word (head ++ u64ToLeBytes offer.capC2g ++ u64ToLeBytes offer.capG2c) _ _
  have segmentSize : u32At offer.encode 28 = offer.segmentSize := by
    have last := u32At_word (head ++ u64ToLeBytes offer.capC2g ++ u64ToLeBytes offer.capG2c ++
      (u32ToLeBytes offer.capacity).toList) [] offer.segmentSize
    rwa [List.append_nil] at last
  have magic : offer.encode.take 4 = SHM_OFFER_MAGIC.toList := rfl
  have version : offer.encode.getD 4 0 = offer.version := rfl
  unfold decode
  rw [if_neg (not_not_intro magic),version,if_neg (not_not_intro current),capC2g,capG2c,capacity,segmentSize]
  rfl

end Scg.Ipc
