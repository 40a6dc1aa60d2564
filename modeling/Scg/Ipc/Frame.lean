import Mathlib.Algebra.Order.Ring.Nat
import Mathlib.Tactic.Common

namespace Scg.Ipc

def FRAME_HEADER_LEN : Nat := 8

structure Frame where
  trafficId : UInt32
  payload : List UInt8
  deriving DecidableEq,Repr

def u32ToLeBytes (w : UInt32) : Vector UInt8 4 :=
  #v[UInt8.ofNat w.toNat,UInt8.ofNat (w.toNat/2^8),UInt8.ofNat (w.toNat/2^16),UInt8.ofNat (w.toNat/2^24)]

def u32FromLeBytes (a b c d : UInt8) : UInt32 :=
  UInt32.ofNat (a.toNat+2^8*b.toNat+2^16*c.toNat+2^24*d.toNat)

def encodeHeader (len trafficId : UInt32) : Vector UInt8 FRAME_HEADER_LEN :=
  u32ToLeBytes len ++ u32ToLeBytes trafficId

def decodeHeader (hdr : Vector UInt8 FRAME_HEADER_LEN) : UInt32 × UInt32 :=
  (u32FromLeBytes hdr[0] hdr[1] hdr[2] hdr[3],u32FromLeBytes hdr[4] hdr[5] hdr[6] hdr[7])

-- `data.len() as u32`: the length field keeps the low 32 bits only.
def encodeInto (frame : Frame) : List UInt8 :=
  (encodeHeader (UInt32.ofNat frame.payload.length) frame.trafficId).toList ++ frame.payload

theorem u32_round (w : UInt32) :
    u32FromLeBytes (UInt8.ofNat w.toNat) (UInt8.ofNat (w.toNat/2^8))
      (UInt8.ofNat (w.toNat/2^16)) (UInt8.ofNat (w.toNat/2^24)) = w := by
  have bound := w.toNat_lt
  apply UInt32.toNat_inj.mp
  simp only [u32FromLeBytes,UInt32.toNat_ofNat',UInt8.toNat_ofNat']
  omega

theorem decodeHeader_encodeHeader (len trafficId : UInt32) :
    decodeHeader (encodeHeader len trafficId) = (len,trafficId) :=
  Prod.ext (u32_round len) (u32_round trafficId)

theorem bytes_round (a b c d : UInt8) : u32ToLeBytes (u32FromLeBytes a b c d) = #v[a,b,c,d] := by
  have a_lt := a.toNat_lt
  have b_lt := b.toNat_lt
  have c_lt := c.toNat_lt
  have d_lt := d.toNat_lt
  have word : (u32FromLeBytes a b c d).toNat = a.toNat+2^8*b.toNat+2^16*c.toNat+2^24*d.toNat := by
    rw [u32FromLeBytes,UInt32.toNat_ofNat',Nat.mod_eq_of_lt (by omega)]
  have byte {n : Nat} {e : UInt8} (low : n % 2^8 = e.toNat) : UInt8.ofNat n = e := by
    apply UInt8.toNat_inj.mp
    rw [UInt8.toNat_ofNat',low]
  have first : UInt8.ofNat (u32FromLeBytes a b c d).toNat = a := byte (by omega)
  have second : UInt8.ofNat ((u32FromLeBytes a b c d).toNat/2^8) = b := byte (by omega)
  have third : UInt8.ofNat ((u32FromLeBytes a b c d).toNat/2^16) = c := byte (by omega)
  have fourth : UInt8.ofNat ((u32FromLeBytes a b c d).toNat/2^24) = d := byte (by omega)
  simp only [u32ToLeBytes,first,second,third,fourth]

theorem encodeHeader_decodeHeader (hdr : Vector UInt8 FRAME_HEADER_LEN) :
    encodeHeader (decodeHeader hdr).1 (decodeHeader hdr).2 = hdr := by
  simp only [encodeHeader,decodeHeader,bytes_round]
  ext i bound
  match i,bound with
  | 0,_ | 1,_ | 2,_ | 3,_ | 4,_ | 5,_ | 6,_ | 7,_ => rfl

end Scg.Ipc
