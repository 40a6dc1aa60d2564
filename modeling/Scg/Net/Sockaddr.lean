import Scg.Library.ByteMemory
import Scg.Library.Octets
import Scg.Net.Address

namespace Scg.Net
open ByteMemory Octets

def AF_INET : Nat := 2
def AF_INET6 : Nat := 10

-- Room for any address. Host numbers are little-endian.
abbrev SockaddrStorage := Nat → UInt8

def SockaddrStorage.zeroed : SockaddrStorage := fun _ => 0

def SockaddrStorage.ssFamily (storage : SockaddrStorage) : Nat := ofLe (read storage 0 2)

def sockaddrStorageToSocketaddr (storage : SockaddrStorage) : Option SocketAddr :=
  if storage.ssFamily = AF_INET then
    some (.v4 (BitVec.ofNat 32 (ofBe (read storage 4 4))) (UInt16.ofNat (ofBe (read storage 2 2))))
  else if storage.ssFamily = AF_INET6 then
    some (.v6 (BitVec.ofNat 128 (ofBe (read storage 8 16))) (UInt16.ofNat (ofBe (read storage 2 2)))
      (UInt32.ofNat (ofLe (read storage 4 4))) (UInt32.ofNat (ofLe (read storage 24 4))))
  else none

-- The fields of a `sockaddr_in`, and of a `sockaddr_in6`.
def sockaddrBytes : SocketAddr → List UInt8
  | .v4 ip port => le 2 AF_INET ++ (be 2 port.toNat ++ be 4 ip.toNat)
  | .v6 ip port flowinfo scopeId =>
    le 2 AF_INET6 ++ (be 2 port.toNat ++ (le 4 flowinfo.toNat ++ (be 16 ip.toNat ++ le 4 scopeId.toNat)))

def sockaddrLen : SocketAddr → Nat
  | .v4 _ _ => 16
  | .v6 _ _ _ _ => 28

def fillSockaddrStorage (addr : SocketAddr) (storage : SockaddrStorage) : SockaddrStorage × Nat :=
  (write storage 0 (sockaddrBytes addr),sockaddrLen addr)

theorem read_field (storage : SockaddrStorage) (front field back : List UInt8)
    (split : bytes = front ++ (field ++ back)) (before : front.length = off) (len : field.length = size) :
    read (write storage 0 bytes) off size = field := by
  subst split before len
  have there : read (write storage 0 (front ++ (field ++ back))) (0+front.length) field.length = field :=
    read_write_field front field back
  rwa [Nat.zero_add] at there

theorem ofBe_port (port : UInt16) : UInt16.ofNat (ofBe (be 2 port.toNat)) = port := by
  rw [ofBe_be port.toNat_lt,UInt16.ofNat_toNat]

theorem ofLe_word (word : UInt32) : UInt32.ofNat (ofLe (le 4 word.toNat)) = word := by
  rw [ofLe_le word.toNat_lt,UInt32.ofNat_toNat]

theorem ofBe_ip (ip : BitVec width) (bytes : 256^n = 2^width) : BitVec.ofNat width (ofBe (be n ip.toNat)) = ip := by
  have fits : ip.toNat < 256^n := by
    rw [bytes]
    exact ip.isLt
  rw [ofBe_be fits,BitVec.ofNat_toNat,BitVec.setWidth_eq]

theorem sockaddrStorageToSocketaddr_fill (addr : SocketAddr) (storage : SockaddrStorage) :
    sockaddrStorageToSocketaddr (fillSockaddrStorage addr storage).1 = some addr := by
  unfold fillSockaddrStorage sockaddrStorageToSocketaddr SockaddrStorage.ssFamily
  cases addr with
  | v4 ip port =>
    generalize filled : sockaddrBytes (.v4 ip port) = bytes
    have family : read (write storage 0 bytes) 0 2 = le 2 AF_INET :=
      read_field storage [] _ (be 2 port.toNat ++ be 4 ip.toNat) filled.symm rfl (le_length _ _)
    have ports : read (write storage 0 bytes) 2 2 = be 2 port.toNat :=
      read_field storage (le 2 AF_INET) _ (be 4 ip.toNat) filled.symm (le_length _ _) (be_length _ _)
    have ips : read (write storage 0 bytes) 4 4 = be 4 ip.toNat :=
      read_field storage (le 2 AF_INET ++ be 2 port.toNat) _ [] (by simp [← filled,sockaddrBytes]) (by simp) (be_length _ _)
    rw [family,ports,ips,ofBe_port,ofBe_ip ip rfl]
    rfl
  | v6 ip port flowinfo scopeId =>
    generalize filled : sockaddrBytes (.v6 ip port flowinfo scopeId) = bytes
    have family : read (write storage 0 bytes) 0 2 = le 2 AF_INET6 :=
      read_field storage [] _ (be 2 port.toNat ++ (le 4 flowinfo.toNat ++ (be 16 ip.toNat ++ le 4 scopeId.toNat)))
        filled.symm rfl (le_length _ _)
    have ports : read (write storage 0 bytes) 2 2 = be 2 port.toNat :=
      read_field storage (le 2 AF_INET6) _ (le 4 flowinfo.toNat ++ (be 16 ip.toNat ++ le 4 scopeId.toNat))
        filled.symm (le_length _ _) (be_length _ _)
    have flows : read (write storage 0 bytes) 4 4 = le 4 flowinfo.toNat :=
      read_field storage (le 2 AF_INET6 ++ be 2 port.toNat) _ (be 16 ip.toNat ++ le 4 scopeId.toNat)
        (by simp [← filled,sockaddrBytes]) (by simp) (le_length _ _)
    have ips : read (write storage 0 bytes) 8 16 = be 16 ip.toNat :=
      read_field storage (le 2 AF_INET6 ++ be 2 port.toNat ++ le 4 flowinfo.toNat) _ (le 4 scopeId.toNat)
        (by simp [← filled,sockaddrBytes]) (by simp) (be_length _ _)
    have scopes : read (write storage 0 bytes) 24 4 = le 4 scopeId.toNat :=
      read_field storage (le 2 AF_INET6 ++ be 2 port.toNat ++ le 4 flowinfo.toNat ++ be 16 ip.toNat) _ []
        (by simp [← filled,sockaddrBytes]) (by simp) (le_length _ _)
    rw [family,ports,flows,ips,scopes,ofBe_port,ofBe_ip ip rfl,ofLe_word,ofLe_word]
    rfl

end Scg.Net
