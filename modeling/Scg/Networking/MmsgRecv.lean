import Scg.Networking.MmsgSend

namespace Scg.Networking.Mmsg
open Net List

-- `batch` slots of `slotLen` bytes, with a name and a length each. No length goes beyond
-- its slot, and no count beyond the slots.
structure MmsgRecvBuf where
  batch : Nat
  slotLen : Nat
  data : Nat → UInt8
  names : Nat → SockaddrStorage
  lens : Nat → Nat
  lastN : Nat
  slots : 0 < batch
  bounded : lastN ≤ batch
  fits : ∀ i < lastN, lens i ≤ slotLen

structure Arrived where
  source : SocketAddr
  payload : List UInt8
  deriving DecidableEq

inductive Recvmmsg where
  | received (datagrams : List Arrived)
  | failed (error : ErrorKind)
  deriving DecidableEq

structure Written where
  data : Nat → UInt8
  names : Nat → SockaddrStorage
  msgLen : Nat → Nat

def Written.place (slotLen i : Nat) (arrived : Arrived) (w : Written) : Written where
  data := ByteMemory.write w.data (i*slotLen) (arrived.payload.take slotLen)
  names := Function.update w.names i (fillSockaddrStorage arrived.source (w.names i)).1
  msgLen := Function.update w.msgLen i (min arrived.payload.length slotLen)

def Written.placeAll (slotLen : Nat) : Nat → List Arrived → Written → Written
  | _,[],w => w
  | i,arrived :: rest,w => placeAll slotLen (i+1) rest (w.place slotLen i arrived)

namespace MmsgRecvBuf

def new (batch slotLen : Nat) : MmsgRecvBuf where
  batch := max batch 1
  slotLen := max slotLen 1
  data _ := 0
  names _ := .zeroed
  lens _ := 0
  lastN := 0
  slots := by omega
  bounded := Nat.zero_le _
  fits := nofun

-- A receive that brings nothing leaves the count of the one before.
def recv (buf : MmsgRecvBuf) : Recvmmsg → Except ErrorKind Nat × MmsgRecvBuf
  | .failed .wouldBlock => (.ok 0,buf)
  | .failed .timedOut => (.ok 0,buf)
  | .failed .interrupted => (.ok 0,buf)
  | .failed (.other code) => (.error (.other code),buf)
  | .received datagrams =>
    let w := Written.placeAll buf.slotLen 0 (datagrams.take buf.batch) ⟨buf.data,buf.names,fun _ => 0⟩
    let n := min datagrams.length buf.batch
    (.ok n,{
      batch := buf.batch
      slotLen := buf.slotLen
      data := w.data
      names := w.names
      lens := fun i => if i < n then min (w.msgLen i) buf.slotLen else buf.lens i
      lastN := n
      slots := buf.slots
      bounded := Nat.min_le_right _ _
      fits := by
        intro i below
        rw [if_pos below]
        exact Nat.min_le_right _ _})

def get (buf : MmsgRecvBuf) (i : Nat) : Option (Option SocketAddr × List UInt8) :=
  if i ≥ buf.lastN then none
  else some (sockaddrStorageToSocketaddr (buf.names i),
    ByteMemory.read buf.data (i*buf.slotLen) (min (buf.lens i) buf.slotLen))

def recvAll (buf : MmsgRecvBuf) (results : List Recvmmsg) : MmsgRecvBuf :=
  results.foldl (fun buf result => (buf.recv result).2) buf

end MmsgRecvBuf

section Placed
def Written.shows (slotLen i : Nat) (w : Written) : Option SocketAddr × List UInt8 :=
  (sockaddrStorageToSocketaddr (w.names i),ByteMemory.read w.data (i*slotLen) (min (w.msgLen i) slotLen))

theorem place_here (slotLen i : Nat) (arrived : Arrived) (w : Written) :
    (w.place slotLen i arrived).shows slotLen i = (some arrived.source,arrived.payload.take slotLen) := by
  have len : min (min arrived.payload.length slotLen) slotLen = (arrived.payload.take slotLen).length := by
    rw [length_take]
    omega
  unfold Written.shows Written.place
  simp only [Function.update_self,sockaddrStorageToSocketaddr_fill]
  rw [len,ByteMemory.read_write]

theorem place_elsewhere (other : j ≠ i) (arrived : Arrived) (w : Written) :
    (w.place slotLen i arrived).shows slotLen j = w.shows slotLen j := by
  have cut : (arrived.payload.take slotLen).length ≤ slotLen := by
    rw [length_take]
    exact Nat.min_le_left _ _
  unfold Written.shows Written.place
  simp only [Function.update_of_ne other]
  rw [ByteMemory.read_write_slot other cut (Nat.min_le_right _ _)]

theorem placeAll_before (datagrams : List Arrived) (i : Nat) (w : Written) (before : j < i) :
    (w.placeAll slotLen i datagrams).shows slotLen j = w.shows slotLen j := by
  induction datagrams generalizing i w with
  | nil => rfl
  | cons arrived rest ih =>
    rw [Written.placeAll,ih (i+1) _ (by omega)]
    exact place_elsewhere (Nat.ne_of_lt before) arrived w

theorem placeAll_at (slotLen : Nat) (datagrams : List Arrived) (i k : Nat) (w : Written) (there : datagrams[k]? = some arrived) :
    (w.placeAll slotLen i datagrams).shows slotLen (i+k) = (some arrived.source,arrived.payload.take slotLen) := by
  induction datagrams generalizing i k w with
  | nil => simp at there
  | cons first rest ih =>
    rw [Written.placeAll]
    cases k with
    | zero =>
      cases there
      rw [Nat.add_zero,placeAll_before rest (i+1) _ (Nat.lt_succ_self i)]
      exact place_here slotLen i arrived w
    | succ k =>
      have later := ih (i+1) k (w.place slotLen i first) there
      rwa [Nat.add_assoc,Nat.add_comm 1] at later

end Placed

namespace MmsgRecvBuf
variable {buf : MmsgRecvBuf}

theorem get_isSome : (buf.get i).isSome = true ↔ i < buf.lastN := by
  unfold get
  split
  all_goals
    simp; omega

theorem get_none (empty : buf.lastN = 0) (i : Nat) : buf.get i = none := if_pos (by omega)

theorem recv_received_shows (below : i < min datagrams.length buf.batch) :
    (buf.recv (.received datagrams)).2.get i =
      some ((Written.placeAll buf.slotLen 0 (datagrams.take buf.batch) ⟨buf.data,buf.names,fun _ => 0⟩).shows buf.slotLen i) := by
  have count : (buf.recv (.received datagrams)).2.lastN = min datagrams.length buf.batch := rfl
  have len : (buf.recv (.received datagrams)).2.lens i = min _ buf.slotLen := if_pos below
  rw [get,count,if_neg (Nat.not_le.mpr below),len]
  change some (_,ByteMemory.read _ _ (min (min _ buf.slotLen) buf.slotLen)) = _
  rw [Nat.min_assoc,Nat.min_self]
  rfl

theorem recv_received_get (found : (buf.recv (.received datagrams)).2.get i = some shown) :
    ∃ arrived, datagrams[i]? = some arrived ∧ shown = (some arrived.source,arrived.payload.take buf.slotLen) := by
  have below : i < min datagrams.length buf.batch := get_isSome.mp (by rw [found]; rfl)
  have inside : i < (datagrams.take buf.batch).length := by
    rw [length_take]
    omega
  have there := getElem?_eq_getElem inside
  have placed := placeAll_at buf.slotLen (datagrams.take buf.batch) 0 i ⟨buf.data,buf.names,fun _ => 0⟩ there
  rw [Nat.zero_add] at placed
  refine ⟨(datagrams.take buf.batch)[i],?_,?_⟩
  · rw [← there,getElem?_take_of_lt (by omega)]
  · rw [recv_received_shows below,placed] at found
    exact (Option.some.inj found).symm

end MmsgRecvBuf

def Recvmmsg.datagrams : Recvmmsg → List Arrived
  | .received datagrams => datagrams
  | .failed _ => []

def MmsgRecvBuf.Fresh (buf : MmsgRecvBuf) (result : Recvmmsg) : Prop :=
  match buf.recv result with
  | (.ok n,after) => ∀ i, ((after.get i).isSome = true ↔ i < n) ∧ ∀ shown, after.get i = some shown →
      ∃ arrived, result.datagrams[i]? = some arrived ∧ shown = (some arrived.source,arrived.payload.take buf.slotLen)
  | (.error _,after) => ∀ i, after.get i = none

def latestFrom (held : List Arrived) : List Recvmmsg → List Arrived
  | [] => held
  | .received datagrams :: later => latestFrom datagrams later
  | .failed _ :: later => latestFrom held later

def latest (results : List Recvmmsg) : List Arrived := latestFrom [] results

namespace MmsgRecvBuf

variable (buf : MmsgRecvBuf) (error : ErrorKind)

theorem fresh_received (datagrams : List Arrived) : buf.Fresh (.received datagrams) := by
  intro i
  exact ⟨get_isSome,fun shown found => recv_received_get found⟩

theorem recv_failed :
    (buf.recv (.failed error)).2 = buf ∧ ∀ n, (buf.recv (.failed error)).1 = .ok n → n = 0 := by
  cases error with
  | other code => exact ⟨rfl,by rintro n ⟨⟩⟩
  | _ => exact ⟨rfl,by rintro n ⟨⟩; rfl⟩

theorem fresh_failed_iff : buf.Fresh (.failed error) ↔ buf.lastN = 0 := by
  obtain ⟨same,none_brought⟩ := recv_failed buf error
  unfold Fresh
  split
  · rename_i n after ran
    rw [ran] at same none_brought
    have nothing := none_brought n rfl
    subst same nothing
    constructor
    · intro fresh
      by_contra some_left
      exact Nat.not_lt_zero 0 ((fresh 0).1.mp (get_isSome.mpr (Nat.pos_of_ne_zero some_left)))
    · intro empty i
      rw [get_none empty]
      simp
  · rename_i code after ran
    rw [ran] at same
    subst same
    constructor
    · intro fresh
      by_contra some_left
      have shown := get_isSome.mpr (Nat.pos_of_ne_zero some_left)
      rw [fresh 0] at shown
      cases shown
    · exact get_none

theorem recvAll_lastN (results : List Recvmmsg) (held : List Arrived) (buf : MmsgRecvBuf)
    (kept : buf.lastN = min held.length buf.batch) :
    (buf.recvAll results).lastN = min (latestFrom held results).length buf.batch := by
  induction results generalizing buf held with
  | nil => exact kept
  | cons result later ih =>
    cases result with
    | received datagrams => exact ih datagrams (buf.recv (.received datagrams)).2 rfl
    | failed error =>
      have step : buf.recvAll (.failed error :: later) = buf.recvAll later := by
        rw [recvAll,foldl_cons,(recv_failed buf error).1]
        rfl
      rw [step]
      exact ih held buf kept

-- Over any receives: a count is shown as it is; after a receive that brings none, the
-- datagrams of the one before it are still there.
theorem recv_fresh_iff (batch slotLen : Nat) (earlier : List Recvmmsg) (result : Recvmmsg) :
    ((new batch slotLen).recvAll earlier).Fresh result ↔
      (∃ datagrams, result = .received datagrams) ∨ latest earlier = [] := by
  have count := recvAll_lastN earlier [] (new batch slotLen) rfl
  have slots := (new batch slotLen).slots
  cases result with
  | received datagrams => exact ⟨fun _ => .inl ⟨datagrams,rfl⟩,fun _ => fresh_received _ datagrams⟩
  | failed error =>
    rw [fresh_failed_iff,count,latest,← List.length_eq_zero_iff]
    constructor
    · intro none_kept
      exact .inr (by omega)
    · rintro (⟨datagrams,⟨⟩⟩ | nothing)
      omega

-- One datagram, then a receive that would block: the datagram is shown again.
theorem recv_shows_stale : ¬((new 2 4).recvAll [.received [⟨.v4 1 5000,[7]⟩]]).Fresh (.failed .wouldBlock) := by
  intro fresh
  exact Nat.not_lt_zero 0 ((fresh 0).1.mp rfl)

end MmsgRecvBuf

end Scg.Networking.Mmsg
