import Scg.Library.Attempts
import Scg.Net.Sockaddr

namespace Scg.Networking.Mmsg
open Net Attempts List

inductive ErrorKind where
  | wouldBlock
  | timedOut
  | interrupted
  | other (code : Nat)
  deriving DecidableEq,Repr

structure MmsgSendBuf where
  staging : List UInt8
  spans : List (Nat × Nat)
  within : ∀ span ∈ spans, span.1+span.2 ≤ staging.length

namespace MmsgSendBuf

def new : MmsgSendBuf := ⟨[],[],by simp⟩

def push (buf : MmsgSendBuf) (datagram : List UInt8) : MmsgSendBuf where
  staging := buf.staging ++ datagram
  spans := buf.spans ++ [(buf.staging.length,datagram.length)]
  within := by
    intro span staged
    rw [List.length_append]
    rcases List.mem_append.mp staged with earlier | now
    · exact Nat.le_trans (buf.within span earlier) (Nat.le_add_right _ _)
    · rw [List.mem_singleton.mp now]

def isEmpty (buf : MmsgSendBuf) : Bool := buf.spans.isEmpty

def clear (_ : MmsgSendBuf) : MmsgSendBuf := ⟨[],[],by simp⟩

def iovec (buf : MmsgSendBuf) (span : Nat × Nat) : List UInt8 := (buf.staging.drop span.1).take span.2

end MmsgSendBuf

-- What the kernel is given for one datagram; a connected socket has no name.
structure Message where
  name : Option (List UInt8)
  payload : List UInt8
  deriving DecidableEq

abbrev Sendmsg (K : Type) := K → Message → Option ErrorKind × K

def UIO_MAXIOV : Nat := 1024

-- An error is told only if nothing was sent.
structure Sendmmsg (K : Type) where
  ret : Except ErrorKind Nat
  ran : Ran K Message ErrorKind

def sendmmsg {K : Type} (sendmsg : Sendmsg K) (k : K) (msgs : List Message) (vlen : Nat) : Sendmmsg K :=
  let ran := untilFailure sendmsg k (msgs.take (min vlen UIO_MAXIOV))
  match ran.sent,ran.error with
  | [],some e => ⟨.error e,ran⟩
  | _,_ => ⟨.ok ran.sent.length,ran⟩

namespace MmsgSendBuf
variable {K : Type}

def name (dst : Option SocketAddr) : Option (List UInt8) :=
  dst.map fun addr =>
    let (storage,len) := fillSockaddrStorage addr .zeroed
    ByteMemory.read storage 0 len

def msgs (buf : MmsgSendBuf) (dst : Option SocketAddr) : List Message :=
  buf.spans.map fun span => ⟨name dst,buf.iovec span⟩

structure Flushed (K : Type) where
  result : Except ErrorKind Nat
  buf : MmsgSendBuf
  ran : Ran K Message ErrorKind

-- The count is a 32-bit number for the kernel.
def flush (sendmsg : Sendmsg K) (k : K) (buf : MmsgSendBuf) (dst : Option SocketAddr) : Flushed K :=
  if buf.spans.isEmpty then ⟨.ok 0,buf,⟨[],[],none,k⟩⟩
  else
    let sent := sendmmsg sendmsg k (buf.msgs dst) (buf.spans.length % 2^32)
    let result := match sent.ret with
      | .error .wouldBlock | .error .interrupted => .ok 0
      | .error e => .error e
      | .ok n => .ok n
    ⟨result,buf.clear,sent.ran⟩

def stage (datagrams : List (List UInt8)) : MmsgSendBuf := datagrams.foldl push new

section Staged
variable (datagrams : List (List UInt8)) (buf : MmsgSendBuf) (datagram : List UInt8)

theorem iovec_push {span : Nat × Nat} (staged : span ∈ buf.spans) :
    (buf.push datagram).iovec span = buf.iovec span := by
  have inside := buf.within span staged
  unfold iovec push
  rw [drop_append_of_le_length (by omega)]
  exact take_append_of_le_length (by rw [length_drop]; omega)

theorem msgs_push (dst : Option SocketAddr) :
    (buf.push datagram).msgs dst = buf.msgs dst ++ [⟨name dst,datagram⟩] := by
  have earlier : buf.spans.map (fun span => (⟨name dst,(buf.push datagram).iovec span⟩ : Message)) = buf.msgs dst := by
    apply map_congr_left
    intro span staged
    rw [iovec_push buf datagram staged]
  have added : (buf.push datagram).iovec (buf.staging.length,datagram.length) = datagram := by
    unfold iovec push
    rw [drop_left,take_length]
  change (buf.spans ++ [(buf.staging.length,datagram.length)]).map _ = _
  rw [map_append,earlier,map_singleton,added]

theorem msgs_foldl :
    (datagrams.foldl push buf).msgs dst = buf.msgs dst ++ datagrams.map (⟨name dst,·⟩) := by
  induction datagrams generalizing buf with
  | nil => simp
  | cons datagram rest ih => rw [foldl_cons,ih,msgs_push,append_assoc,map_cons,singleton_append]

theorem msgs_stage (datagrams : List (List UInt8)) (dst : Option SocketAddr) :
    (stage datagrams).msgs dst = datagrams.map (⟨name dst,·⟩) := msgs_foldl datagrams new

theorem spans_stage : (stage datagrams).spans.length = datagrams.length := by
  have same := congrArg length (msgs_stage datagrams none)
  rwa [msgs,length_map,length_map] at same

theorem sendmmsg_ran (msgs : List Message) (vlen : Nat) :
    (sendmmsg sendmsg k msgs vlen).ran = untilFailure sendmsg k (msgs.take (min vlen UIO_MAXIOV)) := by
  unfold sendmmsg
  dsimp only
  split <;> rfl

theorem flush_ran :
    (flush sendmsg k (stage datagrams) dst).ran = untilFailure sendmsg k
      ((datagrams.map (⟨name dst,·⟩)).take (min (datagrams.length % 2^32) UIO_MAXIOV)) := by
  unfold flush
  split
  · rename_i nothing
    have none_staged : datagrams = [] := by
      rw [isEmpty_iff_length_eq_zero,spans_stage] at nothing
      exact length_eq_zero_iff.mp nothing
    rw [none_staged]
    rfl
  · dsimp only
    rw [sendmmsg_ran,msgs_stage,spans_stage]

-- One refusal, and all that is behind it is given up; beyond the limit it is never seen.
theorem flush_offers_iff (sendmsg : Sendmsg K) (k : K) (datagrams : List (List UInt8)) (dst : Option SocketAddr) :
    ((flush sendmsg k (stage datagrams) dst).ran.offered = datagrams.map (⟨name dst,·⟩) ∧
      (flush sendmsg k (stage datagrams) dst).ran.sent = (each sendmsg k (datagrams.map (⟨name dst,·⟩))).1) ↔
    datagrams.length ≤ UIO_MAXIOV ∧ Taken sendmsg k (datagrams.map (⟨name dst,·⟩)) := by
  have size : (datagrams.map fun datagram => (⟨name dst,datagram⟩ : Message)).length = datagrams.length := List.length_map _
  have limit : datagrams.length ≤ min (datagrams.length % 2^32) UIO_MAXIOV ↔ datagrams.length ≤ UIO_MAXIOV := by
    unfold UIO_MAXIOV
    omega
  rw [flush_ran,untilFailure_limited_iff,size,limit]
  constructor
  · intro both
    exact both.1
  · rintro ⟨few,taken⟩
    refine ⟨⟨few,taken⟩,?_⟩
    rw [List.take_of_length_le (by rw [size]; exact limit.mpr few)]
    exact untilFailure_sent _ k taken

end Staged

-- A socket that refuses the first of two datagrams as too long, and takes the second.
def refusesLong : Sendmsg Unit := fun _ message => (if message.payload.length > 2 then some (.other 90) else none,())

theorem flush_gives_up :
    ¬((flush refusesLong () (stage [[1,2,3],[4]]) none).ran.offered = [[1,2,3],[4]].map (⟨name none,·⟩) ∧
      (flush refusesLong () (stage [[1,2,3],[4]]) none).ran.sent =
        (each refusesLong () ([[1,2,3],[4]].map (⟨name none,·⟩))).1) := by
  rintro ⟨-,same⟩
  have nothing : (flush refusesLong () (stage [[1,2,3],[4]]) none).ran.sent = [] := rfl
  have second : (each refusesLong () ([[1,2,3],[4]].map (⟨name none,·⟩))).1 = [⟨none,[4]⟩] := rfl
  rw [nothing,second] at same
  cases same

end MmsgSendBuf

end Scg.Networking.Mmsg
