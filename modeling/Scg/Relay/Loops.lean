import Scg.Ipc.SlotDrain
import Scg.Library.DuplexPass
import Scg.Relay.UdpReverse

namespace Scg.Relay
open Net Ipc Duplex
open SlotRing (RELAY_BUF_SIZE)

-- `write_all_nb`, `write_all_nb_proxy` and the second step of `splice_one_direction`.
def writeAllNb : Writer := ⟨true,true⟩
def writeAllNbProxy : Writer := ⟨false,true⟩
def spliceOut : Writer := ⟨false,false⟩

-- `size` bytes fit the buffer, `interrupted` follows a read that a signal broke off,
-- `after` the write of what was read.
def streamTake (side : Side) (size : Nat) (interrupted after : Next) (_ : Unit) : TlsRead → Option (Unit × Reaction UInt8)
  | .ok [] => some ((),.go (.finish ⟨[side],true⟩))
  | .ok (byte :: bytes) =>
    if (byte :: bytes).length ≤ size then some ((),.relay (byte :: bytes) after) else none
  | .wouldBlock => some ((),.go .leave)
  | .interrupted => some ((),.go interrupted)
  | .failed => some ((),.go (.finish ⟨[],true⟩))

-- Shutdown closes both directions; an error of a poll or a write returns at once.
def streamLoop (leg : Side → Leg Unit TlsRead UInt8) (layered : Bool) : Loop Unit TlsRead UInt8 where
  leg := leg
  layered := layered
  onStop := ⟨[.first,.second],true⟩
  onPollError := ⟨[],false⟩

def relayBidirectional (relayBufSize : Nat) : Loop Unit TlsRead UInt8 :=
  streamLoop
    (fun
      | .first => ⟨streamTake .first relayBufSize .again .ask,writeAllNb,⟨[],false⟩⟩
      | .second => ⟨streamTake .second relayBufSize .again .again,writeAllNbProxy,⟨[],false⟩⟩)
    true

def relayEncryptBidirectional (relayBufSize : Nat) : Loop Unit TlsRead UInt8 :=
  streamLoop
    (fun
      | .first => ⟨streamTake .first relayBufSize .again .again,writeAllNbProxy,⟨[],false⟩⟩
      | .second => ⟨streamTake .second relayBufSize .again .ask,writeAllNb,⟨[],false⟩⟩)
    true

-- Here a read is a splice into the pipe; every error of a direction ends the relay with `Ok`.
def relayBidirectionalSplice (pipeSize : Nat) : Loop Unit TlsRead UInt8 :=
  streamLoop
    (fun
      | .first => ⟨streamTake .first pipeSize (.finish ⟨[],true⟩) .again,spliceOut,⟨[],true⟩⟩
      | .second => ⟨streamTake .second pipeSize (.finish ⟨[],true⟩) .again,spliceOut,⟨[],true⟩⟩)
    false

-- The packet writer of the `ale_pipe` crate, of which only is used that a packet is not much
-- longer than its user data.
structure AleWriter where
  State : Type
  write : State → Datagram → List UInt8 × State
  overhead : Nat
  sized : ∀ writer payload, (write writer payload).1.length ≤ payload.length+overhead

structure Tunnel (R : AleReader) (W : AleWriter) where
  framing : UdpFraming R
  writer : W.State
  lastPeer : Option SocketAddr

inductive Received where
  | ok (batch : List (Option SocketAddr × Datagram))
  | failed
  deriving DecidableEq

inductive Arrival where
  | tls (read : TlsRead)
  | udp (received : Received)
  deriving DecidableEq

def UDP_MMSG_BATCH : Nat := 32
def UDP_BUF_SIZE : Nat := 65536

section Tunnels
variable {R : AleReader} {W : AleWriter}

def Tunnel.frameInto (t : Tunnel R W) (payload : Datagram) : List UInt8 × Tunnel R W :=
  match t.framing with
  | .ale _ =>
    let (packet,writer) := W.write t.writer payload
    (packet,{t with writer := writer})
  | .raw _ => ((u32ToLeBytes (UInt32.ofNat payload.length)).toList ++ payload,t)

def frameBatch (accepts : Tunnel R W → Option SocketAddr → Bool × Tunnel R W) :
    Tunnel R W → List (Option SocketAddr × Datagram) → List UInt8 × Tunnel R W
  | t,[] => ([],t)
  | t,(src,payload) :: rest =>
    match accepts t src with
    | (true,t) =>
      let (bytes,t) := t.frameInto payload
      let (more,t) := frameBatch accepts t rest
      (bytes ++ more,t)
    | (false,t) => frameBatch accepts t rest

def acceptAll (t : Tunnel R W) (_ : Option SocketAddr) : Bool × Tunnel R W := (true,t)

def acceptPinned (t : Tunnel R W) : Option SocketAddr → Bool × Tunnel R W
  | none => (false,t)
  | some src =>
    let (accepted,lastPeer) := acceptSource t.lastPeer src
    (accepted,{t with lastPeer := lastPeer})

def fitsBatch (batch : List (Option SocketAddr × Datagram)) : Bool :=
  batch.length ≤ UDP_MMSG_BATCH && batch.all fun datagram => datagram.2.length ≤ UDP_BUF_SIZE

def datagramTake (accepts : Tunnel R W → Option SocketAddr → Bool × Tunnel R W) (failed : Next) (t : Tunnel R W) :
    Arrival → Option (Tunnel R W × Reaction UInt8)
  | .udp (.ok []) => some (t,.go .leave)
  | .udp (.ok (first :: rest)) =>
    if fitsBatch (first :: rest) then
      let (bytes,t) := frameBatch accepts t (first :: rest)
      some (t,.keep bytes)
    else none
  | .udp .failed => some (t,.go failed)
  | .tls _ => none

-- One `sendmmsg` for a read that completes a datagram, if `stages` says there is someone to send to.
def tunnelTake (stages : Tunnel R W → Bool) (eof disconnected failed : Next) (t : Tunnel R W) :
    Arrival → Option (Tunnel R W × Reaction UInt8)
  | .tls (.ok []) => some (t,.go eof)
  | .tls (.ok (byte :: bytes)) =>
    if (byte :: bytes).length ≤ RELAY_BUF_SIZE then
      let found := deframeEach t.framing (byte :: bytes)
      let next := if found.disconnect then disconnected else .ask
      some ({t with framing := found.framing},
        if stages t && !found.datagrams.isEmpty then .send next else .go next)
    else none
  | .tls .wouldBlock => some (t,.go .leave)
  | .tls .interrupted => some (t,.go .again)
  | .tls .failed => some (t,.go failed)
  | .udp _ => none

-- The tunnel is the first side. A leg to the datagram socket has no write loop.
def relayTlsToUdp : Loop (Tunnel R W) Arrival UInt8 where
  leg
    | .first =>
      ⟨tunnelTake (fun _ => true) (.finish ⟨[],true⟩) (.finish ⟨[],true⟩) (.finish ⟨[],true⟩),writeAllNb,⟨[],true⟩⟩
    | .second => ⟨datagramTake acceptAll (.finish ⟨[],true⟩),writeAllNbProxy,⟨[],true⟩⟩
  layered := true
  onStop := ⟨[.second],true⟩
  onPollError := ⟨[],false⟩

-- `run_udp_encrypt_relay` once the tunnel is up; the client's socket is the first side.
def runUdpEncryptRelay : Loop (Tunnel R W) Arrival UInt8 where
  leg
    | .first => ⟨datagramTake acceptPinned .leave,writeAllNbProxy,⟨[.first],true⟩⟩
    | .second => ⟨tunnelTake (fun t => t.lastPeer.isSome) .leave .leave .leave,writeAllNb,⟨[.first],true⟩⟩
  layered := true
  onStop := ⟨[.first],true⟩
  onPollError := ⟨[.first],true⟩

end Tunnels

section Sizes

theorem streamTake_cases {inner : Unit} {interrupted after : Next}
    (found : streamTake side size interrupted after inner answer = some (later,reaction)) :
    (∃ next, reaction = .go next) ∨ ∃ bytes, answer = .ok bytes ∧ bytes.length ≤ size ∧ reaction = .relay bytes after := by
  unfold streamTake at found
  split at found
  · cases found
    exact .inl ⟨_,rfl⟩
  · split at found <;> cases found
    rename_i fits
    exact .inr ⟨_,rfl,fits,rfl⟩
  · cases found
    exact .inl ⟨_,rfl⟩
  · cases found
    exact .inl ⟨_,rfl⟩
  · cases found
    exact .inl ⟨_,rfl⟩

def StreamLegs (L : Loop Unit TlsRead UInt8) (size : Nat) : Prop :=
  ∀ side, ∃ interrupted after, (L.leg side).take = streamTake side size interrupted after

variable (size : Nat)

theorem StreamLegs.sized (legs : StreamLegs L size) : L.Sized size := by
  intro side inner answer later reaction found
  obtain ⟨interrupted,after,take⟩ := legs side
  rw [take] at found
  rcases streamTake_cases found with ⟨next,rfl⟩ | ⟨bytes,_,fits,rfl⟩
  · exact Nat.zero_le _
  · exact fits

theorem StreamLegs.direct (legs : StreamLegs L size) : L.Direct := by
  intro side inner answer later reaction found
  obtain ⟨interrupted,after,take⟩ := legs side
  rw [take] at found
  rcases streamTake_cases found with going | ⟨bytes,_,_,relayed⟩
  · exact .inl going
  · exact .inr ⟨bytes,after,relayed⟩

theorem relayBidirectional_legs : StreamLegs (relayBidirectional size) size
  | .first => ⟨_,_,rfl⟩
  | .second => ⟨_,_,rfl⟩

theorem relayEncryptBidirectional_legs : StreamLegs (relayEncryptBidirectional size) size
  | .first => ⟨_,_,rfl⟩
  | .second => ⟨_,_,rfl⟩

theorem relayBidirectionalSplice_legs : StreamLegs (relayBidirectionalSplice size) size
  | .first => ⟨_,_,rfl⟩
  | .second => ⟨_,_,rfl⟩

theorem frameInto_length (t : Tunnel R W) (payload : Datagram) :
    (t.frameInto payload).1.length ≤ payload.length+(4+W.overhead) := by
  unfold Tunnel.frameInto
  split
  · have sized := W.sized t.writer payload
    show (W.write t.writer payload).1.length ≤ _
    omega
  · simp only [List.length_append,Vector.length_toList]
    omega

def datagramChunk (W : AleWriter) : Nat := UDP_MMSG_BATCH*(UDP_BUF_SIZE+(4+W.overhead))

theorem frameBatch_length (accepts : Tunnel R W → Option SocketAddr → Bool × Tunnel R W) (t : Tunnel R W)
    (batch : List (Option SocketAddr × Datagram)) (small : ∀ datagram ∈ batch, datagram.2.length ≤ UDP_BUF_SIZE) :
    (frameBatch accepts t batch).1.length ≤ batch.length*(UDP_BUF_SIZE+(4+W.overhead)) := by
  induction batch generalizing t with
  | nil => exact Nat.zero_le _
  | cons datagram rest ih =>
    have later := fun t => ih t fun other present => small other (List.mem_cons_of_mem _ present)
    have here := small datagram List.mem_cons_self
    unfold frameBatch
    rw [List.length_cons,Nat.succ_mul]
    split
    · rename_i t accepted
      have framed := frameInto_length t datagram.2
      have rest_framed := later (t.frameInto datagram.2).2
      simp only [List.length_append]
      omega
    · rename_i t refused
      exact Nat.le_trans (later t) (Nat.le_add_right _ _)

theorem datagramTake_sized {accepts : Tunnel R W → Option SocketAddr → Bool × Tunnel R W}
    (found : datagramTake accepts failed t answer = some (later,reaction)) :
    reaction.bytes.length ≤ datagramChunk W := by
  unfold datagramTake at found
  split at found
  · cases found
    exact Nat.zero_le _
  · split at found <;> cases found
    rename_i fits
    simp only [fitsBatch,Bool.and_eq_true,decide_eq_true_eq,List.all_eq_true] at fits
    exact Nat.le_trans (frameBatch_length accepts t _ fits.2) (Nat.mul_le_mul_right _ fits.1)
  · cases found
    exact Nat.zero_le _
  · cases found

theorem tunnelTake_bytes {stages : Tunnel R W → Bool}
    (found : tunnelTake stages eof disconnected failed t answer = some (later,reaction)) : reaction.bytes = [] := by
  unfold tunnelTake at found
  split at found
  · cases found
    rfl
  · split at found
    · obtain ⟨_,rfl⟩ := found
      split <;> rfl
    · cases found
  · cases found
    rfl
  · cases found
    rfl
  · cases found
    rfl
  · cases found

theorem relayTlsToUdp_sized : (relayTlsToUdp : Loop (Tunnel R W) Arrival UInt8).Sized (datagramChunk W) := by
  intro side inner answer later reaction found
  cases side with
  | first =>
    dsimp only [relayTlsToUdp] at found
    rw [tunnelTake_bytes found]
    exact Nat.zero_le _
  | second =>
    dsimp only [relayTlsToUdp] at found
    exact datagramTake_sized found

theorem runUdpEncryptRelay_sized : (runUdpEncryptRelay : Loop (Tunnel R W) Arrival UInt8).Sized (datagramChunk W) := by
  intro side inner answer later reaction found
  cases side with
  | first => exact datagramTake_sized found
  | second =>
    dsimp only [runUdpEncryptRelay] at found
    rw [tunnelTake_bytes found]
    exact Nat.zero_le _

end Sizes

structure RelayLoop where
  Inner : Type
  Answer : Type
  loop : Loop Inner Answer UInt8
  begun : Inner
  chunk : Nat
  sized : loop.Sized chunk

def relayLoops (relayBufSize pipeSize : Nat) {R : AleReader} {W : AleWriter} (tunnel : Tunnel R W) : List RelayLoop :=
  [⟨_,_,relayBidirectional relayBufSize,(),_,(relayBidirectional_legs relayBufSize).sized⟩,
    ⟨_,_,relayEncryptBidirectional relayBufSize,(),_,(relayEncryptBidirectional_legs relayBufSize).sized⟩,
    ⟨_,_,relayBidirectionalSplice pipeSize,(),_,(relayBidirectionalSplice_legs pipeSize).sized⟩,
    ⟨_,_,relayTlsToUdp,tunnel,_,relayTlsToUdp_sized⟩,
    ⟨_,_,runUdpEncryptRelay,tunnel,_,runUdpEncryptRelay_sized⟩]

end Scg.Relay
