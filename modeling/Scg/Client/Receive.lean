import Scg.Library.Arrivals
import Scg.Ipc.FrameStream
import Scg.Client.Shm

namespace Scg.Client.Receive
open Ipc Arrivals

-- Durations and instants are nanoseconds, instants counted from the call.
def MILLISECOND : Nat := 1000000
def C_INT_MAX : Nat := 2^31-1
def FUTEX_SPIN_US : Nat := 15
def SPIN : Nat := FUTEX_SPIN_US*1000
def FUTEX_PARK : Nat := 50*MILLISECOND
def RECV_BUF_LEN : Nat := 256*1024

def pollSpan (timeout : Nat) : Nat := min (timeout/MILLISECOND) C_INT_MAX*MILLISECOND

-- `ready` is the instant from which the descriptor stays readable. No answer is a wait
-- that never ends.
def pollReadable (ready : Option Nat) (timeout : Option Nat) (now : Nat) : Option (Bool × Nat) :=
  match timeout,ready with
  | none,none => none
  | none,some instant => some (true,max now instant)
  | some d,none => some (false,now+pollSpan d)
  | some d,some instant =>
    if max now instant ≤ now+pollSpan d then some (true,max now instant) else some (false,now+pollSpan d)

-- A shared-memory client and what will reach it: frames on the ring, and notifications,
-- one pending at the call having delay 0.
structure Shm where
  slotRing : Bool
  futex : Bool
  word : UInt32
  frames : Schedule Frame
  notices : Schedule Unit

namespace Shm

def tryPop (c : Shm) (now : Nat) : Option Frame := (arrived now c.frames).head?

def consumerIsEmpty (c : Shm) (now : Nat) : Bool := (c.tryPop now).isNone

def notifyWord (c : Shm) (now : Nat) : UInt32 := c.word+UInt32.ofNat (arrived now c.notices).length

def spinEnd (c : Shm) : Nat :=
  match firstAt c.frames with
  | some instant => min instant SPIN
  | none => SPIN

-- `futex_wait`: at once if the word has moved on, else until the next wake or the end of
-- the park.
def futexWait (c : Shm) (observed : UInt32) (park now : Nat) : Nat :=
  if c.notifyWord now ≠ observed then now
  else
    match nextAfter now c.notices with
    | some instant => min instant (now+park)
    | none => now+park

def parkFor : Option Nat → Nat
  | some t => min t FUTEX_PARK
  | none => FUTEX_PARK

def waitG2c (c : Shm) (timeout : Option Nat) : Option (Bool × Nat) :=
  if c.futex && c.slotRing then
    let observed := c.notifyWord 0
    if !c.consumerIsEmpty c.spinEnd then some (true,c.spinEnd)
    else some (true,c.futexWait observed (parkFor timeout) c.spinEnd)
  else pollReadable (firstAt c.notices) timeout 0

-- `recv_timeout` and `recv_into` differ in the pop alone.
def receive {α : Type} (c : Shm) (pop : Frame → α) (timeout : Option Nat) :
    Option (Except ScgError (Option α) × Nat) :=
  match c.tryPop 0 with
  | some frame => some (.ok (some (pop frame)),0)
  | none =>
    match c.waitG2c timeout with
    | none => none
    | some (false,now) => some (.ok none,now)
    | some (true,now) => some (.ok ((c.tryPop now).map pop),now)

end Shm

inductive Ending where
  | eof
  | failed (message : String)

structure Uds where
  dec : FrameDecoder
  bytes : Schedule UInt8
  ending : Option (Nat × Ending)

inductive Fill where
  | filled (client : Uds)
  | timeout
  | eof

namespace Uds

def burst : Nat → Schedule UInt8 → List UInt8 × Schedule UInt8
  | room,(delay,byte) :: rest =>
    if delay = 0 ∧ 0 < room then
      let (more,left) := burst (room-1) rest
      (byte :: more,left)
    else ([],(delay,byte) :: rest)
  | _,[] => ([],[])

def readyAt (u : Uds) (now : Nat) : Option Nat :=
  match u.bytes with
  | (delay,_) :: _ => some (now+delay)
  | [] => u.ending.map fun (delay,_) => now+delay

def read (u : Uds) : Option (Except ScgError Fill) :=
  match u.bytes with
  | (_,byte) :: rest =>
    let (more,left) := burst (RECV_BUF_LEN-1) rest
    some (.ok (.filled {u with dec := u.dec.feed (byte :: more),bytes := left}))
  | [] => u.ending.map fun
      | (_,.eof) => .ok .eof
      | (_,.failed message) => .error (.io message)

def fillOnce (u : Uds) (timeout : Option Nat) (now : Nat) : Option (Except ScgError Fill × Nat) :=
  match pollReadable (u.readyAt now) timeout now with
  | none => none
  | some (false,later) => some (.ok .timeout,later)
  | some (true,later) => u.read.map (·,later)

theorem burst_shorter (room : Nat) (bytes : Schedule UInt8) : (burst room bytes).2.length ≤ bytes.length := by
  induction bytes generalizing room with
  | nil => exact Nat.le_refl _
  | cons entry rest ih =>
    unfold burst
    split
    · exact Nat.le_succ_of_le (ih (room-1))
    · exact Nat.le_refl _

theorem fillOnce_shorter {u after : Uds}
    (filled : u.fillOnce timeout now = some (.ok (.filled after),later)) : after.bytes.length < u.bytes.length := by
  unfold fillOnce at filled
  split at filled
  · cases filled
  · cases filled
  · obtain ⟨result,found,same⟩ := Option.map_eq_some_iff.mp filled
    cases same
    unfold read at found
    split at found
    · rename_i rest coming
      cases found
      rw [coming]
      exact Nat.lt_succ_of_le (burst_shorter _ rest)
    · obtain ⟨ended,_,same⟩ := Option.map_eq_some_iff.mp found
      split at same <;> cases same

-- A decoder that holds no whole frame is left as it is.
def recvTimeout (u : Uds) (timeout : Option Nat) (now : Nat) : Option (Except ScgError (Option Frame) × Nat) :=
  match u.dec.nextFrame with
  | (.ok (some frame),_) => some (.ok (some frame),now)
  | (.error _,_) => some (.error .frameTooLarge,now)
  | (.ok none,_) =>
    match _filled : u.fillOnce timeout now with
    | none => none
    | some (.error e,later) => some (.error e,later)
    | some (.ok .timeout,later) => some (.ok none,later)
    | some (.ok .eof,later) => some (.error .closed,later)
    | some (.ok (.filled after),later) => after.recvTimeout timeout later
termination_by u.bytes.length
decreasing_by exact fillOnce_shorter _filled

end Uds

inductive Transport where
  | uds (client : Uds)
  | shm (client : Shm)

def clip (room : Nat) (frame : Frame) : UInt32 × List UInt8 := (frame.trafficId,frame.payload.take room)

def recvTimeout (timeout : Option Nat) : Transport → Option (Except ScgError (Option Frame) × Nat)
  | .uds client => client.recvTimeout timeout 0
  | .shm client => client.receive id timeout

def recvInto (room : Nat) (timeout : Option Nat) : Transport → Option (Except ScgError (Option (UInt32 × List UInt8)) × Nat)
  | .uds client =>
    (client.recvTimeout timeout 0).map fun (result,now) => (result.map (Option.map (clip room)),now)
  | .shm client => client.receive (clip room) timeout

end Scg.Client.Receive
