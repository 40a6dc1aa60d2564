import Scg.Ipc.SlotSafety

namespace Scg.FutexRelay
open Ipc Interaction SlotRing

-- `any` is the batch's `any_was_empty`; `rest` are the frames the decoder still holds for
-- this read.
inductive Relay where
  | reading
  | pushing (frame : Frame) (rest : List Frame) (any : Bool)
  | nudging (frame : Frame) (rest : List Frame) (any : Bool)
  | nudgeWaking (frame : Frame) (rest : List Frame) (any : Bool)
  | backoff (frame : Frame) (rest : List Frame) (any : Bool)
  | signalling (any : Bool)
  | waking
  | stopped

-- `try_pop`, and in `wait_g2c` the load of the word, the spin, the last check and the futex call.
inductive Client where
  | trying
  | popping
  | loading
  | spinning (observed : UInt32)
  | rechecking (observed : UInt32)
  | parking (observed : UInt32)
  | parked (observed : UInt32)

structure State where
  ring : Machine
  futexWord : UInt32
  relay : Relay
  client : Client

def initial (data : Nat → UInt8) : State :=
  {ring := SlotRing.initial data,futexWord := 0,relay := .reading,client := .trying}

inductive Action where
  | batch (frames : List Frame)
  | relay
  | stop
  | client (expired : Bool)
  | timeout

-- `futex_wake(w, 1)`: the client is the only waiter.
def wake : Client → Client
  | .parked _ => .trying
  | client => client

def nextFrame (g : Geometry) (s : State) (frames : List Frame) (any : Bool) : Option State :=
  match frames with
  | [] => some {s with relay := .signalling any}
  | frame :: rest =>
    (execute g s.ring (.tryPush frame)).map fun ring => {s with ring := ring,relay := .pushing frame rest any}

def pushReturned (g : Geometry) (s : State) (frame : Frame) (rest : List Frame) (any : Bool) :
    Except ShmError PushOutcome → Option State
  | .ok (.pushed wasEmpty) => nextFrame g s rest (any || wasEmpty)
  | .ok .full => some {s with relay := .nudging frame rest any}
  | .error _ => some {s with relay := .stopped}

def stepRelay (g : Geometry) (s : State) : Option State :=
  match s.relay with
  | .pushing frame rest any =>
    (execute g s.ring .producer).bind fun ring =>
      match s.ring.producer with
      | .publishing _ (.ret result) => pushReturned g {s with ring := ring} frame rest any result
      | _ => some {s with ring := ring}
  | .nudging frame rest any => some {s with futexWord := s.futexWord+1,relay := .nudgeWaking frame rest any}
  | .nudgeWaking frame rest any => some {s with client := wake s.client,relay := .backoff frame rest any}
  | .backoff frame rest any =>
    (execute g s.ring (.tryPush frame)).map fun ring => {s with ring := ring,relay := .pushing frame rest any}
  | .signalling true => some {s with futexWord := s.futexWord+1,relay := .waking}
  | .signalling false => some {s with relay := .reading}
  | .waking => some {s with client := wake s.client,relay := .reading}
  | .reading => none
  | .stopped => none

def check (g : Geometry) (s : State) (client : Client) : Option State :=
  (execute g s.ring .isEmpty).map fun ring => {s with ring := ring,client := client}

-- `expired` is the spin deadline, read after an emptiness check that found nothing.
def stepClient (g : Geometry) (s : State) (expired : Bool) : Option State :=
  match s.client with
  | .trying => (execute g s.ring .tryPopInto).map fun ring => {s with ring := ring,client := .popping}
  | .popping =>
    (execute g s.ring .consumer).map fun ring =>
      match s.ring.consumer with
      | .popping _ (.ret (some _)) => {s with ring := ring,client := .trying}
      | .popping _ (.ret none) => {s with ring := ring,client := .loading}
      | _ => {s with ring := ring}
  | .loading => check g s (.spinning s.futexWord)
  | .spinning observed =>
    (execute g s.ring .consumer).bind fun ring =>
      match s.ring.consumer with
      | .checking (.ret empty) =>
        if empty && !expired then check g {s with ring := ring} (.spinning observed)
        else check g {s with ring := ring} (.rechecking observed)
      | _ => some {s with ring := ring}
  | .rechecking observed =>
    (execute g s.ring .consumer).map fun ring =>
      match s.ring.consumer with
      | .checking (.ret true) => {s with ring := ring,client := .parking observed}
      | .checking (.ret false) => {s with ring := ring,client := .trying}
      | _ => {s with ring := ring}
  | .parking observed =>
    some {s with client := if s.futexWord = observed then .parked observed else .trying}
  | .parked _ => none

-- `stop` is every way out of the relay: end of stream, a decode or TLS error, and
-- in the full-ring backoff the shutdown flag or a closed control socket.
def step (g : Geometry) (s : State) : Action → Option State
  | .batch [] => match s.relay with
      | .reading => some s
      | _ => none
  | .batch (frame :: rest) => match s.relay with
      | .reading => nextFrame g s (frame :: rest) false
      | _ => none
  | .relay => stepRelay g s
  | .stop => match s.relay with
      | .pushing _ _ _ => none
      | _ => some {s with relay := .stopped}
  | .client expired => stepClient g s expired
  | .timeout => match s.client with
      | .parked _ => some {s with client := .trying}
      | _ => none

def system (g : Geometry) : Transition.System State Action where
  initial s := ∃ data, s = initial data
  step := step g

end Scg.FutexRelay
