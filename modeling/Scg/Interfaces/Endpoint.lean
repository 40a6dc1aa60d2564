import Scg.Ipc.Handshake
import Scg.Library.Transition

namespace Scg.Interfaces
open Ipc

structure PeerCred where
  pid : Int32
  uid : UInt32
  gid : UInt32
  deriving DecidableEq

structure OsError where
  rawOsError : Option Int32
  text : String
  deriving DecidableEq

def ESRCH : Int32 := 3

structure Endpoint where
  allowedUids : List UInt32
  allowedPids : List Int32
  ownerUid : UInt32

-- What the kernel and the peer answer on one accepted connection. `live`: a process with
-- the peer's pid exists; `arrived` is what the reads deliver before `ended`.
structure Attempt where
  peerCred : Except OsError PeerCred
  live : Bool
  pidfdFault : Option OsError
  setTimeoutFault : Option OsError
  arrived : List UInt8
  ended : OsError
  clearTimeoutFault : Option OsError

def pidfdOpen (attempt : Attempt) : Except OsError Unit :=
  match attempt.pidfdFault with
  | some e => .error e
  | none => if attempt.live then .ok () else .error ⟨some ESRCH,"No such process (os error 3)"⟩

def readExact (attempt : Attempt) : Except OsError (Vector UInt8 HELLO_LEN) :=
  if long : HELLO_LEN ≤ attempt.arrived.length then
    .ok ⟨(attempt.arrived.take HELLO_LEN).toArray,by rw [List.size_toArray,List.length_take,Nat.min_eq_left long]⟩
  else .error attempt.ended

def checkPid (endpoint : Endpoint) (attempt : Attempt) (cred : PeerCred) : Except String Unit :=
  if endpoint.allowedPids = [] then .ok ()
  else if cred.pid ∉ endpoint.allowedPids then .error s!"pid {cred.pid} is not in the rule's allowed_pids"
  else
    match pidfdOpen attempt with
    | .ok _ => .ok ()
    | .error e =>
      if e.rawOsError = some ESRCH then .error s!"peer pid {cred.pid} is no longer live (possible PID reuse)"
      -- Without `pidfd_open` the pid of SO_PEERCRED has to do.
      else .ok ()

def checkCred (endpoint : Endpoint) (attempt : Attempt) : Except String PeerCred :=
  match attempt.peerCred with
  | .error e => .error s!"SO_PEERCRED failed: {e.text}"
  | .ok cred =>
    if cred.uid ∉ endpoint.allowedUids then .error s!"uid {cred.uid} is not in the rule's allowed_uids"
    else if cred.uid ≠ endpoint.ownerUid then
      .error s!"uid {cred.uid} does not match the endpoint owner uid {endpoint.ownerUid}"
    else
      match checkPid endpoint attempt cred with
      | .error reason => .error reason
      | .ok _ => .ok cred

def readHello (attempt : Attempt) : Except String Hello :=
  match attempt.setTimeoutFault with
  | some e => .error s!"set_read_timeout: {e.text}"
  | none =>
    match readExact attempt with
    | .error e => .error s!"reading HELLO: {e.text}"
    | .ok buf =>
      match Hello.decode buf with
      | .error e => .error s!"decoding HELLO: {e.display}"
      | .ok hello => .ok hello

def authenticatePeer (endpoint : Endpoint) (token : Option CapabilityToken) (attempt : Attempt) :
    Except String PeerCred × Option CapabilityToken :=
  match checkCred endpoint attempt with
  | .error reason => (.error reason,token)
  | .ok cred =>
    match readHello attempt with
    | .error reason => (.error reason,token)
    | .ok hello =>
      match token with
      | none => (.error "capability token already consumed",none)
      | some tok =>
        if tok.ctEq hello.token.bytes.toList then
          -- The token is consumed before the last socket operation.
          match attempt.clearTimeoutFault with
          | some e => (.error s!"clearing read timeout: {e.text}",none)
          | none => (.ok cred,none)
        else (.error "capability token mismatch",some tok)

structure State where
  token : Option CapabilityToken
  listening : Bool
  log : List (Attempt × Except String PeerCred)

-- `quiet` is a round of the loop without a connection: nothing to accept, or a failed accept.
inductive Event where
  | quiet
  | shutdown
  | connect (attempt : Attempt)

def connected (endpoint : Endpoint) (s : State) (attempt : Attempt) : State :=
  let answer := authenticatePeer endpoint s.token attempt
  {token := answer.2,listening := !answer.1.isOk,log := s.log ++ [(attempt,answer.1)]}

def step (endpoint : Endpoint) (s : State) (event : Event) : Option State :=
  if s.listening then
    match event with
    | .quiet => some s
    | .shutdown => some {s with listening := false}
    | .connect attempt => some (connected endpoint s attempt)
  else none

def system (endpoint : Endpoint) (issued : CapabilityToken) : Transition.System State Event where
  initial s := s = ⟨some issued,true,[]⟩
  step := step endpoint

end Scg.Interfaces
