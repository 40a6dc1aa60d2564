import Scg.Relay.AleReader

namespace Scg.AppProtocols
open Ipc Relay Deframe

inductive ErrorKind where
  | invalidInput | invalidData | other
  deriving DecidableEq

structure IoError where
  kind : ErrorKind
  message : String
  deriving DecidableEq

structure DeframeResult where
  datagrams : List Datagram
  disconnected : Bool
  deriving DecidableEq

-- The framing half of the trait; its handshakes are not used here.
structure FramingSession (S : Type) where
  create : S
  frameDatagram : S → Datagram → List UInt8 → Except IoError (List UInt8) × S
  deframe : S → List UInt8 → Except IoError DeframeResult × S

namespace Raw

def exceedsU32 : IoError := ⟨.invalidInput,"datagram exceeds u32::MAX"⟩

def exceedsMaximum (len : Nat) : IoError :=
  ⟨.invalidData,s!"raw datagram length {len} exceeds maximum {MAX_RAW_DATAGRAM_LEN}"⟩

def frameDatagram (pending : List UInt8) (payload : Datagram) (out : List UInt8) : Except IoError (List UInt8) × List UInt8 :=
  if payload.length < 2^32 then
    (.ok (out ++ (u32ToLeBytes (UInt32.ofNat payload.length)).toList ++ payload),pending)
  else (.error exceedsU32,pending)

-- Each datagram is taken off the buffer before the next length is read; what the loop has
-- collected goes with an error.
def drain : Nat → List UInt8 → List Datagram → Except IoError (List Datagram) × List UInt8
  | 0,pending,datagrams => (.ok datagrams,pending)
  | fuel+1,pending,datagrams =>
    match pending with
    | a :: b :: c :: d :: body =>
      let len := (u32FromLeBytes a b c d).toNat
      if len > MAX_RAW_DATAGRAM_LEN then (.error (exceedsMaximum len),pending)
      else if body.length < len then (.ok datagrams,pending)
      else drain fuel (body.drop len) (datagrams ++ [body.take len])
    | _ => (.ok datagrams,pending)

def deframe (pending data : List UInt8) : Except IoError DeframeResult × List UInt8 :=
  let (drained,pending) := drain ((pending ++ data).length+1) (pending ++ data) []
  (drained.map fun datagrams => ⟨datagrams,false⟩,pending)

def session : FramingSession (List UInt8) := ⟨[],frameDatagram,deframe⟩

end Raw

structure AleWriter where
  State : Type
  new : State
  writeAlepkt : State → AleType → Datagram → Except AleError (List UInt8) × State
  display : AleError → String

namespace Ale

structure State (R : AleReader) (W : AleWriter) where
  writer : W.State
  reader : R.State

variable {R : AleReader} {W : AleWriter}

def frameDatagram (s : State R W) (payload : Datagram) (out : List UInt8) : Except IoError (List UInt8) × State R W :=
  match W.writeAlepkt s.writer .dt payload with
  | (.ok packet,writer) => (.ok (out ++ packet),{s with writer := writer})
  | (.error e,writer) => (.error ⟨.other,"ALE frame: " ++ W.display e⟩,{s with writer := writer})

def collect : List R.Frame → List Datagram → DeframeResult
  | [],datagrams => ⟨datagrams,false⟩
  | frame :: rest,datagrams =>
    match R.packetType frame with
    | .dt => collect rest (datagrams ++ [R.userData frame])
    | .di => ⟨datagrams,true⟩
    | _ => collect rest datagrams

def hex4 (w : UInt16) : String :=
  String.ofList ([w.toNat/16^3%16,w.toNat/16^2%16,w.toNat/16%16,w.toNat%16].map fun digit => digit.digitChar.toUpper)

def deframe (s : State R W) (data : List UInt8) : Except IoError DeframeResult × State R W :=
  match R.feed s.reader data with
  | (.ok frames,reader) => (.ok (collect frames []),{s with reader := reader})
  | (.error (.checksumMismatch expected got),reader) =>
    (.error ⟨.invalidData,"ALE checksum mismatch: expected 0x" ++ hex4 expected ++ ", got 0x" ++ hex4 got⟩,
      {s with reader := reader})
  | (.error e,reader) => (.error ⟨.invalidData,"ALE frame error: " ++ W.display e⟩,{s with reader := reader})

def session (R : AleReader) (W : AleWriter) : FramingSession (State R W) := ⟨⟨W.new,R.new⟩,frameDatagram,deframe⟩

end Ale

section Feeds
variable {S : Type}

-- A session is over with an error as it is with the peer's disconnect.
def FramingSession.step (F : FramingSession S) (s : S) (data : List UInt8) : List Datagram × Bool × S :=
  match F.deframe s data with
  | (.ok result,next) => (result.datagrams,result.disconnected,next)
  | (.error _,next) => ([],true,next)

def FramingSession.deframeFeeds (F : FramingSession S) (s : S) (feeds : List (List UInt8)) : List Datagram × Option Nat :=
  untilStop F.step s feeds

def FramingSession.frameAll (F : FramingSession S) : S → List Datagram → List UInt8 → Except IoError (List UInt8)
  | _,[],out => .ok out
  | s,payload :: rest,out =>
    match F.frameDatagram s payload out with
    | (.ok out,next) => F.frameAll next rest out
    | (.error e,_) => .error e

end Feeds

end Scg.AppProtocols
