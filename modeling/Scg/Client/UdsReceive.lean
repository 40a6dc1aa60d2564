import Scg.Client.Shm
import Scg.Ipc.FrameStream

namespace Scg.Client.UdsReceive
open Ipc Deframe

inductive Poll where
  | timeout
  | gave (first : UInt8) (more : List UInt8)
  | interrupted
  | eof
  | failed (error : ScgError)

inductive Fill where
  | filled
  | timeout
  | eof

structure UdsClient where
  dec : FrameDecoder
  socket : List Poll

def fillOnce (dec : FrameDecoder) : Poll → Except ScgError Fill × FrameDecoder
  | .timeout => (.ok .timeout,dec)
  | .gave first more => (.ok .filled,dec.feed (first :: more))
  | .interrupted => (.ok .filled,dec)
  | .eof => (.ok .eof,dec)
  | .failed e => (.error e,dec)

section Loop
variable {α : Type}

def receive (buffered : FrameDecoder → Except ScgError (Option α) × FrameDecoder) (dec : FrameDecoder) :
    List Poll → Option (Except ScgError (Option α) × UdsClient)
  | [] =>
    match buffered dec with
    | (.ok (some found),dec) => some (.ok (some found),⟨dec,[]⟩)
    | (.error e,dec) => some (.error e,⟨dec,[]⟩)
    | (.ok none,_) => none
  | poll :: rest =>
    match buffered dec with
    | (.ok (some found),dec) => some (.ok (some found),⟨dec,poll :: rest⟩)
    | (.error e,dec) => some (.error e,⟨dec,poll :: rest⟩)
    | (.ok none,dec) =>
      match fillOnce dec poll with
      | (.ok .filled,dec) => receive buffered dec rest
      | (.ok .timeout,dec) => some (.ok none,⟨dec,rest⟩)
      | (.ok .eof,dec) => some (.error .closed,⟨dec,rest⟩)
      | (.error e,dec) => some (.error e,⟨dec,rest⟩)

end Loop

def nextBuffered (dec : FrameDecoder) : Except ScgError (Option Frame) × FrameDecoder :=
  match dec.nextFrame with
  | (.ok found,dec) => (.ok found,dec)
  | (.error _,dec) => (.error .frameTooLarge,dec)

def recvTimeout (client : UdsClient) : Option (Except ScgError (Option Frame) × UdsClient) :=
  receive nextBuffered client.dec client.socket

-- The caller's buffers with the frames received so far: none reaches beyond its own stride.
structure Batch (stride : Nat) where
  out : Nat → UInt8
  lens : Nat → Nat
  count : Nat
  within : ∀ i < count, lens i ≤ stride

namespace Batch

variable {stride : Nat}

def put (batch : Batch stride) (payload : List UInt8) : Batch stride where
  out := ByteMemory.write batch.out (batch.count*stride) (payload.take (min payload.length stride))
  lens i := if i = batch.count then min payload.length stride else batch.lens i
  count := batch.count+1
  within i below := by
    split
    · exact Nat.min_le_right _ _
    · rename_i other
      exact batch.within i (by omega)

def payloads (batch : Batch stride) : List (List UInt8) :=
  (List.range batch.count).map fun i => ByteMemory.read batch.out (i*stride) (batch.lens i)

end Batch

-- Frames are taken until the batch is full or the decoder needs more; an error drops what
-- was taken.
def fillBatch {stride : Nat} : Nat → FrameDecoder → Batch stride → Except ScgError (Batch stride) × FrameDecoder
  | 0,dec,batch => (.ok batch,dec)
  | room+1,dec,batch =>
    match dec.nextFrame with
    | (.error _,dec) => (.error .frameTooLarge,dec)
    | (.ok none,dec) => (.ok batch,dec)
    | (.ok (some frame),dec) => fillBatch room dec (batch.put frame.payload)

def batchBuffered {stride : Nat} (cap : Nat) (empty : Batch stride) (dec : FrameDecoder) :
    Except ScgError (Option (Batch stride)) × FrameDecoder :=
  match fillBatch cap dec empty with
  | (.error e,dec) => (.error e,dec)
  | (.ok batch,dec) => if batch.count > 0 then (.ok (some batch),dec) else (.ok none,dec)

structure Buffers where
  out : Nat → UInt8
  outLen : Nat
  lens : Nat → Nat
  lensLen : Nat

def Buffers.cap (buffers : Buffers) (stride : Nat) : Nat := min buffers.lensLen (buffers.outLen/stride)

def Buffers.unused (buffers : Buffers) (stride : Nat) : Batch stride := ⟨buffers.out,buffers.lens,0,by simp⟩

def recvBatchInto (buffers : Buffers) (stride : Nat) (client : UdsClient) :
    Option (Except ScgError (Option (Batch stride)) × UdsClient) :=
  if stride = 0 ∨ buffers.lensLen = 0 ∨ buffers.outLen < stride then some (.ok none,client)
  else receive (batchBuffered (buffers.cap stride) (buffers.unused stride)) client.dec client.socket

def single (stride : Nat) (client : UdsClient) : Option (Except ScgError (List (List UInt8)) × UdsClient) :=
  (recvTimeout client).map fun (result,next) =>
    (result.map fun found => found.toList.map fun frame => frame.payload.take stride,next)

def batched (buffers : Buffers) (stride : Nat) (client : UdsClient) :
    Option (Except ScgError (List (List UInt8)) × UdsClient) :=
  (recvBatchInto buffers stride client).map fun (result,next) =>
    (result.map fun found => found.toList.flatMap Batch.payloads,next)

section Repeated
variable {call : UdsClient → Option (Except ScgError (List (List UInt8)) × UdsClient)}
def delivered (call : UdsClient → Option (Except ScgError (List (List UInt8)) × UdsClient)) :
    Nat → UdsClient → List (List UInt8)
  | 0,_ => []
  | n+1,client =>
    match call client with
    | some (.ok payloads,next) => payloads ++ delivered call n next
    | _ => []

def Sequence (call : UdsClient → Option (Except ScgError (List (List UInt8)) × UdsClient)) (client : UdsClient)
    (payloads : List (List UInt8)) : Prop :=
  ∃ enough, ∀ n ≥ enough, delivered call n client = payloads

theorem sequence_unique (one : Sequence call client payloads) (two : Sequence call client later) : payloads = later := by
  obtain ⟨m,first⟩ := one
  obtain ⟨n,second⟩ := two
  rw [← first (max m n) (Nat.le_max_left _ _),second (max m n) (Nat.le_max_right _ _)]

theorem sequence_gives (given : call client = some (.ok payloads,next)) (rest : Sequence call next later) :
    Sequence call client (payloads ++ later) := by
  obtain ⟨enough,same⟩ := rest
  refine ⟨enough+1,?_⟩
  intro n beyond
  cases n with
  | zero => omega
  | succ n =>
    rw [delivered,given]
    change payloads ++ delivered call n next = payloads ++ later
    rw [same n (by omega)]

theorem sequence_ends (ended : ∀ payloads next, call client ≠ some (.ok payloads,next)) : Sequence call client [] := by
  refine ⟨0,?_⟩
  intro n _
  cases n with
  | zero => rfl
  | succ n =>
    unfold delivered
    split
    · rename_i given
      exact absurd given (ended _ _)
    · rfl

theorem sequence_nothing (given : call client = some (.ok [],client)) : Sequence call client [] := by
  refine ⟨0,?_⟩
  intro n _
  induction n with
  | zero => rfl
  | succ n ih =>
    rw [delivered,given]
    exact ih (Nat.zero_le n)

theorem sequence_same (same : call client = call other) (rest : Sequence call other payloads) :
    Sequence call client payloads := by
  obtain ⟨enough,all⟩ := rest
  refine ⟨enough,?_⟩
  intro n beyond
  rw [← all n beyond]
  cases n with
  | zero => rfl
  | succ n => rw [delivered,delivered,same]

end Repeated

end Scg.Client.UdsReceive
