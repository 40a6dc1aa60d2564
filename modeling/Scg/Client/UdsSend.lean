import Scg.Client.Shm
import Scg.Library.Checks
import Scg.Library.ShortWrites

namespace Scg.Client.UdsSend
open Ipc ShortWrites List

abbrev Message := List UInt8

-- Two segments for each frame of a chunk, as many as one `writev` takes.
def SEND_BATCH_MAX : Nat := 512
def UIO_MAXIOV : Nat := 1024

def exceedsU32 : ScgError := .io "frame payload exceeds u32::MAX"
def acceptedZero : ScgError := .io "writev accepted zero bytes"

def writeFrame (trafficId : UInt32) (data : Message) : Except ScgError (List UInt8) :=
  if data.length < 2^32 then .ok ((encodeHeader (UInt32.ofNat data.length) trafficId).toList ++ data)
  else .error exceedsU32

def writeFrames (trafficId : UInt32) : List Message → Except ScgError (List UInt8)
  | [] => .ok []
  | data :: rest => do
    let frame ← writeFrame trafficId data
    let later ← writeFrames trafficId rest
    return frame ++ later

def segmentsOf (trafficId : UInt32) : List Message → Except ScgError (List (List UInt8))
  | [] => .ok []
  | data :: rest =>
    if data.length < 2^32 then do
      let later ← segmentsOf trafficId rest
      return (encodeHeader (UInt32.ofNat data.length) trafficId).toList :: data :: later
    else .error exceedsU32

-- `results` are what the calls of `writev` come back with, and `written` what is in the
-- socket so far.
def sendChunks (trafficId : UInt32) : Nat → List Message → List UInt8 → List (Result ScgError) →
    Option (Except ScgError Unit × List (Result ScgError) × List UInt8)
  | 0,_,written,results => some (.ok (),results,written)
  | _+1,[],written,results => some (.ok (),results,written)
  | chunks+1,msgs,written,results =>
    match segmentsOf trafficId (msgs.take SEND_BATCH_MAX) with
    | .error e => some (.error e,results,written)
    | .ok segments =>
      match pour UIO_MAXIOV acceptedZero segments 0 written results with
      | some (.ok (),results,written) => sendChunks trafficId chunks (msgs.drop SEND_BATCH_MAX) written results
      | ended => ended

def sendBatch (trafficId : UInt32) (msgs : List Message) (results : List (Result ScgError)) :
    Option (Except ScgError Nat × List (Result ScgError) × List UInt8) :=
  (sendChunks trafficId msgs.length msgs [] results).map fun (result,rest,written) =>
    (result.map fun _ => msgs.length,rest,written)

variable {msgs : List Message}

theorem writeFrames_append (here : writeFrames trafficId first = .ok one)
    (there : writeFrames trafficId second = .ok two) : writeFrames trafficId (first ++ second) = .ok (one ++ two) := by
  induction first generalizing one with
  | nil =>
    cases here
    exact there
  | cons data later ih =>
    obtain ⟨frame,framed,here⟩ := Checks.bind_ok here
    obtain ⟨more,onward,same⟩ := Checks.bind_ok here
    cases same
    rw [cons_append,writeFrames,framed,ih onward,append_assoc]
    rfl

theorem segmentsOf_ok (trafficId : UInt32) (small : ∀ data ∈ msgs, data.length < 2^32) :
    ∃ segments, segmentsOf trafficId msgs = .ok segments ∧ segments.length = 2*msgs.length ∧
      writeFrames trafficId msgs = .ok segments.flatten := by
  induction msgs with
  | nil => exact ⟨[],rfl,rfl,rfl⟩
  | cons data later ih =>
    have here := small data mem_cons_self
    obtain ⟨segments,cut,count,frames⟩ := ih fun other present => small other (mem_cons_of_mem _ present)
    refine ⟨(encodeHeader (UInt32.ofNat data.length) trafficId).toList :: data :: segments,?_,?_,?_⟩
    · rw [segmentsOf,if_pos here,cut]
      rfl
    · simp only [length_cons]
      omega
    · rw [writeFrames,writeFrame,if_pos here,frames,flatten_cons,flatten_cons,← append_assoc]
      rfl

theorem chunk_ok (trafficId : UInt32) (small : ∀ data ∈ msgs, data.length < 2^32) :
    ∃ segments, segmentsOf trafficId (msgs.take SEND_BATCH_MAX) = .ok segments ∧ segments.length ≤ UIO_MAXIOV ∧
      writeFrames trafficId (msgs.take SEND_BATCH_MAX) = .ok segments.flatten := by
  obtain ⟨segments,cut,count,frames⟩ :=
    segmentsOf_ok trafficId fun data present => small data (mem_of_mem_take present)
  refine ⟨segments,cut,?_,frames⟩
  have few := length_take_le SEND_BATCH_MAX msgs
  have fits : 2*SEND_BATCH_MAX = UIO_MAXIOV := rfl
  omega

theorem sendChunks_written (chunks : Nat) (small : ∀ data ∈ msgs, data.length < 2^32) (enough : msgs.length ≤ chunks)
    (sent : sendChunks trafficId chunks msgs written results = some (.ok (),rest,out)) :
    ∃ frames, writeFrames trafficId msgs = .ok frames ∧ out = written ++ frames := by
  induction chunks generalizing msgs written results with
  | zero =>
    have none : msgs = [] := length_eq_zero_iff.mp (by omega)
    subst none
    cases sent
    exact ⟨[],rfl,(append_nil _).symm⟩
  | succ chunks ih =>
    cases msgs with
    | nil =>
      cases sent
      exact ⟨[],rfl,(append_nil _).symm⟩
    | cons data later =>
      obtain ⟨segments,cut,few,frames⟩ := chunk_ok trafficId small
      rw [sendChunks,cut] at sent
      · dsimp only at sent
        split at sent
        · rename_i rest out poured
          have here := pour_written few poured
          have shorter : ((data :: later).drop SEND_BATCH_MAX).length ≤ chunks := by
            have positive : 0 < SEND_BATCH_MAX := by decide
            simp only [length_drop] at enough ⊢
            omega
          obtain ⟨more,onward,same⟩ := ih (fun other present => small other (mem_of_mem_drop present)) shorter sent
          refine ⟨segments.flatten ++ more,?_,?_⟩
          · have whole := writeFrames_append frames onward
            rwa [take_append_drop] at whole
          · rw [same,here,drop_zero,append_assoc]
        · rename_i stopped
          exact absurd sent (stopped _ _)
      · simp

theorem sendChunks_ends (chunks : Nat) (small : ∀ data ∈ msgs, data.length < 2^32)
    (framed : writeFrames trafficId msgs = .ok frames) (moves : ∀ result ∈ results, result.moves)
    (enough : frames.length ≤ (results.map Result.counts).sum) :
    ∃ rest out, sendChunks trafficId chunks msgs written results = some (.ok (),rest,out) := by
  induction chunks generalizing msgs written results frames with
  | zero => exact ⟨results,written,rfl⟩
  | succ chunks ih =>
    cases msgs with
    | nil => exact ⟨results,written,rfl⟩
    | cons data later =>
      obtain ⟨segments,cut,few,here⟩ := chunk_ok trafficId small
      have others : ∀ other ∈ (data :: later).drop SEND_BATCH_MAX, other.length < 2^32 :=
        fun other present => small other (mem_of_mem_drop present)
      obtain ⟨_,_,_,onward⟩ := segmentsOf_ok trafficId others
      have whole := writeFrames_append here onward
      rw [take_append_drop,framed] at whole
      cases whole
      rw [length_append] at enough
      have reach : segments.flatten.length ≤ 0+(results.map Result.counts).sum := by omega
      obtain ⟨rest,out,poured,suffix,left⟩ := pour_ends few moves reach
      have remaining := fun result present => moves result (suffix.subset present)
      obtain ⟨final,all,sent⟩ := ih others onward remaining (by omega)
      refine ⟨final,all,?_⟩
      rw [sendChunks,cut]
      · dsimp only
        rwa [poured]
      · simp

-- What a batch leaves in the socket is what `write_frame` would have for each message in
-- turn; and it ends, however short the writes, if each takes something.
theorem send_batch_frames (trafficId : UInt32) (msgs : List Message) (small : ∀ data ∈ msgs, data.length < 2^32)
    (results : List (Result ScgError)) :
    (∀ count rest written, sendBatch trafficId msgs results = some (.ok count,rest,written) →
      count = msgs.length ∧ writeFrames trafficId msgs = .ok written) ∧
    ∀ frames, writeFrames trafficId msgs = .ok frames → (∀ result ∈ results, result.moves) →
      frames.length ≤ (results.map Result.counts).sum →
      ∃ rest written, sendBatch trafficId msgs results = some (.ok msgs.length,rest,written) := by
  refine ⟨?_,?_⟩
  · intro count rest written sent
    obtain ⟨⟨result,left,out⟩,ran,same⟩ := Option.map_eq_some_iff.mp sent
    cases result with
    | error e => cases same
    | ok done =>
      cases same
      obtain ⟨frames,framed,all⟩ := sendChunks_written msgs.length small (Nat.le_refl _) ran
      rw [List.nil_append] at all
      exact ⟨rfl,all ▸ framed⟩
  · intro frames framed moves enough
    obtain ⟨rest,out,ran⟩ := sendChunks_ends msgs.length small framed moves enough
    exact ⟨rest,out,Option.map_eq_some_iff.mpr ⟨_,ran,rfl⟩⟩

-- A write that ends inside the first header, an interruption, one inside the second payload, the rest.
theorem send_batch_frames_short : (∀ data ∈ ([[1,2],[3,4,5]] : List Message), data.length < 2^32) ∧
    writeFrames 7 [[1,2],[3,4,5]] = .ok [2,0,0,0,7,0,0,0,1,2,3,0,0,0,7,0,0,0,3,4,5] ∧
    sendBatch 7 [[1,2],[3,4,5]] [.wrote 3,.interrupted,.wrote 16,.wrote 100] =
      some (.ok 2,[],[2,0,0,0,7,0,0,0,1,2,3,0,0,0,7,0,0,0,3,4,5]) := by
  have sent : sendBatch 7 [[1,2],[3,4,5]] [.wrote 3,.interrupted,.wrote 16,.wrote 100] =
      some (.ok 2,[],[2,0,0,0,7,0,0,0,1,2,3,0,0,0,7,0,0,0,3,4,5]) := rfl
  have small : ∀ data ∈ ([[1,2],[3,4,5]] : List Message), data.length < 2^32 := by decide
  exact ⟨small,((send_batch_frames 7 _ small _).1 _ _ _ sent).2,sent⟩

end Scg.Client.UdsSend
