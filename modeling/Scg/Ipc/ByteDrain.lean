import Scg.Ipc.ByteFifo
import Scg.Ipc.SlotDrain

namespace Scg.ByteRing
open Ipc Interaction Program
open SlotRing (RELAY_BUF_SIZE)

def Shared.run (s : Shared) : Call α → α × Shared
  | .ret result => (result,s)
  | .request op next => (s.perform op).2.run (next (s.perform op).1)

@[simp] theorem run_ret (s : Shared) (a : α) : s.run (.ret a : Call α) = (a,s) := rfl

@[simp] theorem run_request (s : Shared) (op : Op) (next : Reply op → Call α) :
    s.run (.request op next) = (s.perform op).2.run (next (s.perform op).1) := rfl

theorem run_bind (s : Shared) (first : Call α) (next : α → Call β) :
    s.run (first >>= next) = (s.run first).2.run (next (s.run first).1) := by
  induction first generalizing s with
  | ret a => rfl
  | request op rest ih => exact ih _ _

section Contents
variable (r : Ring) (s : Shared)

def published : Nat := (s.writeIdx-s.readIdx).toNat

def headerAt : Vector UInt8 FRAME_HEADER_LEN := Vector.ofFn fun i => s.data ((s.readIdx.toNat+i) % r.cap)

def announced : Nat := (decodeHeader (headerAt r s)).1.toNat

def Complete : Prop := FRAME_HEADER_LEN+announced r s ≤ min (published s) r.cap

instance : Decidable (Complete r s) := inferInstanceAs (Decidable (_ ≤ _))

end Contents

section Calls
variable {s : Shared}

theorem run_readWrappingPtr (inside : off < r.cap) (lap : n ≤ r.cap) :
    s.run (readWrappingPtr r off n) = (Vector.ofFn fun i => s.data ((off+i) % r.cap),s) := by
  unfold readWrappingPtr
  by_cases none : n = 0
  · subst none
    simp
  · rw [if_neg none]
    simp only [copyOut,request_bind,ret_bind,run_request,Shared.perform]
    split
    · simp only [pure_eq,run_request,run_ret,Shared.perform,
        Prod.mk.injEq,and_true]
      ext i bound
      rw [Vector.getElem_cast,Vector.getElem_append]
      split
      · simp only [ByteMemory.readVector,Vector.getElem_ofFn]
        rw [Nat.mod_eq_of_lt (by omega)]
      · simp only [ByteMemory.readVector,Vector.getElem_ofFn]
        have wraps : (off+i) % r.cap = i-(r.cap-off) := by
          rw [show off+i = i-(r.cap-off)+r.cap by omega,Nat.add_mod_right,Nat.mod_eq_of_lt (by omega)]
        have place : 0+(i-min n (r.cap-off)) = i-(r.cap-off) := by omega
        rw [wraps,place]
    · simp only [pure_eq,run_ret,Prod.mk.injEq,and_true]
      ext i bound
      rw [Vector.getElem_cast]
      simp only [ByteMemory.readVector,Vector.getElem_ofFn]
      rw [Nat.mod_eq_of_lt (by omega)]

theorem run_header (lap : FRAME_HEADER_LEN ≤ r.cap) :
    s.run (readWrappingPtr r (s.readIdx.toNat % r.cap) FRAME_HEADER_LEN) = (headerAt r s,s) := by
  have positive : 0 < r.cap := Nat.lt_of_lt_of_le (by decide) lap
  rw [run_readWrappingPtr (Nat.mod_lt _ positive) lap]
  simp only [Nat.mod_add_mod]
  rfl

-- The two bounds of `next_frame` are one: what is available never exceeds the ring.
theorem run_nextFrame : ∃ off, s.run (nextFrame r) =
    (if Complete r s then
      some ⟨s.readIdx,off,announced r s,(decodeHeader (headerAt r s)).2⟩
    else none,s) := by
  rw [nextFrame_call]
  simp only [run_request,Shared.perform]
  unfold nextRest
  by_cases short : min (s.writeIdx-s.readIdx).toNat r.cap < FRAME_HEADER_LEN
  · refine ⟨0,?_⟩
    have cut : ¬ Complete r s := fun whole => by
      unfold Complete published at whole
      omega
    rw [if_pos short,if_neg cut]
    rfl
  · rw [if_neg short]
    have lap : FRAME_HEADER_LEN ≤ r.cap := by omega
    unfold readWrapping
    simp only [run_bind,run_header lap,pure_eq,run_ret]
    refine ⟨(s.readIdx.toNat % r.cap+FRAME_HEADER_LEN) % r.cap,?_⟩
    by_cases whole : Complete r s
    · rw [if_pos whole]
      unfold Complete announced published at whole
      rw [if_neg (by simp only [Bool.or_eq_true,decide_eq_true_eq]; omega)]
      rfl
    · rw [if_neg whole]
      unfold Complete announced published at whole
      rw [if_pos (by simp only [Bool.or_eq_true,decide_eq_true_eq]; omega)]
      rfl

theorem run_tryPopInto : ∃ payload after, s.run (tryPopInto r) =
    if Complete r s then (some ⟨(decodeHeader (headerAt r s)).2,payload⟩,after) else (none,s) := by
  obtain ⟨off,found⟩ := run_nextFrame (r := r) (s := s)
  unfold tryPopInto
  rw [run_bind,found]
  by_cases whole : Complete r s
  · simp only [if_pos whole,run_bind]
    exact ⟨_,_,rfl⟩
  · simp only [if_neg whole]
    exact ⟨[],s,rfl⟩

theorem tryPopInto_iff : (∃ frame, (s.run (tryPopInto r)).1 = some frame) ↔ Complete r s := by
  obtain ⟨payload,after,popped⟩ := run_tryPopInto (r := r) (s := s)
  rw [popped]
  split
  · rename_i whole
    exact ⟨fun _ => whole,fun _ => ⟨_,rfl⟩⟩
  · rename_i cut
    refine ⟨?_,fun whole => absurd whole cut⟩
    rintro ⟨frame,none⟩
    cases none

theorem tryPopInto_none (cut : ¬ Complete r s) : s.run (tryPopInto r) = (none,s) := by
  obtain ⟨payload,after,popped⟩ := run_tryPopInto (r := r) (s := s)
  rw [popped,if_neg cut]

end Calls

def coalesceC2gInto (r : Ring) (framed : List UInt8) (n : Nat) (s : Shared) : List UInt8 × Nat × Shared :=
  if framed.length < RELAY_BUF_SIZE then
    match s.run (tryPopInto r) with
    | (none,s) => (framed,n,s)
    | (some frame,s) => coalesceC2gInto r (framed ++ encodeInto frame) (n+1) s
  else (framed,n,s)
termination_by RELAY_BUF_SIZE-framed.length
decreasing_by
  rw [List.length_append,encodeInto_length]
  unfold FRAME_HEADER_LEN
  omega

theorem coalesceC2gInto_grows (r : Ring) (framed : List UInt8) (n : Nat) (s : Shared) :
    framed <+: (coalesceC2gInto r framed n s).1 := by
  fun_induction coalesceC2gInto r framed n s with
  | case1 | case3 => exact List.prefix_refl _
  | case2 framed n s room frame after popped ih => exact (List.prefix_append _ _).trans ih

theorem coalesceC2gInto_none (cut : ¬ Complete r s) : coalesceC2gInto r [] 0 s = ([],0,s) := by
  rw [coalesceC2gInto,if_pos (by decide : ([] : List UInt8).length < RELAY_BUF_SIZE),tryPopInto_none cut]

theorem coalesceC2gInto_some (whole : Complete r s) : (coalesceC2gInto r [] 0 s).1 ≠ [] := by
  obtain ⟨frame,popped⟩ := tryPopInto_iff.mpr whole
  rw [coalesceC2gInto,if_pos (by decide : ([] : List UInt8).length < RELAY_BUF_SIZE)]
  split
  · rename_i s' none
    rw [none] at popped
    cases popped
  · rename_i frame' s' _
    intro empty
    have grown := (coalesceC2gInto_grows r ([] ++ encodeInto frame') (0+1) s').length_le
    rw [empty,List.nil_append,encodeInto_length] at grown
    exact absurd grown (by unfold FRAME_HEADER_LEN; simp)

end Scg.ByteRing
