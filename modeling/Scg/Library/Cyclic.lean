import Scg.Library.ByteMemory
import Scg.Library.Wrapping

namespace Cyclic
open List

variable {α : Type} {mem : Nat → α}

-- Counted from the absolute position `pos`, a memory of `cap` cells that is used round
-- and round shows `bytes`.
def Spans (cap : Nat) (mem : Nat → α) (pos : Nat) (bytes : List α) : Prop :=
  ∀ i b, bytes[i]? = some b → mem ((pos+i) % cap) = b

theorem spans_nil : Spans cap mem pos [] := by
  intro i b present
  simp at present

theorem spans_append : Spans cap mem pos (one ++ two) ↔ Spans cap mem pos one ∧ Spans cap mem (pos+one.length) two := by
  constructor
  · intro spans
    refine ⟨fun i b present => ?_,fun i b present => ?_⟩
    · have inside := (List.getElem?_eq_some_iff.mp present).1
      exact spans i b (by rw [getElem?_append_left inside]; exact present)
    · have shifted := spans (one.length+i) b (by rw [getElem?_append_right (by omega),Nat.add_sub_cancel_left]; exact present)
      rwa [Nat.add_assoc]
  · rintro ⟨first,second⟩ i b present
    by_cases inside : i < one.length
    · exact first i b (by rwa [getElem?_append_left inside] at present)
    · rw [getElem?_append_right (by omega)] at present
      have shown := second _ b present
      rwa [Nat.add_assoc,Nat.add_sub_cancel' (by omega)] at shown

theorem mod_offset (i : Nat) (start : off = pos % cap) (fits : off+i < cap) : (pos+i) % cap = off+i := by
  rw [Nat.add_mod,← start]
  have small : i < cap := by omega
  rw [Nat.mod_eq_of_lt small,Nat.mod_eq_of_lt fits]

theorem mod_end (start : off = pos % cap) (inside : off < cap) : (pos+(cap-off)) % cap = 0 := by
  rw [Nat.add_mod,← start,Nat.add_mod_mod,Nat.add_sub_cancel' (Nat.le_of_lt inside),Nat.mod_self]

theorem Spans.copied (start : off = pos % cap) (fits : off+src.length ≤ cap) :
    Spans cap (ByteMemory.write mem off src) pos src := by
  intro i b present
  obtain ⟨inside,rfl⟩ := List.getElem?_eq_some_iff.mp present
  rw [mod_offset i start (by omega)]
  exact ByteMemory.write_inside inside

theorem Spans.kept (spans : Spans cap mem pos bytes) (behind : pos+bytes.length ≤ at_) (lap : at_+src.length ≤ pos+cap)
    (start : off = at_ % cap) (fits : off+src.length ≤ cap) : Spans cap (ByteMemory.write mem off src) pos bytes := by
  intro i b present
  have inside := (List.getElem?_eq_some_iff.mp present).1
  rw [← spans i b present]
  apply ByteMemory.write_outside
  by_cases low : (pos+i) % cap < off
  · exact .inl low
  · by_cases high : off+src.length ≤ (pos+i) % cap
    · exact .inr high
    · -- Both positions would share a cell while being less than one lap apart.
      obtain ⟨j,here⟩ := Nat.exists_eq_add_of_le (Nat.le_of_not_lt low)
      have same : pos+i ≡ at_+j [MOD cap] := by
        unfold Nat.ModEq
        rw [here,mod_offset j start (by omega)]
      have equal := Wrapping.mod_inj_near (by omega) (by omega) same
      omega

theorem Spans.read (spans : Spans cap mem pos (src ++ rest)) (start : off = pos % cap)
    (fits : off+src.length ≤ cap) : ByteMemory.read mem off src.length = src := by
  apply ext_getElem
  · simp
  · intro i _ inside
    have shown := (spans_append.mp spans).1 i src[i] (getElem?_eq_getElem inside)
    rw [mod_offset i start (by omega)] at shown
    simpa [ByteMemory.read] using shown

end Cyclic
