import Mathlib.Tactic.Common

structure Extent (F : Type) where
  file : F
  off : Nat
  len : Nat

namespace Extent
open List

variable {F : Type} {file : F} {count : Nat} {length : F → Nat}

def Apart (a b : Extent F) : Prop := a.file ≠ b.file ∨ a.off+a.len ≤ b.off ∨ b.off+b.len ≤ a.off

def Within (length : F → Nat) (e : Extent F) : Prop := e.off+e.len ≤ length e.file

def tiles (file : F) (size count : Nat) : List (Extent F) := (List.range count).map fun i => ⟨file,i*size,size⟩

theorem tiles_file (present : e ∈ tiles file size count) : e.file = file := by
  obtain ⟨i,_,rfl⟩ := mem_map.mp present
  rfl

theorem tiles_apart (file : F) (size count : Nat) : (tiles file size count).Pairwise Apart := by
  unfold tiles
  rw [pairwise_map]
  refine pairwise_lt_range.imp ?_
  intro i j less
  right
  left
  calc i*size+size = (i+1)*size := (Nat.succ_mul _ _).symm
    _ ≤ j*size := Nat.mul_le_mul_right _ less

theorem tiles_within (room : count*size ≤ length file) (present : e ∈ tiles file size count) : e.Within length := by
  obtain ⟨i,low,rfl⟩ := mem_map.mp present
  calc i*size+size = (i+1)*size := (Nat.succ_mul _ _).symm
    _ ≤ count*size := Nat.mul_le_mul_right _ (mem_range.mp low)
    _ ≤ length file := room

end Extent
