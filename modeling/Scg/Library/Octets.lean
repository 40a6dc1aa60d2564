import Mathlib.Algebra.Order.Ring.Nat
import Mathlib.Tactic.Common

namespace Octets

def le : Nat → Nat → List UInt8
  | 0,_ => []
  | n+1,v => UInt8.ofNat v :: le n (v/256)

def ofLe : List UInt8 → Nat
  | [] => 0
  | byte :: rest => byte.toNat+256*ofLe rest

def be (n v : Nat) : List UInt8 := (le n v).reverse

def ofBe (bytes : List UInt8) : Nat := ofLe bytes.reverse

@[simp] theorem le_length (n v : Nat) : (le n v).length = n := by
  induction n generalizing v with
  | zero => rfl
  | succ n ih => simp [le,ih]

@[simp] theorem be_length (n v : Nat) : (be n v).length = n := by simp [be]

theorem ofLe_le (fits : v < 256^n) : ofLe (le n v) = v := by
  induction n generalizing v with
  | zero =>
    simp only [le,ofLe]
    omega
  | succ n ih =>
    have less : v/256 < 256^n := by exact Nat.div_lt_of_lt_mul (by omega)
    have low : (UInt8.ofNat v).toNat = v % 256 := UInt8.toNat_ofNat'
    simp only [le,ofLe,ih less]
    exact Nat.mod_add_div v 256

theorem ofBe_be (fits : v < 256^n) : ofBe (be n v) = v := by rw [ofBe,be,List.reverse_reverse,ofLe_le fits]

end Octets
