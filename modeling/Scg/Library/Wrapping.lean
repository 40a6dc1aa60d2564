import Mathlib.Tactic.Common
import Mathlib.Data.Nat.ModEq

namespace Wrapping

-- `UInt64.ofNat n` is the word of a counter bumped `n` times; the count never wraps.
theorem ofNat_succ : UInt64.ofNat n + 1 = UInt64.ofNat (n+1) := by simp

theorem ofNat_add (n m : Nat) : UInt64.ofNat n + UInt64.ofNat m = UInt64.ofNat (n+m) := by simp

theorem ofNat_eq_iff : UInt64.ofNat a = UInt64.ofNat b ↔ a ≡ b [MOD 2^64] := by
  rw [← UInt64.toNat_inj]
  simp [Nat.ModEq]

theorem mod_inj_near (low : a ≤ b) (near : b < a+n) (same : a ≡ b [MOD n]) : a = b := by
  obtain ⟨c,rfl⟩ := Nat.exists_eq_add_of_le low
  have multiple : n ∣ c := by
    have divides := (Nat.modEq_iff_dvd' low).mp same
    rwa [Nat.add_sub_cancel_left] at divides
  have zero : c = 0 := Nat.eq_zero_of_dvd_of_lt multiple (by omega)
  omega

theorem ofNat_inj_near (low : a ≤ b) (near : b < a+2^64) :
    UInt64.ofNat a = UInt64.ofNat b ↔ a = b := by
  constructor
  · intro same
    exact mod_inj_near low near (ofNat_eq_iff.mp same)
  · rintro rfl
    rfl

theorem toNat_small (small : a < 2^64) : (UInt64.ofNat a).toNat = a := by
  rw [UInt64.toNat_ofNat',Nat.mod_eq_of_lt small]

theorem toNat_distance (low : a ≤ b) (small : b < 2^64) : (UInt64.ofNat b-UInt64.ofNat a).toNat = b-a := by
  have fits : a < 2^64 := by omega
  rw [UInt64.toNat_sub_of_le,toNat_small small,toNat_small fits]
  rwa [UInt64.le_iff_toNat_le,toNat_small small,toNat_small fits]

theorem index_toNat (bits : k ≤ 64) :
    (UInt64.ofNat p &&& UInt64.ofNat (2^k-1)).toNat = p % 2^k := by
  have divides : 2^k ∣ 2^64 := Nat.pow_dvd_pow 2 bits
  have fits : 2^k-1 < 2^64 := by
    have := Nat.le_of_dvd (by decide) divides
    omega
  rw [UInt64.toNat_and,UInt64.toNat_ofNat',UInt64.toNat_ofNat',Nat.mod_eq_of_lt fits,
    Nat.and_two_pow_sub_one_eq_mod,Nat.mod_mod_of_dvd _ divides]

theorem clear_low (bits : k < 64) (w : UInt64) : (w &&& ~~~(UInt64.ofNat (2^k)-1)).toNat = w.toNat/2^k*2^k := by
  have power : 2^k < 2^64 := Nat.pow_lt_pow_right (by decide) bits
  have positive := Nat.two_pow_pos k
  have mask : (UInt64.ofNat (2^k)-1).toNat = 2^k-1 := by
    have one : (1 : UInt64) ≤ UInt64.ofNat (2^k) := by rwa [UInt64.le_iff_toNat_le,toNat_small power]
    rw [UInt64.toNat_sub_of_le _ _ one,toNat_small power]
    rfl
  apply Nat.eq_of_testBit_eq
  intro i
  have word : w.toNat.testBit i = (decide (i < 64) && w.toNat.testBit i) := by
    by_cases low : i < 64
    · simp [low]
    · have high : w.toNat < 2^i := Nat.lt_of_lt_of_le w.toNat_lt (Nat.pow_le_pow_right (by decide) (by omega))
      simp [Nat.testBit_lt_two_pow high]
  rw [UInt64.toNat_and,UInt64.toNat_not,Nat.testBit_and,mask]
  have flip : (2^64-1-(2^k-1)).testBit i = (decide (i < 64) && !decide (i < k)) := by
    have rearranged : 2^64-1-(2^k-1) = 2^64-((2^k-1)+1) := by omega
    rw [rearranged,Nat.testBit_two_pow_sub_succ (by omega),Nat.testBit_two_pow_sub_one]
  have kept : (w.toNat/2^k*2^k).testBit i = (decide (k ≤ i) && w.toNat.testBit i) := by
    rw [Nat.testBit_mul_two_pow,Nat.testBit_div_two_pow]
    by_cases high : k ≤ i
    · rw [Nat.sub_add_cancel high]
    · simp [high]
  have size : UInt64.size = 2^64 := rfl
  rw [size,flip,kept,word]
  by_cases low : i < 64
  · by_cases high : k ≤ i
    · simp [low,high]
    · simp [Nat.not_le.mp high]
  · simp [low]

end Wrapping
