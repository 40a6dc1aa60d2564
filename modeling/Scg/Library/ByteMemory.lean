import Mathlib.Tactic.Common

namespace ByteMemory
variable {α : Type} {mem : Nat → α}
variable {other : Nat → α}

-- A mapped region is a total function of the offset; bounds are a separate
-- obligation of whoever reads or writes it.
def read (mem : Nat → α) (off n : Nat) : List α := (List.range n).map fun i => mem (off+i)

def readVector (mem : Nat → α) (off n : Nat) : Vector α n := Vector.ofFn fun i => mem (off+i)

def write (mem : Nat → α) (off : Nat) (src : List α) : Nat → α :=
  fun i => if i < off then mem i else src.getD (i-off) (mem i)

@[simp] theorem read_length : (read mem off n).length = n := by simp [read]

theorem read_congr (same : ∀ i, off ≤ i → i < off+n → mem i = other i) :
    read mem off n = read other off n := by
  refine List.map_congr_left ?_
  intro i present
  exact same _ (Nat.le_add_right _ _) (by have := List.mem_range.mp present; omega)

theorem readVector_congr (same : ∀ i, off ≤ i → i < off+n → mem i = other i) :
    readVector mem off n = readVector other off n := by
  unfold readVector
  congr 1
  funext i
  exact same _ (Nat.le_add_right _ _) (by omega)

theorem write_below (below : i < off) : write mem off src i = mem i := by simp [write,below]

theorem write_above (above : off+src.length ≤ i) : write mem off src i = mem i := by
  have low : ¬ i < off := by omega
  have high : src.length ≤ i-off := by omega
  simp [write,List.getElem?_eq_none high]

theorem write_outside (outside : i < off ∨ off+src.length ≤ i) : write mem off src i = mem i := by
  rcases outside with below | above
  · exact write_below below
  · exact write_above above

theorem write_inside (bound : i < src.length) : write mem off src (off+i) = src[i] := by
  have low : ¬ off+i < off := by omega
  simp [write,low,bound]

theorem read_write : read (write mem off src) off src.length = src := by
  apply List.ext_getElem
  · simp
  · intro i _ bound
    simp [read,write_inside bound]

theorem read_write_field (front field back : List α) :
    read (write mem off (front ++ (field ++ back))) (off+front.length) field.length = field := by
  apply List.ext_getElem
  · simp
  · intro i _ bound
    have inside : front.length+i < (front ++ (field ++ back)).length := by
      simp only [List.length_append]
      omega
    have there : write mem off _ (off+(front.length+i)) = _ := write_inside inside
    rw [List.getElem_append_right (Nat.le_add_right _ _)] at there
    simp only [Nat.add_sub_cancel_left] at there
    rw [List.getElem_append_left bound] at there
    simpa [read,Nat.add_assoc] using there

theorem readVector_write (src : Vector α n) : readVector (write mem off src.toList) off n = src := by
  ext i bound
  have inside : i < src.toList.length := by simpa using bound
  simp [readVector,write_inside inside]

theorem read_write_outside {at_ count : Nat} (apart : at_+count ≤ off ∨ off+src.length ≤ at_) :
    read (write mem off src) at_ count = read mem at_ count := by
  apply read_congr
  intro i low high
  exact write_outside (by omega)

theorem read_write_slot {stride j : Nat} (apart : i ≠ j) (fits : src.length ≤ stride) (within : n ≤ stride) :
    read (write mem (j*stride) src) (i*stride) n = read mem (i*stride) n := by
  apply read_write_outside
  rcases Nat.lt_or_gt_of_ne apart with before | behind
  · have next : (i+1)*stride ≤ j*stride := Nat.mul_le_mul_right stride before
    rw [Nat.succ_mul] at next
    omega
  · have next : (j+1)*stride ≤ i*stride := Nat.mul_le_mul_right stride behind
    rw [Nat.succ_mul] at next
    omega

theorem readVector_write_outside {at_ count : Nat} (apart : at_+count ≤ off ∨ off+src.length ≤ at_) :
    readVector (write mem off src) at_ count = readVector mem at_ count := by
  apply readVector_congr
  intro i low high
  exact write_outside (by omega)

theorem read_take {count : Nat} (less : count ≤ n) : read mem off count = (read mem off n).take count := by
  simp [read,← List.map_take,Nat.min_eq_left less]

theorem read_append (one two : Nat) : read mem off (one+two) = read mem off one ++ read mem (off+one) two := by
  simp [read,List.range_add,Nat.add_assoc]

theorem readVector_toList : (readVector mem off n).toList = read mem off n := by
  apply List.ext_getElem
  · simp
  · simp [readVector,read]

theorem write_at_congr (same : mem i = other i) : write mem off src i = write other off src i := by
  simp only [write,same]

theorem write_again (agree : ∀ i, i < off ∨ off+src.length ≤ i → mem i = other i)
    (there : read other off src.length = src) : write mem off src = other := by
  funext i
  by_cases inside : off ≤ i ∧ i < off+src.length
  · obtain ⟨k,rfl⟩ : ∃ k, i = off+k := ⟨i-off,by omega⟩
    have bound : k < src.length := by omega
    have found : (read other off src.length)[k]? = src[k]? := congrArg (·[k]?) there
    simp only [read,List.getElem?_map,List.getElem?_range bound,List.getElem?_eq_getElem bound] at found
    rw [write_inside bound]
    exact (Option.some.inj found).symm
  · have outside : i < off ∨ off+src.length ≤ i := by omega
    rw [write_outside outside]
    exact agree i outside

end ByteMemory
