import Mathlib.Algebra.Order.Ring.Nat
import Mathlib.Data.List.TakeWhile
import Mathlib.Tactic.Common

namespace Text
open List

-- The code points of the Unicode White_Space property.
def isWhiteSpace (c : Char) : Bool :=
  let n := c.toNat
  (0x9 ≤ n && n ≤ 0xd) || n == 0x20 || n == 0x85 || n == 0xa0 || n == 0x1680 || (0x2000 ≤ n && n ≤ 0x200a) ||
    n == 0x2028 || n == 0x2029 || n == 0x202f || n == 0x205f || n == 0x3000

def trim (s : String) : String :=
  String.ofList (((s.toList.dropWhile isWhiteSpace).reverse.dropWhile isWhiteSpace).reverse)

def splitFirst (sep : Char) : List Char → Option (List Char × List Char)
  | [] => none
  | c :: rest => if c = sep then some ([],rest) else (splitFirst sep rest).map fun (before,after) => (c :: before,after)

def splitOnce (sep : Char) (s : String) : Option (String × String) :=
  (splitFirst sep s.toList).map fun (before,after) => (String.ofList before,String.ofList after)

def rsplitOnce (sep : Char) (s : String) : Option (String × String) :=
  (splitFirst sep s.toList.reverse).map fun (after,before) =>
    (String.ofList before.reverse,String.ofList after.reverse)

def splitList (sep : Char) : List Char → List (List Char)
  | [] => [[]]
  | c :: rest =>
    match splitList sep rest with
    | [] => [[]]
    | part :: parts => if c = sep then [] :: part :: parts else (c :: part) :: parts

def split (sep : Char) (s : String) : List String := (splitList sep s.toList).map String.ofList

def toAsciiLower (s : String) : String := String.ofList (s.toList.map Char.toLower)

def digits (base : Nat) : List Char → Option Nat
  | [] => some base
  | c :: rest => if c.isDigit then digits (base*10+(c.toNat - '0'.toNat)) rest else none

-- Decimal text below `bound`, with the error texts of the standard library.
def parseUnsigned (bound : Nat) (s : String) : Except String Nat :=
  match s.toList with
  | [] => .error "cannot parse integer from empty string"
  | ['+'] => .error "invalid digit found in string"
  | c :: rest =>
    match digits 0 (if c = '+' then rest else c :: rest) with
    | none => .error "invalid digit found in string"
    | some n => if n < bound then .ok n else .error "number too large to fit in target type"

section Members
theorem mem_toAsciiLower (present : c ∈ s.toList) : c.toLower ∈ (toAsciiLower s).toList := by
  simp only [toAsciiLower,String.toList_ofList]
  exact mem_map_of_mem present

theorem splitFirst_mem (found : splitFirst sep l ≠ none) : sep ∈ l := by
  induction l with
  | nil => exact absurd rfl found
  | cons c rest ih =>
    by_cases here : c = sep
    · exact here ▸ mem_cons_self
    · refine mem_cons_of_mem _ (ih fun absent => found ?_)
      simp [splitFirst,here,absent]

theorem splitFirst_some {before after : List Char} (found : splitFirst sep l = some (before,after)) :
    l = before ++ sep :: after := by
  induction l generalizing before with
  | nil => cases found
  | cons c rest ih =>
    unfold splitFirst at found
    split at found
    · rename_i here
      cases found
      rw [here,nil_append]
    · obtain ⟨⟨first,second⟩,later,made⟩ := Option.map_eq_some_iff.mp found
      cases made
      rw [cons_append,← ih later]

theorem splitList_free (free : sep ∉ l) : splitList sep l = [l] := by
  induction l with
  | nil => rfl
  | cons c rest ih =>
    rw [mem_cons,not_or] at free
    simp only [splitList,ih free.2,if_neg (Ne.symm free.1)]

theorem splitList_head (sep : Char) (l : List Char) :
    (splitList sep l).head? = some (((splitFirst sep l).map Prod.fst).getD l) := by
  induction l with
  | nil => rfl
  | cons c rest ih =>
    cases parts : splitList sep rest with
    | nil =>
      rw [parts] at ih
      cases ih
    | cons part more =>
      by_cases here : c = sep
      · simp [splitList,splitFirst,parts,here]
      · cases found : splitFirst sep rest <;> simp_all [splitList,splitFirst]

theorem trim_visible (visible : ∀ c ∈ s.toList, isWhiteSpace c = false) : trim s = s := by
  have kept (l : List Char) (all : ∀ c ∈ l, isWhiteSpace c = false) : l.dropWhile isWhiteSpace = l := by
    cases l with
    | nil => rfl
    | cons c rest => simp [all c mem_cons_self]
  simp only [trim]
  rw [kept _ visible,kept _ fun c present => visible c (mem_reverse.mp present),reverse_reverse,String.ofList_toList]

theorem digits_characters (read : digits base l = some n) : ∀ c ∈ l, c.isDigit = true := by
  induction l generalizing base with
  | nil => exact fun _ absent => absurd absent not_mem_nil
  | cons first rest ih =>
    obtain ⟨digit,read⟩ := Option.ite_none_right_eq_some.mp read
    exact forall_mem_cons.mpr ⟨digit,ih read⟩

theorem parseUnsigned_characters (read : parseUnsigned bound s = .ok n) :
    ∀ c ∈ s.toList, c.isDigit = true ∨ c = '+' := by
  unfold parseUnsigned at read
  split at read
  · cases read
  · cases read
  · rename_i first rest _ text
    rw [text]
    cases value : digits 0 (if first = '+' then rest else first :: rest) with
    | none => simp [value] at read
    | some m =>
      have decimal := digits_characters value
      split at decimal
      · rename_i sign
        exact forall_mem_cons.mpr ⟨.inr sign,fun c present => .inl (decimal c present)⟩
      · exact fun c present => .inl (decimal c present)

theorem rsplitOnce_mem (found : rsplitOnce sep s ≠ none) : sep ∈ s.toList := by
  refine mem_reverse.mp (splitFirst_mem fun absent => found ?_)
  simp [rsplitOnce,absent]

end Members

end Text
