import Mathlib.Data.List.TakeWhile
import Mathlib.Tactic.Common

-- Readers of a text from its front. A reader that fails leaves the text as it was.
abbrev Scan (α : Type) := List Char → Option (α × List Char)

namespace Scan
open List

variable {α β : Type} {allowed wider : Char → Prop} {p : Scan α} {f : α → Scan β}
def char (c : Char) : Scan Unit
  | [] => none
  | x :: rest => if x = c then some ((),rest) else none

def bind (p : Scan α) (f : α → Scan β) : Scan β := fun text =>
  match p text with
  | some (a,rest) => f a rest
  | none => none

def pure (a : α) : Scan α := fun text => some (a,text)

def fail : Scan α := fun _ => none

def orElse (p q : Scan α) : Scan α := fun text =>
  match p text with
  | some found => some found
  | none => q text

def separated (sep : Char) (i : Nat) (inner : Scan α) : Scan α :=
  if i = 0 then inner else (char sep).bind fun _ => inner

def whole (p : Scan α) (text : List Char) : Option α :=
  match p text with
  | some (a,[]) => some a
  | _ => none

def digitValue (c : Char) : Option Nat :=
  let n := c.toNat
  if 48 ≤ n ∧ n ≤ 57 then some (n-48)
  else if 97 ≤ n ∧ n ≤ 102 then some (n-87)
  else if 65 ≤ n ∧ n ≤ 70 then some (n-55)
  else none

def isDigitOf (radix : Nat) (c : Char) : Bool := (digitValue c).any (· < radix)

def valueOf (radix : Nat) (digits : List Char) : Nat :=
  digits.foldl (fun n c => n*radix+(digitValue c).getD 0) 0

structure Numeral where
  radix : Nat
  most : Option Nat
  leadingZeros : Bool
  bound : Nat

-- Some digits and not too many, no zero in front where none may stand, a value in range.
def Numeral.fits (form : Numeral) (digits : List Char) : Bool :=
  !digits.isEmpty && form.most.all (digits.length ≤ ·) &&
    (form.leadingZeros || digits.length ≤ 1 || digits.head? != some '0') &&
    valueOf form.radix digits < form.bound

def number (form : Numeral) : Scan Nat := fun text =>
  if form.fits (text.takeWhile (isDigitOf form.radix)) then
    some (valueOf form.radix (text.takeWhile (isDigitOf form.radix)),text.dropWhile (isDigitOf form.radix))
  else none

theorem bind_eq_some {read : β × List Char} :
    p.bind f text = some read ↔ ∃ a mid, p text = some (a,mid) ∧ f a mid = some read := by
  unfold bind
  cases p text with
  | none => simp
  | some found =>
    obtain ⟨a,mid⟩ := found
    simp

theorem bind_none (failed : p text = none) : p.bind f text = none := by rw [bind,failed]

theorem bind_some (read : p text = some (a,left)) : p.bind f text = f a left := by rw [bind,read]

theorem orElse_none (failed : p text = none) : p.orElse q text = q text := by rw [orElse,failed]

theorem orElse_eq_some {read : α × List Char} :
    p.orElse q text = some read ↔ p text = some read ∨ p text = none ∧ q text = some read := by
  unfold orElse
  cases p text <;> simp

def Takes (allowed : Char → Prop) (p : Scan α) : Prop :=
  ∀ text a left, p text = some (a,left) → ∃ used, text = used ++ left ∧ ∀ c ∈ used, allowed c

-- A text is read as far as the stop character and no reader sees what follows it.
def Halts (stop : Char) (p : Scan α) : Prop :=
  ∀ text rest, stop ∉ text → p (text ++ stop :: rest) = (p text).map fun (a,left) => (a,left ++ stop :: rest)

theorem Takes.mono (taken : Takes allowed p) (wide : ∀ c, allowed c → wider c) : Takes wider p := by
  intro text a left read
  obtain ⟨used,split,fine⟩ := taken _ _ _ read
  exact ⟨used,split,fun c present => wide c (fine c present)⟩

theorem Takes.left_free (taken : Takes allowed p) (free : stop ∉ text) (read : p text = some (a,left)) : stop ∉ left := by
  obtain ⟨used,split,_⟩ := taken _ _ _ read
  exact fun present => free (split ▸ mem_append_right used present)

theorem takes_bind (first : Takes allowed p) (second : ∀ a, Takes allowed (f a)) : Takes allowed (p.bind f) := by
  intro text b left read
  obtain ⟨a,mid,found,later⟩ := bind_eq_some.mp read
  obtain ⟨used,split,fine⟩ := first _ _ _ found
  obtain ⟨more,further,also⟩ := second a _ _ _ later
  refine ⟨used ++ more,by rw [split,further,append_assoc],fun c present => ?_⟩
  rcases mem_append.mp present with here | there
  · exact fine c here
  · exact also c there

theorem takes_pure (a : α) : Takes allowed (pure a) := by
  intro text b left read
  cases read
  exact ⟨[],rfl,fun _ absent => absurd absent not_mem_nil⟩

theorem takes_char (fine : allowed c) : Takes allowed (char c) := by
  intro text a left read
  cases text with
  | nil => cases read
  | cons x rest =>
    by_cases same : x = c
    · rw [char,if_pos same] at read
      cases read
      refine ⟨[x],rfl,fun y present => ?_⟩
      rwa [mem_singleton.mp present,same]
    · rw [char,if_neg same] at read
      cases read

theorem takes_separated (fine : allowed sep) (taken : Takes allowed p) : Takes allowed (separated sep i p) := by
  unfold separated
  split
  · exact taken
  · exact takes_bind (takes_char fine) fun _ => taken

theorem takes_number : Takes (fun c => isDigitOf form.radix c = true) (number form) := by
  intro text a left read
  unfold number at read
  split at read <;> cases read
  exact ⟨_,(takeWhile_append_dropWhile (p := isDigitOf form.radix)).symm,fun c present => mem_takeWhile_imp present⟩

theorem takes_orElse (first : Takes allowed p) (second : Takes allowed q) : Takes allowed (p.orElse q) := by
  intro text a left read
  rcases orElse_eq_some.mp read with found | ⟨_,found⟩
  · exact first _ _ _ found
  · exact second _ _ _ found

theorem takes_fail : Takes allowed (fail : Scan α) := by
  intro text a left read
  cases read

theorem char_self : char c (c :: rest) = some ((),rest) := by rw [char,if_pos rfl]

theorem char_absent (free : c ∉ text) : char c text = none := by
  cases text with
  | nil => rfl
  | cons x rest =>
    have different : x ≠ c := fun same => free (same ▸ mem_cons_self)
    exact if_neg different

theorem halts_fail : Halts stop (fail : Scan α) := fun _ _ _ => rfl

theorem halts_char (different : stop ≠ c) : Halts stop (char c) := by
  intro text rest free
  cases text with
  | nil => exact if_neg different
  | cons x more =>
    rw [cons_append,char,char]
    split <;> rfl

theorem halts_pure (a : α) : Halts stop (pure a) := fun _ _ _ => rfl

theorem halts_bind (taken : Takes allowed p) (first : Halts stop p) (second : ∀ a, Halts stop (f a)) :
    Halts stop (p.bind f) := by
  intro text rest free
  unfold bind
  rw [first _ _ free]
  cases found : p text with
  | none => rfl
  | some read => exact second read.1 _ _ (taken.left_free free found)

theorem halts_orElse (first : Halts stop p) (second : Halts stop q) : Halts stop (p.orElse q) := by
  intro text rest free
  unfold orElse
  rw [first _ _ free,second _ _ free]
  cases p text <;> rfl

theorem halts_separated (different : stop ≠ sep) (halts : Halts stop p) : Halts stop (separated sep i p) := by
  unfold separated
  split
  · exact halts
  · have taken : Takes (fun _ => True) (char sep) := takes_char trivial
    exact halts_bind taken (halts_char different) fun _ => halts

theorem takeWhile_stop {digit : Char → Bool} (closed : digit stop = false) :
    (text ++ stop :: rest).takeWhile digit = text.takeWhile digit := by
  induction text with
  | nil => simp [closed]
  | cons c more ih => simp only [cons_append,takeWhile_cons,ih]

theorem dropWhile_stop {digit : Char → Bool} (closed : digit stop = false) :
    (text ++ stop :: rest).dropWhile digit = text.dropWhile digit ++ stop :: rest := by
  induction text with
  | nil => simp [closed]
  | cons c more ih =>
    simp only [cons_append,dropWhile_cons,ih]
    split <;> rfl

theorem halts_number (closed : isDigitOf form.radix stop = false) : Halts stop (number form) := by
  intro text rest _
  unfold number
  rw [takeWhile_stop closed,dropWhile_stop closed]
  split <;> rfl

theorem digitValue_isDigit (digit : c.isDigit = true) : digitValue c = some (c.toNat-48) := by
  have range : 48 ≤ c.toNat ∧ c.toNat ≤ 57 := Char.isDigit_iff_toNat.mp digit
  simp only [digitValue,range,and_self,if_true]

theorem isDigitOf_isDigit (digit : c.isDigit = true) : isDigitOf 10 c = true := by
  have range : 48 ≤ c.toNat ∧ c.toNat ≤ 57 := Char.isDigit_iff_toNat.mp digit
  rw [isDigitOf,digitValue_isDigit digit,Option.any_some,decide_eq_true_eq]
  omega

theorem valueOf_decimal (decimal : ∀ c ∈ digits, c.isDigit = true) :
    valueOf 10 digits = Nat.ofDigitChars 10 digits 0 := by
  have fold (start : Nat) : digits.foldl (fun n c => n*10+(digitValue c).getD 0) start =
      Nat.ofDigitChars 10 digits start := by
    induction digits generalizing start with
    | nil => rfl
    | cons c rest ih =>
      have here := digitValue_isDigit (decimal c mem_cons_self)
      rw [foldl_cons,here,ih fun d present => decimal d (mem_cons_of_mem _ present)]
      rw [Nat.mul_comm]
      rfl
  exact fold 0

theorem number_printed (small : n < bound) : number ⟨10,none,true,bound⟩ (toString n).toList = some (n,[]) := by
  have text : (toString n).toList = Nat.toDigits 10 n := by rw [Nat.toString_eq_ofList_toDigits,String.toList_ofList]
  have decimal : ∀ c ∈ Nat.toDigits 10 n, c.isDigit = true :=
    fun c present => Nat.isDigit_of_mem_toDigits (by decide) (by decide) present
  have all : ∀ c ∈ Nat.toDigits 10 n, isDigitOf 10 c = true := fun c present => isDigitOf_isDigit (decimal c present)
  have value : valueOf 10 (Nat.toDigits 10 n) = n := by
    rw [valueOf_decimal decimal,Nat.ofDigitChars_toDigits (by decide) (by decide)]
  have fits : Numeral.fits ⟨10,none,true,bound⟩ (Nat.toDigits 10 n) = true := by simp [Numeral.fits,value,small]
  simp only [number,text,takeWhile_eq_self_iff.mpr all,dropWhile_eq_nil_iff.mpr all,fits,value,if_true]

theorem whole_some (read : whole p text = some a) : p text = some (a,[]) := by
  unfold whole at read
  split at read <;> cases read
  assumption

end Scan
