import Mathlib.Tactic.Common

namespace Scg.Ipc

def TOKEN_LEN : Nat := 32

@[ext] structure CapabilityToken where
  bytes : Vector UInt8 TOKEN_LEN
  deriving DecidableEq

def accumulate (diff : UInt8) : List (UInt8 × UInt8) → UInt8
  | [] => diff
  | (actual,expected) :: rest => accumulate (diff ||| (actual ^^^ expected)) rest

-- No byte decides alone: the differences of all bytes are gathered first.
def CapabilityToken.ctEq (token : CapabilityToken) (candidate : List UInt8) : Bool :=
  if candidate.length ≠ TOKEN_LEN then false
  else accumulate 0 (token.bytes.toList.zip candidate) == 0

theorem or_zero_iff (a b : UInt8) : a ||| b = 0 ↔ a = 0 ∧ b = 0 := by
  simp only [←UInt8.toBitVec_inj]
  exact BitVec.or_eq_zero_iff

theorem xor_zero_iff (a b : UInt8) : a ^^^ b = 0 ↔ a = b := by
  simp only [←UInt8.toBitVec_inj]
  exact BitVec.xor_eq_zero_iff

theorem accumulate_zero_iff (diff : UInt8) (actual expected : List UInt8) (same : actual.length = expected.length) :
    accumulate diff (actual.zip expected) = 0 ↔ diff = 0 ∧ actual = expected := by
  induction actual generalizing diff expected with
  | nil =>
    cases List.eq_nil_of_length_eq_zero same.symm
    simp [accumulate]
  | cons a actual ih =>
    cases expected with
    | nil => cases same
    | cons e expected =>
      have tail : actual.length = expected.length := Nat.succ.inj same
      rw [List.zip_cons_cons,accumulate,ih _ _ tail,or_zero_iff,xor_zero_iff,List.cons.injEq,and_assoc]

theorem ctEq_iff (token : CapabilityToken) (candidate : List UInt8) :
    token.ctEq candidate = true ↔ token.bytes.toList = candidate := by
  have size : token.bytes.toList.length = TOKEN_LEN := Vector.length_toList
  unfold CapabilityToken.ctEq
  split
  · rename_i other
    constructor
    · intro impossible
      cases impossible
    · intro same
      rw [←same] at other
      exact absurd size other
  · rename_i equal
    have equal : candidate.length = TOKEN_LEN := Decidable.not_not.mp equal
    rw [beq_iff_eq,accumulate_zero_iff _ _ _ (size.trans equal.symm)]
    exact and_iff_right rfl

theorem ctEq_token (token other : CapabilityToken) : token.ctEq other.bytes.toList = true ↔ token = other := by
  rw [ctEq_iff,Vector.toList_inj,CapabilityToken.ext_iff]

def HELLO_MAGIC : Vector UInt8 4 := #v[0x53,0x43,0x47,0x48]

def HELLO_VERSION : UInt8 := 1

def HELLO_LEN : Nat := 4+1+1+1+1+TOKEN_LEN

inductive Role where
  | producer
  | consumer
  deriving DecidableEq

def Role.toU8 : Role → UInt8
  | .producer => 1
  | .consumer => 2

def Role.fromU8 (v : UInt8) : Option Role :=
  if v = 1 then some .producer else if v = 2 then some .consumer else none

theorem Role.fromU8_toU8 (role : Role) : Role.fromU8 role.toU8 = some role := by cases role <;> rfl

structure Hello where
  version : UInt8
  role : Role
  token : CapabilityToken
  deriving DecidableEq

def Hello.new (role : Role) (token : CapabilityToken) : Hello := ⟨HELLO_VERSION,role,token⟩

-- Two reserved bytes keep the token aligned.
def Hello.encode (hello : Hello) : Vector UInt8 HELLO_LEN :=
  HELLO_MAGIC ++ #v[hello.version,hello.role.toU8,0,0] ++ hello.token.bytes

inductive HelloError where
  | badMagic
  | unsupportedVersion (v : UInt8)
  | badRole (r : UInt8)
  deriving DecidableEq

def HelloError.display : HelloError → String
  | .badMagic => "bad HELLO magic"
  | .unsupportedVersion v => s!"unsupported HELLO version {v}"
  | .badRole r => s!"invalid HELLO role byte {r}"

def Hello.decode (buf : Vector UInt8 HELLO_LEN) : Except HelloError Hello :=
  if buf.toList.take 4 ≠ HELLO_MAGIC.toList then .error .badMagic
  else if buf[4] ≠ HELLO_VERSION then .error (.unsupportedVersion buf[4])
  else
    match Role.fromU8 buf[5] with
    | none => .error (.badRole buf[5])
    | some role => .ok ⟨buf[4],role,⟨buf.drop 8⟩⟩

theorem Hello.encode_toList (hello : Hello) : hello.encode.toList =
    HELLO_MAGIC.toList ++ ([hello.version,hello.role.toU8,0,0] ++ hello.token.bytes.toList) := by
  rw [←List.append_assoc]
  exact (Vector.toList_append ..).trans (congrArg (· ++ _) (Vector.toList_append ..))

theorem byte_of_toList {buf : Vector UInt8 n} (short : i < n) (at_i : buf.toList[i]? = some b) : buf[i] = b := by
  rw [Vector.getElem?_toList] at at_i
  obtain ⟨_,same⟩ := Vector.getElem?_eq_some_iff.mp at_i
  exact same

theorem Hello.decode_encode (role : Role) (token : CapabilityToken) :
    Hello.decode (Hello.new role token).encode = .ok (Hello.new role token) := by
  have bytes := Hello.encode_toList (Hello.new role token)
  have magic : (Hello.new role token).encode.toList.take 4 = HELLO_MAGIC.toList := by
    rw [bytes]
    rfl
  have version : (Hello.new role token).encode[4] = HELLO_VERSION := by
    apply byte_of_toList
    rw [bytes]
    rfl
  have byte : (Hello.new role token).encode[5] = role.toU8 := by
    apply byte_of_toList
    rw [bytes]
    rfl
  have rest : (Hello.new role token).encode.drop 8 = token.bytes := by
    apply Vector.toList_inj.mp
    rw [Vector.toList_drop,bytes]
    rfl
  unfold Hello.decode
  rw [if_neg (not_not_intro magic),byte,Role.fromU8_toU8]
  simp only [version,rest]
  rfl

end Scg.Ipc
