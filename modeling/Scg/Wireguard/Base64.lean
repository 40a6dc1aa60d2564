import Scg.Wireguard.Params

namespace Scg.Wireguard
open List Option

theorem toList_loop (bytes : ByteArray) (i : Nat) (read : List UInt8) :
    ByteArray.toList.loop bytes i read = read.reverse ++ bytes.data.toList.drop i := by
  fun_induction ByteArray.toList.loop bytes i read with
  | case1 i read more ih =>
    have present : i < bytes.data.toList.length := more
    have byte : bytes.get! i = bytes.data.toList[i] := getElem!_pos bytes.data i more
    rw [ih,drop_eq_getElem_cons present,byte,reverse_cons,append_assoc]
    rfl
  | case2 i read done => rw [drop_of_length_le (Nat.le_of_not_lt done),append_nil]

theorem utf8_toList (s : String) : s.toUTF8.toList = s.toList.flatMap String.utf8EncodeChar := by
  rw [ByteArray.toList,toList_loop,String.toUTF8_eq_toByteArray,← String.utf8Encode_toList]
  exact toList_data_toByteArray

variable {last : Bool} (a b : UInt8) {chunk rest : List UInt8} {acc : UInt32} {n : Nat} {chars : List Char}
  {pad : Nat}

theorem utf8_ascii (small : c.toNat < 128) : String.utf8EncodeChar c = [UInt8.ofNat c.toNat] :=
  if_pos (Nat.le_of_lt_succ small)

theorem utf8_wide (wide : 128 ≤ c.toNat) : ∀ b ∈ String.utf8EncodeChar c, 128 ≤ b.toNat := by
  have past : ¬ c.val.toNat ≤ 127 := Nat.not_le_of_lt wide
  simp only [String.utf8EncodeChar]
  split_ifs <;> simp only [mem_cons,not_mem_nil,or_false,forall_eq_or_imp,forall_eq,UInt8.toNat_ofNat'] <;> omega

def alphabet : List Char := "ABCDEFGHIJKLMNOPQRSTUVWXYZabcdefghijklmnopqrstuvwxyz0123456789+/".toList

def digit (n : Nat) : Char := alphabet.getD n '='

-- The padded encoding of RFC 4648, three bytes to four characters.
def encodeList : List UInt8 → List Char
  | a :: b :: c :: rest =>
    digit (a.toNat/4) :: digit (a.toNat%4*16+b.toNat/16) :: digit (b.toNat%16*4+c.toNat/64) :: digit (c.toNat%64) ::
      encodeList rest
  | [a,b] => [digit (a.toNat/4),digit (a.toNat%4*16+b.toNat/16),digit (b.toNat%16*4),'=']
  | [a] => [digit (a.toNat/4),digit (a.toNat%4*16),'=','=']
  | [] => []

def encode (bytes : List UInt8) : String := String.ofList (encodeList bytes)

def code (c : Char) : UInt8 := UInt8.ofNat c.toNat

theorem digit_code : ∀ n < 64, b64Val (code (digit n)) = some (UInt8.ofNat n) := by decide +kernel

theorem digit_plain : ∀ n < 64, code (digit n) ≠ 61 := by decide +kernel

theorem alphabet_ascii : ∀ c ∈ alphabet, c.toNat < 128 := by
  have small : alphabet.all (·.toNat < 128) = true := by decide +kernel
  simpa using small

theorem digit_ascii (n : Nat) : (digit n).toNat < 128 := by
  unfold digit
  rw [getD_eq_getElem?_getD]
  cases found : alphabet[n]? with
  | none => decide
  | some c => exact alphabet_ascii c (mem_of_getElem? found)

theorem shifted (room : acc.toNat < 2^24) : (acc <<< 6).toNat = acc.toNat*64 := by
  simp
  omega

theorem join (room : acc.toNat < 2^24) (small : n < 64) :
    (acc <<< 6 ||| (UInt8.ofNat n).toUInt32).toNat = acc.toNat*64+n := by
  have value : (UInt8.ofNat n).toUInt32.toNat = n := by simp; omega
  have whole := (Nat.shiftLeft_eq acc.toNat 6).symm
  rw [UInt32.toNat_or,value,shifted room,whole,Nat.shiftLeft_add_eq_or_of_lt (by omega)]

theorem b64Digit_digit (small : n < 64) :
    b64Digit (acc,0) (code (digit n)) = some (acc <<< 6 ||| (UInt8.ofNat n).toUInt32,0) := by
  simp [b64Digit,digit_plain n small,digit_code n small]

def Digit (c : UInt8) : Prop := (b64Val c).isSome = true

theorem not_digit_pad : ¬ Digit 61 := Bool.false_ne_true

def Padded (bytes : List UInt8) (pad : Nat) : Prop :=
  ∃ digits, bytes = digits ++ List.replicate pad 61 ∧ ∀ c ∈ digits, Digit c

theorem padded_pad :
    Padded (61 :: rest) pad ↔ (∀ c ∈ rest, c = 61) ∧ pad = rest.length+1 := by
  constructor
  · rintro ⟨digits,same,all⟩
    cases digits with
    | nil =>
      obtain ⟨length,each⟩ := eq_replicate_iff.mp same
      exact ⟨fun c present => each c (mem_cons_of_mem _ present),length.symm⟩
    | cons c digits =>
      obtain ⟨rfl,_⟩ := cons.inj same
      exact absurd (all _ mem_cons_self) not_digit_pad
  · rintro ⟨all,rfl⟩
    exact ⟨[],eq_replicate_iff.mpr ⟨rfl,by simpa using all⟩,by simp⟩

theorem padded_digit {c : UInt8} (plain : c ≠ 61) : Padded (c :: rest) pad ↔ Digit c ∧ Padded rest pad := by
  constructor
  · rintro ⟨digits,same,all⟩
    cases digits with
    | nil => exact absurd (eq_of_mem_replicate (same ▸ mem_cons_self)) plain
    | cons d digits =>
      obtain ⟨rfl,later⟩ := cons.inj same
      exact ⟨all _ mem_cons_self,digits,later,fun x present => all x (mem_cons_of_mem _ present)⟩
  · rintro ⟨digit,digits,rfl,all⟩
    exact ⟨c :: digits,rfl,forall_mem_cons.mpr ⟨digit,all⟩⟩

theorem fold_pads (padding : 0 < n) :
    (rest.foldlM b64Digit (acc,n)).map Prod.snd = some pad ↔ (∀ c ∈ rest, c = 61) ∧ pad = n+rest.length := by
  induction rest generalizing acc n with
  | nil => simp [eq_comm]
  | cons c rest ih =>
    rw [foldlM_cons,b64Digit]
    by_cases equals : c = 61
    · rw [if_pos equals,bind_eq_bind,bind_some,ih (Nat.succ_pos n)]
      simp [equals,Nat.add_assoc,Nat.add_comm 1]
    · simp [padding,equals]

theorem fold_accepted :
    (chunk.foldlM b64Digit (acc,0)).map Prod.snd = some pad ↔ Padded chunk pad := by
  induction chunk generalizing acc with
  | nil =>
    constructor
    · rintro ⟨⟩
      exact ⟨[],rfl,by simp⟩
    · rintro ⟨digits,same,_⟩
      obtain ⟨_,none⟩ := append_eq_nil_iff.mp same.symm
      cases pad with
      | zero => rfl
      | succ pad => cases none
  | cons c rest ih =>
    rw [foldlM_cons,b64Digit]
    by_cases equals : c = 61
    · subst equals
      rw [if_pos rfl,bind_eq_bind,bind_some,fold_pads (by decide),padded_pad,Nat.add_comm]
    · rw [if_neg equals,padded_digit equals,Digit]
      cases b64Val c with
      | none => simp
      | some value => simpa using ih

theorem padded_cons {c : UInt8} (short : pad ≤ rest.length) : Padded (c :: rest) pad ↔ Digit c ∧ Padded rest pad := by
  by_cases equals : c = 61
  · subst equals
    rw [padded_pad]
    exact ⟨fun padded => by omega,fun digits => absurd digits.1 not_digit_pad⟩
  · exact padded_digit equals

theorem padded_four {a b c d : UInt8} (short : pad ≤ rest.length) :
    Padded (a :: b :: c :: d :: rest) pad ↔ Padded [a,b,c,d] 0 ∧ Padded rest pad := by
  have second : pad ≤ (d :: rest).length := Nat.le_succ_of_le short
  have third := Nat.le_succ_of_le second
  have empty : Padded [] 0 := ⟨[],rfl,fun _ => False.elim ∘ not_mem_nil⟩
  rw [padded_cons (Nat.le_succ_of_le third),padded_cons third,padded_cons second,padded_cons short]
  simp only [padded_cons (Nat.zero_le _),empty,and_true,and_assoc]

theorem quad_accepted :
    (b64Quad last chunk).isSome = true ↔ ∃ pad, Padded chunk pad ∧ pad ≤ if last then 2 else 0 := by
  simp only [← @fold_accepted chunk 0,b64Quad]
  cases chunk.foldlM b64Digit (0,0) with
  | none => simp
  | some ended =>
    simp only [map_some]
    cases last
    · simp
    · simp
      omega

theorem quads_accepted (whole : bytes.length % 4 = 0) :
    (b64Quads bytes).isSome = true ↔ ∃ pad, Padded bytes pad ∧ pad ≤ 2 := by
  fun_induction b64Quads bytes with
  | case1 a b c d rest ih =>
    have both : (do
        let quad ← b64Quad rest.isEmpty [a,b,c,d]
        let later ← b64Quads rest
        return quad ++ later : Option (List UInt8)).isSome = true ↔
        (b64Quad rest.isEmpty [a,b,c,d]).isSome = true ∧ (b64Quads rest).isSome = true := by
      cases b64Quad rest.isEmpty [a,b,c,d] <;> cases b64Quads rest <;> simp
    rw [both,quad_accepted]
    cases rest with
    | nil => simp [b64Quads]
    | cons e rest =>
      have longer : 4 ≤ (e :: rest).length := by
        simp only [length_cons] at whole ⊢
        omega
      rw [ih (by simp only [length_cons] at whole ⊢; omega)]
      constructor
      · rintro ⟨⟨none,first,none_zero⟩,pad,later,few⟩
        rw [Nat.le_zero.mp none_zero] at first
        exact ⟨pad,(padded_four (by omega)).mpr ⟨first,later⟩,few⟩
      · rintro ⟨pad,padded,few⟩
        obtain ⟨first,later⟩ := (padded_four (by omega)).mp padded
        exact ⟨⟨0,first,Nat.zero_le _⟩,pad,later,few⟩
  | case2 bytes short =>
    rcases bytes with _ | ⟨a,_ | ⟨b,_ | ⟨c,_ | ⟨d,rest⟩⟩⟩⟩
    · exact ⟨fun _ => ⟨0,⟨[],rfl,by simp⟩,by decide⟩,fun _ => rfl⟩
    · simp at whole
    · simp at whole
    · simp at whole
    · exact (short a b c d rest rfl).elim

theorem digit_alphabet (small : c.toNat < 128) : Digit (code c) ↔ c ∈ alphabet := by
  have each : ∀ n < 128, (b64Val (UInt8.ofNat n)).isSome = true ↔ Char.ofNat n ∈ alphabet := by decide +kernel
  rw [Digit,code,each c.toNat small,Char.ofNat_toNat]

theorem pad_code (small : c.toNat < 128) (same : code c = 61) : c = '=' := by
  have value : c.toNat = 61 := by
    have := congrArg UInt8.toNat same
    simp [code] at this
    omega
  rw [← Char.ofNat_toNat c,value]

theorem utf8_code (small : ∀ c ∈ chars, c.toNat < 128) :
    chars.flatMap String.utf8EncodeChar = chars.map code := by
  rw [map_eq_flatMap]
  exact flatMap_congr fun c present => utf8_ascii (small c present)

theorem padded_small (padded : Padded bytes pad) : ∀ b ∈ bytes, b.toNat < 128 := by
  have each : ∀ n < 256, (b64Val (UInt8.ofNat n)).isSome = true → n < 128 := by decide +kernel
  obtain ⟨digits,rfl,all⟩ := padded
  intro b present
  rcases mem_append.mp present with early | late
  · have read := all b early
    rw [← @UInt8.ofNat_toNat b] at read
    exact each b.toNat (UInt8.toNat_lt b) read
  · rw [eq_of_mem_replicate late]
    decide

theorem padded_ascii (padded : Padded (chars.flatMap String.utf8EncodeChar) pad) :
    ∀ c ∈ chars, c.toNat < 128 := by
  intro c present
  by_contra wide
  obtain ⟨b,within⟩ := exists_mem_of_ne_nil _ (@String.utf8EncodeChar_ne_nil c)
  have large := utf8_wide (Nat.le_of_not_lt wide) b within
  have small := padded_small padded b (mem_flatMap.mpr ⟨c,present,within⟩)
  omega

/-- Digits of the alphabet and then `pad` times the padding character. -/
def Text (chars : List Char) (pad : Nat) : Prop :=
  ∃ digits, chars = digits ++ List.replicate pad '=' ∧ ∀ c ∈ digits, c ∈ alphabet

theorem text_ascii (text : Text chars pad) : ∀ c ∈ chars, c.toNat < 128 := by
  obtain ⟨digits,rfl,all⟩ := text
  intro c present
  rcases mem_append.mp present with early | late
  · exact alphabet_ascii c (all c early)
  · rw [eq_of_mem_replicate late]
    decide

theorem padded_code (small : ∀ c ∈ chars, c.toNat < 128) :
    Padded (chars.map code) pad ↔ Text chars pad := by
  constructor
  · rintro ⟨digits,same,all⟩
    obtain ⟨front,back,rfl,rfl,tail⟩ := map_eq_append_iff.mp same
    obtain ⟨length,each⟩ := eq_replicate_iff.mp tail
    refine ⟨front,?_,fun c present => ?_⟩
    · have pads : back = replicate pad '=' := by
        refine eq_replicate_iff.mpr ⟨by simpa using length,fun c present => ?_⟩
        exact pad_code (small c (mem_append_right _ present)) (each _ (mem_map_of_mem present))
      rw [pads]
    · have read := all _ (mem_map_of_mem present)
      exact (digit_alphabet (small c (mem_append_left _ present))).mp read
  · rintro ⟨digits,rfl,all⟩
    refine ⟨digits.map code,?_,fun b present => ?_⟩
    · rw [map_append,map_replicate]
      rfl
    · obtain ⟨c,within,rfl⟩ := mem_map.mp present
      exact (digit_alphabet (alphabet_ascii c (all c within))).mpr (all c within)

theorem decode_padded : (b64Decode s).isSome = true ↔
    s.toUTF8.toList ≠ [] ∧ s.toUTF8.toList.length % 4 = 0 ∧ ∃ pad, Padded s.toUTF8.toList pad ∧ pad ≤ 2 := by
  unfold b64Decode
  generalize s.toUTF8.toList = bytes
  by_cases empty : bytes = []
  · simp [empty]
  · by_cases whole : bytes.length % 4 = 0
    · simp [empty,whole,quads_accepted whole]
    · simp [whole]

theorem decode_accepted :
    (b64Decode s).isSome = true ↔ 0 < s.length ∧ s.length % 4 = 0 ∧ ∃ pad ≤ 2, Text s.toList pad := by
  have plain (small : ∀ c ∈ s.toList, c.toNat < 128) : s.toUTF8.toList = s.toList.map code :=
    (utf8_toList s).trans (utf8_code small)
  have lengths (small : ∀ c ∈ s.toList, c.toNat < 128) : s.toUTF8.toList.length = s.length := by
    rw [plain small,length_map,String.length_toList]
  rw [decode_padded,← length_pos_iff]
  constructor
  · rintro ⟨some,whole,pad,padded,few⟩
    have small := padded_ascii (utf8_toList s ▸ padded)
    rw [lengths small] at some whole
    exact ⟨some,whole,pad,few,(padded_code small).mp (plain small ▸ padded)⟩
  · rintro ⟨some,whole,pad,few,text⟩
    have small := text_ascii text
    rw [lengths small,plain small]
    exact ⟨some,whole,pad,(padded_code small).mpr text,few⟩

theorem fold_digits (values : List Nat) (acc : UInt32) (taken : Nat) (small : ∀ n ∈ values, n < 64)
    (room : acc.toNat < 64^taken) (few : taken+values.length ≤ 4) :
    ∃ joined, joined.toNat = values.foldl (fun read n => read*64+n) acc.toNat ∧ ∀ tail,
      ((values.map fun n => code (digit n)) ++ tail).foldlM b64Digit (acc,0) = tail.foldlM b64Digit (joined,0) := by
  induction values generalizing acc taken with
  | nil => exact ⟨acc,rfl,fun _ => rfl⟩
  | cons n values ih =>
    obtain ⟨first,later⟩ := forall_mem_cons.mp small
    rw [length_cons] at few
    have bound : 64^taken ≤ 64^3 := Nat.pow_le_pow_right (by decide) (by omega)
    have value := @join acc n (by omega) first
    obtain ⟨joined,total,folded⟩ := ih (acc <<< 6 ||| (UInt8.ofNat n).toUInt32) (taken+1) later
      (by rw [value]; omega) (by omega)
    refine ⟨joined,?_,fun tail => ?_⟩
    · rw [total,value,foldl_cons]
    · rw [map_cons,cons_append,foldlM_cons,b64Digit_digit first]
      exact folded tail

theorem octet (acc shift : UInt32) : (acc >>> shift).toUInt8.toNat = acc.toNat / 2^(shift.toNat % 32) % 256 := by
  simp [Nat.shiftRight_eq_div_pow]

theorem quad_round (c : UInt8) :
    b64Quad last ((encodeList [a,b,c]).map code) = some [a,b,c] := by
  have := UInt8.toNat_lt a
  have := UInt8.toNat_lt b
  have := UInt8.toNat_lt c
  obtain ⟨acc,total,folded⟩ := fold_digits
    [a.toNat/4,a.toNat%4*16+b.toNat/16,b.toNat%16*4+c.toNat/64,c.toNat%64] 0 0
    (by simp; omega) (by decide) (Nat.le_refl 4)
  have read : ((encodeList [a,b,c]).map code).foldlM b64Digit (0,0) = some (acc,0) := folded []
  have top : (acc >>> 16).toUInt8 = a := UInt8.toNat_inj.mp (by rw [octet,total]; simp; omega)
  have middle : (acc >>> 8).toUInt8 = b := UInt8.toNat_inj.mp (by rw [octet,total]; simp; omega)
  have bottom : acc.toUInt8 = c := UInt8.toNat_inj.mp (by rw [UInt32.toNat_toUInt8,total]; simp; omega)
  simp [b64Quad,read,top,middle,bottom]

theorem quad_round_two : b64Quad true ((encodeList [a,b]).map code) = some [a,b] := by
  have := UInt8.toNat_lt a
  have := UInt8.toNat_lt b
  obtain ⟨acc,total,folded⟩ := fold_digits [a.toNat/4,a.toNat%4*16+b.toNat/16,b.toNat%16*4] 0 0
    (by simp; omega) (by decide) (by simp)
  have read : ((encodeList [a,b]).map code).foldlM b64Digit (0,0) = some (acc <<< 6,1) := folded [61]
  have room : acc.toNat < 2^24 := by rw [total]; simp; omega
  have top : (acc <<< 6 >>> 16).toUInt8 = a := UInt8.toNat_inj.mp (by rw [octet,shifted room,total]; simp; omega)
  have middle : (acc <<< 6 >>> 8).toUInt8 = b := UInt8.toNat_inj.mp (by rw [octet,shifted room,total]; simp; omega)
  simp [b64Quad,read,top,middle]

theorem quad_round_one : b64Quad true ((encodeList [a]).map code) = some [a] := by
  have := UInt8.toNat_lt a
  obtain ⟨acc,total,folded⟩ := fold_digits [a.toNat/4,a.toNat%4*16] 0 0 (by simp; omega) (by decide) (by simp)
  have read : ((encodeList [a]).map code).foldlM b64Digit (0,0) = some (acc <<< 6 <<< 6,2) := folded [61,61]
  have room : acc.toNat < 2^18 := by rw [total]; simp; omega
  have once := @shifted acc (by omega)
  have top : (acc <<< 6 <<< 6 >>> 16).toUInt8 = a :=
    UInt8.toNat_inj.mp (by rw [octet,shifted (by omega),once,total]; simp; omega)
  simp [b64Quad,read,top]

theorem quads_round (bytes : List UInt8) : b64Quads ((encodeList bytes).map code) = some bytes := by
  fun_induction encodeList bytes with
  | case1 a b c rest ih =>
    have first := @quad_round ((encodeList rest).map code).isEmpty a b c
    simp only [encodeList,map_cons,map_nil] at first
    simp only [map_cons,b64Quads,first,ih]
    rfl
  | case2 a b =>
    have first := quad_round_two a b
    simp only [encodeList,map_cons,map_nil] at first
    simp [b64Quads,first]
  | case3 a =>
    have first := quad_round_one a
    simp only [encodeList,map_cons,map_nil] at first
    simp [b64Quads,first]
  | case4 => rfl

theorem encodeList_ascii (bytes : List UInt8) : ∀ c ∈ encodeList bytes, c.toNat < 128 := by
  fun_induction encodeList bytes with
  | case1 a b c rest ih => simpa [digit_ascii] using ih
  | case2 | case3 => simp [digit_ascii]
  | case4 => simp

theorem encodeList_whole (bytes : List UInt8) : (encodeList bytes).length % 4 = 0 := by
  fun_induction encodeList bytes with
  | case1 a b c rest ih =>
    simp only [length_cons]
    omega
  | case2 | case3 => simp
  | case4 => rfl

theorem encodeList_nil (none : encodeList bytes = []) : bytes = [] := by
  rcases bytes with _ | ⟨a,_ | ⟨b,_ | ⟨c,rest⟩⟩⟩
  · rfl
  all_goals cases none

theorem decode_encode (some : bytes ≠ []) : b64Decode (encode bytes) = .some bytes := by
  have plain : (encode bytes).toUTF8.toList = (encodeList bytes).map code := by
    rw [utf8_toList,encode,String.toList_ofList,utf8_code (encodeList_ascii bytes)]
  have nonempty : (encodeList bytes).map code ≠ [] := some ∘ encodeList_nil ∘ map_eq_nil_iff.mp
  have whole : ((encodeList bytes).map code).length % 4 = 0 := by rw [length_map,encodeList_whole]
  simp only [b64Decode,plain]
  rw [if_neg (not_or.mpr ⟨nonempty,not_not.mpr whole⟩),quads_round]

theorem validateKey32_ok :
    validateKey32 field value = .ok () ↔ ∃ key, b64Decode value = some key ∧ key.length = 32 := by
  unfold validateKey32
  cases b64Decode value <;> simp

theorem decode_exact :
    (∀ bytes, bytes ≠ [] → b64Decode (encode bytes) = some bytes) ∧
    (∀ s, (b64Decode s).isSome = true ↔ 0 < s.length ∧ s.length % 4 = 0 ∧ ∃ pad ≤ 2, Text s.toList pad) ∧
    (∀ field key, key.length = 32 → validateKey32 field (encode key) = .ok ()) ∧
    ∀ field value, validateKey32 field value = .ok () → ∃ key, b64Decode value = some key ∧ key.length = 32 := by
  refine ⟨fun _ => decode_encode,fun _ => decode_accepted,fun field key length => ?_,fun _ _ => validateKey32_ok.mp⟩
  exact validateKey32_ok.mpr ⟨key,decode_encode (fun none => by simp [none] at length),length⟩

theorem decode_exact_one :
    encode [77] = "TQ==" ∧ b64Decode (encode [77]) = some [77] ∧
      validateKey32 "private_key" (encode (List.replicate 32 255)) = .ok () :=
  ⟨by decide +kernel,decode_exact.1 [77] (by decide),decode_exact.2.2.1 "private_key" _ rfl⟩

end Scg.Wireguard
