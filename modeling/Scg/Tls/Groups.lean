import Scg.Library.Checks
import Scg.Tls.Resumption
import Mathlib.Data.List.Chain
import Mathlib.Data.List.DropRight

namespace Scg.Tls
open Text Checks List

def TlsSecurityParams.cipherPolicy (params : TlsSecurityParams) : Option String × Option String :=
  let default : Option String × Option String :=
    match params.profile with
    | .default =>
      (some "ECDHE-ECDSA-AES128-GCM-SHA256:ECDHE-RSA-AES128-GCM-SHA256:ECDHE-ECDSA-AES256-GCM-SHA384:ECDHE-RSA-AES256-GCM-SHA384",
        some "TLS_AES_128_GCM_SHA256:TLS_AES_256_GCM_SHA384")
    | .subset146Pki =>
      (some "ECDHE-ECDSA-AES256-GCM-SHA384:ECDHE-RSA-AES256-GCM-SHA384",
        some "TLS_AES_256_GCM_SHA384:TLS_CHACHA20_POLY1305_SHA256")
    | .subset146Psk => (some "DHE-PSK-AES256-GCM-SHA384:@SECLEVEL=0",none)
    | .integrityOnly =>
      (some "ECDHE-ECDSA-NULL-SHA:ECDHE-RSA-NULL-SHA:NULL-SHA256:NULL-SHA:@SECLEVEL=0",none)
  (params.cipherList.or default.1,params.ciphersuites.or default.2)

inductive Setting where
  | cipherList (list : String)
  | ciphersuites (suites : String)
  | groups (list : String)
  deriving DecidableEq

-- The settings are handed over in order, up to the first that `openssl` refuses; each comes
-- with the text its error is wrapped in.
def configure (openssl : Setting → Except String Unit) : List (Setting × String) → List Setting × Except String Unit
  | [] => ([],.ok ())
  | (setting,context) :: rest =>
    match openssl setting with
    | .ok () => ((configure openssl rest).map (setting :: ·) id)
    | .error e => ([setting],.error (context ++ e))

def colon (c : Char) : Char := if c = ',' then ':' else c

-- `groups.replace(',', ":")`.
def groupsList (groups : String) : String := String.ofList (groups.toList.map colon)

def applyCipherPolicy (openssl : Setting → Except String Unit) (params : TlsSecurityParams) (is13 : Bool) :
    List Setting × Except String Unit :=
  let policy := params.cipherPolicy
  let ciphers :=
    if is13 then policy.2.toList.map fun suites => (Setting.ciphersuites suites,s!"set ciphersuites '{suites}': ")
    else policy.1.toList.map fun list => (Setting.cipherList list,s!"set cipher list '{list}': ")
  let groups := params.groups.toList.map fun groups =>
    (Setting.groups (groupsList groups),s!"set groups list '{groupsList groups}': ")
  configure openssl (ciphers ++ groups)

def setDtlsGroups (openssl : Setting → Except String Unit) (params : TlsSecurityParams) :
    List Setting × Except String Unit :=
  configure openssl (params.groups.toList.map fun groups =>
    (Setting.groups (groupsList groups),s!"dtls groups list '{groupsList groups}': "))

variable (sep : Char) (l : List Char) (groups : String)

theorem splitList_parts : ∃ part parts, splitList sep l = part :: parts := by
  have head := splitList_head sep l
  cases split : splitList sep l with
  | nil =>
    rw [split] at head
    cases head
  | cons part parts => exact ⟨part,parts,rfl⟩

theorem splitList_plain : ∀ part ∈ splitList sep l, sep ∉ part := by
  induction l with
  | nil => simp [splitList]
  | cons c rest ih =>
    obtain ⟨part,parts,split⟩ := splitList_parts sep rest
    rw [split,forall_mem_cons] at ih
    simp only [splitList,split]
    split_ifs with here
    · simpa using ih
    · exact forall_mem_cons.mpr ⟨not_mem_cons_of_ne_of_not_mem (Ne.symm here) ih.1,ih.2⟩

theorem splitList_both : (splitList ':' l).flatMap (splitList ',') = splitList ':' (l.map colon) := by
  induction l with
  | nil => rfl
  | cons c rest ih =>
    obtain ⟨part,parts,split⟩ := splitList_parts ':' rest
    obtain ⟨first,firsts,cut⟩ := splitList_parts ',' part
    rw [map_cons,splitList,splitList,← ih,split]
    by_cases here : c = ':'
    · simp [here,colon,cut,splitList]
    · by_cases comma : c = ','
      · simp [comma,colon,cut,splitList]
      · simp [here,comma,colon,cut,splitList]

-- A separator and a neighbour that is a separator or a blank.
def Loose (a b : Char) : Prop := a = ':' ∧ (b = ':' ∨ isWhiteSpace b = true)

def Apart (a b : Char) : Prop := ¬ Loose a b ∧ ¬ Loose b a

instance : DecidableRel Apart := fun _ _ => inferInstanceAs (Decidable (¬ (_ ∧ _) ∧ ¬ (_ ∧ _)))

theorem apart_split (a : Char) (l : List Char) : ∀ part parts, splitList ':' l = part :: parts →
    ((a :: l ++ [':']).IsChain Apart ↔
      (a :: part ++ [':']).IsChain Apart ∧ ∀ other ∈ parts, (':' :: other ++ [':']).IsChain Apart) := by
  induction l generalizing a with
  | nil =>
    rintro part parts ⟨⟩
    simp
  | cons c rest ih =>
    intro part parts split
    obtain ⟨first,firsts,later⟩ := splitList_parts ':' rest
    simp only [splitList,later] at split
    have inner := ih c first firsts later
    split_ifs at split with here
    · cases split
      subst here
      simp only [cons_append,nil_append,isChain_cons_cons,forall_mem_cons,isChain_singleton,
        and_true] at inner ⊢
      rw [inner]
    · cases split
      simp only [cons_append,isChain_cons_cons,and_assoc] at inner ⊢
      rw [inner]

theorem trim_same :
    trim (String.ofList l) = String.ofList l ↔ l.dropWhile isWhiteSpace = l ∧ l.rdropWhile isWhiteSpace = l := by
  have shape : trim (String.ofList l) = String.ofList ((l.dropWhile isWhiteSpace).rdropWhile isWhiteSpace) := by
    rw [trim,String.toList_ofList]
    rfl
  rw [shape,String.ofList_inj]
  constructor
  · intro same
    have shorter := ( rdropWhile_prefix isWhiteSpace (l.dropWhile isWhiteSpace)).length_le
    rw [same] at shorter
    have front := (dropWhile_suffix isWhiteSpace).eq_of_length_le shorter
    exact ⟨front,by rwa [front] at same⟩
  · rintro ⟨front,back⟩
    rw [front,back]

theorem apart_part (plain : ':' ∉ part) :
    (':' :: part ++ [':']).IsChain Apart ↔ part ≠ [] ∧ trim (String.ofList part) = String.ofList part := by
  cases part with
  | nil => simp [Apart,Loose]
  | cons c rest =>
    have inner : (c :: rest).IsChain Apart := by
      refine (pairwise_of_forall_mem_list fun a within b present => ?_).isChain
      exact ⟨fun loose => plain (loose.1 ▸ within),fun loose => plain (loose.1 ▸ present)⟩
    have here : c ≠ ':' := fun same => plain (same ▸ mem_cons_self)
    have last : (c :: rest).getLast (cons_ne_nil c rest) ≠ ':' := fun same => plain (same ▸ getLast_mem _)
    have ends : (':' :: c :: rest ++ [':']).IsChain Apart ↔
        Apart ':' c ∧ Apart ((c :: rest).getLast (cons_ne_nil c rest)) ':' := by
      rw [isChain_append,getLast?_cons_cons,
        getLast?_eq_some_getLast (cons_ne_nil c rest)]
      simp [inner]
    rw [ends,trim_same]
    simp [Apart,Loose,here,last]

-- With ',' read as ':' and a separator put at both ends, no separator stands beside another one
-- or beside a blank.
def Tight (groups : String) : Prop := (':' :: groups.toList.map colon ++ [':']).IsChain Apart

instance (groups : String) : Decidable (Tight groups) := inferInstanceAs (Decidable (List.IsChain _ _))

theorem tight_names :
    Tight groups ↔ ∀ name ∈ split ':' (groupsList groups), name ≠ "" ∧ trim name = name := by
  obtain ⟨part,parts,cut⟩ := splitList_parts ':' (groups.toList.map colon)
  have plain := splitList_plain ':' (groups.toList.map colon)
  have named : ∀ part ∈ splitList ':' (groups.toList.map colon), ((':' :: part ++ [':']).IsChain Apart ↔
      String.ofList part ≠ "" ∧ trim (String.ofList part) = String.ofList part) := by
    intro part present
    rw [apart_part (plain part present),Ne,Ne,String.ofList_eq_empty_iff]
  rw [Tight,apart_split ':' _ part parts cut]
  simp only [split,groupsList,String.toList_ofList,forall_mem_map]
  rw [cut] at named ⊢
  rw [← forall₂_congr named,forall_mem_cons]

theorem tokens_names :
    groupTokens groups = ((split ':' (groupsList groups)).map trim).filter (· ≠ "") := by
  have both : (split ':' groups).flatMap (split ',') = split ':' (groupsList groups) := by
    simp [split,groupsList,← splitList_both,flatMap_map,map_flatMap]
  rw [groupTokens,both]

section Handed
variable {openssl : Setting → Except String Unit} {params : TlsSecurityParams} {groups : String}

theorem configure_handed (settings : List (Setting × String)) :
    (configure openssl settings).1 <+: settings.map Prod.fst := by
  induction settings with
  | nil => exact prefix_rfl
  | cons first rest ih =>
    simp only [configure]
    split
    · exact prefix_cons_inj first.1 |>.mpr ih
    · exact ⟨rest.map Prod.fst,rfl⟩

theorem handed_tls (given : params.groups = some groups)
    (handed : .groups list ∈ (applyCipherPolicy openssl params is13).1) : list = groupsList groups := by
  have planned := (configure_handed _).subset handed
  cases is13 <;> simpa [given] using planned

theorem handed_dtls (given : params.groups = some groups) :
    (setDtlsGroups openssl params).1 = [.groups (groupsList groups)] := by
  simp only [setDtlsGroups,given,Option.toList_some,map_cons,configure]
  cases openssl (.groups (groupsList groups)) <;> rfl

theorem accepted_tokens (given : params.groups = some groups) (accepted : params.validate = .ok ()) :
    ∀ token ∈ groupTokens groups, isAllowedGroup token = true := by
  have checked : checkGroups groups = .ok () := by
    obtain ⟨_,_,accepted⟩ := bind_ok accepted
    obtain ⟨_,_,accepted⟩ := bind_ok accepted
    simp only [given] at accepted
    split at accepted
    · cases accepted
    · exact accepted
  simp only [checkGroups] at checked
  intro token present
  split at checked
  · cases checked
  · rename_i none
    simpa using find?_eq_none.mp none token present

theorem groups_exact_iff (given : params.groups = some groups) (accepted : params.validate = .ok ()) :
    (∀ openssl is13 list, .groups list ∈ (applyCipherPolicy openssl params is13).1 ∨
        .groups list ∈ (setDtlsGroups openssl params).1 →
      (∀ name ∈ split ':' list, name ≠ "" ∧ trim name = name ∧ isAllowedGroup name = true) ∧
        split ':' list = groupTokens groups) ↔ Tight groups := by
  have allowed := accepted_tokens given accepted
  rw [tight_names]
  constructor
  · intro exact name present
    obtain ⟨each,_⟩ := exact (fun _ => .ok ()) false (groupsList groups)
      (.inr (handed_dtls given ▸ List.mem_singleton_self _))
    exact ⟨(each name present).1,(each name present).2.1⟩
  · rintro tight openssl is13 list handed
    have same : list = groupsList groups := by
      rcases handed with tls | dtls
      · exact handed_tls given tls
      · rw [handed_dtls given,List.mem_singleton] at dtls
        cases dtls
        rfl
    subst same
    have tokens : split ':' (groupsList groups) = groupTokens groups := by
      rw [tokens_names,List.map_congr_left fun name present => (tight name present).2,List.map_id',
        List.filter_eq_self.mpr fun name present => decide_eq_true (tight name present).1]
    exact ⟨fun name present => ⟨(tight name present).1,(tight name present).2,allowed name (tokens ▸ present)⟩,tokens⟩

def grouped (groups : String) : TlsSecurityParams := {strictParams with groups := some groups}

theorem groups_exact_pair :
    Tight "X25519:P-256" ∧ ∀ openssl is13 list,
      .groups list ∈ (applyCipherPolicy openssl (grouped "X25519:P-256") is13).1 ∨
        .groups list ∈ (setDtlsGroups openssl (grouped "X25519:P-256")).1 →
      (∀ name ∈ split ':' list, name ≠ "" ∧ trim name = name ∧ isAllowedGroup name = true) ∧
        split ':' list = groupTokens "X25519:P-256" :=
  have tight : Tight "X25519:P-256" := by decide +kernel
  ⟨tight,(groups_exact_iff rfl (by decide +kernel)).mpr tight⟩

theorem groups_blank : (grouped "X25519, P-256").validate = .ok () ∧
    (setDtlsGroups (fun _ => .ok ()) (grouped "X25519, P-256")).1 = [.groups "X25519: P-256"] ∧
    .groups "X25519: P-256" ∈ (applyCipherPolicy (fun _ => .ok ()) (grouped "X25519, P-256") true).1 ∧
    split ':' "X25519: P-256" = ["X25519"," P-256"] ∧ isAllowedGroup " P-256" = false ∧
    groupTokens "X25519, P-256" = ["X25519","P-256"] := by
  decide +kernel

end Handed

end Scg.Tls
