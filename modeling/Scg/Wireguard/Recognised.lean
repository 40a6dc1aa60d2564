import Scg.Net.Literals
import Scg.Tls.FromParams
import Scg.Wireguard.Params

-- What the two parsers of `provider_params` do with the security keys they know.
namespace Scg.Security
open Option
open Config (Params Value)
open Net (Std)
open Tls (SecurityParams)
open Wireguard (WgProviderConfig paramsOf)

section Keys
variable {params : Params} {key : String} {α : Type}

-- A key that is there with a value other than null says what its field holds.
def Determines (params : Params) (key : String) (read : Value → Option α) (field : α) : Prop :=
  ∀ value, params.lookup key = some value → value ≠ .null → read value = some field

def Typed (params : Params) (key : String) (typed : Value → Bool) : Prop :=
  ∀ value, params.lookup key = some value → value ≠ .null → typed value = true

instance (typed : Value → Bool) : Decidable (Typed params key typed) :=
  match found : params.lookup key with
  | none => .isTrue fun _ other => absurd other (by simp [found])
  | some value => decidable_of_iff (value ≠ .null → typed value = true) (by simp [Typed,found])

def isStr (value : Value) : Bool := value.asStr.isSome

def isBool (value : Value) : Bool := value.asBool.isSome

theorem determines_iff {read : Value → Option α} {typed : Value → Bool}
    (accepted : ∀ value, params.lookup key = some value → typed value = true → read value = some field)
    (refused : ∀ value, typed value = false → read value = none) :
    Determines params key read field ↔ Typed params key typed := by
  constructor
  · intro determined value found present
    by_contra wrong
    have holds := determined value found present
    rw [refused value (by simpa using wrong)] at holds
    cases holds
  · intro right value found present
    exact accepted value found (right value found present)

theorem text_determines_iff {read : String → Option α}
    (accepted : ∀ s, Tls.getStr params key = some s → read s = some field) :
    Determines params key (fun value => value.asStr.bind read) field ↔ Typed params key isStr := by
  apply determines_iff
  · intro value found typed
    obtain ⟨s,text⟩ := isSome_iff_exists.mp typed
    rw [text]
    exact accepted s (by rw [Tls.getStr,found]; exact text)
  · intro value untyped
    rw [isSome_eq_false_iff.mp untyped |> isNone_iff_eq_none.mp]
    rfl

end Keys

@[mk_iff]
structure TlsDetermined (params : Params) (parsed : SecurityParams) : Prop where
  profile : Determines params "profile" (fun value => value.asStr.bind fun s => (Tls.TlsProfile.parse s).toOption)
    parsed.profile
  verify : Determines params "verify"
    (fun value => value.asStr.bind fun s => (Tls.verifyMode parsed.profile (some s)).toOption) parsed.verify
  psk : Determines params "psk_hex" (fun value => value.asStr.bind fun s => (Tls.decodeHex s).toOption.map some)
    parsed.pskKey
  texts : ∀ entry ∈ Tls.texts, Determines params entry.1 (fun value => value.asStr.bind fun s => some (some s))
    (entry.2 parsed)

def TlsTyped (params : Params) : Prop :=
  ∀ key ∈ ["profile","verify","psk_hex"] ++ Tls.texts.map (·.1), Typed params key isStr

instance (params : Params) : Decidable (TlsTyped params) := inferInstanceAs (Decidable (∀ key ∈ _,_))

-- The empty preshared key is the way to write that there is none.
@[mk_iff]
structure WgDetermined (params : Params) (cfg : WgProviderConfig) : Prop where
  preshared : Determines params "preshared_key"
    (fun value => value.asStr.bind fun s => some (if s = "" then none else some ⟨s⟩)) cfg.presharedKey
  managed : Determines params "manage_interface" Value.asBool cfg.manageInterface

def WgTyped (params : Params) : Prop :=
  Typed params "preshared_key" isStr ∧ Typed params "manage_interface" isBool

instance (params : Params) : Decidable (WgTyped params) := inferInstanceAs (Decidable (_ ∧ _))

theorem tls_determined_iff
    (ran : Tls.fromParams params version = .ok parsed) : TlsDetermined params parsed ↔ TlsTyped params := by
  have reads := Tls.fromParams_reads ran
  have typed : TlsTyped params ↔ Typed params "profile" isStr ∧ Typed params "verify" isStr ∧
      Typed params "psk_hex" isStr ∧ ∀ entry ∈ Tls.texts, Typed params entry.1 isStr := by
    simp only [TlsTyped,List.cons_append,List.nil_append,List.forall_mem_cons,List.forall_mem_map]
  rw [tlsDetermined_iff,typed]
  refine and_congr (text_determines_iff fun s given => ?_) (and_congr (text_determines_iff fun s given => ?_)
    (and_congr (text_determines_iff fun s given => ?_) (forall₂_congr fun entry known => ?_)))
  · have read := reads.profile
    rw [given] at read
    exact congrArg Except.toOption read
  · have read := reads.verify
    rw [given] at read
    exact congrArg Except.toOption read
  · have read := reads.psk
    rw [given] at read
    obtain ⟨bytes,decoded,kept⟩ := Checks.bind_ok (read : (Tls.decodeHex s >>= fun bytes => pure (some bytes)) = _)
    rw [decoded,← Except.ok.inj kept]
    rfl
  · exact text_determines_iff fun s given => by rw [reads.texts entry known,given]

theorem wg_determined_iff (ran : Wireguard.fromParams std params = .ok cfg) :
    WgDetermined params cfg ↔ WgTyped params := by
  have accepted := Wireguard.fromParams_accepted ran
  rw [wgDetermined_iff]
  refine and_congr (text_determines_iff fun s given => ?_) (determines_iff (fun value found typed => ?_) fun value untyped => ?_)
  · have read := accepted.preshared
    unfold Wireguard.presharedKey at read
    rw [show (params.lookup "preshared_key").bind Value.asStr = some s from given] at read
    dsimp only at read
    by_cases empty : s = ""
    · rw [if_neg (not_not.mpr empty)] at read
      rw [if_pos empty,← Except.ok.inj read]
    · rw [if_pos empty] at read
      obtain ⟨_,_,kept⟩ := Checks.bind_ok read
      rw [if_neg empty,← Except.ok.inj kept]
  · obtain ⟨b,bool⟩ := isSome_iff_exists.mp typed
    rw [accepted.managed,found,bind_some,bool]
    rfl
  · exact isNone_iff_eq_none.mp (isSome_eq_false_iff.mp untyped)

theorem security_keys_determine_iff (std : Std) (params : Params) (version : Option String) :
    (∀ parsed, Tls.fromParams params version = .ok parsed → (TlsDetermined params parsed ↔ TlsTyped params)) ∧
      ∀ cfg, Wireguard.fromParams std params = .ok cfg → (WgDetermined params cfg ↔ WgTyped params) :=
  ⟨fun _ ran => tls_determined_iff ran,fun _ ran => wg_determined_iff ran⟩

theorem security_keys_determine :
    (∃ parsed, Tls.fromParams (paramsOf [("verify",.str "server"),("ca_path",.str "/ca.pem")]) none = .ok parsed ∧
      TlsDetermined (paramsOf [("verify",.str "server"),("ca_path",.str "/ca.pem")]) parsed) ∧
    ∃ cfg, Wireguard.fromParams .reading (Wireguard.cfgParams [("manage_interface",.bool false)]) = .ok cfg ∧
      WgDetermined (Wireguard.cfgParams [("manage_interface",.bool false)]) cfg := by
  constructor
  · exact Checks.accepts (by decide +kernel) fun parsed ran =>
      ((security_keys_determine_iff .reading _ none).1 parsed ran).mpr (by decide +kernel)
  · exact Checks.accepts (by decide +kernel) fun cfg ran =>
      ((security_keys_determine_iff .reading _ none).2 cfg ran).mpr (by decide +kernel)

-- A certificate path and a refusal to manage the interface, written as a number and as a text.
theorem security_keys_ignored :
    (∃ parsed, Tls.fromParams (paramsOf [("verify",.str "server"),("ca_path",.uint 5)]) none = .ok parsed ∧
      parsed.caPath = none ∧ ¬ TlsDetermined (paramsOf [("verify",.str "server"),("ca_path",.uint 5)]) parsed) ∧
    ∃ cfg, Wireguard.fromParams .reading
        (Wireguard.cfgParams [("preshared_key",.uint 5),("manage_interface",.str "false")]) = .ok cfg ∧
      cfg.presharedKey = none ∧ cfg.manageInterface = true ∧
      ¬ WgDetermined (Wireguard.cfgParams [("preshared_key",.uint 5),("manage_interface",.str "false")]) cfg := by
  constructor
  · refine Checks.accepts (by decide +kernel) fun parsed ran => ⟨?_,fun determined => ?_⟩
    · rw [show parsed.caPath = _ from (Tls.fromParams_reads ran).texts ("ca_path",(·.caPath)) (by simp [Tls.texts])]
      decide +kernel
    · exact absurd ((tls_determined_iff ran).mp determined) (by decide +kernel)
  · refine Checks.accepts (by decide +kernel) fun cfg ran => ?_
    have read := Wireguard.fromParams_accepted ran
    refine ⟨(Except.ok.inj (Eq.trans (by decide +kernel) read.preshared)).symm,?_,fun determined => ?_⟩
    · rw [read.managed]
      decide +kernel
    · exact absurd ((wg_determined_iff ran).mp determined) (by decide +kernel)

end Scg.Security
