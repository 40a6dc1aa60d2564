import Scg.Config.Rule
import Scg.Library.Checks
import Scg.Tls.Params

namespace Scg.Tls
open Checks
open Config (Params Value)

def DEFAULT_DTLS_MAX_SESSIONS : Nat := 1024
def DEFAULT_DTLS_IDLE_TTL_SECS : Nat := 60

-- All fields of the source's parameters, with those of the DTLS admission control.
structure SecurityParams extends TlsSecurityParams where
  maxSessions : Nat
  idleTtlSecs : Nat
  deriving DecidableEq

def TlsProfile.parse (s : String) : Except String TlsProfile :=
  if s = "default" then .ok .default
  else if ["subset146-pki","s146-pki","pki"].contains s then .ok .subset146Pki
  else if ["subset146-psk","s146-psk","psk"].contains s then .ok .subset146Psk
  else if ["integrity-only","integrity","null"].contains s then .ok .integrityOnly
  else .error s!"unknown profile '{s}' (expected: default, subset146-pki, subset146-psk, integrity-only)"

def hexVal (b : UInt8) : Except String UInt8 :=
  if 48 ≤ b ∧ b ≤ 57 then .ok (b-48)
  else if 97 ≤ b ∧ b ≤ 102 then .ok (b-97+10)
  else if 65 ≤ b ∧ b ≤ 70 then .ok (b-65+10)
  else
    let other := String.singleton (Char.ofNat b.toNat)
    .error s!"invalid hex digit '{other}'"

def hexBytes : List UInt8 → Except String (List UInt8)
  | hi :: lo :: rest => do
    let hi ← hexVal hi
    let lo ← hexVal lo
    let later ← hexBytes rest
    return (hi <<< 4 ||| lo) :: later
  | _ => .ok []

-- `trim_start_matches("0x")` takes every leading one.
def dropMarks : List Char → List Char
  | '0' :: 'x' :: rest => dropMarks rest
  | text => text

def decodeHex (s : String) : Except String (List UInt8) :=
  let cleaned := String.ofList ((dropMarks (Text.trim s).toList).filter fun c => !Text.isWhiteSpace c)
  let bytes := cleaned.toUTF8.toList
  if bytes = [] then .error "psk_hex is empty"
  else if bytes.length % 2 ≠ 0 then .error "psk_hex must have an even number of hex digits"
  else hexBytes bytes

def getStr (params : Params) (key : String) : Option String := (params.lookup key).bind Value.asStr

def profileOf : Option String → Except String TlsProfile
  | some s => TlsProfile.parse s
  | none => .ok .default

-- An explicit `verify` wins; two profiles have a safe default, the others none.
def verifyMode (profile : TlsProfile) : Option String → Except String VerifyMode
  | some "none" => .ok .none
  | some "server" => .ok .server
  | some "mutual" | some "mtls" => .ok .mutual
  | some other => .error s!"unknown verify mode '{other}' (expected: none, server, mutual)"
  | none =>
    match profile with
    | .subset146Pki => .ok .mutual
    | .integrityOnly => .ok .server
    | .subset146Psk | .default =>
      .error ("verify mode must be set explicitly (expected: none, server, mutual); " ++
        "omitting it would silently disable peer verification")

def boolParam : Value → Option Bool
  | .bool b => some b
  | .str "true" => some true
  | .str "false" => some false
  | _ => none

def countParam (value : Value) : Option Nat :=
  (value.asU64 <|> value.asStr.bind fun s => (Text.parseUnsigned (2^64) s).toOption).filter (0 < ·)

-- A member that has a default and is refused when it is there and unreadable.
def readParam (params : Params) (key : String) (absent : α) (read : Value → Option α) (text : String) :
    Except String α :=
  match params.lookup key with
  | none => .ok absent
  | some value =>
    match read value with
    | some a => .ok a
    | none => .error text

def fromParams (params : Params) (protocolVersion : Option String) : Except String SecurityParams := do
  let profile ← profileOf (getStr params "profile")
  let verify ← verifyMode profile (getStr params "verify")
  let pskKey ← (getStr params "psk_hex").mapM decodeHex
  let resumption ← readParam params "resumption" false boolParam "resumption must be a boolean (true/false)"
  let maxSessions ← readParam params "max_sessions" DEFAULT_DTLS_MAX_SESSIONS countParam
    "max_sessions must be a positive integer"
  let idleTtlSecs ← readParam params "idle_ttl_secs" DEFAULT_DTLS_IDLE_TTL_SECS countParam
    "idle_ttl_secs must be a positive integer"
  let parsed : SecurityParams := {
    version := protocolVersion
    profile := profile
    verify := verify
    certPath := getStr params "cert_path"
    keyPath := getStr params "key_path"
    caPath := getStr params "ca_path"
    serverName := getStr params "server_name"
    pskIdentity := getStr params "psk_identity"
    pskKey := pskKey
    cipherList := getStr params "cipher_list"
    ciphersuites := getStr params "ciphersuites"
    groups := getStr params "groups"
    resumption := resumption
    maxSessions := maxSessions
    idleTtlSecs := idleTtlSecs}
  parsed.validate
  return parsed

def isKtlsOffloadable (params : TlsSecurityParams) : Bool := params.profile != .integrityOnly

-- The host of `HOST:PORT`, an IPv6 literal without its brackets.
def hostOf (addr : String) : Option String :=
  let addr := Text.trim addr
  if addr = "" ∨ addr = "auto" then none
  else
    let literal :=
      match addr.toList with
      | '[' :: rest => (Text.splitFirst ']' rest).map fun (host,_) => String.ofList host
      | _ => none
    match literal with
    | some host => some host
    | none =>
      match Text.rsplitOnce ':' addr with
      | some (host,_) => if host ≠ "" then some host else some addr
      | none => some addr

def TlsSecurityParams.sniName (params : TlsSecurityParams) (upstreamAddr : String) : String :=
  match params.serverName with
  | some name => name
  | none => (hostOf upstreamAddr).getD "gateway"

-- The members handed on as they are written.
def texts : List (String × (SecurityParams → Option String)) :=
  [("cert_path",(·.certPath)),("key_path",(·.keyPath)),("ca_path",(·.caPath)),("server_name",(·.serverName)),
    ("psk_identity",(·.pskIdentity)),("cipher_list",(·.cipherList)),("ciphersuites",(·.ciphersuites)),("groups",(·.groups))]

structure ReadFrom (params : Params) (parsed : SecurityParams) : Prop where
  profile : profileOf (getStr params "profile") = .ok parsed.profile
  verify : verifyMode parsed.profile (getStr params "verify") = .ok parsed.verify
  psk : (getStr params "psk_hex").mapM decodeHex = .ok parsed.pskKey
  texts : ∀ entry ∈ texts, entry.2 parsed = getStr params entry.1

theorem fromParams_reads
    (ran : fromParams params version = .ok parsed) : ReadFrom params parsed := by
  obtain ⟨profile,read,ran⟩ := bind_ok ran
  obtain ⟨verify,checked,ran⟩ := bind_ok ran
  obtain ⟨pskKey,decoded,ran⟩ := bind_ok ran
  obtain ⟨resumption,_,ran⟩ := bind_ok ran
  obtain ⟨maxSessions,_,ran⟩ := bind_ok ran
  obtain ⟨idleTtlSecs,_,ran⟩ := bind_ok ran
  obtain ⟨_,_,ran⟩ := bind_ok ran
  cases ran
  exact ⟨read,checked,decoded,by simp [texts]⟩

theorem fromParams_serverName
    (ran : fromParams params version = .ok parsed) : parsed.serverName = getStr params "server_name" :=
  (fromParams_reads ran).texts ("server_name",(·.serverName)) (by simp [texts])

end Scg.Tls
