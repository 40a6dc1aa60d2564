import Scg.Library.Text

namespace Scg.Tls

inductive VerifyMode where
  | none
  | server
  | mutual
  deriving DecidableEq

def VerifyMode.debug : VerifyMode → String
  | .none => "None"
  | .server => "Server"
  | .mutual => "Mutual"

inductive TlsProfile where
  | default
  | subset146Pki
  | subset146Psk
  | integrityOnly
  deriving DecidableEq

-- Every path comes from the text of a JSON value, so that its display is that text.
structure TlsSecurityParams where
  version : Option String
  profile : TlsProfile
  verify : VerifyMode
  certPath : Option String
  keyPath : Option String
  caPath : Option String
  serverName : Option String
  pskIdentity : Option String
  pskKey : Option (List UInt8)
  cipherList : Option String
  ciphersuites : Option String
  groups : Option String
  resumption : Bool
  deriving DecidableEq

def isAllowedGroup (token : String) : Bool :=
  ["x25519","x448","p-256","prime256v1","secp256r1","p-384","secp384r1"].contains (Text.toAsciiLower token)

def TlsSecurityParams.isTls13 (params : TlsSecurityParams) : Bool := params.version == some "tls1.3"

def groupTokens (groups : String) : List String :=
  (((Text.split ':' groups).flatMap (Text.split ',')).map Text.trim).filter (· ≠ "")

def checkGroups (groups : String) : Except String Unit :=
  let tokens := groupTokens groups
  match tokens.find? fun token => !isAllowedGroup token with
  | some token => .error s!"unsupported key-exchange group '{token}' (allowed: X25519, P-256, P-384, X448)"
  | none => if tokens = [] then .error "groups must list at least one key-exchange group" else .ok ()

def checkPair (params : TlsSecurityParams) : Except String Unit :=
  match params.certPath,params.keyPath with
  | some _,none => .error "cert_path requires key_path"
  | none,some _ => .error "key_path requires cert_path"
  | _,_ => .ok ()

def checkProfile (params : TlsSecurityParams) : Except String Unit :=
  match params.profile with
  | .subset146Psk =>
    if params.pskIdentity.isNone || params.pskKey.isNone then
      .error "subset146-psk profile requires both psk_identity and psk_hex"
    else if params.isTls13 then
      .error "subset146-psk requires TLS 1.2 (PSK-only handshakes were removed in TLS 1.3)"
    else .ok ()
  | .subset146Pki =>
    if params.verify ≠ .mutual then .error "subset146-pki profile requires verify = mutual" else .ok ()
  | .integrityOnly =>
    if params.isTls13 then
      .error "integrity-only requires TLS 1.2 (TLS 1.3 has no NULL/integrity-only cipher suite)"
    else .ok ()
  | .default => .ok ()

def TlsSecurityParams.validate (params : TlsSecurityParams) : Except String Unit := do
  checkPair params
  checkProfile params
  if params.pskKey.isSome && params.profile ≠ .subset146Psk then
    throw "psk_hex/psk_identity are only valid with profile = subset146-psk"
  match params.groups with
  | some groups => checkGroups groups
  | none => return ()

end Scg.Tls
