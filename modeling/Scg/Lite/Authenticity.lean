import Scg.Lite.Load
import Scg.Library.Interleave
import Mathlib.Logic.Function.Basic

namespace Scg.Lite
open Checks
open Config (GatewayConfig)
open Interaction (Program Setting Interleaved)
open Json (strAt)

inductive File where
  | defaults | user | defaultsSig | userSig | schema | key
  deriving DecidableEq

-- What a read of a file returns: its bytes or the system's error text.
abbrev Content := Except String (List UInt8)

abbrev Loading (α : Type) := Program File (fun _ => Content) (Except String α)

def orFail {α β : Type} (value : Except String α) (next : α → Loading β) : Loading β :=
  match value with
  | .ok a => next a
  | .error e => .ret (.error e)

def readFile {β : Type} (file : File) (context : String → String) (next : List UInt8 → Loading β) : Loading β :=
  .request file fun reply => orFail (reply.mapError context) next

-- OpenSSL, the JSON parser and the reading of UTF-8. `publicKeyFromPem` also says whether the
-- key is an Ed25519 key.
structure Primitives (Key : Type) where
  publicKeyFromPem : List UInt8 → Except String (Bool × Key)
  newVerifier : Key → Except String Unit
  verifyOneshot : Key → List UInt8 → List UInt8 → Except String Bool
  sha256 : List UInt8 → Except String (List UInt8)
  decodeBlock : String → Except String (List UInt8)
  fromSlice : List UInt8 → Except String Json
  utf8 : List UInt8 → Except String String

-- The paths as they are displayed, whether the key file is there, and what is said about its place.
structure Site where
  display : File → String
  pubkeyOverride : Bool
  keyExists : Bool
  advisories : List String

namespace Primitives
variable {Key : Type} (prim : Primitives Key)

def loadEd25519PublicPem (pem : List UInt8) : Except String Key := do
  let (ed25519,key) ← (prim.publicKeyFromPem pem).mapError fun e => s!"cannot load public key: {e}"
  if ed25519 then return key else throw "public key is not an Ed25519 key"

def verifyEd25519 (key : Key) (msg sig : List UInt8) : Except String Unit := do
  (prim.newVerifier key).mapError fun e => s!"verifier init failed: {e}"
  let ok ← (prim.verifyOneshot key msg sig).mapError fun e => s!"verify error: {e}"
  if ok then return () else throw "signature check FAILED"

def hexByte (byte : UInt8) : List Char := [Nat.digitChar (byte.toNat/16),Nat.digitChar (byte.toNat%16)]

def sha256Hex (data : List UInt8) : Except String String := do
  let digest ← (prim.sha256 data).mapError fun e => s!"sha256 failed: {e}"
  return String.ofList (digest.flatMap hexByte)

-- The signature file is read now, the data was read before.
def verifySignatureBytes {β : Type} (site : Site) (data : List UInt8) (name : String) (sigFile : File) (key : Key)
    (next : Loading β) : Loading β :=
  let missing e := s!"[integrity] signature file not found: {site.display sigFile}: {e}"
  readFile sigFile missing fun bytes =>
  orFail ((prim.utf8 bytes).mapError missing) fun text =>
  orFail ((prim.decodeBlock (Text.trim text)).mapError fun e =>
    s!"[integrity] signature {site.display sigFile} is not valid base64: {e}") fun sig =>
  orFail ((prim.verifyEd25519 key data sig).mapError fun e => s!"[integrity] {e} for {name}") fun _ => next

def resolvePubkey (site : Site) : Except String Unit :=
  if site.keyExists then .ok ()
  else if site.pubkeyOverride then .error s!"[integrity] config public key not found: {site.display .key}"
  else .error "[integrity] no signing public key: pass --config-pubkey or place trust/config-signing.pub.pem in the config dir"

def pinnedSchema (merged : Json) : Option String :=
  ((merged.get "runtime").bind (Json.get "config_manager")).bind (strAt "schema_sha256")

def eqIgnoreAsciiCase (one two : String) : Bool := Text.toAsciiLower one == Text.toAsciiLower two

def verifyIntegrity {β : Type} (site : Site) (defaults user : List UInt8) (merged : Json) (next : Loading β) : Loading β :=
  orFail (resolvePubkey site) fun _ =>
  readFile .key (fun e => s!"[integrity] cannot read public key {site.display .key}: {e}") fun pem =>
  orFail ((prim.loadEd25519PublicPem pem).mapError fun e => s!"[integrity] {e}") fun key =>
  prim.verifySignatureBytes site defaults "scg.defaults.json" .defaultsSig key <|
  prim.verifySignatureBytes site user "scg.user.json" .userSig key <|
  orFail (okOr (pinnedSchema merged) "[integrity] runtime.config_manager.schema_sha256 is missing") fun pinned =>
  readFile .schema (fun e => s!"[integrity] cannot read schema {site.display .schema}: {e}") fun schema =>
  orFail ((prim.sha256Hex schema).mapError fun e => s!"[integrity] {e}") fun actual =>
  orFail (Checks.require (eqIgnoreAsciiCase pinned actual)
    s!"[integrity] schema hash mismatch: pinned {pinned} != actual {actual}") fun _ => next

def readJson {β : Type} (site : Site) (file : File) (next : List UInt8 → Json → Loading β) : Loading β :=
  readFile file (fun e => s!"cannot read {site.display file}: {e}") fun bytes =>
  orFail ((prim.fromSlice bytes).mapError fun e => s!"cannot parse {site.display file}: {e}") fun value =>
  next bytes value

def load (loader : Loader) (site : Site) : Loading (GatewayConfig × List String) :=
  prim.readJson site .defaults fun defaultsBytes defaults =>
  prim.readJson site .user fun userBytes user =>
  let filled := applyTemplates (deepMerge defaults user)
  prim.verifyIntegrity site defaultsBytes userBytes filled.1 <|
  .ret (loadMerged loader ⟨.ok defaults,.ok user,fun _ => .ok (),site.advisories⟩ filled.1 filled.2)

end Primitives

structure Disk where
  files : File → Content
  reads : List (File × Content)

-- The attacker replaces or removes any file but the key, at any point between two reads.
def disk : Setting Disk (File × Content) File (fun _ => Content) where
  perform d file := (d.files file,{d with reads := d.reads ++ [(file,d.files file)]})
  peer d write := if write.1 = .key then none else some {d with files := Function.update d.files write.1 write.2}

section Reads
variable {d after : Disk} {writes : List (File × Content)} {α β : Type}

theorem peers_kept (ran : disk.peers d writes = some after) : after.files .key = d.files .key ∧ after.reads = d.reads := by
  refine Setting.peers_keep (I := fun m => m.files .key = d.files .key ∧ m.reads = d.reads) ?_ ⟨rfl,rfl⟩ ran
  rintro m write next ⟨key,reads⟩ moved
  obtain ⟨other,moved⟩ := Option.ite_none_left_eq_some.mp moved
  cases moved
  exact ⟨(Function.update_of_ne (Ne.symm other) _ _).trans key,reads⟩

variable {value : Except String α}

theorem orFail_ok {next : α → Loading β} (ran : Interleaved disk d (orFail value next) writes after (.ok b)) :
    ∃ a, value = .ok a ∧ Interleaved disk d (next a) writes after (.ok b) := by
  cases value with
  | ok a => exact ⟨a,rfl,ran⟩
  | error e => cases (Interleaved.ret_iff.mp ran).2

theorem mapError_ok {f : String → String} (mapped : value.mapError f = .ok a) : value = .ok a := by
  cases value with
  | ok b => exact mapped
  | error e => cases mapped

theorem readFile_ok {context : String → String} {next : List UInt8 → Loading β}
    (ran : Interleaved disk d (readFile file context next) writes after (.ok b)) :
    ∃ bytes onward rest, onward.files .key = d.files .key ∧ onward.reads = d.reads ++ [(file,.ok bytes)] ∧
      (file = .key → d.files .key = .ok bytes) ∧ Interleaved disk onward (next bytes) rest after (.ok b) := by
  obtain ⟨before,rest,mid,rfl,waited,ran⟩ := Interleaved.request_iff.mp ran
  obtain ⟨bytes,read,ran⟩ := orFail_ok ran
  obtain ⟨key,reads⟩ := peers_kept waited
  have read : mid.files file = .ok bytes := mapError_ok read
  refine ⟨bytes,(disk.perform mid file).2,rest,key,?_,?_,ran⟩
  · change mid.reads ++ [(file,mid.files file)] = _
    rw [reads,read]
  · rintro rfl
    exact key ▸ read

variable {Key : Type} {prim : Primitives Key}

theorem verifyEd25519_ok (passed : prim.verifyEd25519 key msg sig = .ok ()) :
    prim.verifyOneshot key msg sig = .ok true := by
  obtain ⟨_,_,passed⟩ := bind_ok passed
  obtain ⟨ok,verified,passed⟩ := bind_ok passed
  cases ok with
  | true => exact mapError_ok verified
  | false => cases passed

theorem signature_ok
    (ran : Interleaved disk d (prim.verifySignatureBytes site data name sigFile key next) writes after (.ok b)) :
    ∃ sig bytes onward rest, prim.verifyOneshot key data sig = .ok true ∧ onward.files .key = d.files .key ∧
      onward.reads = d.reads ++ [(sigFile,.ok bytes)] ∧ Interleaved disk onward next rest after (.ok b) := by
  obtain ⟨bytes,onward,rest,kept,reads,_,ran⟩ := readFile_ok ran
  obtain ⟨text,_,ran⟩ := orFail_ok ran
  obtain ⟨sig,_,ran⟩ := orFail_ok ran
  obtain ⟨_,passed,ran⟩ := orFail_ok ran
  exact ⟨sig,bytes,onward,rest,verifyEd25519_ok (mapError_ok passed),kept,reads,ran⟩

theorem readJson_ok {next : List UInt8 → Json → Loading β}
    (ran : Interleaved disk d (prim.readJson site file next) writes after (.ok b)) :
    ∃ bytes value onward rest, prim.fromSlice bytes = .ok value ∧ onward.files .key = d.files .key ∧
      onward.reads = d.reads ++ [(file,.ok bytes)] ∧ Interleaved disk onward (next bytes value) rest after (.ok b) := by
  obtain ⟨bytes,onward,rest,kept,reads,_,ran⟩ := readFile_ok ran
  obtain ⟨value,parsed,ran⟩ := orFail_ok ran
  exact ⟨bytes,value,onward,rest,mapError_ok parsed,kept,reads,ran⟩

-- The bytes whose hash is the text, in either case of its letters.
def Matches (prim : Primitives Key) (pinned : String) (bytes : List UInt8) : Prop :=
  ∃ actual, prim.sha256Hex bytes = .ok actual ∧ Primitives.eqIgnoreAsciiCase pinned actual = true

structure Authentic (prim : Primitives Key) (key : Key) (defaults user schema : List UInt8) (merged : Json) : Prop where
  defaults : ∃ sig, prim.verifyOneshot key defaults sig = .ok true
  user : ∃ sig, prim.verifyOneshot key user sig = .ok true
  schema : ∃ pinned, Primitives.pinnedSchema merged = some pinned ∧ Matches prim pinned schema

theorem integrity_ok
    (ran : Interleaved disk d (prim.verifyIntegrity site defaults user merged next) writes after (.ok b)) :
    ∃ pem key schema first second onward rest, d.files .key = .ok pem ∧ prim.loadEd25519PublicPem pem = .ok key ∧
      Authentic prim key defaults user schema merged ∧
      onward.reads = d.reads ++ [(.key,.ok pem),(.defaultsSig,.ok first),(.userSig,.ok second),(.schema,.ok schema)] ∧
      Interleaved disk onward next rest after (.ok b) := by
  obtain ⟨_,_,ran⟩ := orFail_ok ran
  obtain ⟨pem,keyed,_,_,keyReads,held,ran⟩ := readFile_ok ran
  obtain ⟨key,loaded,ran⟩ := orFail_ok ran
  obtain ⟨one,first,signed,_,verified,_,firstReads,ran⟩ := signature_ok ran
  obtain ⟨two,second,both,_,reverified,_,secondReads,ran⟩ := signature_ok ran
  obtain ⟨pinned,given,ran⟩ := orFail_ok ran
  obtain ⟨schema,onward,rest,_,schemaReads,_,ran⟩ := readFile_ok ran
  obtain ⟨actual,hashed,ran⟩ := orFail_ok ran
  obtain ⟨_,matched,ran⟩ := orFail_ok ran
  refine ⟨pem,key,schema,first,second,onward,rest,held rfl,mapError_ok loaded,
    ⟨⟨one,verified⟩,⟨two,reverified⟩,pinned,okOr_ok given,actual,mapError_ok hashed,require_ok matched⟩,?_,ran⟩
  rw [schemaReads,secondReads,firstReads,keyReads]
  simp

theorem hexByte_inj (same : Primitives.hexByte one = Primitives.hexByte two) : one = two := by
  have digit : ∀ m < 16, ∀ n < 16, Nat.digitChar m = Nat.digitChar n → m = n := by decide
  have small := UInt8.toNat_lt one
  have small' := UInt8.toNat_lt two
  obtain ⟨high,low⟩ := List.cons.inj same
  have quotients := digit _ (by omega) _ (by omega) high
  have remainders := digit _ (by omega) _ (by omega) (List.cons.inj low).1
  exact UInt8.toNat_inj.mp (by omega)

theorem hex_inj {one two : List UInt8} (same : one.flatMap Primitives.hexByte = two.flatMap Primitives.hexByte) : one = two := by
  induction one generalizing two with
  | nil =>
    cases two with
    | nil => rfl
    | cons byte two => cases same
  | cons byte one ih =>
    cases two with
    | nil => cases same
    | cons other two =>
      obtain ⟨first,rest⟩ := List.append_inj same rfl
      rw [hexByte_inj first,ih rest]

theorem hex_lower (digest : List UInt8) :
    Text.toAsciiLower (String.ofList (digest.flatMap Primitives.hexByte)) = String.ofList (digest.flatMap Primitives.hexByte) := by
  have digit : ∀ n < 16, (Nat.digitChar n).toLower = Nat.digitChar n := by decide
  have byte (b : UInt8) : (Primitives.hexByte b).map Char.toLower = Primitives.hexByte b := by
    have small := UInt8.toNat_lt b
    simp [Primitives.hexByte,digit (b.toNat/16) (by omega),digit (b.toNat%16) (by omega)]
  rw [Text.toAsciiLower,String.toList_ofList,List.map_flatMap]
  simp only [byte]

theorem matches_unique
    (injective : ∀ one two digest, prim.sha256 one = .ok digest → prim.sha256 two = .ok digest → one = two)
    (first : Matches prim pinned one) (second : Matches prim pinned two) : one = two := by
  obtain ⟨_,hashed,same⟩ := first
  obtain ⟨_,rehashed,again⟩ := second
  obtain ⟨digest,taken,hashed⟩ := bind_ok hashed
  obtain ⟨digest',retaken,rehashed⟩ := bind_ok rehashed
  cases hashed
  cases rehashed
  rw [Primitives.eqIgnoreAsciiCase,beq_iff_eq,hex_lower] at same again
  have digests : digest = digest' := hex_inj (String.ofList_inj.mp (same.symm.trans again))
  exact injective one two digest (mapError_ok taken) (digests ▸ mapError_ok retaken)

theorem load_authentic {Signed : List UInt8 → Prop} {loader : Loader} {site : Site} {config : GatewayConfig}
    {warnings : List String}
    (unforged : ∀ pem key msg sig, d.files .key = .ok pem → prim.loadEd25519PublicPem pem = .ok key →
      prim.verifyOneshot key msg sig = .ok true → Signed msg)
    (injective : ∀ one two digest, prim.sha256 one = .ok digest → prim.sha256 two = .ok digest → one = two)
    (begun : d.reads = []) (ran : Interleaved disk d (prim.load loader site) writes after (.ok (config,warnings))) :
    ∃ defaults user schema layer upper pinned,
      (.defaults,.ok defaults) ∈ after.reads ∧ (.user,.ok user) ∈ after.reads ∧ (.schema,.ok schema) ∈ after.reads ∧
      Signed defaults ∧ Signed user ∧ prim.fromSlice defaults = .ok layer ∧ prim.fromSlice user = .ok upper ∧
      Primitives.pinnedSchema (applyTemplates (deepMerge layer upper)).1 = some pinned ∧ Matches prim pinned schema ∧
      (∀ other, Matches prim pinned other → other = schema) ∧
      loadWithWarnings loader ⟨.ok layer,.ok upper,fun _ => .ok (),site.advisories⟩ = .ok (config,warnings) := by
  obtain ⟨defaults,layer,_,_,parsed,kept,firstReads,ran⟩ := readJson_ok ran
  obtain ⟨user,upper,_,_,parsedUser,keptUser,secondReads,ran⟩ := readJson_ok ran
  obtain ⟨pem,key,schema,_,_,_,_,held,loaded,authentic,lastReads,ran⟩ := integrity_ok ran
  obtain ⟨waited,returned⟩ := Interleaved.ret_iff.mp ran
  obtain ⟨pinned,given,matched⟩ := authentic.schema
  rw [keptUser,kept] at held
  have signed {data : List UInt8} (verified : ∃ sig, prim.verifyOneshot key data sig = .ok true) : Signed data := by
    obtain ⟨sig,verified⟩ := verified
    exact unforged pem key data sig held loaded verified
  have reads := (peers_kept waited).2
  rw [lastReads,secondReads,firstReads,begun] at reads
  refine ⟨defaults,user,schema,layer,upper,pinned,?_,?_,?_,signed authentic.defaults,signed authentic.user,parsed,
    parsedUser,given,matched,fun other also => matches_unique injective also matched,returned.symm⟩
  · simp [reads]
  · simp [reads]
  · simp [reads]

end Reads

def pinningDefaults : Json :=
  .obj [("runtime",.obj [("config_manager",.obj [("schema_sha256",.str "05")])])]

-- Two signed documents, [1] and [2]; the hash of a schema is the schema.
def toyPrimitives : Primitives Unit where
  publicKeyFromPem _ := .ok (true,())
  newVerifier _ := .ok ()
  verifyOneshot _ msg _ := .ok (msg == [1] || msg == [2])
  sha256 data := .ok data
  decodeBlock _ := .ok []
  fromSlice data := .ok (if data = [1] then pinningDefaults else namedConnection "db.local" "db.local")
  utf8 _ := .ok ""

def toySite : Site := ⟨fun _ => "",false,true,[]⟩

def toyDisk : Disk where
  files
    | .defaults => .ok [1]
    | .user => .ok [2]
    | .schema => .ok [5]
    | _ => .ok []
  reads := []

-- The defaults are replaced once they were read.
theorem load_authentic_replaced : ∃ after config warnings defaults user layer upper,
    Interleaved disk toyDisk (toyPrimitives.load plainLoader toySite) [(.defaults,.ok [9])] after (.ok (config,warnings)) ∧
    (defaults = [1] ∨ defaults = [2]) ∧ (user = [1] ∨ user = [2]) ∧
    toyPrimitives.fromSlice defaults = .ok layer ∧ toyPrimitives.fromSlice user = .ok upper ∧
    loadWithWarnings plainLoader ⟨.ok layer,.ok upper,fun _ => .ok (),[]⟩ = .ok (config,warnings) := by
  obtain ⟨after,config,warnings,ran⟩ : ∃ after config warnings, Interleaved disk toyDisk
      (toyPrimitives.load plainLoader toySite) [(.defaults,.ok [9])] after (.ok (config,warnings)) :=
    ⟨_,_,_,.own (.peer rfl (.own (.own (.own (.own (.own (.done _ _)))))))⟩
  have unforged : ∀ pem key msg sig, toyDisk.files .key = .ok pem → toyPrimitives.loadEd25519PublicPem pem = .ok key →
      toyPrimitives.verifyOneshot key msg sig = .ok true → msg = [1] ∨ msg = [2] := by
    rintro _ _ msg _ _ _ verified
    simpa [toyPrimitives] using verified
  obtain ⟨defaults,user,_,layer,upper,_,_,_,_,signed,signed',parsed,parsed',_,_,_,loaded⟩ :=
    load_authentic unforged (fun _ _ _ one two => (Except.ok.inj one).trans (Except.ok.inj two).symm) rfl ran
  exact ⟨after,config,warnings,defaults,user,layer,upper,ran,signed,signed',parsed,parsed',loaded⟩

end Scg.Lite
