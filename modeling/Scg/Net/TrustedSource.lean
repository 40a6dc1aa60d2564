import Scg.Net.Literals
import Scg.Tls.Groups
import Scg.Tls.FromParams

namespace Scg.Net
open Text List Option

def IpAddr.isLoopback : IpAddr → Bool
  | .v4 bits => bits >>> 24 == 127
  | .v6 bits => bits == 1

def IpAddr.fullPrefix : IpAddr → String
  | .v4 _ => "32"
  | .v6 _ => "128"

def cidrIsWide (std : Std) (ipStr prefixStr : String) : Bool :=
  match std.parseIp (trim ipStr) with
  | .ok ip => if trim prefixStr = ip.fullPrefix then !ip.isLoopback else true
  | .error _ => true

def hostIsWide (std : Std) (host : String) : Bool :=
  if toAsciiLower host = "localhost" then false
  else
    match std.parseIp host with
    | .ok ip => !ip.isLoopback
    | .error _ => true

def isWideUntrustedSource (std : Std) (source : String) : Bool :=
  let s := trim source
  if toAsciiLower s = "any" ∨ s = "*" then true
  else
    match splitOnce '/' s with
    | some (ipStr,prefixStr) => cidrIsWide std ipStr prefixStr
    | none => hostIsWide std ((Tls.hostOf s).getD s)

theorem dropWhile_prefix_kept {l front : List Char} {p : Char → Bool} (starts : front <+: l.dropWhile p) :
    front.dropWhile p = front := by
  cases front with
  | nil => rfl
  | cons c front =>
    obtain ⟨rest,whole⟩ := starts
    have here : p c = false := by
      have head := head?_dropWhile_not p l
      rw [← whole] at head
      simpa using head
    rw [dropWhile_cons,here]
    rfl

theorem trim_trim (s : String) : trim (trim s) = trim s := by
  have shape : trim s = String.ofList ((s.toList.dropWhile isWhiteSpace).rdropWhile isWhiteSpace) := rfl
  rw [shape,Tls.trim_same]
  exact ⟨dropWhile_prefix_kept ( rdropWhile_prefix _ _),rdropWhile_idempotent _ _⟩

theorem splitFirst_here (plain : sep ∉ front) : splitFirst sep (front ++ sep :: rest) = some (front,rest) := by
  induction front with
  | nil => exact if_pos rfl
  | cons c front ih =>
    rw [mem_cons,not_or] at plain
    rw [cons_append,splitFirst,if_neg (Ne.symm plain.1),ih plain.2]
    rfl

theorem rsplitOnce_here (shape : s.toList = front ++ sep :: rest)
    (plain : sep ∉ rest) : rsplitOnce sep s = some (String.ofList front,String.ofList rest) := by
  rw [rsplitOnce,shape]
  simp [splitFirst_here (mem_reverse.not.mpr plain)]

open Literals Std.Reading

def Clear (c : Char) : Prop := isWhiteSpace c = false ∧ c ≠ '*' ∧ c.toLower ≠ 'n'

instance (c : Char) : Decidable (Clear c) := inferInstanceAs (Decidable (_ ∧ _))

theorem inIpv6_clear (inside : InIpv6 c) : Clear c ∧ c ≠ '/' ∧ c ≠ '[' ∧ c ≠ ']' ∧ c.toLower ≠ 'l' := by
  have each : ∀ n < 128, Scan.isDigitOf 16 (Char.ofNat n) = true ∨ n = 46 ∨ n = 58 → Clear (Char.ofNat n) ∧
      Char.ofNat n ≠ '/' ∧ Char.ofNat n ≠ '[' ∧ Char.ofNat n ≠ ']' ∧ (Char.ofNat n).toLower ≠ 'l' := by decide +kernel
  have small : c.toNat < 128 := by
    rcases inside with digit | rfl | rfl
    · by_contra large
      have none : Scan.digitValue c = .none := by
        simp only [Scan.digitValue]
        rw [if_neg (by omega),if_neg (by omega),if_neg (by omega)]
      simp [Scan.isDigitOf,none] at digit
    · decide
    · decide
  rw [← Char.ofNat_toNat c]
  refine each c.toNat small ?_
  rw [Char.ofNat_toNat]
  exact inside.imp_right (Or.imp (congrArg Char.toNat) (congrArg Char.toNat))

theorem mem_lower (same : toAsciiLower s = word) (present : c ∈ word.toList) : ∃ d ∈ s.toList, d.toLower = c := by
  rw [← same,toAsciiLower,String.toList_ofList] at present
  exact mem_map.mp present

section Wide
variable {text : String}

theorem splitOnce_none (absent : sep ∉ s.toList) : splitOnce sep s = none := by
  have nothing : splitFirst sep s.toList = none := by
    by_contra found
    exact absent (splitFirst_mem found)
  rw [splitOnce,nothing]
  rfl

structure Inside (s : String) : Prop where
  clear : ∀ c ∈ s.toList, Clear c
  whole : splitOnce '/' s = none
  opening : '[' ∉ s.toList
  closing : ']' ∉ s.toList
  named : toAsciiLower s ≠ "localhost"

theorem inside_of (inside : ∀ c ∈ s.toList, InIpv6 c) : Inside s where
  clear c present := (inIpv6_clear (inside c present)).1
  whole := splitOnce_none fun present => (inIpv6_clear (inside _ present)).2.1 rfl
  opening present := (inIpv6_clear (inside _ present)).2.2.1 rfl
  closing present := (inIpv6_clear (inside _ present)).2.2.2.1 rfl
  named same := by
    obtain ⟨c,present,lower⟩ := mem_lower same (by decide : 'l' ∈ "localhost".toList)
    exact (inIpv6_clear (inside c present)).2.2.2.2 lower

theorem literal_inside (parsed : Std.reading.parseIp s = .ok ip) : Inside s := inside_of (ip_characters parsed)

theorem clear_trimmed (clear : ∀ c ∈ s.toList, Clear c) : trim s = s := trim_visible fun c present => (clear c present).1

theorem wide_trim (std : Std) : isWideUntrustedSource std (trim text) = isWideUntrustedSource std text := by
  simp only [isWideUntrustedSource,trim_trim]

theorem wide_clear (clear : ∀ c ∈ s.toList, Clear c) : isWideUntrustedSource std s =
    match splitOnce '/' s with
    | some (ipStr,prefixStr) => cidrIsWide std ipStr prefixStr
    | none => hostIsWide std ((Tls.hostOf s).getD s) := by
  have named : ¬ (toAsciiLower s = "any" ∨ s = "*") := by
    rintro (same | rfl)
    · obtain ⟨c,present,lower⟩ := mem_lower same (by decide : 'n' ∈ "any".toList)
      exact (clear c present).2.2 lower
    · exact (clear '*' (by decide)).2.1 rfl
  simp only [isWideUntrustedSource,clear_trimmed clear,if_neg named]

theorem wide_literal (clear : ∀ c ∈ s.toList, Clear c) (whole : splitOnce '/' s = none)
    (found : (Tls.hostOf s).getD s = host) (parsed : Std.reading.parseIp host = .ok ip) :
    isWideUntrustedSource .reading s = !ip.isLoopback := by
  rw [wide_clear clear,whole,found,hostIsWide,if_neg (literal_inside parsed).named,parsed]

theorem hostIsWide_false (named : toAsciiLower host ≠ "localhost") :
    hostIsWide std host = false ↔ ∃ ip, std.parseIp host = .ok ip ∧ ip.isLoopback = true := by
  rw [hostIsWide,if_neg named]
  cases std.parseIp host <;> simp

theorem hostOf_cut {after : String} (trimmed : trim s = s) (bracket : '[' ∉ s.toList)
    (cut : rsplitOnce ':' s = some (host,after)) (nonempty : host ≠ "") : Tls.hostOf s = some host := by
  have special : ¬ (s = "" ∨ s = "auto") := by rintro (rfl | rfl) <;> cases cut
  simp only [Tls.hostOf,trimmed,if_neg special,cut,if_pos nonempty]
  split
  · rename_i found
    split at found
    · rename_i shape
      exact absurd (shape ▸ mem_cons_self) bracket
    · cases found
  · rfl

theorem hostOf_whole (trimmed : trim s = s) (bracket : '[' ∉ s.toList) (whole : rsplitOnce ':' s = none) :
    (Tls.hostOf s).getD s = s := by
  simp only [Tls.hostOf,trimmed,whole]
  split_ifs
  · rfl
  · split
    · rename_i found
      split at found
      · rename_i shape
        exact absurd (shape ▸ mem_cons_self) bracket
      · cases found
    · rfl

theorem hostOf_bracket (trimmed : trim s = s) (shape : s.toList = '[' :: (host.toList ++ ']' :: rest))
    (plain : ']' ∉ host.toList) : Tls.hostOf s = some host := by
  have special : ¬ (s = "" ∨ s = "auto") := by rintro (rfl | rfl) <;> cases shape
  simp [Tls.hostOf,trimmed,special,shape,splitFirst_here plain]variable {ip : IpAddr} {bits : BitVec 128} {bits4 : BitVec 32} {port : List Char}

theorem digit_inIpv6 {port : List Char} (digits : ∀ c ∈ port, Scan.isDigitOf 10 c = true) : ∀ c ∈ port, InIpv6 c :=
  fun c present => inIpv4_inIpv6 (.inl (digits c present))

theorem wide_v4 (parsed : Std.reading.parseIp s = .ok (.v4 bits4)) :
    isWideUntrustedSource .reading s = !(IpAddr.v4 bits4).isLoopback := by
  have inside := literal_inside parsed
  have colon : rsplitOnce ':' s = none := by
    by_contra found
    obtain ⟨_,other⟩ := (colon_iff parsed).mp (rsplitOnce_mem found)
    cases other
  exact wide_literal inside.clear inside.whole (hostOf_whole (clear_trimmed inside.clear) inside.opening colon) parsed

theorem wide_v4_port {port : List Char} (shape : s.toList = host.toList ++ ':' :: port) (digits : ∀ c ∈ port, Scan.isDigitOf 10 c = true)
    (parsed : Std.reading.parseIp host = .ok (.v4 bits4)) :
    isWideUntrustedSource .reading s = !(IpAddr.v4 bits4).isLoopback := by
  have inside : Inside s := inside_of (by
    rw [shape]
    exact forall_mem_append.mpr
      ⟨ip_characters parsed,forall_mem_cons.mpr ⟨.inr (.inr rfl),digit_inIpv6 digits⟩⟩)
  have cut := rsplitOnce_here shape fun present => absurd (digits ':' present) (by decide)
  rw [String.ofList_toList] at cut
  have nonempty : host ≠ "" := by
    rintro rfl
    cases parsed
  have found := hostOf_cut (clear_trimmed inside.clear) inside.opening cut nonempty
  exact wide_literal inside.clear inside.whole (by rw [found]; rfl) parsed

theorem wide_v6_port {port : List Char} (shape : s.toList = '[' :: (host.toList ++ ']' :: ':' :: port))
    (digits : ∀ c ∈ port, Scan.isDigitOf 10 c = true) (parsed : Std.reading.parseIp host = .ok ip) :
    isWideUntrustedSource .reading s = !ip.isLoopback := by
  have every : ∀ c ∈ s.toList, Clear c ∧ c ≠ '/' := by
    have address {l : List Char} (inside : ∀ c ∈ l, InIpv6 c) : ∀ c ∈ l, Clear c ∧ c ≠ '/' :=
      fun c present => ⟨(inIpv6_clear (inside c present)).1,(inIpv6_clear (inside c present)).2.1⟩
    simp only [shape,forall_mem_cons,forall_mem_append]
    exact ⟨by decide,address (ip_characters parsed),by decide,by decide,address (digit_inIpv6 digits)⟩
  have clear : ∀ c ∈ s.toList, Clear c := fun c present => (every c present).1
  have found := hostOf_bracket (clear_trimmed clear) shape (literal_inside parsed).closing
  exact wide_literal clear (splitOnce_none fun present => (every _ present).2 rfl) (by rw [found]; rfl) parsed

theorem wide_cidr (shape : s.toList = host.toList ++ '/' :: ip.fullPrefix.toList)
    (parsed : Std.reading.parseIp host = .ok ip) : isWideUntrustedSource .reading s = !ip.isLoopback := by
  have literal := (literal_inside parsed).clear
  have width : ∀ c ∈ ip.fullPrefix.toList, Clear c := by
    have each : (∀ c ∈ "32".toList, Clear c) ∧ ∀ c ∈ "128".toList, Clear c := by simp [Clear]; decide
    cases ip with
    | v4 bits => exact each.1
    | v6 bits => exact each.2
  have clear : ∀ c ∈ s.toList, Clear c := by
    simp only [shape,forall_mem_append,forall_mem_cons]
    exact ⟨literal,by decide,width⟩
  have cut : splitOnce '/' s = some (host,ip.fullPrefix) := by
    rw [splitOnce,shape,splitFirst_here fun present => (inIpv6_clear (ip_characters parsed _ present)).2.1 rfl]
    simp
  rw [wide_clear clear,cut]
  simp only [cidrIsWide,clear_trimmed literal,clear_trimmed width,parsed,if_true]

-- The text before the last colon is a loopback literal.
def Before (s : String) : Prop :=
  ∃ before after ip, rsplitOnce ':' s = some (before,after) ∧ Std.reading.parseIp before = .ok ip ∧ ip.isLoopback = true

theorem lone_colon {after : List Char} (plain : ':' ∉ after) : readIpv6 (':' :: after) = none := by
  have nothing : readGroups 0 8 (':' :: after) = some (([],false),':' :: after) := rfl
  rw [readIpv6,Scan.bind_some nothing]
  exact Scan.bind_none (Scan.char_absent plain)

theorem wide_v6 (parsed : Std.reading.parseIp s = .ok (.v6 bits)) :
    isWideUntrustedSource .reading s = false ↔ Before s := by
  have inside := literal_inside parsed
  have colon : ':' ∈ s.toList.reverse := mem_reverse.mpr ((colon_iff parsed).mpr ⟨bits,rfl⟩)
  obtain ⟨after,before,shape,plain⟩ := eq_append_cons_of_mem colon
  have shape : s.toList = before.reverse ++ ':' :: after.reverse := by
    rw [← reverse_reverse s.toList,shape]
    simp
  have cut := rsplitOnce_here shape (mem_reverse.not.mpr plain)
  have nonempty : String.ofList before.reverse ≠ "" := by
    intro empty
    rw [String.ofList_eq_empty_iff.mp empty] at shape
    have read := parseIp_v6 parsed
    rw [shape,nil_append,lone_colon (mem_reverse.not.mpr plain)] at read
    cases read
  have part := inside_of fun c present => by
    rw [String.toList_ofList] at present
    exact ip_characters parsed c (shape ▸ mem_append_left _ present)
  rw [wide_clear inside.clear,inside.whole,hostOf_cut (clear_trimmed inside.clear) inside.opening cut nonempty,
    getD_some,hostIsWide_false part.named,Before,cut]
  simp

theorem loopback_canonical (loopback : ip.isLoopback = true) : ip.toCanonical = ip := by
  cases ip with
  | v4 bits => rfl
  | v6 bits =>
    rw [eq_of_beq loopback]
    rfl

theorem trusted_cut (trimmed : trim s = s) (trusted : isWideUntrustedSource .reading s = false) :
    (∀ ipStr prefixStr, splitOnce '/' s = some (ipStr,prefixStr) → cidrIsWide .reading ipStr prefixStr = false) ∧
      (splitOnce '/' s = none → hostIsWide .reading ((Tls.hostOf s).getD s) = false) := by
  simp only [isWideUntrustedSource,trimmed] at trusted
  split at trusted
  · cases trusted
  · constructor
    · intro ipStr prefixStr cut
      simpa only [cut] using trusted
    · intro whole
      simpa only [whole] using trusted

theorem cidr_sound (parsed : Std.reading.parseIp ipStr = .ok ip)
    (read : parseUnsigned 256 prefixStr = .ok n) (trusted : cidrIsWide .reading ipStr prefixStr = false) :
    n = ip.width ∧ ip.isLoopback = true := by
  have literal : trim ipStr = ipStr := clear_trimmed (literal_inside parsed).clear
  have digits := trim_visible fun c present => by
    rcases parseUnsigned_characters read c present with digit | rfl
    · exact (inIpv6_clear (inIpv4_inIpv6 (.inl (Scan.isDigitOf_isDigit digit)))).1.1
    · decide
  simp only [cidrIsWide,literal,parsed,digits] at trusted
  split at trusted
  · rename_i full
    refine ⟨?_,by simpa using trusted⟩
    have widths : parseUnsigned 256 "32" = .ok 32 ∧ parseUnsigned 256 "128" = .ok 128 := by decide +kernel
    cases ip with
    | v4 bits => exact Except.ok.inj ((full ▸ read).symm.trans widths.1)
    | v6 bits => exact Except.ok.inj ((full ▸ read).symm.trans widths.2)
  · cases trusted

theorem char_some {text rest : List Char} (read : Scan.char c text = some (u,rest)) : text = c :: rest := by
  cases text with
  | nil => cases read
  | cons x text =>
    rw [Scan.char] at read
    split at read <;> cases read
    rename_i same
    rw [same]

theorem exact_sound (trimmed : trim s = s) (whole : splitOnce '/' s = none)
    (parsed : Std.reading.parseSocket s = .ok addr) (trusted : isWideUntrustedSource .reading s = false) :
    addr.ip.isLoopback = true := by
  have read : readSocket s.toList = some (addr,[]) := by
    unfold Std.reading at parsed
    dsimp only at parsed
    split at parsed <;> cases parsed
    rename_i read
    exact Scan.whole_some read
  rcases Scan.orElse_eq_some.mp read with v4 | ⟨_,v6⟩
  · obtain ⟨bits,left,address,v4⟩ := Scan.bind_eq_some.mp v4
    obtain ⟨n,rest,ported,made⟩ := Scan.bind_eq_some.mp v4
    cases made
    obtain ⟨_,digits,colon,number⟩ := Scan.bind_eq_some.mp ported
    obtain ⟨used,shape,inside⟩ := readIpv4_takes _ _ _ address
    obtain ⟨port,ends,decimal⟩ := Scan.takes_number _ _ _ number
    rw [append_nil] at ends
    subst ends
    rw [char_some colon] at shape address
    have outside : ¬ InIpv4 ':' := by unfold InIpv4; decide
    have free : ':' ∉ used := fun present => outside (inside ':' present)
    rw [shape,readIpv4_halts outside used digits free] at address
    obtain ⟨⟨_,left⟩,alone,made⟩ := map_eq_some_iff.mp address
    obtain ⟨same,tail⟩ := Prod.mk.inj made
    rw [append_left_eq_self.mp tail,show _ = bits from same] at alone
    have literal : Std.reading.parseIp (String.ofList used) = .ok (.v4 bits) := by
      simp [Std.reading,Scan.whole,readIp,Scan.orElse,Scan.bind,alone,Scan.pure]
    rw [← @String.toList_ofList used] at shape
    rw [wide_v4_port shape decimal literal] at trusted
    have loopback : (IpAddr.v4 bits).isLoopback = true := by simpa using trusted
    exact loopback
  · obtain ⟨_,rest,opened,v6⟩ := Scan.bind_eq_some.mp v6
    obtain ⟨bits,left,address,v6⟩ := Scan.bind_eq_some.mp v6
    obtain ⟨scope,closing,further,v6⟩ := Scan.bind_eq_some.mp v6
    obtain ⟨_,last,closed,v6⟩ := Scan.bind_eq_some.mp v6
    obtain ⟨n,_,_,made⟩ := Scan.bind_eq_some.mp v6
    cases made
    have anything : Scan.Takes (fun _ => True) readScope :=
      Scan.takes_orElse (Scan.takes_bind (Scan.takes_char trivial) fun _ => Scan.takes_number.mono fun _ _ => trivial)
        (Scan.takes_pure _)
    obtain ⟨used,split,_⟩ := readIpv6_takes _ _ _ address
    obtain ⟨more,split',_⟩ := anything _ _ _ further
    have bracket : ']' ∈ rest := by
      rw [split,split',char_some closed]
      simp
    obtain ⟨host,tail,shape,plain⟩ := eq_append_cons_of_mem bracket
    have outside : ¬ InIpv6 ']' := by unfold InIpv6; decide
    rw [shape,readIpv6_halts outside host tail plain] at address
    obtain ⟨⟨_,remains⟩,alone,made⟩ := map_eq_some_iff.mp address
    obtain ⟨rfl,_⟩ := Prod.mk.inj made
    have colon : ':' ∈ host := by
      by_contra free
      rw [readIpv6_needs_colon free] at alone
      cases alone
    have opening := char_some opened
    rw [shape] at opening
    rw [← @String.toList_ofList host] at opening plain colon alone
    have believed := (trusted_cut trimmed trusted).2 whole
    rw [hostOf_bracket trimmed opening plain] at believed
    have named : toAsciiLower (String.ofList host) ≠ "localhost" := by
      intro same
      have present := mem_toAsciiLower colon
      rw [same] at present
      revert present
      decide
    obtain ⟨ip,literal,loopback⟩ := (hostIsWide_false named).mp believed
    obtain ⟨bits',rfl⟩ := (colon_iff literal).mp colon
    rw [parseIp_v6 literal] at alone
    cases alone
    exact loopback

-- A literal before a port, an IPv6 literal in brackets.
def withPort (host : String) (port : String) : IpAddr → String
  | .v4 _ => host ++ ":" ++ port
  | .v6 _ => "[" ++ host ++ "]:" ++ port

def LoopbackText (s : String) : Prop :=
  ∃ host ip, Std.reading.parseIp host = .ok ip ∧ ip.isLoopback = true ∧
    (s = host ∨ (∃ port, (∀ c ∈ port.toList, c.isDigit = true) ∧ s = withPort host port ip) ∨ s = host ++ "/" ++ ip.fullPrefix)

structure TrustExact (text : String) (pattern : AddressPattern) : Prop where
  sound : isWideUntrustedSource .reading text = false →
    ∀ addr, pattern.matchesAddr addr = true → addr.ip.toCanonical.isLoopback = true
  complete : LoopbackText (trim text) → isWideUntrustedSource .reading text = false

def Unambiguous (s : String) : Prop :=
  ∀ bits, Std.reading.parseIp s = .ok (.v6 bits) →
    (Before s → (IpAddr.v6 bits).toCanonical.isLoopback = true) ∧ ((IpAddr.v6 bits).isLoopback = true → Before s)

theorem loopbackText_trusted (form : LoopbackText s) : isWideUntrustedSource .reading s = false ∨
    ∃ bits, Std.reading.parseIp s = .ok (.v6 bits) ∧ (IpAddr.v6 bits).isLoopback = true := by
  obtain ⟨host,ip,parsed,loopback,rfl | ⟨port,digits,rfl⟩ | rfl⟩ := form
  · cases ip with
    | v4 bits => exact .inl (by rw [wide_v4 parsed,loopback]; rfl)
    | v6 bits => exact .inr ⟨bits,parsed,loopback⟩
  · have decimal : ∀ c ∈ port.toList, Scan.isDigitOf 10 c = true := fun c present => Scan.isDigitOf_isDigit (digits c present)
    left
    cases ip with
    | v4 bits => rw [wide_v4_port (by simp [withPort]) decimal parsed,loopback]; rfl
    | v6 bits => rw [wide_v6_port (by simp [withPort]) decimal parsed,loopback]; rfl
  · exact .inl (by rw [wide_cidr (by simp) parsed,loopback]; rfl)

theorem parse_v6 (parsed : Std.reading.parseIp s = .ok (.v6 bits)) :
    AddressPattern.parse .reading s = .ok (.ipOnly (.v6 bits)) := by
  have inside := literal_inside parsed
  have named : s ≠ "any" := by
    rintro rfl
    cases parsed
  have socket : Std.reading.parseSocket s = .error "invalid socket address syntax" := by
    have unread : readSocket s.toList = none := by
      rcases Scan.orElse_eq_some.mp (parseIp_ok parsed) with v4 | ⟨v4,_⟩
      · obtain ⟨_,_,_,made⟩ := Scan.bind_eq_some.mp v4
        cases made
      · have four : readIpv4 s.toList = none := by
          cases read : readIpv4 s.toList with
          | none => rfl
          | some found => rw [Scan.bind,read] at v4; cases v4
        have plain : readSocketV4 s.toList = none := Scan.bind_none four
        rw [readSocket,Scan.orElse_none plain]
        exact Scan.bind_none (Scan.char_absent inside.opening)
    simp [Std.reading,Scan.whole,unread]
  simp only [AddressPattern.parse,clear_trimmed inside.clear,if_neg named,inside.whole,socket,parsed]

theorem masked {one two : BitVec w}
    (same : (one &&& AddressPattern.mask w w == two &&& AddressPattern.mask w w) = true) : one = two := by
  have full : AddressPattern.mask w w = BitVec.allOnes w := by simp [AddressPattern.mask]
  rw [full,BitVec.and_allOnes,BitVec.and_allOnes] at same
  exact eq_of_beq same

theorem cidr_full {addr : IpAddr} (contains : AddressPattern.cidrContains ip ip.width addr = true) : addr = ip := by
  cases ip with
  | v4 bits =>
    cases addr with
    | v4 other => exact congrArg IpAddr.v4 (masked contains).symm
    | v6 other => cases contains
  | v6 bits =>
    cases addr with
    | v4 other => cases contains
    | v6 other => exact congrArg IpAddr.v6 (masked contains).symm

theorem pattern_sound (trimmed : trim s = s) (accepted : AddressPattern.parse .reading s = .ok pattern)
    (single : ∀ bits, Std.reading.parseIp s ≠ .ok (.v6 bits)) (trusted : isWideUntrustedSource .reading s = false)
    (addr : SocketAddr) (matched : pattern.matchesAddr addr = true) : addr.ip.toCanonical.isLoopback = true := by
  have cut := trusted_cut trimmed trusted
  simp only [AddressPattern.parse,trimmed] at accepted
  split at accepted
  · rename_i any
    rw [any] at trusted
    cases trusted
  · split at accepted
    · rename_i ipStr prefixStr pieces
      split at accepted
      · cases accepted
      · rename_i parsed
        split at accepted
        · cases accepted
        · rename_i read
          split at accepted <;> cases accepted
          obtain ⟨rfl,loopback⟩ := cidr_sound parsed read (cut.1 _ _ pieces)
          rwa [cidr_full matched]
    · rename_i whole
      split at accepted
      · rename_i parsed
        cases accepted
        have loopback := exact_sound trimmed whole parsed trusted
        have same := eq_of_beq (Bool.and_eq_true_iff.mp matched).1
        rwa [same,loopback_canonical loopback]
      · split at accepted <;> cases accepted
        rename_i ip parsed
        cases ip with
        | v4 bits =>
          rw [wide_v4 parsed] at trusted
          rw [eq_of_beq matched]
          have loopback : (IpAddr.v4 bits).isLoopback = true := by simpa using trusted
          exact loopback
        | v6 bits => exact absurd parsed (single bits)

theorem trusted_source_iff {pattern : AddressPattern} (accepted : AddressPattern.parse .reading text = .ok pattern) :
    TrustExact text pattern ↔ Unambiguous (trim text) := by
  have accepted : AddressPattern.parse .reading (trim text) = .ok pattern := by
    rw [← accepted]
    simp only [AddressPattern.parse,trim_trim]
  by_cases literal : ∃ bits, Std.reading.parseIp (trim text) = .ok (.v6 bits)
  · obtain ⟨bits,parsed⟩ := literal
    have wide := wide_v6 parsed
    rw [wide_trim] at wide
    rw [parse_v6 parsed] at accepted
    cases accepted
    constructor
    · rintro exact other again
      cases parsed.symm.trans again
      refine ⟨fun before => ?_,fun loopback => ?_⟩
      · exact exact.sound (wide.mpr before) (.v6 bits 0 0 0) (beq_self_eq_true _)
      · exact wide.mp (exact.complete ⟨_,_,parsed,loopback,.inl rfl⟩)
    · intro clear
      obtain ⟨early,late⟩ := clear bits parsed
      refine ⟨fun trusted addr matched => ?_,fun form => wide.mpr ?_⟩
      · rw [eq_of_beq matched]
        exact early (wide.mp trusted)
      · rcases loopbackText_trusted form with trusted | ⟨bits',again,loopback⟩
        · rw [wide_trim] at trusted
          exact wide.mp trusted
        · cases parsed.symm.trans again
          exact late loopback
  · refine iff_of_true ⟨fun trusted addr matched => ?_,fun form => ?_⟩ fun bits parsed => absurd ⟨bits,parsed⟩ literal
    · refine pattern_sound (trim_trim text) accepted (fun bits parsed => literal ⟨bits,parsed⟩) ?_ addr matched
      rw [wide_trim]
      exact trusted
    · rcases loopbackText_trusted form with trusted | ⟨bits,parsed,_⟩
      · rwa [wide_trim] at trusted
      · exact absurd ⟨bits,parsed⟩ literal

theorem trusted_source_v4 : ∃ pattern, AddressPattern.parse .reading "127.0.0.1:80" = .ok pattern ∧
    isWideUntrustedSource .reading "127.0.0.1:80" = false ∧ TrustExact "127.0.0.1:80" pattern := by
  have accepted : AddressPattern.parse .reading "127.0.0.1:80" = .ok (.exact (.v4 0x7f000001 80)) := by decide +kernel
  have other : Std.reading.parseIp (trim "127.0.0.1:80") = .error "invalid IP address syntax" := by decide +kernel
  refine ⟨_,accepted,by decide +kernel,(trusted_source_iff accepted).mpr fun bits parsed => ?_⟩
  cases other.symm.trans parsed

-- The last group of a bare IPv6 literal is taken for a port: `::1:5` counts as loopback, `::1` does not.
theorem bare_literal_misread :
    (∃ pattern addr, AddressPattern.parse .reading "::1:5" = .ok pattern ∧
      isWideUntrustedSource .reading "::1:5" = false ∧ pattern.matchesAddr addr = true ∧
      addr.ip.toCanonical.isLoopback = false ∧ ¬ TrustExact "::1:5" pattern) ∧
    ∃ pattern, AddressPattern.parse .reading "::1" = .ok pattern ∧ LoopbackText "::1" ∧
      isWideUntrustedSource .reading "::1" = true ∧ ¬ TrustExact "::1" pattern := by
  have wide : isWideUntrustedSource .reading "::1:5" = false ∧ isWideUntrustedSource .reading "::1" = true := by decide +kernel
  have literal : LoopbackText "::1" := ⟨"::1",.v6 1,by decide +kernel,rfl,.inl rfl⟩
  constructor
  · refine ⟨.ipOnly (.v6 0x10005),.v6 0x10005 80 0 0,by decide +kernel,wide.1,rfl,rfl,fun exact => ?_⟩
    exact absurd (exact.sound wide.1 (.v6 0x10005 80 0 0) rfl) (by decide)
  · refine ⟨.ipOnly (.v6 1),by decide +kernel,literal,wide.2,fun exact => ?_⟩
    have trimmed : trim "::1" = "::1" := by decide +kernel
    rw [exact.complete (trimmed.symm ▸ literal)] at wide
    cases wide.2

end Wide

end Scg.Net
