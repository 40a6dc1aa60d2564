import Scg.Library.Scan
import Scg.Net.Address

namespace Scg.Net.Literals
open Scan

def octet : Numeral := ⟨10,some 3,false,256⟩
def group : Numeral := ⟨16,some 4,true,65536⟩
def port : Numeral := ⟨10,none,true,65536⟩
def scope : Numeral := ⟨10,none,true,2^32⟩

def readIpv4 : Scan (BitVec 32) :=
  (number octet).bind fun a => (separated '.' 1 (number octet)).bind fun b =>
    (separated '.' 2 (number octet)).bind fun c => (separated '.' 3 (number octet)).bind fun d =>
      pure (BitVec.ofNat 32 (((a*256+b)*256+c)*256+d))

-- Groups of an IPv6 address as far as they go, and whether they end in an embedded IPv4
-- address, which takes the room of two.
def readGroups (i : Nat) : Nat → Scan (List Nat × Bool)
  | 0 => pure ([],false)
  | room+1 =>
    (if 0 < room then (separated ':' i readIpv4).bind fun v4 => pure ([v4.toNat/65536,v4.toNat%65536],true)
      else fail).orElse
    (((separated ':' i (number group)).bind fun value => (readGroups (i+1) room).bind fun (values,embedded) =>
      pure (value :: values,embedded)).orElse (pure ([],false)))

def ofGroups (groups : List Nat) : BitVec 128 := BitVec.ofNat 128 (groups.foldl (fun n g => n*65536+g) 0)

-- Two colons stand for at least one group of zeros, with no IPv4 part before them.
def readIpv6 : Scan (BitVec 128) :=
  (readGroups 0 8).bind fun (head,embedded) =>
    if head.length = 8 then pure (ofGroups head)
    else if embedded then fail
    else (char ':').bind fun _ => (char ':').bind fun _ =>
      (readGroups 0 (8-(head.length+1))).bind fun (tail,_) =>
        pure (ofGroups (head ++ List.replicate (8-head.length-tail.length) 0 ++ tail))

def readIp : Scan IpAddr := (readIpv4.bind fun ip => pure (.v4 ip)).orElse (readIpv6.bind fun ip => pure (.v6 ip))

def readPort : Scan Nat := (char ':').bind fun _ => number port

def readScope : Scan Nat := ((char '%').bind fun _ => number scope).orElse (pure 0)

def readSocketV4 : Scan SocketAddr :=
  readIpv4.bind fun ip => readPort.bind fun port => pure (.v4 ip (UInt16.ofNat port))

def readSocketV6 : Scan SocketAddr :=
  (char '[').bind fun _ => readIpv6.bind fun ip => readScope.bind fun scope => (char ']').bind fun _ =>
    readPort.bind fun port => pure (.v6 ip (UInt16.ofNat port) 0 (UInt32.ofNat scope))

def readSocket : Scan SocketAddr := readSocketV4.orElse readSocketV6

section Characters
def InIpv4 (c : Char) : Prop := isDigitOf 10 c = true ∨ c = '.'

def InIpv6 (c : Char) : Prop := isDigitOf 16 c = true ∨ c = '.' ∨ c = ':'

theorem inIpv4_inIpv6 (inside : InIpv4 c) : InIpv6 c := by
  rcases inside with digit | dot
  · left
    unfold isDigitOf at digit ⊢
    cases value : digitValue c with
    | none => simp [value] at digit
    | some n =>
      simp only [value,Option.any_some,decide_eq_true_eq] at digit ⊢
      omega
  · exact .inr (.inl dot)

theorem readIpv4_takes : Takes InIpv4 readIpv4 := by
  have digits : Takes InIpv4 (number octet) := takes_number.mono fun _ digit => .inl digit
  have further (i : Nat) : Takes InIpv4 (separated '.' i (number octet)) := takes_separated (.inr rfl) digits
  exact takes_bind digits fun _ => takes_bind (further 1) fun _ => takes_bind (further 2) fun _ =>
    takes_bind (further 3) fun _ => takes_pure _

theorem readIpv4_halts (outside : ¬ InIpv4 stop) : Halts stop readIpv4 := by
  have closed : isDigitOf 10 stop = false := by simpa using fun digit => outside (.inl digit)
  have dot : stop ≠ '.' := fun same => outside (.inr same)
  have digits : Takes InIpv4 (number octet) := takes_number.mono fun _ digit => .inl digit
  have further (i : Nat) : Takes InIpv4 (separated '.' i (number octet)) := takes_separated (.inr rfl) digits
  have halts (i : Nat) : Halts stop (separated '.' i (number octet)) := halts_separated dot (halts_number closed)
  exact halts_bind digits (halts_number closed) fun _ => halts_bind (further 1) (halts 1) fun _ =>
    halts_bind (further 2) (halts 2) fun _ => halts_bind (further 3) (halts 3) fun _ => halts_pure _

theorem embedded_takes (i : Nat) : Takes InIpv6 (separated ':' i readIpv4) :=
  takes_separated (.inr (.inr rfl)) (readIpv4_takes.mono fun _ => inIpv4_inIpv6)

theorem group_takes (i : Nat) : Takes InIpv6 (separated ':' i (number group)) :=
  takes_separated (.inr (.inr rfl)) (takes_number.mono fun _ digit => .inl digit)

theorem readGroups_takes (i room : Nat) : Takes InIpv6 (readGroups i room) := by
  induction room generalizing i with
  | zero => exact takes_pure _
  | succ room ih =>
    refine takes_orElse ?_ (takes_orElse ?_ (takes_pure _))
    · split
      · exact takes_bind (embedded_takes i) fun _ => takes_pure _
      · exact takes_fail
    · exact takes_bind (group_takes i) fun _ => takes_bind (ih (i+1)) fun _ => takes_pure _

theorem readGroups_halts (outside : ¬ InIpv6 stop) (i room : Nat) : Halts stop (readGroups i room) := by
  have closed : isDigitOf 16 stop = false := by simpa using fun digit => outside (.inl digit)
  have colon : stop ≠ ':' := fun same => outside (.inr (.inr same))
  have embedded : Halts stop readIpv4 := readIpv4_halts fun inside => outside (inIpv4_inIpv6 inside)
  induction room generalizing i with
  | zero => exact halts_pure _
  | succ room ih =>
    refine halts_orElse ?_ (halts_orElse ?_ (halts_pure _))
    · split
      · exact halts_bind (embedded_takes i) (halts_separated colon embedded) fun _ => halts_pure _
      · exact halts_fail
    · exact halts_bind (group_takes i) (halts_separated colon (halts_number closed)) fun _ =>
        halts_bind (readGroups_takes (i+1) room) (ih (i+1)) fun _ => halts_pure _

theorem colon_takes : Takes InIpv6 (char ':') := takes_char (.inr (.inr rfl))

theorem readIpv6_takes : Takes InIpv6 readIpv6 := by
  refine takes_bind (readGroups_takes 0 8) fun read => ?_
  dsimp only
  split
  · exact takes_pure _
  · split
    · exact takes_fail
    · exact takes_bind colon_takes fun _ => takes_bind colon_takes fun _ =>
        takes_bind (readGroups_takes 0 _) fun _ => takes_pure _

theorem readIpv6_halts (outside : ¬ InIpv6 stop) : Halts stop readIpv6 := by
  have colon : stop ≠ ':' := fun same => outside (.inr (.inr same))
  refine halts_bind (readGroups_takes 0 8) (readGroups_halts outside 0 8) fun read => ?_
  dsimp only
  split
  · exact halts_pure _
  · split
    · exact halts_fail
    · exact halts_bind colon_takes (halts_char colon) fun _ => halts_bind colon_takes (halts_char colon) fun _ =>
        halts_bind (readGroups_takes 0 _) (readGroups_halts outside 0 _) fun _ => halts_pure _

theorem separated_needs_colon {α : Type} {i : Nat} {inner : Scan α} (free : ':' ∉ text) :
    separated ':' (i+1) inner text = none := by
  unfold separated
  rw [if_neg (by omega),bind_none (char_absent free)]

theorem readGroups_needs_colon (free : ':' ∉ text) (i room : Nat) : readGroups (i+1) room text = some (([],false),text) := by
  cases room with
  | zero => rfl
  | succ room =>
    have embedded : (if 0 < room then (separated ':' (i+1) readIpv4).bind fun v4 =>
        Scan.pure ([v4.toNat/65536,v4.toNat%65536],true) else fail) text = none := by
      split
      · exact bind_none (separated_needs_colon free)
      · rfl
    rw [readGroups,orElse_none embedded,orElse_none (bind_none (separated_needs_colon free))]
    rfl

theorem readGroups_first (free : ':' ∉ text) (read : readGroups 0 8 text = some ((values,embedded),left)) :
    values.length < 8 ∧ (embedded = false → ':' ∉ left) := by
  rw [readGroups,orElse_eq_some,orElse_eq_some] at read
  rcases read with v4 | ⟨_,single | ⟨_,nothing⟩⟩
  · obtain ⟨ip,rest,_,made⟩ := bind_eq_some.mp v4
    cases made
    exact ⟨by simp,nofun⟩
  · obtain ⟨value,rest,taken,further⟩ := bind_eq_some.mp single
    have clear : ':' ∉ rest := (group_takes 0).left_free free taken
    rw [bind_some (readGroups_needs_colon clear 0 7)] at further
    cases further
    exact ⟨by simp,fun _ => clear⟩
  · cases nothing
    exact ⟨by simp,fun _ => free⟩

theorem readIpv6_needs_colon (free : ':' ∉ text) : readIpv6 text = none := by
  cases read : readGroups 0 8 text with
  | none => exact bind_none read
  | some result =>
    obtain ⟨⟨values,embedded⟩,left⟩ := result
    obtain ⟨short,clear⟩ := readGroups_first free read
    rw [readIpv6,bind_some read]
    dsimp only
    rw [if_neg (by omega)]
    cases embedded with
    | true => rfl
    | false => exact bind_none (char_absent (clear rfl))

end Characters

end Scg.Net.Literals

namespace Scg.Net

def Std.reading : Std where
  parseIp s := match Scan.whole Literals.readIp s.toList with
    | some ip => .ok ip
    | none => .error "invalid IP address syntax"
  parseSocket s := match Scan.whole Literals.readSocket s.toList with
    | some addr => .ok addr
    | none => .error "invalid socket address syntax"
  display := Std.displaySocket

namespace Std.Reading
open Literals Scan

theorem parseIp_ok {ip : IpAddr} (parsed : Std.reading.parseIp host = .ok ip) : readIp host.toList = some (ip,[]) := by
  unfold Std.reading at parsed
  dsimp only at parsed
  split at parsed <;> cases parsed
  rename_i read
  exact whole_some read

theorem parseIp_v4 {ip : BitVec 32} (parsed : Std.reading.parseIp host = .ok (.v4 ip)) :
    readIpv4 host.toList = some (ip,[]) := by
  rcases orElse_eq_some.mp (parseIp_ok parsed) with read | ⟨_,read⟩
  · obtain ⟨bits,left,found,made⟩ := bind_eq_some.mp read
    cases made
    exact found
  · obtain ⟨bits,left,found,made⟩ := bind_eq_some.mp read
    cases made

theorem parseIp_v6 (parsed : Std.reading.parseIp host = .ok (.v6 ip)) :
    readIpv6 host.toList = some (ip,[]) := by
  rcases orElse_eq_some.mp (parseIp_ok parsed) with read | ⟨_,read⟩
  · obtain ⟨bits,left,found,made⟩ := bind_eq_some.mp read
    cases made
  · obtain ⟨bits,left,found,made⟩ := bind_eq_some.mp read
    cases made
    exact found

theorem v4_characters {ip : BitVec 32} (parsed : Std.reading.parseIp host = .ok (.v4 ip)) : ∀ c ∈ host.toList, InIpv4 c := by
  obtain ⟨used,split,inside⟩ := readIpv4_takes _ _ _ (parseIp_v4 parsed)
  rw [List.append_nil] at split
  exact split ▸ inside

theorem v6_characters (parsed : Std.reading.parseIp host = .ok (.v6 ip)) : ∀ c ∈ host.toList, InIpv6 c := by
  obtain ⟨used,split,inside⟩ := readIpv6_takes _ _ _ (parseIp_v6 parsed)
  rw [List.append_nil] at split
  exact split ▸ inside

theorem ip_characters {ip : IpAddr} (parsed : Std.reading.parseIp host = .ok ip) : ∀ c ∈ host.toList, InIpv6 c := by
  cases ip with
  | v4 bits => exact fun c present => inIpv4_inIpv6 (v4_characters parsed c present)
  | v6 bits => exact v6_characters parsed

theorem colon_iff {ip : IpAddr} (parsed : Std.reading.parseIp host = .ok ip) :
    ':' ∈ host.toList ↔ ∃ bits, ip = .v6 bits := by
  cases ip with
  | v4 bits =>
    refine iff_of_false (fun present => ?_) nofun
    have inside := v4_characters parsed ':' present
    revert inside
    unfold InIpv4
    decide
  | v6 bits =>
    refine iff_of_true ?_ ⟨bits,rfl⟩
    by_contra free
    have read := parseIp_v6 parsed
    rw [readIpv6_needs_colon free] at read
    cases read

theorem readPort_printed (small : n < 65536) : readPort (':' :: (toString n).toList) = some (n,[]) := by
  rw [readPort,bind_some char_self]
  exact number_printed small

theorem parseSocket_whole (read : readSocket text.toList = some (addr,[])) :
    Std.reading.parseSocket text = .ok addr := by
  unfold Std.reading
  simp only [whole,read]

theorem parseSocket_v4 {ip : BitVec 32} (parsed : Std.reading.parseIp host = .ok (.v4 ip)) (small : n < 65536)
    (shape : text.toList = host.toList ++ ':' :: (toString n).toList) :
    Std.reading.parseSocket text = .ok (.v4 ip (UInt16.ofNat n)) := by
  have outside : ¬ InIpv4 ':' := by unfold InIpv4; decide
  have free : ':' ∉ host.toList := fun present => outside (v4_characters parsed ':' present)
  have address := readIpv4_halts outside _ (toString n).toList free
  rw [parseIp_v4 parsed] at address
  apply parseSocket_whole
  rw [shape,readSocket,orElse_eq_some]
  left
  rw [readSocketV4,bind_some address,List.nil_append,bind_some (readPort_printed small)]
  rfl

theorem parseSocket_v6 (parsed : Std.reading.parseIp host = .ok (.v6 ip)) (small : n < 65536)
    (shape : text.toList = '[' :: (host.toList ++ ']' :: ':' :: (toString n).toList)) :
    Std.reading.parseSocket text = .ok (.v6 ip (UInt16.ofNat n) 0 0) := by
  have outside : ¬ InIpv6 ']' := by unfold InIpv6; decide
  have free : ']' ∉ host.toList := fun present => outside (v6_characters parsed ']' present)
  have address := readIpv6_halts outside _ (':' :: (toString n).toList) free
  rw [parseIp_v6 parsed] at address
  have bracket : readSocketV4 text.toList = none := by
    rw [shape]
    exact bind_none (bind_none rfl)
  have opened : char '[' text.toList = some ((),host.toList ++ ']' :: ':' :: (toString n).toList) := by
    rw [shape,char_self]
  have unscoped : readScope (']' :: ':' :: (toString n).toList) = some (0,']' :: ':' :: (toString n).toList) := rfl
  apply parseSocket_whole
  rw [readSocket,orElse_none bracket,readSocketV6,bind_some opened,bind_some address,List.nil_append,
    bind_some unscoped,bind_some char_self,bind_some (readPort_printed small)]
  rfl

theorem parseSocket_bracketed {port : UInt16} {flowinfo scopeId : UInt32}
    (parsed : Std.reading.parseSocket text = .ok (.v6 ip port flowinfo scopeId)) : '[' ∈ text.toList := by
  unfold Std.reading at parsed
  dsimp only at parsed
  split at parsed
  · rename_i addr read
    cases parsed
    rcases orElse_eq_some.mp (whole_some read) with v4 | ⟨_,v6⟩
    · obtain ⟨_,_,_,v4⟩ := bind_eq_some.mp v4
      obtain ⟨_,_,_,v4⟩ := bind_eq_some.mp v4
      cases v4
    · obtain ⟨_,_,opened,_⟩ := bind_eq_some.mp v6
      by_contra absent
      rw [char_absent absent] at opened
      cases opened
  · cases parsed

end Std.Reading

end Scg.Net
