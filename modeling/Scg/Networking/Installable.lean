import Scg.Net.Literals
import Scg.Networking.Isolation

-- What iptables and ip6tables take as the arguments of an entry, beside what validation accepts.
namespace Scg.Networking
open Config Net List

def ipFamily : IpAddr → Family
  | .v4 _ => .v4
  | .v6 _ => .v6

def argumentFamily (std : Std) (text : String) : Option Family :=
  let host := ((Text.splitOnce '/' text).map Prod.fst).getD text
  (std.parseIp host).toOption.map ipFamily

-- A range takes two of the places that `multiport` has.
def multiportEntries (dports : String) : Nat :=
  ((Text.split ',' dports).map fun part => if part.toList.contains ':' then 2 else 1).sum

structure PortList (dports : String) : Prop where
  closed : dports.toList.any Text.isWhiteSpace = false
  short : multiportEntries dports ≤ 15

def Entry.WellFormed (std : Std) (family : Family) : Entry → Prop
  | .ingressRedirect _ _ dports _ => PortList dports
  | .egressRedirect dst _ dports _ => PortList dports ∧ argumentFamily std dst = some family
  | .tproxy src _ dports _ => PortList dports ∧ argumentFamily std src = some family
  | _ => True

def Command.WellFormed (std : Std) : Command → Prop
  | .append family _ _ entry => entry.WellFormed std family
  | _ => True

-- An intercept block that iptables can be given: it knows IPv4 only.
structure Installable (std : Std) (intercept : InterceptConfig) : Prop where
  ports : PortList intercept.matchDports
  dst : intercept.mode = .egressRedirect → ∀ dst ∈ intercept.matchDst, argumentFamily std dst = some .v4
  src : intercept.mode = .tproxy → ∀ src ∈ intercept.matchSrc, argumentFamily std src = some .v4

section Commands
def Formed (std : Std) (commands : List Command) : Prop := ∀ command ∈ commands, command.WellFormed std

@[simp] theorem formed_nil : Formed std [] := forall_mem_nil _

@[simp] theorem formed_cons : Formed std (command :: commands) ↔ command.WellFormed std ∧ Formed std commands := forall_mem_cons

@[simp] theorem formed_append : Formed std (commands ++ more) ↔ Formed std commands ∧ Formed std more := forall_mem_append

@[simp] theorem opening_formed : (opening host family table chain).WellFormed std := by
  unfold opening
  split <;> trivial

@[simp] theorem jumping_formed : Formed std (jumping host family table parent chain) := by
  unfold jumping
  split
  · exact formed_nil
  · simp [Command.WellFormed,Entry.WellFormed]

@[simp] theorem routing_formed : Formed std (routingCommands host) := by
  unfold routingCommands
  dsimp only
  split <;> split <;> simp [Command.WellFormed]

@[simp] theorem owner_formed : (Command.append family table chain (.ownerReturn uid)).WellFormed std := trivial

@[simp] theorem egress_formed : Formed std (egressCommands uid rules host) := by
  unfold egressCommands mirrorCommands
  split <;> simp

theorem formed_flatMap {commandsOf : α → List Command} {items : List α} :
    Formed std (items.flatMap commandsOf) ↔ ∀ a ∈ items, Formed std (commandsOf a) := forall_mem_flatMap

theorem encrypt_formed_iff : Formed std (encryptCommands std uid rules host) ↔
    ∀ rule ∈ rules, Formed std (redirectCommands std rules.needsV6Mirror rule) := by
  unfold encryptCommands
  rw [formed_append,formed_flatMap]
  refine and_iff_right ?_
  split <;> split <;> simp

theorem decrypt_formed_iff : Formed std (decryptCommands std rules host) ↔
    ∀ rule ∈ rules, ∀ entry ∈ deliveries std rule, entry.WellFormed std .v4 := by
  have guards : ∀ entry ∈ [Entry.transparentReturn] ++ rules.flatMap (excludes std), entry.WellFormed std .v4 := by
    refine forall_mem_append.mpr ⟨forall_mem_singleton.mpr trivial,forall_mem_flatMap.mpr fun rule _ => ?_⟩
    unfold excludes
    split <;> simp [Entry.WellFormed]
  have entries : Formed std ((decryptEntries std rules).map (.append .v4 .mangle CHAIN_DECRYPT)) ↔
      ∀ entry ∈ decryptEntries std rules, entry.WellFormed std .v4 := forall_mem_map
  unfold decryptCommands
  rw [formed_append,entries,decryptEntries,forall_mem_append,forall_mem_flatMap]
  exact ⟨fun formed => formed.2.2,fun formed => ⟨by simp,guards,formed⟩⟩

theorem redirect_formed_iff {mirror : Bool} (loopback : argumentFamily std "::1" = some .v6)
    (dst : rule.2.mode = .egressRedirect → rule.2.matchDst ≠ []) (redirects : rule.2.mode ≠ .tproxy) :
    Formed std (redirectCommands std mirror rule) ↔ Installable std rule.2 := by
  unfold redirectCommands
  cases mode : rule.2.mode with
  | tproxy => exact absurd mode redirects
  | ingressRedirect =>
    simp only [Networking.redirects,mode,map_cons,map_nil,formed_cons,formed_nil,and_true]
    exact ⟨fun ports => ⟨ports,by simp [mode],by simp [mode]⟩,Installable.ports⟩
  | egressRedirect =>
    have mirrored (ports : PortList rule.2.matchDports) (dst : String) :
        Formed std ((mirrored std rule dst).map (.append .v6 .nat CHAIN_ENCRYPT)) := by
      unfold Networking.mirrored
      split <;> simp [Command.WellFormed,Entry.WellFormed,ports,loopback]
    simp only [formed_flatMap,dstCommands,formed_cons]
    constructor
    · intro formed
      obtain ⟨first,present⟩ := exists_mem_of_ne_nil _ (dst mode)
      exact ⟨(formed first present).1.1,fun _ text there => (formed text there).1.2,by simp [mode]⟩
    · intro installable text there
      refine ⟨⟨installable.ports,installable.dst mode text there⟩,?_⟩
      split
      · exact mirrored installable.ports text
      · exact formed_nil

theorem delivery_formed_iff (src : rule.2.mode = .tproxy → rule.2.matchSrc ≠ []) (delivers : rule.2.mode = .tproxy) :
    (∀ entry ∈ deliveries std rule, entry.WellFormed std .v4) ↔ Installable std rule.2 := by
  simp only [deliveries,delivers,ne_eq,not_true_eq_false,if_false,forall_mem_map]
  constructor
  · intro formed
    obtain ⟨first,present⟩ := exists_mem_of_ne_nil _ (src delivers)
    exact ⟨(formed first present).1,by simp [delivers],fun _ text there => (formed text there).2⟩
  · exact fun installable text there => ⟨installable.ports,installable.src delivers text there⟩

theorem setup_formed_iff (loopback : argumentFamily std "::1" = some .v6)
    (dst : ∀ rule ∈ rules, rule.2.mode = .egressRedirect → rule.2.matchDst ≠ [])
    (src : ∀ rule ∈ rules, rule.2.mode = .tproxy → rule.2.matchSrc ≠ []) :
    Formed std (setupCommands std uid rules host) ↔ ∀ rule ∈ rules, Installable std rule.2 := by
  unfold setupCommands
  rw [formed_append]
  constructor
  · rintro ⟨encrypt,decrypt⟩ rule present
    have has := has_of_mem present
    by_cases mode : rule.2.mode = .tproxy
    · rw [mode] at has
      rw [if_pos has,decrypt_formed_iff] at decrypt
      exact (delivery_formed_iff (src rule present) mode).mp (decrypt rule present)
    · have redirected : (rules.has .ingressRedirect || rules.has .egressRedirect) = true := by
        cases kind : rule.2.mode with
        | ingressRedirect => rw [← kind,has,Bool.true_or]
        | egressRedirect => rw [← kind,has,Bool.or_true]
        | tproxy => exact absurd kind mode
      rw [if_pos redirected,encrypt_formed_iff] at encrypt
      exact (redirect_formed_iff loopback (dst rule present) mode).mp (encrypt rule present)
  · intro installable
    constructor
    · split
      · refine encrypt_formed_iff.mpr fun rule present => ?_
        by_cases mode : rule.2.mode = .tproxy
        · simp [redirectCommands,mode]
        · exact (redirect_formed_iff loopback (dst rule present) mode).mpr (installable rule present)
      · exact formed_nil
    · split
      · refine decrypt_formed_iff.mpr fun rule present => ?_
        by_cases mode : rule.2.mode = .tproxy
        · exact (delivery_formed_iff (src rule present) mode).mpr (installable rule present)
        · simp [deliveries,mode]
      · exact formed_nil

end Commands

theorem intercepts_installable_iff {env : Parsers} (standard : env.std = .reading) {config : GatewayConfig}
    (valid : config.validate env = .ok ()) {outcomes : Nat → Outcome} (all : ∀ n, outcomes n = .succeeded) (uid : UInt32)
    (host : Host) :
    (∀ command ∈ executed outcomes env.std uid config host, command.WellFormed env.std) ↔
      ∀ rule ∈ interceptsOf config, Installable env.std rule.2 := by
  have loopback : argumentFamily env.std "::1" = some .v6 := by
    rw [standard]
    decide +kernel
  rw [(setup_executed all (valid_listens valid)).1]
  exact setup_formed_iff loopback (fun _ present => (valid_intercepts valid present).1.dst)
    fun _ present => (valid_intercepts valid present).1.src

instance (dports : String) : Decidable (PortList dports) :=
  decidable_of_iff (dports.toList.any Text.isWhiteSpace = false ∧ multiportEntries dports ≤ 15)
    ⟨fun ⟨closed,short⟩ => ⟨closed,short⟩,fun ⟨closed,short⟩ => ⟨closed,short⟩⟩

def readingParsers : Parsers := {interceptParsers with std := .reading}

theorem intercepts_installable_both : readingParsers.std = .reading ∧
    GatewayConfig.validate readingParsers bothRules = .ok () ∧
    ∀ command ∈ executed (fun _ => .succeeded) .reading 0 bothRules sharedHost, command.WellFormed .reading := by
  have valid : GatewayConfig.validate readingParsers bothRules = .ok () := by decide +kernel
  refine ⟨rfl,valid,(intercepts_installable_iff rfl valid (fun _ => rfl) 0 sharedHost).mpr ?_⟩
  intro rule present
  refine ⟨?_,?_,?_⟩ <;> revert rule <;> decide +kernel

def sixteenPorts : String := ",".intercalate ((List.range 16).map fun i => toString (8000+i))

def refusedRules : GatewayConfig :=
  {rules :=
    [{webRule with intercept := some ⟨.ingressRedirect,none,"80, 443",[],[],none⟩},
     {webRule with name := "ports",listenAddr := "0.0.0.0:8081"
                   intercept := some ⟨.ingressRedirect,none,sixteenPorts,[],[],none⟩},
     {browserRule with intercept := some ⟨.egressRedirect,none,"443",["fd00::1"],[],none⟩}]}

theorem intercepts_not_installable : GatewayConfig.validate readingParsers refusedRules = .ok () ∧
    (∀ command ∈ [Command.append .v4 .nat CHAIN_ENCRYPT (.ingressRedirect "tcp" none "80, 443" 8080),
        .append .v4 .nat CHAIN_ENCRYPT (.ingressRedirect "tcp" none sixteenPorts 8081),
        .append .v4 .nat CHAIN_ENCRYPT (.egressRedirect "fd00::1" "tcp" "443" 8443)],
      command ∈ executed (fun _ => .succeeded) .reading 0 refusedRules sharedHost ∧ ¬ command.WellFormed .reading) ∧
    (Command.append .v4 .nat CHAIN_ENCRYPT (.egressRedirect "fd00::1" "tcp" "443" 8443)).program = "iptables" := by
  have valid : GatewayConfig.validate readingParsers refusedRules = .ok () := by decide +kernel
  have log : executed (fun _ => .succeeded) .reading 0 refusedRules sharedHost =
      setupCommands .reading 0 (interceptsOf refusedRules) sharedHost := (setup_executed all_succeed (valid_listens valid)).1
  have blank : ¬ PortList "80, 443" := by decide +kernel
  have long : ¬ PortList sixteenPorts := by decide +kernel
  have foreign : argumentFamily .reading "fd00::1" ≠ some .v4 := by decide +kernel
  rw [log]
  refine ⟨valid,?_,rfl⟩
  simp only [List.forall_mem_cons,Command.WellFormed,Entry.WellFormed,blank,long,foreign,and_false,not_false_eq_true,and_true]
  exact ⟨by decide +kernel,by decide +kernel,by decide +kernel,List.forall_mem_nil _⟩

end Scg.Networking
