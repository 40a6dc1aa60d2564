import Scg.Networking.Isolation

namespace Scg.Networking
open Config List

variable {rule : RuleConfig × InterceptConfig}

structure IptablesCmd where
  program : String
  args : List String
  deriving DecidableEq

def ipt (args : List String) : IptablesCmd := ⟨"iptables",args⟩

def ip6t (args : List String) : IptablesCmd := ⟨"ip6tables",args⟩

-- An address that is no address has the empty text for its port.
def plannedPort (std : Net.Std) (rule : RuleConfig) : String :=
  match std.parseSocket rule.listenAddr with
  | .ok addr => toString addr.port
  | .error _ => ""

def planEgress (uid : UInt32) : List IptablesCmd :=
  [ipt ["-t","nat","-A","OUTPUT","-j",CHAIN_ENCRYPT],
   ipt ["-t","nat","-A",CHAIN_ENCRYPT,"-m","owner","--uid-owner",toString uid,"-j","RETURN"],
   ip6t ["-t","nat","-N",CHAIN_ENCRYPT],
   ip6t ["-t","nat","-A","OUTPUT","-j",CHAIN_ENCRYPT],
   ip6t ["-t","nat","-A",CHAIN_ENCRYPT,"-m","owner","--uid-owner",toString uid,"-j","RETURN"]]

def planRedirect (std : Net.Std) (rule : RuleConfig × InterceptConfig) : List IptablesCmd :=
  if rule.2.mode ≠ .ingressRedirect ∧ rule.2.mode ≠ .egressRedirect then []
  else
    let listenPort := plannedPort std rule.1
    let proto := interceptProto rule.1 rule.2
    let redirect := dportArgs rule.2.matchDports ++ ["-j","REDIRECT","--to-port",listenPort]
    match rule.2.mode with
    | .ingressRedirect =>
      [ipt (["-t","nat","-A",CHAIN_ENCRYPT,"-p",proto] ++
        (rule.2.inInterface.toList.flatMap fun iface => ["-i",iface]) ++ redirect)]
    | .egressRedirect =>
      rule.2.matchDst.flatMap fun dst =>
        ipt (["-t","nat","-A",CHAIN_ENCRYPT,"-d",dst,"-p",proto] ++ redirect) ::
          if dst == "127.0.0.1" then [ip6t (["-t","nat","-A",CHAIN_ENCRYPT,"-d","::1","-p",proto] ++ redirect)] else []
    | .tproxy => []

def planEncrypt (std : Net.Std) (uid : UInt32) (rules : Intercepts) : List IptablesCmd :=
  [ipt ["-t","nat","-N",CHAIN_ENCRYPT]] ++
    (if rules.has .ingressRedirect then [ipt ["-t","nat","-A","PREROUTING","-j",CHAIN_ENCRYPT]] else []) ++
    (if rules.has .egressRedirect then planEgress uid else []) ++ rules.flatMap (planRedirect std)

def planExclude (std : Net.Std) (rule : RuleConfig × InterceptConfig) : List IptablesCmd :=
  if rule.2.mode ≠ .tproxy then []
  else
    [ipt ["-t","mangle","-A",CHAIN_DECRYPT,"-p",interceptProto rule.1 rule.2,"--dport",plannedPort std rule.1,"-j","RETURN"]]

def planTproxy (std : Net.Std) (rule : RuleConfig × InterceptConfig) : List IptablesCmd :=
  if rule.2.mode ≠ .tproxy then []
  else
    let listenPort := plannedPort std rule.1
    let markSpec := TPROXY_MARK ++ "/" ++ TPROXY_MARK
    rule.2.matchSrc.map fun src =>
      ipt (["-t","mangle","-A",CHAIN_DECRYPT,"-s",src,"-p",interceptProto rule.1 rule.2] ++
        dportArgs rule.2.matchDports ++ ["-j","TPROXY","--on-port",listenPort,"--tproxy-mark",markSpec])

def planDecrypt (std : Net.Std) (rules : Intercepts) : List IptablesCmd :=
  [⟨"ip",["rule","add","fwmark",TPROXY_MARK,"lookup",TPROXY_TABLE]⟩,
   ⟨"ip",["route","add","local","default","dev","lo","table",TPROXY_TABLE]⟩,
   ipt ["-t","mangle","-N",CHAIN_DECRYPT],
   ipt ["-t","mangle","-A","PREROUTING","-j",CHAIN_DECRYPT],
   ipt ["-t","mangle","-A",CHAIN_DECRYPT,"-m","socket","--transparent","-j","RETURN"]] ++
    rules.flatMap (planExclude std) ++ rules.flatMap (planTproxy std)

def planFirewallCommands (std : Net.Std) (uid : UInt32) (config : GatewayConfig) : List IptablesCmd :=
  let rules := interceptsOf config
  if rules.isEmpty then []
  else
    (if rules.has .ingressRedirect || rules.has .egressRedirect then planEncrypt std uid rules else []) ++
      if rules.has .tproxy then planDecrypt std rules else []

def Command.line (command : Command) : IptablesCmd := ⟨command.program,command.args⟩

structure Unconfigured (host : Host) : Prop where
  chains : CleanHost host
  rule : host.rules.any ruleLine = false
  route : host.routes.any routeLine = false

section Fresh
variable {rules : Intercepts}

def egressFresh (uid : UInt32) (mirror : Bool) : List Command :=
  [.append .v4 .nat "OUTPUT" (.jump CHAIN_ENCRYPT),.append .v4 .nat CHAIN_ENCRYPT (.ownerReturn uid)] ++
    if mirror then
      [.newChain .v6 .nat CHAIN_ENCRYPT,.append .v6 .nat "OUTPUT" (.jump CHAIN_ENCRYPT),
       .append .v6 .nat CHAIN_ENCRYPT (.ownerReturn uid)]
    else []

def encryptFresh (std : Net.Std) (uid : UInt32) (rules : Intercepts) (mirror : Bool) : List Command :=
  [.newChain .v4 .nat CHAIN_ENCRYPT] ++
    (if rules.has .ingressRedirect then [.append .v4 .nat "PREROUTING" (.jump CHAIN_ENCRYPT)] else []) ++
    (if rules.has .egressRedirect then egressFresh uid mirror else []) ++ rules.flatMap (redirectCommands std true)

def decryptFresh (std : Net.Std) (rules : Intercepts) : List Command :=
  [.addRule,.addRoute,.newChain .v4 .mangle CHAIN_DECRYPT,.append .v4 .mangle "PREROUTING" (.jump CHAIN_DECRYPT)] ++
    (decryptEntries std rules).map (.append .v4 .mangle CHAIN_DECRYPT)

def freshCommands (std : Net.Std) (uid : UInt32) (rules : Intercepts) (mirror : Bool) : List Command :=
  (if rules.has .ingressRedirect || rules.has .egressRedirect then encryptFresh std uid rules mirror else []) ++
    if rules.has .tproxy then decryptFresh std rules else []

theorem opening_fresh (clean : Chains.Clean chain (host.tables family table)) :
    opening host family table chain = .newChain family table chain := by simp [opening,clean.absent]

theorem jumping_fresh (clean : Chains.Clean chain (host.tables family table)) :
    jumping host family table parent chain = [.append family table parent (.jump chain)] := by
  simp [jumping,Chains.clean_unjumped clean]

theorem redirect_mirrored (present : rule ∈ rules) :
    redirectCommands std rules.needsV6Mirror rule = redirectCommands std true rule := by
  unfold redirectCommands
  cases mode : rule.2.mode with
  | ingressRedirect | tproxy => rfl
  | egressRedirect =>
    apply flatMap_congr
    intro dst listed
    by_cases loopback : (dst == "127.0.0.1") = true
    · have needed : rules.needsV6Mirror = true :=
        any_eq_true.mpr ⟨rule,present,by simpa [mode] using eq_of_beq loopback ▸ listed⟩
      rw [needed]
    · simp [dstCommands,mirrored,loopback]

theorem setup_fresh (fresh : Unconfigured host) :
    setupCommands std uid rules host = freshCommands std uid rules rules.needsV6Mirror := by
  have entries : rules.flatMap (redirectCommands std rules.needsV6Mirror) = rules.flatMap (redirectCommands std true) :=
    flatMap_congr fun rule present => redirect_mirrored present
  have chains (family : Family) (table : Table) := fresh.chains family table
  have routing : routingCommands host = [.addRule,.addRoute] := by
    simp [routingCommands,routingPolicyNeeded,fresh.rule,fresh.route]
  simp only [setupCommands,encryptCommands,egressCommands,mirrorCommands,
    decryptCommands,routing,entries,opening_fresh (chains _ _).1,opening_fresh (chains _ _).2,
    jumping_fresh (chains _ _).1,jumping_fresh (chains _ _).2]
  rfl

theorem planned_port {rule : RuleConfig} (listens : ∃ port, listenPort std rule = .ok port) :
    plannedPort std rule = toString (portOf std rule) := by
  unfold listenPort at listens
  unfold plannedPort portOf listenPort
  cases parsed : std.parseSocket rule.listenAddr with
  | ok addr => rfl
  | error e => simp [parsed] at listens

section
variable (listens : ∃ port, listenPort std rule.1 = .ok port)
include listens

theorem planned_redirect : planRedirect std rule = (redirectCommands std true rule).map Command.line := by
  unfold planRedirect redirectCommands
  rw [planned_port listens]
  cases mode : rule.2.mode with
  | ingressRedirect => simp [redirects,mode,Command.line,Command.program,Command.args,Entry.args,Family.program,Table.name,ipt]
  | egressRedirect =>
    simp only [map_flatMap]
    apply flatMap_congr
    intro dst _
    simp only [dstCommands,mirrored]
    split
    · simp [Command.line,Command.program,Command.args,Entry.args,Family.program,Table.name,ipt,ip6t]
    · simp [Command.line,Command.program,Command.args,Entry.args,Family.program,Table.name,ipt]
  | tproxy => rfl

theorem planned_exclude :
    planExclude std rule = ((excludes std rule).map (.append .v4 .mangle CHAIN_DECRYPT)).map Command.line := by
  unfold planExclude excludes
  rw [planned_port listens]
  split <;> rfl

theorem planned_tproxy :
    planTproxy std rule = ((deliveries std rule).map (.append .v4 .mangle CHAIN_DECRYPT)).map Command.line := by
  unfold planTproxy deliveries
  rw [planned_port listens]
  split
  · rfl
  · simp [Command.line,Command.program,Command.args,Entry.args,Family.program,Table.name,ipt]

end

theorem planned_fresh (listens : ∀ rule ∈ interceptsOf config, ∃ port, listenPort std rule.1 = .ok port) :
    planFirewallCommands std uid config = (freshCommands std uid (interceptsOf config) true).map Command.line := by
  unfold planFirewallCommands freshCommands
  generalize interceptsOf config = rules at listens
  have redirected : rules.flatMap (planRedirect std) = (rules.flatMap (redirectCommands std true)).map Command.line := by
    rw [map_flatMap]
    exact flatMap_congr fun rule present => planned_redirect (listens rule present)
  have excluded : rules.flatMap (planExclude std) =
      ((rules.flatMap (excludes std)).map (Command.append .v4 .mangle CHAIN_DECRYPT)).map Command.line := by
    rw [map_flatMap,map_flatMap]
    exact flatMap_congr fun rule present => planned_exclude (listens rule present)
  have delivered : rules.flatMap (planTproxy std) =
      ((rules.flatMap (deliveries std)).map (Command.append .v4 .mangle CHAIN_DECRYPT)).map Command.line := by
    rw [map_flatMap,map_flatMap]
    exact flatMap_congr fun rule present => planned_tproxy (listens rule present)
  have encrypt : planEncrypt std uid rules = (encryptFresh std uid rules true).map Command.line := by
    unfold planEncrypt encryptFresh
    rw [redirected]
    cases rules.has .ingressRedirect <;> cases rules.has .egressRedirect <;> rfl
  have decrypt : planDecrypt std rules = (decryptFresh std rules).map Command.line := by
    unfold planDecrypt decryptFresh decryptEntries
    rw [excluded,delivered]
    simp only [map_append]
    rfl
  cases rules with
  | nil => rfl
  | cons first rest =>
    simp only [isEmpty_cons,Bool.false_eq_true,if_false,encrypt,decrypt,map_append,
      apply_ite (map Command.line),map_nil]

theorem fresh_without (absent : rules.has .egressRedirect = false) (mirror : Bool) :
    freshCommands std uid rules mirror = freshCommands std uid rules true := by
  simp [freshCommands,encryptFresh,absent]

theorem fresh_length (egress : rules.has .egressRedirect = true) :
    (freshCommands std uid rules true).length = (freshCommands std uid rules false).length + 3 := by
  simp only [freshCommands,encryptFresh,egressFresh,egress,Bool.or_true,if_true,length_append,length_cons,Bool.false_eq_true,if_false]
  omega

theorem fresh_mirror_iff (mirror : Bool) :
    (freshCommands std uid rules mirror).map Command.line = (freshCommands std uid rules true).map Command.line ↔
      (rules.has .egressRedirect = true → mirror = true) := by
  constructor
  · intro same egress
    by_contra missing
    rw [Bool.not_eq_true] at missing
    have long := congrArg length same
    rw [missing,length_map,length_map,fresh_length egress] at long
    omega
  · intro needed
    cases egress : rules.has .egressRedirect with
    | true => rw [needed egress]
    | false => rw [fresh_without egress]

end Fresh

-- The plan is what a setup executes, unless some rule redirects the host's own packets and none
-- of these is for 127.0.0.1: then the plan has the base of a mirror that is not set up.
theorem plan_executed_iff {env : Parsers} {config : GatewayConfig} (valid : config.validate env = .ok ())
    {outcomes : Nat → Outcome} (all : ∀ n, outcomes n = .succeeded) (uid : UInt32) {host : Host} (fresh : Unconfigured host) :
    ∃ mgr, setup outcomes env.std uid config host = (.ok mgr,perform (executed outcomes env.std uid config host) host) ∧
      ((executed outcomes env.std uid config host).map Command.line = planFirewallCommands env.std uid config ↔
        ((interceptsOf config).has .egressRedirect = true → (interceptsOf config).needsV6Mirror = true)) := by
  have listens := valid_listens valid
  obtain ⟨log,mgr,ran,_⟩ := setup_executed all listens
  refine ⟨mgr,by rw [ran,log],?_⟩
  rw [log,setup_fresh fresh,planned_fresh listens]
  exact fresh_mirror_iff _

def plainHost : Host := {sharedHost with rules := ["0:\tfrom all lookup local"]}

theorem plainHost_unconfigured : Unconfigured plainHost := ⟨sharedHost_clean,by decide +kernel,by decide +kernel⟩

theorem plan_executed_both : GatewayConfig.validate interceptParsers bothRules = .ok () ∧ Unconfigured plainHost ∧
    (executed (fun _ => .succeeded) .ipv4 0 bothRules plainHost).map Command.line =
      planFirewallCommands .ipv4 0 bothRules := by
  have valid : GatewayConfig.validate interceptParsers bothRules = .ok () := by decide +kernel
  obtain ⟨mgr,_,same⟩ := plan_executed_iff valid all_succeed 0 plainHost_unconfigured
  exact ⟨valid,plainHost_unconfigured,same.mpr fun _ => by decide +kernel⟩

def serverRule : RuleConfig :=
  {name := "server",direction := .encrypt,listenAddr := "127.0.0.1:8444",upstreamAddr := "10.0.0.9:443"
   securityProvider := "routing"
   intercept := some ⟨.egressRedirect,none,"443",["10.0.0.9"],[],none⟩}

-- The plan touches ip6tables, the setup does not.
theorem plan_adds_mirror : GatewayConfig.validate interceptParsers {rules := [serverRule]} = .ok () ∧ Unconfigured plainHost ∧
    ip6t ["-t","nat","-N",CHAIN_ENCRYPT] ∈ planFirewallCommands .ipv4 0 {rules := [serverRule]} ∧
    (∀ command ∈ executed (fun _ => .succeeded) .ipv4 0 {rules := [serverRule]} plainHost, command.program = "iptables") ∧
    (executed (fun _ => .succeeded) .ipv4 0 {rules := [serverRule]} plainHost).map Command.line ≠
      planFirewallCommands .ipv4 0 {rules := [serverRule]} := by
  have planned : ip6t ["-t","nat","-N",CHAIN_ENCRYPT] ∈ planFirewallCommands .ipv4 0 {rules := [serverRule]} := by
    decide +kernel
  have four : ∀ command ∈ executed (fun _ => .succeeded) .ipv4 0 {rules := [serverRule]} plainHost,
      command.program = "iptables" := by decide +kernel
  refine ⟨by decide +kernel,plainHost_unconfigured,planned,four,?_⟩
  intro same
  rw [← same] at planned
  obtain ⟨command,present,line⟩ := List.mem_map.mp planned
  have six : command.program = "ip6tables" := congrArg IptablesCmd.program line
  rw [four command present] at six
  exact absurd six (by decide)

end Scg.Networking
