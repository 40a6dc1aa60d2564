import Scg.Networking.Layout
import Scg.Networking.Ownership
import Scg.Networking.Recorded

namespace Scg.Networking
open Config Program Chains List

def perform (commands : List Command) (host : Host) : Host := commands.foldl (fun host command => command.apply host) host

def Command.place : Command → Option (Family × Table × String)
  | .newChain family table chain => some (family,table,chain)
  | .flushChain family table chain => some (family,table,chain)
  | .append family table chain _ => some (family,table,chain)
  | .addRule => none
  | .addRoute => none

def Elsewhere (family : Family) (table : Table) (chain : String) (commands : List Command) : Prop :=
  ∀ command ∈ commands, command.place ≠ some (family,table,chain)

section Place
variable {command : Command}

@[simp] theorem elsewhere_nil : Elsewhere family table chain [] := fun _ present => absurd present not_mem_nil

@[simp] theorem elsewhere_cons : Elsewhere family table chain (command :: commands) ↔
    command.place ≠ some (family,table,chain) ∧ Elsewhere family table chain commands := forall_mem_cons

@[simp] theorem elsewhere_append : Elsewhere family table chain (commands ++ more) ↔
    Elsewhere family table chain commands ∧ Elsewhere family table chain more := forall_mem_append

theorem elsewhere_flatMap {commandsOf : α → List Command} {items : List α} :
    Elsewhere family table chain (items.flatMap commandsOf) ↔ ∀ a ∈ items, Elsewhere family table chain (commandsOf a) :=
  forall_mem_flatMap

theorem alter_elsewhere {change : Chains → Chains} (host : Host)
    (kept : ∀ chains, chain ≠ c → change chains chain = chains chain) (apart : some (f,t,c) ≠ some (family,table,chain)) :
    (host.alter f t change).tables family table chain = host.tables family table chain := by
  by_cases here : family = f ∧ table = t
  · obtain ⟨rfl,rfl⟩ := here
    rw [alter_same]
    apply kept
    rintro rfl
    exact apart rfl
  · rw [alter_other _ _ here]

theorem apply_elsewhere (host : Host) (apart : command.place ≠ some (family,table,chain)) :
    (command.apply host).tables family table chain = host.tables family table chain := by
  cases command with
  | newChain f t c =>
    refine alter_elsewhere host (fun chains distinct => ?_) apart
    unfold create
    split
    · exact Function.update_of_ne distinct ..
    · rfl
  | flushChain | append => exact alter_elsewhere host (fun chains distinct => Function.update_of_ne distinct ..) apart
  | addRule | addRoute => rfl

theorem perform_append (host : Host) : perform (commands ++ more) host = perform more (perform commands host) :=
  foldl_append

theorem perform_elsewhere (host : Host) (apart : Elsewhere family table chain commands) :
    (perform commands host).tables family table chain = host.tables family table chain := by
  induction commands generalizing host with
  | nil => rfl
  | cons command rest ih =>
    obtain ⟨here,later⟩ := elsewhere_cons.mp apart
    exact (ih (command.apply host) later).trans (apply_elsewhere host here)

theorem perform_routing (host : Host) (placed : ∀ command ∈ commands, command.place ≠ none) :
    (perform commands host).rules = host.rules ∧ (perform commands host).routes = host.routes := by
  induction commands generalizing host with
  | nil => exact ⟨rfl,rfl⟩
  | cons command rest ih =>
    obtain ⟨here,later⟩ := forall_mem_cons.mp placed
    obtain ⟨rules,routes⟩ := ih (command.apply host) later
    cases command with
    | newChain | flushChain | append => exact ⟨rules,routes⟩
    | addRule | addRoute => exact absurd rfl here

end Place

def opening (host : Host) (family : Family) (table : Table) (chain : String) : Command :=
  if (host.tables family table chain).isSome then .flushChain family table chain else .newChain family table chain

def jumping (host : Host) (family : Family) (table : Table) (parent chain : String) : List Command :=
  if jumps chain parent (host.tables family table) then [] else [.append family table parent (.jump chain)]

@[simp] theorem opening_place (host : Host) (family : Family) (table : Table) (chain : String) :
    (opening host family table chain).place = some (family,table,chain) := by
  unfold opening
  split <;> rfl

@[simp] theorem append_place : (Command.append family table chain entry).place = some (family,table,chain) := rfl

theorem jumping_place
    (present : command ∈ jumping host family table parent chain) : command.place = some (family,table,parent) := by
  unfold jumping at present
  split at present
  · cases present
  · rw [mem_singleton.mp present]
    rfl

@[simp] theorem jumping_elsewhere
    (apart : (f,t,parent) ≠ (family,table,c)) : Elsewhere family table c (jumping host f t parent chain) := by
  intro command present same
  rw [jumping_place present] at same
  exact apart (Option.some.inj same)

def mirrorCommands (uid : UInt32) (host : Host) : List Command :=
  [opening host .v6 .nat CHAIN_ENCRYPT] ++ (jumping host .v6 .nat "OUTPUT" CHAIN_ENCRYPT ++
    [.append .v6 .nat CHAIN_ENCRYPT (.ownerReturn uid)])

def egressCommands (uid : UInt32) (rules : Intercepts) (host : Host) : List Command :=
  jumping host .v4 .nat "OUTPUT" CHAIN_ENCRYPT ++ [.append .v4 .nat CHAIN_ENCRYPT (.ownerReturn uid)] ++
    if rules.needsV6Mirror then mirrorCommands uid host else []

def dstCommands (std : Net.Std) (mirror : Bool) (rule : RuleConfig × InterceptConfig) (dst : String) : List Command :=
  .append .v4 .nat CHAIN_ENCRYPT
      (.egressRedirect dst (interceptProto rule.1 rule.2) rule.2.matchDports (portOf std rule.1)) ::
    if mirror then (mirrored std rule dst).map (.append .v6 .nat CHAIN_ENCRYPT) else []

def redirectCommands (std : Net.Std) (mirror : Bool) (rule : RuleConfig × InterceptConfig) : List Command :=
  match rule.2.mode with
  | .ingressRedirect => (redirects std rule).map (.append .v4 .nat CHAIN_ENCRYPT)
  | .egressRedirect => rule.2.matchDst.flatMap (dstCommands std mirror rule)
  | .tproxy => []

def encryptCommands (std : Net.Std) (uid : UInt32) (rules : Intercepts) (host : Host) : List Command :=
  [opening host .v4 .nat CHAIN_ENCRYPT] ++
    (if rules.has .ingressRedirect then jumping host .v4 .nat "PREROUTING" CHAIN_ENCRYPT else []) ++
    (if rules.has .egressRedirect then egressCommands uid rules host else []) ++
    rules.flatMap (redirectCommands std rules.needsV6Mirror)

def routingCommands (host : Host) : List Command :=
  let needed := routingPolicyNeeded host.rules host.routes
  (if needed.1 then [.addRule] else []) ++ (if needed.2 then [.addRoute] else [])

-- The entries of the other chain: the ports of the gateway's own listeners come before all rules.
def excludes (std : Net.Std) (rule : RuleConfig × InterceptConfig) : List Entry :=
  if rule.2.mode ≠ .tproxy then [] else [.portReturn (interceptProto rule.1 rule.2) (portOf std rule.1)]

def deliveries (std : Net.Std) (rule : RuleConfig × InterceptConfig) : List Entry :=
  if rule.2.mode ≠ .tproxy then []
  else rule.2.matchSrc.map fun src => .tproxy src (interceptProto rule.1 rule.2) rule.2.matchDports (portOf std rule.1)

def decryptEntries (std : Net.Std) (rules : Intercepts) : List Entry :=
  [.transparentReturn] ++ rules.flatMap (excludes std) ++ rules.flatMap (deliveries std)

def decryptCommands (std : Net.Std) (rules : Intercepts) (host : Host) : List Command :=
  routingCommands host ++ [opening host .v4 .mangle CHAIN_DECRYPT] ++
    jumping host .v4 .mangle "PREROUTING" CHAIN_DECRYPT ++
    (decryptEntries std rules).map (.append .v4 .mangle CHAIN_DECRYPT)

def setupCommands (std : Net.Std) (uid : UInt32) (rules : Intercepts) (host : Host) : List Command :=
  (if rules.has .ingressRedirect || rules.has .egressRedirect then encryptCommands std uid rules host else []) ++
    if rules.has .tproxy then decryptCommands std rules host else []

def Within (table : Table) (commands : List Command) : Prop :=
  ∀ command ∈ commands, ∃ family chain, command.place = some (family,table,chain)

theorem within_placed (within : Within table commands) :
    ∀ command ∈ commands, command.place ≠ none := by
  intro command present
  obtain ⟨family,chain,placed⟩ := within command present
  simp [placed]

theorem within_elsewhere
    (within : Within table commands) (apart : table ≠ other) : Elsewhere family other chain commands := by
  intro command present
  obtain ⟨f,c,placed⟩ := within command present
  simp [placed,apart]

@[simp] theorem routing_elsewhere : Elsewhere family table chain (routingCommands host) := by
  refine elsewhere_append.mpr ⟨?_,?_⟩
  · split
    · simp [Command.place]
    · exact elsewhere_nil
  · split
    · simp [Command.place]
    · exact elsewhere_nil

theorem within_nil : Within table [] := fun _ present => absurd present not_mem_nil

theorem within_append (within : Within table commands) (also : Within table more) : Within table (commands ++ more) := forall_mem_append.mpr ⟨within,also⟩

theorem within_appends (entries : List Entry) :
    Within table (entries.map (.append family table chain)) := by
  intro command present
  obtain ⟨entry,_,rfl⟩ := mem_map.mp present
  exact ⟨family,chain,rfl⟩

theorem within_jumping : Within table (jumping host family table parent chain) := fun _ present => ⟨family,parent,jumping_place present⟩

theorem within_opening : Within table [opening host family table chain] := by
  intro command present
  rw [mem_singleton.mp present]
  exact ⟨family,chain,opening_place ..⟩

theorem within_ite {condition : Bool} (within : Within table commands) :
    Within table (if condition then commands else []) := by
  split
  · exact within
  · exact within_nil

theorem egress_within : Within .nat (egressCommands uid rules host) := by
  have mirror : Within .nat (mirrorCommands uid host) :=
    within_append within_opening (within_append within_jumping (within_appends [.ownerReturn uid]))
  exact within_append (within_append within_jumping (within_appends [.ownerReturn uid])) (within_ite mirror)

theorem redirect_within {mirror : Bool} (rule : RuleConfig × InterceptConfig) :
    Within .nat (redirectCommands std mirror rule) := by
  unfold redirectCommands
  cases rule.2.mode with
  | ingressRedirect => exact within_appends _
  | egressRedirect =>
    intro command present
    obtain ⟨dst,_,present⟩ := mem_flatMap.mp present
    exact within_append (within_appends [_]) (within_ite (within_appends _)) command present
  | tproxy => exact within_nil

theorem encrypt_within : Within .nat (encryptCommands std uid rules host) := by
  have each : Within .nat (rules.flatMap (redirectCommands std rules.needsV6Mirror)) := by
    intro command present
    obtain ⟨rule,_,present⟩ := mem_flatMap.mp present
    exact redirect_within rule command present
  exact within_append (within_append (within_append within_opening (within_ite within_jumping)) (within_ite egress_within)) each

def FirewallManager.encrypts (mgr : FirewallManager) : Bool × Bool := (mgr.ownsEncryptChain,mgr.ownsEncryptChainV6)

structure Logged (before : Host) (commands : List Command) (owned : Bool × Bool) (r : Recorded) : Prop where
  log : r.log = commands
  host : r.world.host = perform commands before
  owns : r.world.mgr.encrypts = owned

section Logged
variable {outcomes : Nat → Outcome} (all : ∀ n, outcomes n = .succeeded)
abbrev Adds (before : Host) (commands : List Command) (owned : Bool × Bool) (program : Recording α) (more : List Command) : Prop :=
  Spec (Logged before commands owned) program (fun _ => Logged before (commands ++ more) owned) fun _ _ => False

theorem adds_nothing : Adds before commands owned (pure () : Recording Unit) [] := by
  intro r logged
  rwa [append_nil]

theorem adds_bind {next : α → Recording β} (start : Adds before commands owned first some')
    (later : ∀ a, Adds before (commands ++ some') owned (next a) more) :
    Adds before commands owned (first >>= next) (some' ++ more) := by
  apply spec_bind start
  intro a
  rw [← append_assoc]
  exact later a

theorem adds_when (taken : condition = true → Adds before commands owned program more) :
    Adds before commands owned (when condition program) (if condition then more else []) := by
  cases condition with
  | true => exact taken rfl
  | false => exact adds_nothing

theorem adds_own {change : FirewallManager → FirewallManager}
    (kept : ∀ mgr, (change mgr).encrypts = mgr.encrypts) :
    Adds before commands owned (Recorded.own change) [] := by
  intro r logged
  rw [append_nil]
  exact ⟨logged.log,logged.host,(kept _).trans logged.owns⟩

theorem adds_look_bind {next : World → Recording α}
    (later : ∀ w, w.host = perform commands before → w.mgr.encrypts = owned →
      Adds before commands owned (next w) more) : Adds before commands owned (Recorded.look >>= next) more := by
  intro r logged
  exact later r.world logged.host logged.owns r logged

theorem adds_each {body : α → Recording Unit} {adds : α → List Command}
    (round : ∀ a ∈ items, ∀ commands, Adds before commands owned (body a) (adds a)) :
    Adds before commands owned (each body items) (items.flatMap adds) := by
  induction items generalizing commands with
  | nil => exact adds_nothing
  | cons a rest ih =>
    apply adds_bind (round a mem_cons_self commands)
    intro _
    exact ih fun other present => round other (mem_cons_of_mem _ present)

include all

theorem adds_runCmd (command : Command) : Adds before commands owned (Recorded.runCmd outcomes command) [command] := by
  intro r logged
  have ran : runCmd outcomes command r.world = (.ok (),{r.world with host := command.apply r.world.host,ran := r.world.ran+1}) := by
    simp only [runCmd,all]
  simp only [Recorded.runCmd,ran]
  refine ⟨by rw [logged.log],?_,logged.owns⟩
  rw [perform_append,← logged.host]
  rfl

theorem adds_createOrFlush (apart : Elsewhere family table chain commands) :
    Adds before commands owned (Recorded.createOrFlushChain outcomes family table chain)
      [opening before family table chain] := by
  apply adds_look_bind
  intro w made _
  rw [made,perform_elsewhere before apart]
  unfold opening
  split <;> exact adds_runCmd all _

theorem adds_ensureJump (apart : Elsewhere family table parent commands) :
    Adds before commands owned (Recorded.ensureJump outcomes family table parent chain)
      (jumping before family table parent chain) := by
  apply adds_look_bind
  intro w made _
  have still : jumps chain parent (w.host.tables family table) = jumps chain parent (before.tables family table) := by
    rw [jumps,made,perform_elsewhere before apart,← jumps]
  rw [still]
  unfold jumping
  split
  · exact adds_nothing
  · exact adds_runCmd all _

theorem logs_mirrorV6 (apart : ∀ chain, Elsewhere .v6 .nat chain commands) :
    Spec (Logged before commands (four,false)) (Recorded.mirrorV6 outcomes uid)
      (fun _ => Logged before (commands ++ mirrorCommands uid before) (four,true)) fun _ _ => False := by
  have built : Adds before commands (four,false) (Recorded.setupV6EgressReturn outcomes uid) (mirrorCommands uid before) := by
    refine adds_bind (adds_createOrFlush all (apart _)) fun _ => ?_
    refine adds_bind (adds_ensureJump all ?_) fun _ => adds_runCmd all _
    simpa [CHAIN_ENCRYPT] using apart "OUTPUT"
  refine spec_attempt_bind built (fun _ => spec_modify fun r logged => ⟨logged.log,logged.host,?_⟩) fun _ _ => False.elim
  have owned : r.world.mgr.ownsEncryptChain = four := congrArg Prod.fst logged.owns
  simp only [FirewallManager.encrypts,owned]

theorem logs_egressBase (apart : Elsewhere .v4 .nat "OUTPUT" commands) (apart6 : ∀ chain, Elsewhere .v6 .nat chain commands) :
    Spec (Logged before commands (four,false)) (Recorded.egressBase outcomes uid rules)
      (fun _ => Logged before (commands ++ egressCommands uid rules before) (four,rules.needsV6Mirror)) fun _ _ => False := by
  refine spec_bind (adds_ensureJump all apart) fun _ => spec_bind (adds_runCmd all _) fun _ => ?_
  unfold egressCommands
  rw [← append_assoc,← append_assoc]
  refine spec_when (fun needed => ?_) fun unneeded r logged => ?_
  · rw [needed]
    apply logs_mirrorV6 all
    intro chain
    simp [apart6 chain]
  · rw [unneeded]
    simpa using logged

theorem adds_redirectDst (rule : RuleConfig × InterceptConfig) (dst : String) :
    Adds before commands owned
      (Recorded.redirectDst outcomes (interceptProto rule.1 rule.2) rule.2.matchDports (portOf std rule.1) dst)
      (dstCommands std owned.2 rule dst) := by
  refine adds_bind (adds_runCmd all _) fun _ => adds_look_bind fun w _ owns => ?_
  have six : w.mgr.ownsEncryptChainV6 = owned.2 := congrArg Prod.snd owns
  rw [six]
  unfold mirrored
  cases owned.2 with
  | false =>
    rw [Bool.and_false]
    exact adds_nothing
  | true =>
    cases dst == "127.0.0.1" with
    | false => exact adds_nothing
    | true => exact spec_ignore ((adds_runCmd all _).weaken (fun _ holds => holds) (fun _ _ holds => holds) fun _ _ never => never.elim)

theorem adds_redirectRule (listens : ∃ port, listenPort std rule.1 = .ok port) :
    Adds before commands owned (Recorded.redirectRule outcomes std rule) (redirectCommands std owned.2 rule) := by
  obtain ⟨port,listens⟩ := listens
  have ported : portOf std rule.1 = port := portOf_listens listens
  unfold Recorded.redirectRule redirectCommands
  cases mode : rule.2.mode with
  | tproxy => exact adds_nothing
  | ingressRedirect =>
    simp only [redirects,mode,listens,ported]
    exact adds_runCmd all _
  | egressRedirect =>
    simp only [listens]
    rw [← ported]
    exact adds_each fun dst _ _ => adds_redirectDst all rule dst

theorem logs_encrypt (listens : ∀ rule ∈ rules, ∃ port, listenPort std rule.1 = .ok port) :
    Spec (Logged before [] (false,false)) (Recorded.ensureEncryptChain outcomes std uid rules)
      (fun _ => Logged before (encryptCommands std uid rules before) (true,rules.needsV6Mirror)) fun _ _ => False := by
  refine spec_bind (adds_createOrFlush all elsewhere_nil) fun _ => ?_
  refine spec_bind (M := fun _ => Logged before [opening before .v4 .nat CHAIN_ENCRYPT] (true,false)) ?_ fun _ => ?_
  · refine spec_modify fun r logged => ⟨logged.log,logged.host,?_⟩
    have unowned : r.world.mgr.ownsEncryptChainV6 = false := congrArg Prod.snd logged.owns
    simp only [FirewallManager.encrypts,unowned]
  refine spec_bind (adds_when fun _ => adds_ensureJump all (by simp [CHAIN_ENCRYPT])) fun _ => ?_
  refine spec_bind (M := fun _ => Logged before ([opening before .v4 .nat CHAIN_ENCRYPT] ++
    (if rules.has .ingressRedirect then jumping before .v4 .nat "PREROUTING" CHAIN_ENCRYPT else []) ++
    (if rules.has .egressRedirect then egressCommands uid rules before else [])) (true,rules.needsV6Mirror)) ?_ fun _ =>
      adds_each fun rule present _ => adds_redirectRule all (listens rule present)
  refine spec_when (fun egress => ?_) fun absent r logged => ?_
  · rw [if_pos egress]
    apply logs_egressBase all
    · split <;> simp [CHAIN_ENCRYPT]
    · split <;> simp
  · rw [absent,unmirrored absent]
    simpa using logged

theorem adds_routing (placed : ∀ command ∈ commands, command.place ≠ none) :
    Adds before commands owned (Recorded.ensureRoutingPolicy outcomes) (routingCommands before) := by
  apply adds_look_bind
  intro w made _
  obtain ⟨rules,routes⟩ := perform_routing before placed
  rw [made,rules,routes]
  have route (needRule : Bool) (commands : List Command) :
      Adds before commands owned (Recorded.addRoute outcomes needRule) [.addRoute] :=
    spec_attempt_bind (adds_runCmd all _) (fun _ => spec_pure fun _ logged => logged) fun _ _ => False.elim
  refine adds_bind (adds_when fun _ => adds_runCmd all _) fun _ => ?_
  refine spec_bind (adds_when fun _ => route _ _) fun _ => spec_pure fun r logged => ?_
  exact logged

theorem adds_excludeRule (listens : ∃ port, listenPort std rule.1 = .ok port) :
    Adds before commands owned (Recorded.excludeRule outcomes std rule)
      ((excludes std rule).map (.append .v4 .mangle CHAIN_DECRYPT)) := by
  obtain ⟨port,listens⟩ := listens
  have ported : portOf std rule.1 = port := portOf_listens listens
  unfold Recorded.excludeRule excludes
  split
  · exact adds_nothing
  · rw [listens,ported]
    exact adds_runCmd all _

theorem adds_tproxyRule (listens : ∃ port, listenPort std rule.1 = .ok port) :
    Adds before commands owned (Recorded.tproxyRule outcomes std rule)
      ((deliveries std rule).map (.append .v4 .mangle CHAIN_DECRYPT)) := by
  obtain ⟨port,listens⟩ := listens
  have ported : portOf std rule.1 = port := portOf_listens listens
  unfold Recorded.tproxyRule deliveries
  split
  · exact adds_nothing
  · rw [listens,ported,map_map,map_eq_flatMap]
    exact adds_each fun src _ _ => adds_runCmd all _

theorem adds_decrypt (nat : Within .nat commands) (listens : ∀ rule ∈ rules, ∃ port, listenPort std rule.1 = .ok port) :
    Adds before commands owned (Recorded.ensureDecryptChain outcomes std rules) (decryptCommands std rules before) := by
  have untouched (chain : String) : Elsewhere .v4 .mangle chain commands := within_elsewhere nat (by decide)
  have assembled : decryptCommands std rules before =
      routingCommands before ++ ([] ++ ([opening before .v4 .mangle CHAIN_DECRYPT] ++ ([] ++
        (jumping before .v4 .mangle "PREROUTING" CHAIN_DECRYPT ++ ([.append .v4 .mangle CHAIN_DECRYPT .transparentReturn] ++
          (rules.flatMap (fun rule => (excludes std rule).map (.append .v4 .mangle CHAIN_DECRYPT)) ++
            rules.flatMap fun rule => (deliveries std rule).map (.append .v4 .mangle CHAIN_DECRYPT))))))) := by
    simp [decryptCommands,decryptEntries,map_flatMap]
  rw [assembled]
  apply adds_bind (adds_routing all (within_placed nat))
  intro added
  refine adds_bind (adds_own fun _ => rfl) fun _ => ?_
  apply adds_bind (adds_createOrFlush all (by simp [untouched]))
  intro _
  refine adds_bind (adds_own fun _ => rfl) fun _ => ?_
  apply adds_bind (adds_ensureJump all (by simp [untouched,CHAIN_DECRYPT]))
  intro _
  apply adds_bind (adds_runCmd all _)
  intro _
  apply adds_bind (adds_each fun rule present _ => adds_excludeRule all (listens rule present))
  intro _
  exact adds_each fun rule present _ => adds_tproxyRule all (listens rule present)

theorem logs_install (listens : ∀ rule ∈ rules, ∃ port, listenPort std rule.1 = .ok port) :
    Spec (Logged before [] (false,false)) (Recorded.install outcomes std uid rules)
      (fun _ => Logged before (setupCommands std uid rules before) (rules.has .ingressRedirect || rules.has .egressRedirect,
        rules.needsV6Mirror)) fun _ _ => False := by
  refine spec_bind (M := fun _ => Logged before
    (if rules.has .ingressRedirect || rules.has .egressRedirect then encryptCommands std uid rules before else [])
    (rules.has .ingressRedirect || rules.has .egressRedirect,rules.needsV6Mirror)) ?_ fun _ => adds_when fun _ => adds_decrypt all ?_ listens
  · refine spec_when (fun redirected => ?_) fun none r logged => ?_
    · rw [redirected]
      exact logs_encrypt all listens
    · obtain ⟨_,unegressed⟩ := Bool.or_eq_false_iff.mp none
      rwa [none,unmirrored unegressed]
  · split
    · exact encrypt_within
    · exact within_nil

end Logged

def executed (outcomes : Nat → Outcome) (std : Net.Std) (uid : UInt32) (config : GatewayConfig) (host : Host) : List Command :=
  (Recorded.install outcomes std uid (interceptsOf config) ⟨⟨host,{},0⟩,[]⟩).2.log

theorem setup_executed {outcomes : Nat → Outcome} (all : ∀ n, outcomes n = .succeeded)
    (listens : ∀ rule ∈ interceptsOf config, ∃ port, listenPort std rule.1 = .ok port) :
    executed outcomes std uid config host = setupCommands std uid (interceptsOf config) host ∧
      ∃ mgr, setup outcomes std uid config host = (.ok mgr,perform (setupCommands std uid (interceptsOf config) host) host) ∧
        mgr.encrypts = ((interceptsOf config).has .ingressRedirect || (interceptsOf config).has .egressRedirect,
          (interceptsOf config).needsV6Mirror) := by
  have logs : Spec (Logged host [] (false,false)) (Recorded.install outcomes std uid (interceptsOf config)) _ _ := logs_install all listens
  have ended := logs ⟨⟨host,{},0⟩,[]⟩ ⟨rfl,rfl,rfl⟩
  have same : install outcomes std uid (interceptsOf config) ⟨host,{},0⟩ = _ := Recorded.erases_install ⟨⟨host,{},0⟩,[]⟩
  unfold executed setup
  rw [same]
  generalize Recorded.install outcomes std uid (interceptsOf config) ⟨⟨host,{},0⟩,[]⟩ = last at ended
  obtain ⟨result,r⟩ := last
  cases result with
  | error e => exact ended.elim
  | ok =>
    refine ⟨ended.log,r.world.mgr,?_,ended.owns⟩
    simp only [ended.host]

end Scg.Networking
