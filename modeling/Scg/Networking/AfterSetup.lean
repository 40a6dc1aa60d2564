import Scg.Networking.Executed

namespace Scg.Networking
open Config Net List

variable {std : Std} {rules : Intercepts}

@[simp] theorem appends_elsewhere {entries : List Entry}
    (apart : (f,t,c) ≠ (family,table,chain)) : Elsewhere family table chain (entries.map (.append f t c)) := by
  intro command present same
  obtain ⟨entry,_,rfl⟩ := mem_map.mp present
  exact apart (Option.some.inj same)

theorem elsewhere_ite {condition : Bool} (apart : Elsewhere family table chain commands) :
    Elsewhere family table chain (if condition then commands else []) := by
  split
  · exact apart
  · exact elsewhere_nil

theorem decrypt_elsewhere (apart : (Family.v4,Table.mangle) ≠ (family,table)) :
    Elsewhere family table chain (decryptCommands std rules host) := by
  have away (c : String) : (Family.v4,Table.mangle,c) ≠ (family,table,chain) := by
    intro same
    simp only [Prod.mk.injEq] at same
    exact apart (by rw [same.1,same.2.1])
  have opened : (opening host .v4 .mangle CHAIN_DECRYPT).place ≠ some (family,table,chain) := by
    rw [opening_place]
    exact fun same => away _ (Option.some.inj same)
  simp only [decryptCommands,elsewhere_append,elsewhere_cons]
  exact ⟨⟨⟨routing_elsewhere,opened,elsewhere_nil⟩,jumping_elsewhere (away _)⟩,appends_elsewhere (away _)⟩

def afterSetup (std : Std) (uid : UInt32) (rules : Intercepts) (host : Host) : Host :=
  perform (setupCommands std uid rules host) host

def hooked (chain parent : String) (chains : Chains) : Option (List Entry) :=
  if Chains.jumps chain parent chains then chains parent else (chains parent).map (· ++ [.jump chain])

variable {mirror : Bool} (rule : RuleConfig × InterceptConfig)

theorem opening_empties (same : now.tables family table chain = host.tables family table chain) :
    ((opening host family table chain).apply now).tables family table chain = some [] := by
  unfold opening
  split
  · rename_i present
    obtain ⟨entries,held⟩ := Option.isSome_iff_exists.mp present
    simp [Command.apply,alter_same,Chains.flush,same,held]
  · rename_i absent
    simp [Command.apply,alter_same,Chains.create,same,Option.not_isSome_iff_eq_none.mp absent]

theorem jumping_hooks (same : now.tables family table parent = host.tables family table parent) :
    (perform (jumping host family table parent chain) now).tables family table parent =
      hooked chain parent (host.tables family table) := by
  unfold jumping hooked
  split
  · exact same
  · simp [perform,Command.apply,alter_same,Chains.append,same]

-- Commands that only append to the chain, or are for others.
def Lengthens (family : Family) (table : Table) (chain : String) (commands : List Command) (entries : List Entry) : Prop :=
  ∀ now : Host, (perform commands now).tables family table chain = (now.tables family table chain).map (· ++ entries)

section Lengthens
theorem lengthens_elsewhere (apart : Elsewhere family table chain commands) : Lengthens family table chain commands [] := by
  intro now
  simp [perform_elsewhere now apart]

theorem lengthens_append (first : Lengthens family table chain commands entries) (second : Lengthens family table chain more later) :
    Lengthens family table chain (commands ++ more) (entries ++ later) := by
  intro now
  simp [perform_append,second _,first now,Function.comp_def]

theorem lengthens_entries (entries : List Entry) : Lengthens family table chain (entries.map (.append family table chain)) entries := by
  induction entries with
  | nil => exact lengthens_elsewhere elsewhere_nil
  | cons entry rest ih =>
    have single : Lengthens family table chain [.append family table chain entry] [entry] := by
      intro now
      simp [perform,Command.apply,alter_same,Chains.append]
    exact lengthens_append single ih

theorem lengthens_flatMap {commandsOf : α → List Command} {entriesOf : α → List Entry} {items : List α}
    (each : ∀ a, Lengthens family table chain (commandsOf a) (entriesOf a)) :
    Lengthens family table chain (items.flatMap commandsOf) (items.flatMap entriesOf) := by
  induction items with
  | nil => exact lengthens_elsewhere elsewhere_nil
  | cons a rest ih => exact lengthens_append (each a) ih

theorem lengthens_ite {condition : Bool} (grows : Lengthens family table chain commands entries) :
    Lengthens family table chain (if condition then commands else []) (if condition then entries else []) := by
  split
  · exact grows
  · exact lengthens_elsewhere elsewhere_nil

theorem lengthens_opened (same : now.tables family table chain = host.tables family table chain)
    (grows : Lengthens family table chain commands entries) :
    (perform ([opening host family table chain] ++ commands) now).tables family table chain = some entries := by
  rw [perform_append,grows]
  change Option.map _ (((opening host family table chain).apply now).tables family table chain) = _
  rw [opening_empties same]
  rfl

end Lengthens

def jumpEntries (chain hook parent : String) (chains : Chains) : List Entry :=
  if parent = hook ∧ Chains.jumps chain hook chains = false then [.jump chain] else []

theorem lengthens_jumping : Lengthens family table chain (jumping host family table hook CHAIN_ENCRYPT)
    (jumpEntries CHAIN_ENCRYPT hook chain (host.tables family table)) := by
  unfold jumping jumpEntries
  by_cases here : chain = hook
  · subst here
    split
    · rename_i there
      simpa [there] using lengthens_elsewhere elsewhere_nil
    · rename_i missing
      simpa [missing] using lengthens_entries [.jump CHAIN_ENCRYPT]
  · simp only [here]
    exact lengthens_elsewhere (jumping_elsewhere fun same => here (by simpa using same.symm))

theorem redirects_grow :
    Lengthens .v4 .nat CHAIN_ENCRYPT (redirectCommands std mirror rule) (redirects std rule) := by
  unfold redirectCommands redirects
  cases rule.2.mode with
  | ingressRedirect => exact lengthens_entries [_]
  | tproxy => exact lengthens_elsewhere elsewhere_nil
  | egressRedirect =>
    dsimp only
    rw [map_eq_flatMap]
    refine lengthens_flatMap fun dst => lengthens_append (lengthens_entries [_]) (lengthens_elsewhere (elsewhere_ite ?_))
    exact appends_elsewhere (by simp)

theorem mirrors_grow :
    Lengthens .v6 .nat CHAIN_ENCRYPT (redirectCommands std true rule) (mirrors std rule) := by
  unfold redirectCommands mirrors
  cases rule.2.mode with
  | ingressRedirect => exact lengthens_elsewhere (appends_elsewhere (by simp))
  | tproxy => exact lengthens_elsewhere elsewhere_nil
  | egressRedirect =>
    refine lengthens_flatMap fun dst => ?_
    change Lengthens .v6 .nat CHAIN_ENCRYPT ([_] ++ _) ([] ++ _)
    exact lengthens_append (lengthens_elsewhere (by simp)) (lengthens_entries _)

theorem redirects_elsewhere (apart : chain ≠ CHAIN_ENCRYPT) :
    Elsewhere family .nat chain (rules.flatMap (redirectCommands std mirror)) := by
  have away (f : Family) (entries : List Entry) : Elsewhere family .nat chain (entries.map (.append f .nat CHAIN_ENCRYPT)) :=
    appends_elsewhere (by simp [apart.symm])
  refine elsewhere_flatMap.mpr fun rule _ => ?_
  unfold redirectCommands
  cases rule.2.mode with
  | ingressRedirect => exact away _ _
  | tproxy => exact elsewhere_nil
  | egressRedirect =>
    exact elsewhere_flatMap.mpr fun dst _ => elsewhere_append.mpr ⟨away .v4 [_],elsewhere_ite (away .v6 _)⟩

theorem jump_entries (chains : Chains) (hook parent : String) :
    (chains parent).map (· ++ jumpEntries CHAIN_ENCRYPT hook parent chains) =
      if parent = hook then jumped chains parent else chains parent := by
  unfold jumpEntries jumped
  by_cases here : parent = hook
  · subst here
    cases Chains.jumps CHAIN_ENCRYPT parent chains <;> simp
  · simp [here]

theorem after_decrypt (transparent : rules.has .tproxy = true) :
    (afterSetup std uid rules host).tables .v4 .mangle CHAIN_DECRYPT = some (decryptEntries std rules) ∧
      (afterSetup std uid rules host).tables .v4 .mangle "PREROUTING" =
        hooked CHAIN_DECRYPT "PREROUTING" (host.tables .v4 .mangle) := by
  unfold afterSetup setupCommands decryptCommands
  rw [if_pos transparent]
  simp only [perform_append]
  generalize begun : perform (if rules.has .ingressRedirect || rules.has .egressRedirect then _ else []) host = start
  have kept (chain : String) : (perform (routingCommands host) start).tables .v4 .mangle chain = host.tables .v4 .mangle chain := by
    rw [perform_elsewhere _ routing_elsewhere,← begun]
    exact perform_elsewhere _ (elsewhere_ite (within_elsewhere encrypt_within (by decide)))
  generalize perform (routingCommands host) start = routed at kept
  constructor
  · rw [lengthens_entries _,perform_elsewhere _ (jumping_elsewhere (by decide))]
    change Option.map _ (((opening host .v4 .mangle CHAIN_DECRYPT).apply routed).tables .v4 .mangle CHAIN_DECRYPT) = _
    rw [opening_empties (kept _)]
    rfl
  · rw [perform_elsewhere _ (appends_elsewhere (by decide))]
    apply jumping_hooks
    rw [perform_elsewhere _ (by simp [CHAIN_DECRYPT])]
    exact kept _

theorem after_laid4 (redirected : (rules.has .ingressRedirect || rules.has .egressRedirect) = true) :
    Laid (host.tables .v4 .nat) (hooksOf rules) (entries4 std uid rules) ((afterSetup std uid rules host).tables .v4 .nat) := by
  have decrypt (chain : String) :
      Elsewhere .v4 .nat chain (if rules.has .tproxy then decryptCommands std rules host else []) :=
    elsewhere_ite (decrypt_elsewhere (by simp))
  have mirror (chain : String) : Elsewhere .v4 .nat chain (if rules.needsV6Mirror then mirrorCommands uid host else []) :=
    elsewhere_ite (by simp [mirrorCommands])
  have egress (chain : String) {entries : List Entry}
      (own : Lengthens .v4 .nat chain [.append .v4 .nat CHAIN_ENCRYPT (.ownerReturn uid)] entries) :
      Lengthens .v4 .nat chain (egressCommands uid rules host)
        (jumpEntries CHAIN_ENCRYPT "OUTPUT" chain (host.tables .v4 .nat) ++ entries ++ []) :=
    lengthens_append (lengthens_append lengthens_jumping own) (lengthens_elsewhere (mirror chain))
  unfold afterSetup setupCommands encryptCommands
  rw [if_pos redirected]
  constructor
  · simp only [append_assoc]
    refine (lengthens_opened rfl (lengthens_append (lengthens_ite lengthens_jumping) (lengthens_append
      (lengthens_ite (egress _ (lengthens_entries [_]))) (lengthens_append (lengthens_flatMap redirects_grow)
        (lengthens_elsewhere (decrypt _)))))).trans ?_
    simp [jumpEntries,CHAIN_ENCRYPT,entries4,ownerEntries]
  · intro parent apart
    have opened : Elsewhere .v4 .nat parent [opening host .v4 .nat CHAIN_ENCRYPT] := by simp [apart.symm]
    have own : Elsewhere .v4 .nat parent [.append .v4 .nat CHAIN_ENCRYPT (.ownerReturn uid)] := by simp [apart.symm]
    refine (lengthens_append (lengthens_append (lengthens_append (lengthens_append (lengthens_elsewhere opened)
      (lengthens_ite lengthens_jumping)) (lengthens_ite (egress _ (lengthens_elsewhere own))))
      (lengthens_elsewhere (redirects_elsewhere apart))) (lengthens_elsewhere (decrypt _)) host).trans ?_
    have output := jump_entries (host.tables .v4 .nat) "OUTPUT" parent
    have prerouting := jump_entries (host.tables .v4 .nat) "PREROUTING" parent
    unfold hooksOf
    cases rules.has .ingressRedirect with
    | false => cases rules.has .egressRedirect <;> simp [output]
    | true =>
      cases rules.has .egressRedirect with
      | false => simp [prerouting]
      | true =>
        by_cases here : parent = "OUTPUT"
        · subst here
          simpa [jumpEntries] using output
        · simpa [jumpEntries,here] using prerouting

theorem after_laid6 (mirrored : rules.needsV6Mirror = true) :
    Laid (host.tables .v6 .nat) ["OUTPUT"] (entries6 std uid rules) ((afterSetup std uid rules host).tables .v6 .nat) := by
  have decrypt (chain : String) :
      Elsewhere .v6 .nat chain (if rules.has .tproxy then decryptCommands std rules host else []) :=
    elsewhere_ite (decrypt_elsewhere (by simp))
  have egress := mirror_egress mirrored
  have before (chain : String) : Elsewhere .v6 .nat chain ([opening host .v4 .nat CHAIN_ENCRYPT] ++
      ((if rules.has .ingressRedirect then jumping host .v4 .nat "PREROUTING" CHAIN_ENCRYPT else []) ++
        (jumping host .v4 .nat "OUTPUT" CHAIN_ENCRYPT ++ [.append .v4 .nat CHAIN_ENCRYPT (.ownerReturn uid)]))) := by
    simp [elsewhere_ite]
  have assembled : setupCommands std uid rules host = ([opening host .v4 .nat CHAIN_ENCRYPT] ++
      ((if rules.has .ingressRedirect then jumping host .v4 .nat "PREROUTING" CHAIN_ENCRYPT else []) ++
        (jumping host .v4 .nat "OUTPUT" CHAIN_ENCRYPT ++ [.append .v4 .nat CHAIN_ENCRYPT (.ownerReturn uid)]))) ++
      ([opening host .v6 .nat CHAIN_ENCRYPT] ++ (jumping host .v6 .nat "OUTPUT" CHAIN_ENCRYPT ++
        ([.append .v6 .nat CHAIN_ENCRYPT (.ownerReturn uid)] ++ (rules.flatMap (redirectCommands std true) ++
          if rules.has .tproxy then decryptCommands std rules host else [])))) := by
    simp [setupCommands,encryptCommands,egressCommands,mirrorCommands,egress,mirrored]
  unfold afterSetup
  rw [assembled]
  constructor
  · rw [perform_append]
    refine (lengthens_opened (perform_elsewhere _ (before _)) (lengthens_append lengthens_jumping (lengthens_append
      (lengthens_entries [_]) (lengthens_append (lengthens_flatMap mirrors_grow) (lengthens_elsewhere (decrypt _)))))).trans ?_
    simp [jumpEntries,CHAIN_ENCRYPT,entries6]
  · intro parent apart
    refine (lengthens_append (lengthens_elsewhere (before _)) (lengthens_append (lengthens_elsewhere (by simp [apart.symm]))
      (lengthens_append lengthens_jumping (lengthens_append (lengthens_elsewhere (by simp [apart.symm])) (lengthens_append
        (lengthens_elsewhere (redirects_elsewhere apart)) (lengthens_elsewhere (decrypt _)))))) host).trans ?_
    simpa using jump_entries (host.tables .v6 .nat) "OUTPUT" parent

theorem setup_after {outcomes : Nat → Outcome} (all : ∀ n, outcomes n = .succeeded) (uid : UInt32) (host : Host)
    (listens : ∀ rule ∈ interceptsOf config, ∃ port, listenPort std rule.1 = .ok port) :
    ∃ mgr, setup outcomes std uid config host = (.ok mgr,afterSetup std uid (interceptsOf config) host) ∧
      Installed std uid (interceptsOf config) host mgr (afterSetup std uid (interceptsOf config) host) := by
  obtain ⟨_,mgr,ran,owned⟩ := setup_executed all listens
  have owns4 := congrArg Prod.fst owned
  have owns6 := congrArg Prod.snd owned
  exact ⟨mgr,ran,owns4,owns6,fun owns => after_laid4 (owns4.symm.trans owns),fun owns => after_laid6 (owns6.symm.trans owns)⟩

end Scg.Networking
