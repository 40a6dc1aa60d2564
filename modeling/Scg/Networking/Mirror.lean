import Scg.Networking.Ownership

namespace Scg.Networking
open Program Chains

def mirrorStart (rules : Intercepts) : Nat := if rules.has .ingressRedirect then 4 else 3

-- The mirror is needed and its chain created, but its jump or its first entry fails.
structure Torn (outcomes : Nat → Outcome) (rules : Intercepts) : Prop where
  needed : rules.needsV6Mirror = true
  reached : ∀ i < mirrorStart rules, outcomes i = .succeeded
  created : outcomes (mirrorStart rules) = .succeeded
  stopped : ¬ (outcomes (mirrorStart rules+1) = .succeeded ∧ outcomes (mirrorStart rules+2) = .succeeded)

def Settled (outcomes : Nat → Outcome) (rules : Intercepts) (before : Host) (w : World) : Prop :=
  (Torn outcomes rules ∧ Intact broken before w.mgr w.host) ∨
    (¬ Torn outcomes rules ∧ Intact (whole before) before w.mgr w.host)

def Built (outcomes : Nat → Outcome) (rules : Intercepts) (before : Host) (w : World) : Prop :=
  (Torn outcomes rules ∧ Building broken before w) ∨ (¬ Torn outcomes rules ∧ Building (whole before) before w)

structure Prepared (outcomes : Nat → Outcome) (before : Host) (n : Nat) (w : World) : Prop where
  building : Building (whole before) before w
  unmirrored : w.mgr.ownsEncryptChainV6 = false
  through : Through outcomes n w

section Mirror
variable {outcomes : Nat → Outcome} {rules : Intercepts}

theorem Torn.not_stopped (early : i ≤ mirrorStart rules) (failed : outcomes i ≠ .succeeded) :
    ¬ Torn outcomes rules := by
  intro torn
  rcases Nat.lt_or_eq_of_le early with earlier | rfl
  · exact failed (torn.reached i earlier)
  · exact failed torn.created

theorem Through.next (through : Through outcomes n w) (done : outcomes w.ran = .succeeded) (host : Host)
    (mgr : FirewallManager) : Through outcomes (n+1) ⟨host,mgr,w.ran+1⟩ := by
  obtain ⟨rfl,all⟩ := through
  refine ⟨rfl,?_⟩
  intro i small
  rcases Nat.lt_succ_iff_lt_or_eq.mp small with earlier | rfl
  · exact all i earlier
  · exact done

theorem Built.settled (built : Built outcomes rules before w) : Settled outcomes rules before w :=
  built.imp (fun broke => ⟨broke.1,broke.2.intact⟩) fun fine => ⟨fine.1,fine.2.intact⟩

theorem Built.fresh (built : Built outcomes rules before w) : Fresh w.mgr :=
  built.elim (fun broke => broke.2.fresh) fun fine => fine.2.fresh

theorem prepared_stop (prepared : Prepared outcomes before n w) (early : n ≤ mirrorStart rules)
    (failed : outcomes w.ran ≠ .succeeded) (ran : Nat) : Settled outcomes rules before ⟨w.host,w.mgr,ran⟩ := by
  rw [prepared.through.1] at failed
  exact .inr ⟨Torn.not_stopped early failed,prepared.building.intact⟩

theorem keeps_built (kept : ∀ mirror, Grows mirror → Keeps (Building mirror before) program) :
    Keeps (Built outcomes rules before) program :=
  spec_or (spec_fact (kept broken grows_broken)) (spec_fact (kept (whole before) (grows_whole before)))

structure Mirroring (outcomes : Nat → Outcome) (before : Host) (n : Nat) (w : World) : Prop where
  building : Building broken before w
  covered : Covered CHAIN_ENCRYPT (before.tables .v6 .nat) (w.host.tables .v6 .nat)
  through : Through outcomes n w

theorem covered_broken (covered : Covered CHAIN_ENCRYPT now6 now) : broken false now := by
  obtain ⟨entries,held⟩ := covered.present
  exact ⟨rfl,by rw [held]; rfl⟩

theorem Prepared.unchanged (prepared : Prepared outcomes before n w) :
    w.host.tables .v6 .nat = before.tables .v6 .nat := Owned.unchanged prepared.building.intact.nat6 prepared.unmirrored

theorem prepared_mirrored (clean : CleanHost before) (prepared : Prepared outcomes before n w)
    (done : outcomes w.ran = .succeeded) :
    Mirroring outcomes before (n+1) ⟨w.host.alter .v6 .nat (create CHAIN_ENCRYPT),w.mgr,w.ran+1⟩ ∧
      jumps CHAIN_ENCRYPT "OUTPUT" ((w.host.alter .v6 .nat (create CHAIN_ENCRYPT)).tables .v6 .nat) = false := by
  have six := prepared.unchanged
  have fresh := (clean .v6 .nat).1
  have covered := covered_create fresh
  rw [←six] at covered fresh
  have same : {w.mgr with ownsEncryptChainV6 := false} = w.mgr := by rw [←prepared.unmirrored]
  have intact := prepared.building.intact.alter_nat6 (covered_broken covered)
  rw [same] at intact
  refine ⟨⟨⟨intact,prepared.building.owned,prepared.building.fresh⟩,?_,prepared.through.next done _ _⟩,?_⟩
  · rwa [←six]
  · exact create_unjumped fresh (by decide)

theorem mirroring_alter {change : Chains → Chains} (mirroring : Mirroring outcomes before n w)
    (done : outcomes w.ran = .succeeded)
    (covered : Covered CHAIN_ENCRYPT (before.tables .v6 .nat) (change (w.host.tables .v6 .nat))) :
    Mirroring outcomes before (n+1) ⟨w.host.alter .v6 .nat change,w.mgr,w.ran+1⟩ := by
  have unowned : w.mgr.ownsEncryptChainV6 = false := mirroring.building.intact.nat6.1
  refine ⟨building_nat6 mirroring.building _ ?_,?_,mirroring.through.next done _ _⟩
  · rw [unowned]
    exact covered_broken covered
  · rwa [alter_same]

theorem mirroring_stop (mirroring : Mirroring outcomes before n w) (needed : rules.needsV6Mirror = true)
    (started : mirrorStart rules < n) (early : n ≤ mirrorStart rules+2) (failed : outcomes w.ran ≠ .succeeded) (ran : Nat) :
    Built outcomes rules before ⟨w.host,w.mgr,ran⟩ := by
  obtain ⟨at_n,all⟩ := mirroring.through
  rw [at_n] at failed
  refine .inl ⟨⟨needed,fun i small => all i (by omega),all _ started,?_⟩,building_ran mirroring.building ran⟩
  intro both
  have which : n = mirrorStart rules+1 ∨ n = mirrorStart rules+2 := by omega
  rcases which with rfl | rfl
  · exact failed both.1
  · exact failed both.2

theorem spec_setupV6 (clean : CleanHost before) (needed : rules.needsV6Mirror = true) :
    Spec (Prepared outcomes before (mirrorStart rules)) (setupV6EgressReturn outcomes uid)
      (fun _ => Mirroring outcomes before (mirrorStart rules+3)) (fun _ => Built outcomes rules before) := by
  apply spec_bind (M := fun _ w => Mirroring outcomes before (mirrorStart rules+1) w ∧
    jumps CHAIN_ENCRYPT "OUTPUT" (w.host.tables .v6 .nat) = false)
  · apply spec_create
    · intro w prepared
      rw [prepared.unchanged]
      exact (clean .v6 .nat).1.absent
    · intro w prepared done
      exact prepared_mirrored clean prepared done
    · intro w prepared failed _
      rw [prepared.through.1] at failed
      exact .inr ⟨Torn.not_stopped (Nat.le_refl _) failed,building_ran prepared.building _⟩
  · intro _
    apply spec_bind (M := fun _ => Mirroring outcomes before (mirrorStart rules+2))
    · apply spec_newJump
      · exact fun w holds => holds.2
      · intro w ⟨mirroring,missing⟩ done
        exact mirroring_alter mirroring done (covered_jump mirroring.covered (by decide) (by decide) missing)
      · intro w holds failed _
        exact mirroring_stop holds.1 needed (by omega) (by omega) failed _
    · intro _
      apply spec_runCmd
      · intro w mirroring done
        exact mirroring_alter mirroring done (covered_append _ mirroring.covered)
      · intro w mirroring failed _
        exact mirroring_stop mirroring needed (by omega) (by omega) failed _

theorem spec_mirrorV6 (clean : CleanHost before) (needed : rules.needsV6Mirror = true) :
    Spec (Prepared outcomes before (mirrorStart rules)) (mirrorV6 outcomes uid)
      (fun _ => Built outcomes rules before) (fun _ => Settled outcomes rules before) := by
  apply spec_attempt_bind (spec_setupV6 clean needed)
  · intro value
    intro w mirroring
    have both := mirroring.through.2
    refine .inr ⟨fun torn => torn.stopped ⟨both _ (by omega),both _ (by omega)⟩,?_⟩
    have fresh := mirroring.building.fresh
    exact ⟨mirroring.building.intact.remirror mirroring.covered,mirroring.building.owned,fresh.chain,fresh.rule,fresh.route⟩
  · intro e
    exact spec_pure fun w built => built

theorem prepared_alter {change : Chains → Chains} (prepared : Prepared outcomes before n w)
    (done : outcomes w.ran = .succeeded)
    (covered : Covered CHAIN_ENCRYPT (before.tables .v4 .nat) (change (w.host.tables .v4 .nat))) :
    Prepared outcomes before (n+1) ⟨w.host.alter .v4 .nat change,w.mgr,w.ran+1⟩ :=
  ⟨building_nat4 prepared.building _ covered,prepared.unmirrored,prepared.through.next done _ _⟩

theorem has_egress_of_mirror (needed : rules.needsV6Mirror = true) : rules.has .egressRedirect = true := by
  obtain ⟨rule,present,chosen⟩ := List.any_eq_true.mp needed
  exact List.any_eq_true.mpr ⟨rule,present,(Bool.and_eq_true_iff.mp chosen).1⟩

theorem not_torn_of_unneeded (unneeded : rules.needsV6Mirror ≠ true) : ¬ Torn outcomes rules :=
  fun torn => unneeded torn.needed

theorem spec_egressBase (clean : CleanHost before) (two_left : n+2 = mirrorStart rules) :
    Spec (fun w => Prepared outcomes before n w ∧ jumps CHAIN_ENCRYPT "OUTPUT" (w.host.tables .v4 .nat) = false)
      (egressBase outcomes uid rules) (fun _ => Built outcomes rules before) (fun _ => Settled outcomes rules before) := by
  apply spec_bind (M := fun _ => Prepared outcomes before (n+1))
  · apply spec_newJump
    · exact fun w holds => holds.2
    · intro w ⟨prepared,missing⟩ done
      exact prepared_alter prepared done (covered_jump (covered_nat4 prepared.building) (by decide) (by decide) missing)
    · intro w holds failed _
      exact prepared_stop holds.1 (by omega) failed _
  · intro _
    apply spec_bind (M := fun _ => Prepared outcomes before (mirrorStart rules))
    · apply spec_runCmd
      · intro w prepared done
        rw [←two_left]
        exact prepared_alter prepared done (covered_append _ (covered_nat4 prepared.building))
      · intro w prepared failed _
        exact prepared_stop prepared (by omega) failed _
    · intro _
      apply spec_when
      · intro needed
        exact spec_mirrorV6 clean needed
      · intro unneeded w prepared
        exact .inr ⟨not_torn_of_unneeded (by simp [unneeded]),prepared.building⟩

structure Untouched (before : Host) (w : World) : Prop where
  intact : Intact (whole before) before w.mgr w.host
  empty : w.mgr = {}
  none_ran : w.ran = 0

theorem Untouched.unchanged (untouched : Untouched before w) : w.host.tables .v4 .nat = before.tables .v4 .nat :=
  untouched.intact.nat4.unchanged (by rw [untouched.empty])

theorem untouched_created (clean : CleanHost before) (untouched : Untouched before w) (done : outcomes w.ran = .succeeded) :
    let host := w.host.alter .v4 .nat (create CHAIN_ENCRYPT)
    Prepared outcomes before 1 ⟨host,{w.mgr with ownsEncryptChain := true},w.ran+1⟩ ∧
      jumps CHAIN_ENCRYPT "PREROUTING" (host.tables .v4 .nat) = false ∧
      jumps CHAIN_ENCRYPT "OUTPUT" (host.tables .v4 .nat) = false := by
  have same := untouched.unchanged
  have fresh := (clean .v4 .nat).1
  have covered : Covered CHAIN_ENCRYPT (before.tables .v4 .nat) (create CHAIN_ENCRYPT (w.host.tables .v4 .nat)) := by
    rw [same]
    exact covered_create fresh
  rw [←same] at fresh
  have intact := untouched.intact.alter_nat4 covered
  have through : Through outcomes 0 w := ⟨untouched.none_ran,fun i small => absurd small (Nat.not_lt_zero i)⟩
  refine ⟨⟨⟨intact,rfl,?_⟩,?_,through.next done _ _⟩,?_,?_⟩
  · rw [untouched.empty]
    exact ⟨rfl,rfl,rfl⟩
  · rw [untouched.empty]
  · exact create_unjumped fresh (by decide)
  · exact create_unjumped fresh (by decide)

theorem spec_ensureEncryptChain (clean : CleanHost before) :
    Spec (Untouched before) (ensureEncryptChain outcomes std uid rules) (fun _ => Built outcomes rules before)
      (fun _ => Settled outcomes rules before) := by
  apply spec_bind (M := fun _ w => Prepared outcomes before 1 ⟨w.host,{w.mgr with ownsEncryptChain := true},w.ran⟩ ∧
    jumps CHAIN_ENCRYPT "PREROUTING" (w.host.tables .v4 .nat) = false ∧
    jumps CHAIN_ENCRYPT "OUTPUT" (w.host.tables .v4 .nat) = false)
  · apply spec_create
    · intro w untouched
      rw [untouched.unchanged]
      exact (clean .v4 .nat).1.absent
    · intro w untouched done
      exact untouched_created clean untouched done
    · intro w untouched failed _
      rw [untouched.none_ran] at failed
      exact .inr ⟨Torn.not_stopped (Nat.zero_le _) failed,untouched.intact⟩
  intro _
  apply spec_bind (M := fun _ w => Prepared outcomes before 1 w ∧
    jumps CHAIN_ENCRYPT "PREROUTING" (w.host.tables .v4 .nat) = false ∧
    jumps CHAIN_ENCRYPT "OUTPUT" (w.host.tables .v4 .nat) = false)
  · exact spec_modify fun w holds => holds
  intro _
  apply spec_bind (M := fun _ w => Prepared outcomes before (mirrorStart rules-2) w ∧
    jumps CHAIN_ENCRYPT "OUTPUT" (w.host.tables .v4 .nat) = false)
  · apply spec_when
    · intro ingress
      have start : mirrorStart rules = 4 := if_pos ingress
      apply spec_newJump
      · exact fun w holds => holds.2.1
      · intro w ⟨prepared,missing,unjumped⟩ done
        rw [start]
        refine ⟨prepared_alter prepared done (covered_jump (covered_nat4 prepared.building) (by decide) (by decide) missing),?_⟩
        exact append_unjumped (by decide) unjumped
      · intro w holds failed _
        exact prepared_stop holds.1 (by omega) failed _
    · intro no_ingress w holds
      have start : mirrorStart rules = 3 := if_neg (by simp [no_ingress])
      rw [start]
      exact ⟨holds.1,holds.2.2⟩
  intro _
  apply spec_bind (M := fun _ => Built outcomes rules before)
  · apply spec_when
    · intro _
      have enough : mirrorStart rules-2+2 = mirrorStart rules := by
        unfold mirrorStart
        split <;> rfl
      exact spec_egressBase clean enough
    · intro no_egress w holds
      have unneeded : rules.needsV6Mirror ≠ true := by
        intro needed
        rw [has_egress_of_mirror needed] at no_egress
        cases no_egress
      exact .inr ⟨not_torn_of_unneeded unneeded,holds.1.building⟩
  · intro _
    have filled : Keeps (Built outcomes rules before) (each (redirectRule outcomes std) rules) :=
      keeps_built fun mirror grows => spec_each fun rule _ => keeps_redirectRule grows rule
    exact filled.weaken (fun _ built => built) (fun _ _ built => built) fun _ _ built => built.settled

end Mirror

end Scg.Networking
