import Scg.Registry.Identity

namespace Scg.Registry
open Config Gateway Transition Tables

-- An endpoint is closed by its owner only while no call that has replaced it is still to
-- detach it.
def Orderly (s : State) : Action → Prop
  | .close caller id => ∀ ep, s.live.byId.lookup id = some ep → ep.ownerUid = caller.uid → ¬ Stale s.calls id
  | action => Unwrapped s action

theorem Orderly.unwrapped (orderly : Orderly s action) : Unwrapped s action := by
  cases action with
  | close caller id => trivial
  | _ => exact orderly

variable {env : Parsers} {limits : Limits} {s : State}

def Consistent (s : State) : Prop := Complete LiveEndpoint.ownerKey (Stale s.calls) s.live.byOwner s.live.byId

-- Only closing a stale endpoint could unmap the key of the endpoint that took its place.
theorem moves_consistent (consistent : Consistent s) (orderly : Orderly s action) (moves : Moves limits s next action) :
    Consistent next := by
  unfold Consistent
  cases moves with rw [‹next.live = _›,‹next.calls = _›]
  | still => exact consistent
  | arrive fresh =>
    refine consistent.widen fun x => insert_stale ?_
    intro before found
    rw [fresh] at found
    cases found
  | leave found plain => exact consistent.widen fun x => erase_stale (only_call found (by simp [plain]))
  | allocate found | spawn found => exact consistent.widen fun x => insert_stale (only_call found rfl)
  | enter found admitted free =>
    refine Complete.enter (b := ⟨_,_,_⟩) consistent ?_
    rintro x (old | led)
    · exact erase_stale (only_call found nofun) old
    · rw [free] at led
      cases led
  | replace found taken =>
    refine Complete.enter (b := ⟨_,_,_⟩) consistent ?_
    rintro x (old | led)
    · exact insert_stale (only_call found rfl) old
    · rw [taken] at led
      cases led
      exact ⟨_,_,AList.lookup_insert _,rfl⟩
  | detach found =>
    refine consistent.drop ?_
    intro x other old
    exact erase_stale (only_call found fun named => other (Option.some.inj named).symm) old
  | close found owner => exact consistent.remove found (orderly _ found owner)
  | shutdown => exact complete_empty

theorem reached_consistent (path : ReachedWhen (registry env limits) Orderly s) : Consistent s := by
  apply path.invariant
  · rintro s ⟨config,rfl⟩
    exact complete_empty
  · intro s action next consistent orderly ran
    exact moves_consistent consistent orderly (step_moves ran)

-- Between replacements the registry is one table read two ways.
theorem registry_inverse (path : ReachedWhen (registry env limits) Orderly s)
    (quiet : ∀ c caller key old, s.calls.lookup c ≠ some (.replaced caller key old)) :
    (∀ id ep, s.live.byId.lookup id = some ep → s.live.byOwner.lookup ep.ownerKey = some id) ∧
    (∀ key id, s.live.byOwner.lookup key = some id → ∃ ep, s.live.byId.lookup id = some ep ∧ ep.ownerKey = key) ∧
    ∀ id id' ep ep', s.live.byId.lookup id = some ep → s.live.byId.lookup id' = some ep' →
      ep.ownerKey = ep'.ownerKey → id = id' := by
  have settled : ∀ x, ¬ Stale s.calls x := by
    rintro x ⟨c,call,found,named⟩
    cases call with
    | replaced caller key old => exact quiet c caller key old found
    | _ => cases named
  have identity := reached_identity (path.weaken fun _ _ => Orderly.unwrapped)
  have consistent := reached_consistent path
  have inverse : ∀ key id, s.live.byOwner.lookup key = some id ↔
      ∃ ep, s.live.byId.lookup id = some ep ∧ ep.ownerKey = key :=
    fun key id => identity.index.inverse consistent settled
  refine ⟨fun id ep found => (inverse _ id).mpr ⟨ep,found,rfl⟩,fun key id => (inverse key id).mp,?_⟩
  intro id id' ep ep' one two same
  have first := (inverse _ id).mpr ⟨ep,one,rfl⟩
  have second := (inverse _ id').mpr ⟨ep',two,same.symm⟩
  exact Option.some.inj (first.symm.trans second)

def orderly (s : State) : Action → Bool
  | .close _ id => s.calls.entries.all fun entry => entry.2.old? != some id
  | action => unwrapped s action

theorem orderly_sound (s : State) (action : Action) (checked : orderly s action = true) : Orderly s action := by
  cases action with
  | close caller id =>
    rintro ep _ _ ⟨c,call,found,named⟩
    have kept := List.all_eq_true.mp checked ⟨c,call⟩ (AList.mem_lookup_iff.mp found)
    simp [named] at kept
  | allocate call => exact unwrapped_sound s (.allocate call) checked
  | _ => trivial

def slotKey : String := ownerKey 1000 "app" .normal .decrypt .uds

def slotView (s : State) : Option String × Option String × Option Nat × Nat :=
  ((s.live.byId.lookup 2).map (·.ownerKey),(s.live.byId.lookup 3).map (·.ownerKey),s.live.byOwner.lookup slotKey,
    s.calls.entries.length)

theorem no_calls (none : s.calls.entries.length = 0) :
    ∀ c caller key old, s.calls.lookup c ≠ some (.replaced caller key old) := by
  intro c caller key old found
  have present := AList.mem_lookup_iff.mp found
  rw [List.eq_nil_of_length_eq_zero none] at present
  cases present

theorem registry_inverse_replaced : ∃ s, ReachedWhen (registry plainParsers usualLimits) Orderly s ∧
    s.live.byOwner.lookup slotKey = some 2 ∧ ∃ ep, s.live.byId.lookup 2 = some ep ∧ ep.ownerKey = slotKey := by
  have ran : (runChecked (registry plainParsers usualLimits) orderly (initial plainParsers localConfig)
      (createSteps 0 ++ createSteps 1 ++ [Action.detach 1])).map slotView = some (some slotKey,none,some 2,0) := by
    decide +kernel
  obtain ⟨s,path,told⟩ := runChecked_shows orderly_sound ran ⟨localConfig,rfl⟩
  simp only [slotView,Prod.mk.injEq] at told
  exact ⟨s,path,told.2.2.1,(registry_inverse path (no_calls told.2.2.2)).2.1 slotKey 2 told.2.2.1⟩

-- The first endpoint is closed after the second has replaced it and before it is
-- detached. The second is then live under no key, and a third joins it in the same slot.
theorem close_orphans_replacement : ∃ s, ReachedWhen (registry plainParsers usualLimits) Unwrapped s ∧
    (∀ c caller key old, s.calls.lookup c ≠ some (.replaced caller key old)) ∧
    s.live.byOwner.lookup slotKey = some 3 ∧
    (∃ ep, s.live.byId.lookup 2 = some ep ∧ ep.ownerKey = slotKey) ∧
    ∃ ep, s.live.byId.lookup 3 = some ep ∧ ep.ownerKey = slotKey := by
  have ran : (runChecked (registry plainParsers usualLimits) unwrapped (initial plainParsers localConfig)
      (createSteps 0 ++ createSteps 1 ++ [Action.close localClient 1,Action.detach 1] ++ createSteps 2)).map slotView =
      some (some slotKey,some slotKey,some 3,0) := by decide +kernel
  obtain ⟨s,path,told⟩ := runChecked_shows unwrapped_sound ran ⟨localConfig,rfl⟩
  simp only [slotView,Prod.mk.injEq] at told
  obtain ⟨second,third,mapped,quiet⟩ := told
  exact ⟨s,path,no_calls quiet,mapped,Option.map_eq_some_iff.mp second,Option.map_eq_some_iff.mp third⟩

end Scg.Registry
