import Scg.Registry.Identity

namespace Scg.Registry
open Config Gateway Transition Tables

def Settled (live : LiveState) (calls : Calls) (uid : UInt32) (id : Nat) : Prop :=
  (∃ ep, live.byId.lookup id = some ep ∧ ep.ownerUid = uid) ∧ ¬ Stale calls id

def Bounded (quota : Nat) (live : LiveState) (calls : Calls) : Prop :=
  ∀ (uid : UInt32) (ids : Finset Nat), (∀ id ∈ ids, Settled live calls uid id) → ids.card ≤ quota

def replacing (uid : UInt32) (call : Call) : Bool := call.old?.isSome && call.caller.uid == uid

def inFlight (calls : Calls) (uid : UInt32) : Nat := (calls.entries.filter fun entry => replacing uid entry.2).length

variable {env : Parsers} {limits : Limits} {live : LiveState} {s : State}
variable {id : Nat} {caller : CallerCred}

theorem owned_card : (select (LiveState.owns uid) live.byId).card = live.owned uid := card_select

theorem mem_owned : id ∈ select (LiveState.owns uid) live.byId ↔
    ∃ ep, live.byId.lookup id = some ep ∧ ep.ownerUid = uid := by simp [mem_select,LiveState.owns]

theorem owned_small (valid : Identity live calls allocations) (uid : UInt32) : live.owned uid < 2^32 := by
  have within : select (LiveState.owns uid) live.byId ⊆ Finset.range live.nextId := by
    intro id present
    obtain ⟨ep,found,_⟩ := mem_owned.mp present
    exact Finset.mem_range.mpr (valid.registered id ep found).1
  have count := Finset.card_le_card within
  rw [owned_card,Finset.card_range] at count
  exact Nat.lt_of_le_of_lt count valid.small

theorem quota_open (valid : Identity live calls allocations) (limited : 0 < limits.maxEndpointsPerUid)
    (free : live.byOwner.lookup key = none) (admitted : live.quotaReached limits uid key = false) :
    live.owned uid < limits.maxEndpointsPerUid.toNat := by
  have absent : key ∉ live.byOwner := AList.lookup_eq_none.mp free
  have small := Nat.mod_eq_of_lt (owned_small valid uid)
  simp only [LiveState.quotaReached,small] at admitted
  simpa [limited,absent] using admitted

theorem Bounded.shrink (bounded : Bounded quota live calls)
    (fewer : ∀ uid id, Settled after left uid id → Settled live calls uid id) : Bounded quota after left :=
  fun uid ids settled => bounded uid ids fun id present => fewer uid id (settled id present)

theorem entered_settled (clean : ∀ x, Stale calls x → Stale left x)
    (settled : Settled (entered live id ⟨caller.uid,key,thread⟩) left uid x) :
    (x = id ∧ uid = caller.uid) ∨ (x ≠ id ∧ Settled live calls uid x) := by
  obtain ⟨⟨ep,found,owner⟩,live⟩ := settled
  rcases insert_call found with ⟨rfl,rfl⟩ | ⟨apart,found⟩
  · exact .inl ⟨rfl,owner.symm⟩
  · exact .inr ⟨apart,⟨ep,found,owner⟩,fun out => live (clean x out)⟩

theorem entered_bounded (bounded : Bounded quota live calls) (clean : ∀ x, Stale calls x → Stale left x)
    (room : ∀ others : Finset Nat, (∀ x ∈ others, Settled live calls caller.uid x ∧ ¬ Stale left x) →
      others.card < quota) : Bounded quota (entered live id ⟨caller.uid,key,thread⟩) left := by
  intro uid ids settled
  have before := fun x present => entered_settled clean (settled x present)
  by_cases mine : uid = caller.uid
  · subst mine
    have count := room (ids.erase id) fun x present => by
      obtain ⟨other,present⟩ := Finset.mem_erase.mp present
      exact ⟨((before x present).resolve_left fun same => other same.1).2,(settled x present).2⟩
    have rest := Finset.pred_card_le_card_erase (s := ids) (a := id)
    omega
  · exact bounded uid ids fun x present => ((before x present).resolve_left fun same => mine same.2).2

theorem new_bounded (bounded : Bounded quota live calls) (room : live.owned caller.uid < quota)
    (clean : ∀ x, Stale calls x → Stale left x) :
    Bounded quota (entered live id ⟨caller.uid,key,thread⟩) left := by
  refine entered_bounded bounded clean fun others settled => ?_
  have within : others ⊆ select (LiveState.owns caller.uid) live.byId :=
    fun x present => mem_owned.mpr (settled x present).1.1
  exact Nat.lt_of_le_of_lt (owned_card ▸ Finset.card_le_card within) room

-- The endpoint that is replaced was settled and is so no more: the new one takes its place
-- in the count.
theorem replace_bounded (bounded : Bounded quota live calls) (valid : Identity live calls allocations)
    (found : calls.lookup c = some (.spawned caller key id thread)) (taken : live.byOwner.lookup key = some old) :
    Bounded quota (entered live id ⟨caller.uid,key,thread⟩) (calls.insert c (.replaced caller key old)) := by
  refine entered_bounded bounded (fun x => insert_stale (only_call found rfl)) fun others settled => ?_
  obtain ⟨ep,registered,owner,_⟩ := replaced_owner valid found taken
  have gone : old ∉ others := fun present => (settled old present).2 ⟨c,_,AList.lookup_insert _,rfl⟩
  refine Nat.le_trans (Nat.le_of_eq (Finset.card_insert_of_notMem gone).symm) (bounded caller.uid _ fun x present => ?_)
  rcases Finset.mem_insert.mp present with rfl | rest
  · exact ⟨⟨ep,registered,owner⟩,valid.index.apart key x taken⟩
  · exact (settled x rest).1

theorem moves_bounded (limited : 0 < limits.maxEndpointsPerUid) (valid : Identity s.live s.calls s.allocations)
    (bounded : Bounded limits.maxEndpointsPerUid.toNat s.live s.calls) (moves : Moves limits s next action) :
    Bounded limits.maxEndpointsPerUid.toNat next.live next.calls := by
  have calm : ∀ {left : Calls}, (∀ x, Stale s.calls x → Stale left x) →
      Bounded limits.maxEndpointsPerUid.toNat s.live left :=
    fun clean => bounded.shrink fun _ id settled => ⟨settled.1,fun out => settled.2 (clean id out)⟩
  cases moves with rw [‹next.live = _›,‹next.calls = _›]
  | still => exact bounded
  | arrive fresh =>
    refine calm fun x => insert_stale ?_
    intro before found
    rw [fresh] at found
    cases found
  | leave found plain => exact calm fun x => erase_stale (only_call found (by simp [plain]))
  | allocate found | spawn found => exact calm fun x => insert_stale (only_call found rfl)
  | enter found admitted free =>
    exact new_bounded bounded (quota_open valid limited free admitted) fun x => erase_stale (only_call found nofun)
  | replace found taken => exact replace_bounded bounded valid found taken
  | detach found =>
    refine bounded.shrink fun _ id settled => ?_
    obtain ⟨⟨ep,present,owner⟩,kept⟩ := settled
    obtain ⟨other,present⟩ := lookup_erase_some present
    refine ⟨⟨ep,present,owner⟩,fun out => kept ?_⟩
    exact erase_stale (only_call found fun named => other (Option.some.inj named).symm) out
  | close found owner =>
    refine bounded.shrink fun _ id settled => ?_
    obtain ⟨⟨ep,present,owner⟩,kept⟩ := settled
    exact ⟨⟨ep,(lookup_erase_some present).2,owner⟩,kept⟩
  | shutdown =>
    refine bounded.shrink fun _ id settled => ?_
    obtain ⟨⟨ep,present,_⟩,_⟩ := settled
    simp [LiveState.shutdownAll] at present

theorem reached_bounded (limited : 0 < limits.maxEndpointsPerUid) (path : ReachedWhen (registry env limits) Unwrapped s) :
    Identity s.live s.calls s.allocations ∧ Bounded limits.maxEndpointsPerUid.toNat s.live s.calls := by
  apply path.invariant
  · rintro s ⟨config,rfl⟩
    refine ⟨initial_identity,?_⟩
    intro uid ids settled
    have none : ids = ∅ := by
      apply Finset.eq_empty_of_forall_notMem
      intro id present
      obtain ⟨⟨ep,found,_⟩,_⟩ := settled id present
      simp [initial,LiveState.empty] at found
    simp [none]
  · intro s action next facts room ran
    have moves := step_moves ran
    exact ⟨moves_identity facts.1 room moves,moves_bounded limited facts.1 facts.2 moves⟩

theorem stale_card (valid : Identity live calls allocations) (ids : Finset Nat)
    (stale : ∀ id ∈ ids, (∃ ep, live.byId.lookup id = some ep ∧ ep.ownerUid = uid) ∧ Stale calls id) :
    ids.card ≤ inFlight calls uid := by
  have named : ids ⊆ (select (replacing uid) calls).image fun c => ((calls.lookup c).bind Call.old?).getD 0 := by
    intro id present
    obtain ⟨⟨ep,found,owner⟩,c,call,held,old⟩ := stale id present
    have mine := (valid.outgoing c call id held old).2 ep found
    refine Finset.mem_image.mpr ⟨c,mem_select.mpr ⟨call,held,?_⟩,by simp [held,old]⟩
    simp [replacing,old,← mine,owner]
  calc ids.card ≤ _ := Finset.card_le_card named
    _ ≤ (select (replacing uid) calls).card := Finset.card_image_le
    _ = inFlight calls uid := card_select

-- The quota holds at every moment up to the replacements that are under way.
theorem endpoint_quota (limited : 0 < limits.maxEndpointsPerUid) (path : ReachedWhen (registry env limits) Unwrapped s)
    (uid : UInt32) : s.live.owned uid ≤ limits.maxEndpointsPerUid.toNat + inFlight s.calls uid := by
  classical
  obtain ⟨valid,bounded⟩ := reached_bounded limited path
  have split := Finset.card_filter_add_card_filter_not (s := select (LiveState.owns uid) s.live.byId) (Stale s.calls)
  have stale := stale_card valid ((select (LiveState.owns uid) s.live.byId).filter (Stale s.calls)) fun id present => by
    obtain ⟨owned,out⟩ := Finset.mem_filter.mp present
    exact ⟨mem_owned.mp owned,out⟩
  have settled := bounded uid ((select (LiveState.owns uid) s.live.byId).filter fun id => ¬ Stale s.calls id) fun id present => by
    obtain ⟨owned,kept⟩ := Finset.mem_filter.mp present
    exact ⟨mem_owned.mp owned,kept⟩
  rw [owned_card] at split
  omega

theorem endpoint_quota_replacing : 0 < oneEndpoint.maxEndpointsPerUid ∧
    ∃ s, ReachedWhen (registry plainParsers oneEndpoint) Unwrapped s ∧
      s.live.owned 1000 = 2 ∧ inFlight s.calls 1000 = 1 ∧ s.live.owned 1000 ≤ 1 + inFlight s.calls 1000 := by
  have ran : (runChecked (registry plainParsers oneEndpoint) unwrapped (initial plainParsers localConfig)
      (createSteps 0 ++ createSteps 1)).map (fun s => (s.live.owned 1000,inFlight s.calls 1000)) = some (2,1) := by
    decide +kernel
  obtain ⟨s,path,told⟩ := runChecked_shows unwrapped_sound ran ⟨localConfig,rfl⟩
  exact ⟨by decide,s,path,congrArg Prod.fst told,congrArg Prod.snd told,endpoint_quota (by decide) path 1000⟩

end Scg.Registry
