import Scg.Registry.Machine

namespace Scg.Registry
open Policy Config Gateway Transition Tables List AList

theorem decimal_text (n : Nat) : (toString n).toList = Nat.toDigits 10 n := by
  change n.repr.toList = _
  rw [Nat.repr_eq_ofList_toDigits,String.toList_ofList]

theorem decimal_inj {m n : Nat} (same : (toString m).toList = (toString n).toList) : m = n := by
  have value := congrArg (fun digits => Nat.ofDigitChars 10 digits 0) same
  simpa using value

theorem decimal_plain (n : Nat) : '\x00' ∉ (toString n).toList := by
  intro present
  rw [decimal_text] at present
  have digit := Nat.isDigit_of_mem_toDigits (by decide) (by decide) present
  revert digit
  decide

-- The parts before the first separator are the same, and so are the rests.
theorem cut (plain : sep ∉ front) (plain' : sep ∉ front')
    (same : front ++ sep :: rest = front' ++ sep :: rest') : front = front' ∧ rest = rest' := by
  induction front generalizing front' with
  | nil =>
    cases front' with
    | nil => exact ⟨rfl,(cons.inj same).2⟩
    | cons c front' => exact absurd ((cons.inj same).1 ▸ mem_cons_self) plain'
  | cons c front ih =>
    cases front' with
    | nil => exact absurd ((cons.inj same).1 ▸ mem_cons_self) plain
    | cons c' front' =>
      obtain ⟨rfl,later⟩ := cons.inj same
      obtain ⟨fronts,rests⟩ := ih (plain ∘ mem_cons_of_mem c) (plain' ∘ mem_cons_of_mem c) later
      exact ⟨congrArg _ fronts,rests⟩

section Keys
-- Read from the end, where the caller's text cannot stand.
theorem templateKey_parts
    (same : templateKey appId trafficClass direction kind = templateKey appId' trafficClass' direction' kind') :
    appId = appId' ∧ trafficClass = trafficClass' ∧ direction = direction' ∧ kind = kind' := by
  have plain : (∀ kind : Proto, '\x00' ∉ kind.display.toList.reverse) ∧
      (∀ direction : Direction, '\x00' ∉ direction.display.toList.reverse) ∧
      ∀ trafficClass, '\x00' ∉ (classDisplay trafficClass).toList.reverse := by
    refine ⟨fun kind => ?_,fun direction => ?_,fun trafficClass => ?_⟩
    · cases kind <;> decide
    · cases direction <;> decide
    · cases trafficClass <;> decide
  have text := congrArg (fun key => key.toList.reverse) same
  simp only [templateKey,String.toList_append,reverse_append] at text
  obtain ⟨kinds,text⟩ := cut (plain.1 kind) (plain.1 kind') text
  obtain ⟨directions,text⟩ := cut (plain.2.1 direction) (plain.2.1 direction') text
  obtain ⟨classes,apps⟩ := cut (plain.2.2 trafficClass) (plain.2.2 trafficClass') text
  refine ⟨String.toList_inj.mp (reverse_inj.mp apps),?_,?_,?_⟩
  · revert classes
    cases trafficClass <;> cases trafficClass' <;> decide
  · revert directions
    cases direction <;> cases direction' <;> decide
  · revert kinds
    cases kind <;> cases kind' <;> decide

theorem ownerKey_parts
    (same : ownerKey uid appId trafficClass direction kind = ownerKey uid' appId' trafficClass' direction' kind') :
    uid = uid' ∧ templateKey appId trafficClass direction kind = templateKey appId' trafficClass' direction' kind' := by
  have text := congrArg String.toList same
  simp only [ownerKey,String.toList_append,append_assoc] at text
  obtain ⟨digits,templates⟩ := cut (decimal_plain uid.toNat) (decimal_plain uid'.toNat) text
  exact ⟨UInt32.toNat_inj.mp (decimal_inj digits),String.toList_inj.mp templates⟩

end Keys

theorem keys_injective :
    (Function.Injective fun key : String × TrafficClass × Direction × Proto =>
      templateKey key.1 key.2.1 key.2.2.1 key.2.2.2) ∧
    Function.Injective fun key : UInt32 × String × TrafficClass × Direction × Proto =>
      ownerKey key.1 key.2.1 key.2.2.1 key.2.2.2.1 key.2.2.2.2 := by
  constructor
  · rintro ⟨appId,trafficClass,direction,kind⟩ ⟨appId',trafficClass',direction',kind'⟩ same
    obtain ⟨rfl,rfl,rfl,rfl⟩ := templateKey_parts same
    rfl
  · rintro ⟨uid,appId,trafficClass,direction,kind⟩ ⟨uid',appId',trafficClass',direction',kind'⟩ same
    obtain ⟨rfl,templates⟩ := ownerKey_parts same
    obtain ⟨rfl,rfl,rfl,rfl⟩ := templateKey_parts templates
    rfl

def Keyed (uid : UInt32) (key : String) : Prop :=
  ∃ appId trafficClass direction kind, key = ownerKey uid appId trafficClass direction kind

theorem Keyed.unique (one : Keyed uid key) (two : Keyed uid' key) : uid = uid' := by
  obtain ⟨_,_,_,_,rfl⟩ := one
  obtain ⟨_,_,_,_,same⟩ := two
  exact (ownerKey_parts same).1

abbrev Calls := AList fun _ : Nat => Call

def Holds (calls : Calls) (c id : Nat) : Prop := ∃ call, calls.lookup c = some call ∧ call.id? = some id

def Stale (calls : Calls) (id : Nat) : Prop := ∃ c call, calls.lookup c = some call ∧ call.old? = some id

section Calls
variable {calls : Calls} {id : Nat}

theorem only_call {P : Call → Prop} (found : calls.lookup c = some call) (holds : P call) :
    ∀ before, calls.lookup c = some before → P before := by
  intro before present
  rw [found] at present
  cases present
  exact holds

theorem insert_call {α : Type} {table : AList fun _ : Nat => α} {entry found : α}
    (present : (table.insert c entry).lookup other = some found) :
    (other = c ∧ found = entry) ∨ (other ≠ c ∧ table.lookup other = some found) := by
  by_cases same : other = c
  · subst same
    rw [lookup_insert] at present
    exact .inl ⟨rfl,(Option.some.inj present).symm⟩
  · rw [lookup_insert_ne same] at present
    exact .inr ⟨same,present⟩

theorem insert_each {P : Nat → Call → Prop} (each : ∀ d held, calls.lookup d = some held → P d held) (mine : P c call) :
    ∀ d held, (calls.insert c call).lookup d = some held → P d held := by
  intro d held present
  rcases insert_call present with ⟨rfl,rfl⟩ | ⟨_,present⟩
  · exact mine
  · exact each d held present

theorem holds_insert (found : Holds (calls.insert c call) other id) :
    (other = c ∧ call.id? = some id) ∨ (other ≠ c ∧ Holds calls other id) := by
  obtain ⟨held,present,named⟩ := found
  rcases insert_call present with ⟨same,rfl⟩ | ⟨apart,present⟩
  · exact .inl ⟨same,named⟩
  · exact .inr ⟨apart,held,present,named⟩

theorem holds_erase (found : Holds (calls.erase c) other id) : other ≠ c ∧ Holds calls other id := by
  obtain ⟨held,present,named⟩ := found
  obtain ⟨apart,present⟩ := lookup_erase_some present
  exact ⟨apart,held,present,named⟩

theorem stale_insert (found : Stale (calls.insert c call) id) : call.old? = some id ∨ Stale calls id := by
  obtain ⟨other,held,present,named⟩ := found
  rcases insert_call present with ⟨_,rfl⟩ | ⟨_,present⟩
  · exact .inl named
  · exact .inr ⟨other,held,present,named⟩

theorem stale_erase (found : Stale (calls.erase c) id) : Stale calls id := by
  obtain ⟨other,held,present,named⟩ := found
  exact ⟨other,held,(lookup_erase_some present).2,named⟩

theorem insert_stale (idle : ∀ before, calls.lookup c = some before → before.old? = none) (stale : Stale calls id) :
    Stale (calls.insert c call) id := by
  obtain ⟨other,held,present,named⟩ := stale
  have apart : other ≠ c := by
    rintro rfl
    rw [idle held present] at named
    cases named
  exact ⟨other,held,by rwa [lookup_insert_ne apart],named⟩

theorem erase_stale (idle : ∀ before, calls.lookup c = some before → before.old? ≠ some id) (stale : Stale calls id) :
    Stale (calls.erase c) id := by
  obtain ⟨other,held,present,named⟩ := stale
  have apart : other ≠ c := by
    rintro rfl
    exact idle held present named
  exact ⟨other,held,by rwa [lookup_erase_ne apart],named⟩

end Calls

-- Ids below the counter are taken: each by an endpoint, by the one call that holds it or
-- by calls that are about to detach it.
structure Identity (live : LiveState) (calls : Calls) (allocations : Nat) : Prop where
  counter : live.nextId = allocations+1
  small : live.nextId < 2^32
  registered : ∀ id ep, live.byId.lookup id = some ep → id < live.nextId ∧ Keyed ep.ownerUid ep.ownerKey
  keyed : ∀ c call, calls.lookup c = some call → Keyed call.caller.uid call.key
  unregistered : ∀ c id, Holds calls c id → id < live.nextId ∧ live.byId.lookup id = none ∧ ¬ Stale calls id
  alone : ∀ c d id, Holds calls c id → Holds calls d id → c = d
  outgoing : ∀ c call old, calls.lookup c = some call → call.old? = some old →
    old < live.nextId ∧ ∀ ep, live.byId.lookup old = some ep → ep.ownerUid = call.caller.uid
  index : Indexed LiveEndpoint.ownerKey (Stale calls) live.byOwner live.byId

variable {id : Nat}
theorem initial_identity : Identity .empty ∅ 0 where
  counter := rfl
  small := by decide
  registered := fun _ _ found => by simp [LiveState.empty] at found
  keyed := fun _ _ found => by simp at found
  unregistered := by
    rintro c id ⟨call,found,_⟩
    simp at found
  alone := by
    rintro c d id ⟨call,found,_⟩
    simp at found
  outgoing := fun _ _ _ found => by simp at found
  index := indexed_empty

-- The counter is past the ids already in use, and so is the one a call is given.
theorem insert_identity {n given : Nat} (valid : Identity live calls allocations) (counter : n = given+1)
    (small : n < 2^32) (grown : live.nextId ≤ n) (keyed : Keyed call.caller.uid call.key) (idle : call.old? = none)
    (numbered : ∀ id, call.id? = some id → Holds calls c id ∨ live.nextId ≤ id ∧ id < n) :
    Identity {live with nextId := n} (calls.insert c call) given := by
  have stale : ∀ id, Stale (calls.insert c call) id → Stale calls id := by
    intro id found
    exact (stale_insert found).resolve_left (by simp [idle])
  have holds : ∀ d id, Holds (calls.insert c call) d id → Holds calls d id ∨ d = c ∧ live.nextId ≤ id ∧ id < n := by
    intro d id found
    rcases holds_insert found with ⟨rfl,mine⟩ | ⟨_,old⟩
    · exact (numbered id mine).imp_right (⟨rfl,·⟩)
    · exact .inl old
  have under : ∀ {x}, x < live.nextId → x < n := fun below => Nat.lt_of_lt_of_le below grown
  refine ⟨counter,small,?_,insert_each valid.keyed keyed,?_,?_,?_,valid.index.narrow stale⟩
  · intro id ep found
    exact (valid.registered id ep found).imp_left under
  · intro d id found
    rcases holds d id found with old | ⟨_,fresh,below⟩
    · obtain ⟨below,free,clean⟩ := valid.unregistered d id old
      exact ⟨under below,free,fun out => clean (stale id out)⟩
    · refine ⟨below,Option.eq_none_iff_forall_ne_some.mpr fun ep found => ?_,fun out => ?_⟩
      · exact Nat.not_lt.mpr fresh (valid.registered id ep found).1
      · obtain ⟨d,held,present,named⟩ := stale id out
        exact Nat.not_lt.mpr fresh (valid.outgoing d held id present named).1
  · intro d e id one two
    rcases holds d id one with first | ⟨rfl,fresh,_⟩ <;> rcases holds e id two with second | ⟨rfl,fresh,_⟩
    · exact valid.alone d e id first second
    · exact absurd (valid.unregistered d id first).1 (Nat.not_lt.mpr fresh)
    · exact absurd (valid.unregistered e id second).1 (Nat.not_lt.mpr fresh)
    · rfl
  · intro d held old found named
    rcases insert_call found with ⟨_,rfl⟩ | ⟨_,found⟩
    · rw [idle] at named
      cases named
    · exact (valid.outgoing d held old found named).imp_left under

theorem advance_identity (valid : Identity live calls allocations) (keyed : Keyed call.caller.uid call.key)
    (numbered : ∀ id, call.id? = some id → Holds calls c id) (idle : call.old? = none) :
    Identity live (calls.insert c call) allocations :=
  insert_identity valid valid.counter valid.small (Nat.le_refl _) keyed idle fun id named => .inl (numbered id named)

theorem allocId_fresh (valid : Identity live calls allocations) (room : allocations+1 < 2^32-1) :
    live.allocId = (live.nextId,{live with nextId := live.nextId+1}) := by
  have free : live.nextId ∉ live.byId := by
    intro taken
    obtain ⟨ep,found⟩ := Option.isSome_iff_exists.mp (lookup_isSome.mpr taken)
    exact Nat.lt_irrefl _ (valid.registered _ ep found).1
  have first : LiveState.skipLive live.byId (live.byId.entries.length+1) live.nextId = live.nextId := by
    simp [LiveState.skipLive,free]
  have counter := valid.counter
  have next : LiveState.idAfter live.nextId = live.nextId+1 := if_pos (by omega)
  simp only [LiveState.allocId,first,next]

theorem allocate_identity (valid : Identity live calls allocations) (room : allocations+1 < 2^32-1)
    (found : calls.lookup c = some (.admitted caller key)) :
    Identity {live with nextId := live.nextId+1} (calls.insert c (.allocated caller key live.nextId)) (allocations+1) := by
  have counter := valid.counter
  refine insert_identity valid (congrArg _ counter) (by omega) (Nat.le_succ _) (valid.keyed c (.admitted caller key) found) rfl ?_
  intro id named
  cases named
  exact .inr ⟨Nat.le_refl _,Nat.lt_succ_self _⟩

def entered (live : LiveState) (id : Nat) (ep : LiveEndpoint) : LiveState :=
  {live with byOwner := live.byOwner.insert ep.ownerKey id,byId := live.byId.insert id ep}

section
variable (valid : Identity live calls allocations)
include valid

theorem enter_identity {after : Calls}
    (found : calls.lookup c = some (.spawned caller key id thread))
    (keyed : ∀ d held, after.lookup d = some held → Keyed held.caller.uid held.key)
    (holds : ∀ d x, Holds after d x → d ≠ c ∧ Holds calls d x)
    (stale : ∀ x, Stale after x → Stale calls x ∨ live.byOwner.lookup key = some x)
    (outgoing : ∀ d held old, after.lookup d = some held → held.old? = some old →
      old < live.nextId ∧ ∀ ep, live.byId.lookup old = some ep → ep.ownerUid = held.caller.uid) :
    Identity (entered live id ⟨caller.uid,key,thread⟩) after allocations := by
  have mine : Holds calls c id := ⟨_,found,rfl⟩
  obtain ⟨below,free,clean⟩ := valid.unregistered c id mine
  have unstale : ∀ x, live.byId.lookup x = none → ¬ Stale calls x → ¬ Stale after x := by
    intro x absent clean out
    obtain ⟨ep,present,_⟩ := valid.index.sound key x ((stale x out).resolve_left clean)
    rw [absent] at present
    cases present
  refine ⟨valid.counter,valid.small,?_,keyed,?_,?_,?_,valid.index.enter free clean stale⟩
  · intro x ep present
    rcases insert_call present with ⟨rfl,rfl⟩ | ⟨_,present⟩
    · exact ⟨below,valid.keyed c _ found⟩
    · exact valid.registered x ep present
  · intro d x held
    obtain ⟨other,before⟩ := holds d x held
    obtain ⟨under,absent,clean⟩ := valid.unregistered d x before
    have different : x ≠ id := fun equal => other (valid.alone d c id (equal ▸ before) mine)
    exact ⟨under,(lookup_insert_ne different).trans absent,unstale x absent clean⟩
  · exact fun d e x one two => valid.alone d e x (holds d x one).2 (holds e x two).2
  · intro d held old present named
    obtain ⟨under,owner⟩ := outgoing d held old present named
    refine ⟨under,fun ep registered => ?_⟩
    rcases insert_call registered with ⟨rfl,rfl⟩ | ⟨_,registered⟩
    · exact absurd ⟨d,held,present,named⟩ (unstale old free clean)
    · exact owner ep registered

theorem new_identity (found : calls.lookup c = some (.spawned caller key id thread)) :
    Identity (entered live id ⟨caller.uid,key,thread⟩) (calls.erase c) allocations := by
  apply enter_identity valid found
  · exact fun d held present => valid.keyed d held (lookup_erase_some present).2
  · exact fun d x holds => holds_erase holds
  · exact fun x out => .inl (stale_erase out)
  · exact fun d held old present => valid.outgoing d held old (lookup_erase_some present).2

theorem replaced_owner
    (found : calls.lookup c = some (.spawned caller key id thread)) (taken : live.byOwner.lookup key = some old) :
    ∃ ep, live.byId.lookup old = some ep ∧ ep.ownerUid = caller.uid ∧ old < live.nextId := by
  have mine : Keyed caller.uid key := valid.keyed c _ found
  obtain ⟨ep,registered,carries⟩ := valid.index.sound key old taken
  obtain ⟨under,keyed⟩ := valid.registered old ep registered
  rw [carries] at keyed
  exact ⟨ep,registered,keyed.unique mine,under⟩

theorem replace_identity
    (found : calls.lookup c = some (.spawned caller key id thread)) (taken : live.byOwner.lookup key = some old) :
    Identity (entered live id ⟨caller.uid,key,thread⟩) (calls.insert c (.replaced caller key old)) allocations := by
  apply enter_identity valid found
  · exact insert_each valid.keyed (valid.keyed c (.spawned caller key id thread) found)
  · intro d x holds
    exact (holds_insert holds).resolve_left (by simp [Call.id?])
  · intro x out
    rcases stale_insert out with named | before
    · cases named
      exact .inr taken
    · exact .inl before
  · intro d held x present named
    rcases insert_call present with ⟨_,rfl⟩ | ⟨_,present⟩
    · cases named
      obtain ⟨ep,registered,owner,under⟩ := replaced_owner valid found taken
      refine ⟨under,?_⟩
      intro again present
      rw [registered] at present
      cases present
      exact owner
    · exact valid.outgoing d held x present named

theorem shrink_identity {after : LiveState} (counter : after.nextId = live.nextId)
    (fewer : ∀ x ep, after.byId.lookup x = some ep → live.byId.lookup x = some ep)
    (ended : ∀ d held, left.lookup d = some held → calls.lookup d = some held)
    (index : Indexed LiveEndpoint.ownerKey (Stale left) after.byOwner after.byId) : Identity after left allocations := by
  have holds : ∀ d x, Holds left d x → Holds calls d x := by
    rintro d x ⟨held,present,numbered⟩
    exact ⟨held,ended d held present,numbered⟩
  have stale : ∀ x, Stale left x → Stale calls x := by
    rintro x ⟨d,held,present,named⟩
    exact ⟨d,held,ended d held present,named⟩
  refine ⟨counter ▸ valid.counter,counter ▸ valid.small,?_,fun d held present => valid.keyed d held (ended d held present),
    ?_,fun d e x one two => valid.alone d e x (holds d x one) (holds e x two),?_,index⟩
  · intro x ep present
    rw [counter]
    exact valid.registered x ep (fewer x ep present)
  · intro d x held
    rw [counter]
    obtain ⟨under,free,clean⟩ := valid.unregistered d x (holds d x held)
    refine ⟨under,?_,fun out => clean (stale x out)⟩
    cases present : after.byId.lookup x with
    | none => rfl
    | some ep =>
      rw [fewer x ep present] at free
      cases free
  · intro d held x present named
    rw [counter]
    obtain ⟨under,owner⟩ := valid.outgoing d held x (ended d held present) named
    exact ⟨under,fun ep registered => owner ep (fewer x ep registered)⟩

theorem leave_identity : Identity live (calls.erase c) allocations :=
  shrink_identity valid rfl (fun _ _ present => present) (fun _ _ present => (lookup_erase_some present).2)
    (valid.index.narrow fun _ => stale_erase)

theorem detach_identity (found : calls.lookup c = some (.replaced caller key old)) :
    Identity (live.detachEndpoint old) (calls.erase c) allocations := by
  refine shrink_identity valid rfl ?_ ?_ ?_
  · exact fun _ _ present => (lookup_erase_some present).2
  · exact fun _ _ present => (lookup_erase_some present).2
  · exact valid.index.drop ⟨c,_,found,rfl⟩ fun _ => stale_erase

theorem close_identity (found : live.byId.lookup id = some ep) :
    Identity {live with byId := live.byId.erase id,byOwner := live.byOwner.erase ep.ownerKey} calls allocations := by
  refine shrink_identity valid rfl ?_ ?_ ?_
  · exact fun _ _ present => (lookup_erase_some present).2
  · exact fun _ _ present => present
  · exact valid.index.remove found

theorem shutdown_identity : Identity live.shutdownAll calls allocations := by
  refine shrink_identity valid rfl ?_ ?_ ?_
  · intro x ep present
    simp [LiveState.shutdownAll] at present
  · exact fun _ _ present => present
  · exact indexed_empty

end

-- Ids are not reused: fewer than 2^32-1 are ever given out.
def Unwrapped (s : State) : Action → Prop
  | .allocate _ => s.allocations+1 < 2^32-1
  | _ => True

theorem moves_identity {next : State} (valid : Identity s.live s.calls s.allocations) (room : Unwrapped s action)
    (moves : Moves limits s next action) : Identity next.live next.calls next.allocations := by
  cases moves with rw [‹next.live = _›,‹next.calls = _›,‹next.allocations = _›]
  | still => exact valid
  | arrive => exact advance_identity valid ⟨_,_,_,_,rfl⟩ (fun _ => nofun) rfl
  | leave => exact leave_identity valid
  | allocate found =>
    rw [allocId_fresh valid room]
    exact allocate_identity valid room found
  | spawn found =>
    have keyed := valid.keyed _ _ found
    refine advance_identity valid keyed ?_ rfl
    intro id named
    cases named
    exact ⟨_,found,rfl⟩
  | enter found => exact new_identity valid found
  | replace found taken => exact replace_identity valid found taken
  | detach found => exact detach_identity valid found
  | close found => exact close_identity valid found
  | shutdown => exact shutdown_identity valid

theorem reached_identity (path : ReachedWhen (registry env limits) Unwrapped s) :
    Identity s.live s.calls s.allocations := by
  apply path.invariant
  · rintro s ⟨config,rfl⟩
    exact initial_identity
  · intro s action next valid room ran
    exact moves_identity valid room (step_moves ran)

def unwrapped (s : State) : Action → Bool
  | .allocate _ => s.allocations+1 < 2^32-1
  | _ => true

theorem unwrapped_sound (s : State) (action : Action) (checked : unwrapped s action = true) : Unwrapped s action := by
  cases action with
  | allocate call =>
    change s.allocations+1 < 2^32-1
    exact of_decide_eq_true checked
  | _ => trivial

def localConfig : GatewayConfig := {rules := [localRule,{localRule with name := "shared",listenProto := .shm}]}

def localClient : CallerCred := {uid := 1000,pid := 42}

def localRequest : CreateRequest := {appId := "app",trafficClass := .normal,direction := .decrypt,ringCapacity := 0}

def usualLimits : Limits := {maxEndpointsPerUid := 64,maxCreatePerMin := 120}

def oneEndpoint : Limits := {maxEndpointsPerUid := 1,maxCreatePerMin := 120}

def createSteps (call : Nat) : List Action :=
  [.create call localClient .uds localRequest true,.allocate call,.spawn call,.register call]

end Scg.Registry
