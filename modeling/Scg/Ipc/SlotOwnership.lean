import Scg.Ipc.SlotMoves

namespace Scg.SlotRing
open Ipc Interaction Program

inductive Side where
  | producer | consumer
  deriving DecidableEq

variable {g : Geometry} {s : Shared}

def Side.mark : Side → UInt64 → UInt64
  | .producer,pos => pos
  | .consumer,pos => pos+1

def Side.may : Side → Op → Bool
  | .producer,.storeReadPos _ => false
  | .producer,.copyOut _ _ => false
  | .consumer,.loadWritePos => false
  | .consumer,.storeWritePos _ => false
  | .consumer,.copyIn _ _ => false
  | _,_ => true

def Touches (g : Geometry) (held : Option UInt64) : Op → Prop
  | .storeSeq idx _ => ∃ pos, held = some pos ∧ idx = g.index pos
  | .copyIn off src => ∃ pos, held = some pos ∧ InSlot g (g.index pos) off src.length
  | .copyOut off n => ∃ pos, held = some pos ∧ InSlot g (g.index pos) off n
  | .borrow off n => ∃ pos, held = some pos ∧ InSlot g (g.index pos) off n
  | _ => True

-- A slot is held from the load that shows its mark to the store that passes it on.
def Holding (g : Geometry) (side : Side) (held : Option UInt64) : (op : Op) → Reply op → Option UInt64 → Prop
  | .loadSeq idx,reply,later => ∀ pos, later = some pos → idx = g.index pos ∧ reply = side.mark pos
  | .storeSeq _ _,_,later => later = none
  | _,_,later => later = held

def Careful (g : Geometry) (side : Side) (Q : Option UInt64 → α → Prop) : Call α → Option UInt64 → Prop
  | .ret a,held => Q held a
  | .request op next,held =>
    side.may op = true ∧ Touches g held op ∧
      ∀ reply, ∃ later, Holding g side held op reply later ∧ Careful g side Q (next reply) later

def Held (g : Geometry) (side : Side) (s : Shared) (held : Option UInt64) : Prop :=
  ∀ pos, held = some pos → s.seq (g.index pos) = side.mark pos

theorem index_succ_ne (g : Geometry) (pos : UInt64) : g.index (pos+1) ≠ g.index pos := by
  have two := g.capacity_bound.1
  have one : pos+1 = UInt64.ofNat (pos.toNat+1) := by rfl
  have same : g.index pos = pos.toNat % g.capacity := by rw [← g.index_ofNat,UInt64.ofNat_toNat]
  rw [one,g.index_ofNat,same]
  exact (slots_differ g (Nat.lt_add_one _) (by omega)).symm

theorem marks_apart (same : g.index free = g.index ready) : Side.producer.mark free ≠ Side.consumer.mark ready := by
  intro both
  have next : free = ready+1 := both
  rw [next] at same
  exact index_succ_ne g ready same

theorem held_none (side : Side) (s : Shared) : Held g side s none := nofun

section Accesses
theorem held_own (holds : Held g side s held) (moves : Holding g side held op (s.perform op).1 later) :
    Held g side (s.perform op).2 later := by
  cases op with
  | loadSeq idx =>
    intro pos found
    obtain ⟨rfl,shown⟩ := moves pos found
    exact shown
  | storeSeq idx word => rw [show later = none from moves]; exact held_none _ _
  | _ => rwa [show later = held from moves]

theorem held_other (different : mine ≠ theirs) (holds : Held g mine s held)
    (touches : Touches g held op) (kept : Held g theirs s other) : Held g theirs (s.perform op).2 other := by
  cases op with
  | storeSeq idx word =>
    obtain ⟨pos,rfl,rfl⟩ := touches
    intro position found
    have mark := holds pos rfl
    have theirs_mark := kept position found
    have apart : g.index position ≠ g.index pos := by
      intro same
      rw [same,mark] at theirs_mark
      cases mine <;> cases theirs
      · exact different rfl
      · exact marks_apart same.symm theirs_mark
      · exact marks_apart same theirs_mark.symm
      · exact different rfl
    exact (Function.update_of_ne apart _ _).trans theirs_mark
  | _ => exact kept

end Accesses

section Calls
theorem careful_bind {Q : Option UInt64 → α → Prop} {R : Option UInt64 → β → Prop} {f : α → Call β}
    (first : Careful g side Q call held) (rest : ∀ held a, Q held a → Careful g side R (f a) held) :
    Careful g side R (call >>= f) held := by
  induction call generalizing held with
  | ret a => exact rest held a first
  | request op next ih =>
    obtain ⟨may,touches,onward⟩ := first
    refine ⟨may,touches,fun reply => ?_⟩
    obtain ⟨later,moves,then_⟩ := onward reply
    exact ⟨later,moves,ih reply then_⟩

def Anything (_ : Option UInt64) (_ : α) : Prop := True

def Found (g : Geometry) (held : Option UInt64) (found : Option Ready) : Prop :=
  ∀ ready, found = some ready → held = some ready.pos ∧ ready.idx = g.index ready.pos ∧ ready.len ≤ g.maxPayload

def Lent (g : Geometry) (held : Option UInt64) (shown : Option Slice) : Prop :=
  ∀ slice, shown = some slice → ∃ pos, held = some pos ∧ InSlot g (g.index pos) slice.off slice.len ∧
    FRAME_HEADER_LEN ≤ slice.len

def Granted (g : Geometry) (held : Option UInt64) (result : Except ShmError (Option ReservedSlot)) : Prop :=
  ∀ slot, result = .ok (some slot) → held = some slot.pos ∧ slot.idx = g.index slot.pos

theorem ready_held (ready : isReady seq pos = true) :
    Holding g .consumer held (.loadSeq (g.index pos)) seq (some pos) := by
  rintro _ ⟨rfl⟩
  exact ⟨rfl,isReady_iff.mp ready⟩

theorem free_held (free : checkSeq g seq pos = .free) :
    Holding g .producer held (.loadSeq (g.index pos)) seq (some pos) := by
  rintro _ ⟨rfl⟩
  exact ⟨rfl,checkSeq_free_iff.mp free⟩

theorem nextReady_careful (g : Geometry) : Careful g .consumer (Found g) (nextReady g) none := by
  simp only [nextReady,loadSeq,request_bind,ret_bind]
  refine ⟨rfl,trivial,fun pos => ⟨none,rfl,rfl,trivial,fun seq => ?_⟩⟩
  cases ready : isReady seq pos with
  | false =>
    refine ⟨none,nofun,?_⟩
    simp only [ready]
    exact nofun
  | true =>
    refine ⟨some pos,ready_held ready,?_⟩
    simp only [ready]
    refine ⟨rfl,⟨pos,rfl,inSlot_header g _⟩,fun hdr => ⟨some pos,rfl,?_⟩⟩
    rintro _ ⟨rfl⟩
    exact ⟨rfl,rfl,Nat.min_le_right _ _⟩

theorem release_careful (result : α) :
    Careful g .consumer Anything (releaseSlot g pos (g.index pos) >>= fun _ => .ret result) (some pos) :=
  ⟨rfl,⟨pos,rfl,rfl⟩,fun _ => ⟨none,rfl,rfl,trivial,fun _ => ⟨none,rfl,trivial⟩⟩⟩

theorem tryPopInto_careful (g : Geometry) : Careful g .consumer Anything (tryPopInto g) none := by
  refine careful_bind (nextReady_careful g) ?_
  intro held found known
  cases found with
  | none => trivial
  | some ready =>
    obtain ⟨rfl,same,fits⟩ := known ready rfl
    dsimp only
    rw [same]
    exact ⟨rfl,⟨ready.pos,rfl,inSlot_payload fits⟩,fun dst => ⟨some ready.pos,rfl,release_careful _⟩⟩

theorem tryPopIntoSlice_careful (g : Geometry) (room : Nat) : Careful g .consumer Anything (tryPopIntoSlice g room) none := by
  refine careful_bind (nextReady_careful g) ?_
  intro held found known
  cases found with
  | none => trivial
  | some ready =>
    obtain ⟨rfl,same,fits⟩ := known ready rfl
    dsimp only
    rw [same]
    have clipped : min ready.len room ≤ g.maxPayload := Nat.le_trans (Nat.min_le_left _ _) fits
    exact ⟨rfl,⟨ready.pos,rfl,inSlot_payload clipped⟩,fun dst => ⟨some ready.pos,rfl,release_careful _⟩⟩

theorem peekFrame_careful (g : Geometry) : Careful g .consumer (Lent g) (peekFrame g) none := by
  refine careful_bind (nextReady_careful g) ?_
  intro held found known
  cases found with
  | none => exact nofun
  | some ready =>
    obtain ⟨rfl,same,fits⟩ := known ready rfl
    dsimp only
    rw [same]
    refine ⟨rfl,⟨ready.pos,rfl,inSlot_frame fits⟩,fun _ => ⟨some ready.pos,rfl,?_⟩⟩
    rintro _ ⟨rfl⟩
    exact ⟨ready.pos,rfl,inSlot_frame fits,Nat.le_add_right _ _⟩

theorem advance_careful (g : Geometry) : Careful g .consumer Anything (advance g) none := by
  simp only [advance,loadSeq,request_bind,ret_bind]
  refine ⟨rfl,trivial,fun pos => ⟨none,rfl,rfl,trivial,fun seq => ?_⟩⟩
  cases ready : isReady seq pos with
  | false =>
    refine ⟨none,nofun,?_⟩
    simp only [ready]
    trivial
  | true =>
    refine ⟨some pos,ready_held ready,?_⟩
    simp only [ready]
    exact release_careful ()

theorem isEmpty_careful (g : Geometry) : Careful g .consumer Anything (isEmpty g) none :=
  ⟨rfl,trivial,fun _ => ⟨none,rfl,rfl,trivial,fun _ => ⟨none,nofun,trivial⟩⟩⟩

theorem publish_careful (result : α) :
    Careful g .producer Anything (storeSeq (g.index pos) (pos+1) >>= fun _ => storeWritePos (pos+1) >>= fun _ => .ret result)
      (some pos) :=
  ⟨rfl,⟨pos,rfl,rfl⟩,fun _ => ⟨none,rfl,rfl,trivial,fun _ => ⟨none,rfl,trivial⟩⟩⟩

theorem tryPush_careful (g : Geometry) (frame : Frame) : Careful g .producer Anything (tryPush g frame) none := by
  unfold tryPush
  split
  · trivial
  · rename_i fits
    have sized := header_length frame
    simp only [loadSeq,request_bind,ret_bind]
    refine ⟨rfl,trivial,fun pos => ⟨none,rfl,rfl,trivial,fun seq => ?_⟩⟩
    cases state : checkSeq g seq pos with
    | full | corrupt =>
      refine ⟨none,nofun,?_⟩
      simp only [state]
      trivial
    | free =>
      have headed : InSlot g (g.index pos) (g.slot (g.index pos)) (header frame).length := by
        rw [sized]
        exact inSlot_header g _
      refine ⟨some pos,free_held state,?_⟩
      simp only [state]
      exact ⟨rfl,trivial,fun readPos => ⟨some pos,rfl,rfl,⟨pos,rfl,headed⟩,fun _ => ⟨some pos,rfl,rfl,
        ⟨pos,rfl,inSlot_payload (Nat.le_of_not_lt fits)⟩,fun _ => ⟨some pos,rfl,publish_careful _⟩⟩⟩⟩

theorem reserve_careful (g : Geometry) : Careful g .producer (Granted g) (reserve g) none := by
  simp only [reserve,loadSeq,request_bind,ret_bind]
  refine ⟨rfl,trivial,fun pos => ⟨none,rfl,rfl,trivial,fun seq => ?_⟩⟩
  cases state : checkSeq g seq pos with
  | full | corrupt =>
    refine ⟨none,nofun,?_⟩
    simp only [state]
    exact nofun
  | free =>
    refine ⟨some pos,free_held state,?_⟩
    simp only [state]
    rintro _ ⟨rfl⟩
    exact ⟨rfl,rfl⟩

theorem commit_careful (same : slot.idx = g.index slot.pos) (trafficId : UInt32) (len : Nat) :
    Careful g .producer Anything (commit g slot trafficId len) (some slot.pos) := by
  unfold commit
  split
  · trivial
  · rw [same]
    have headed : InSlot g (g.index slot.pos) (g.slot (g.index slot.pos))
        (encodeHeader (UInt32.ofNat len) trafficId).toList.length := by
      rw [Vector.length_toList]
      exact inSlot_header g _
    exact ⟨rfl,trivial,fun readPos => ⟨some slot.pos,rfl,rfl,⟨slot.pos,rfl,headed⟩,fun _ =>
      ⟨some slot.pos,rfl,publish_careful _⟩⟩⟩

end Calls

section Machines
def ProducerAt (g : Geometry) : Producer → Option UInt64 → Prop
  | .idle,working => working = none
  | .publishing _ call,working => Careful g .producer Anything call working
  | .reserving call,working => Careful g .producer (Granted g) call working
  | .reserved slot,working => working = some slot.pos ∧ slot.idx = g.index slot.pos

def ConsumerAt (g : Geometry) : Consumer → Option UInt64 → Prop
  | .idle,reading => reading = none
  | .popping _ call,reading => Careful g .consumer Anything call reading
  | .peeking call,reading => Careful g .consumer (Lent g) call reading
  | .peeked slice,reading => Lent g reading (some slice)
  | .advancing call,reading => Careful g .consumer Anything call reading
  | .checking call,reading => Careful g .consumer Anything call reading

def Consuming (g : Geometry) (m : Machine) : Prop :=
  ∃ reading, ConsumerAt g m.consumer reading ∧ Held g .consumer m.shared reading

def Producing (g : Geometry) (m : Machine) : Prop :=
  ∃ working, ProducerAt g m.producer working ∧ Held g .producer m.shared working

structure Steps (g : Geometry) (mine theirs : Side) (s after : Shared) (at_ : Option UInt64 → Prop) : Prop where
  mine : ∃ held, at_ held ∧ Held g mine after held
  theirs : ∀ held, Held g theirs s held → Held g theirs after held

theorem access_steps (different : mine ≠ theirs) {Q : Option UInt64 → α → Prop}
    {rest : Reply op → Call α} (careful : Careful g mine Q (.request op rest) held) (holds : Held g mine s held) :
    Steps g mine theirs s (s.perform op).2 (Careful g mine Q (rest (s.perform op).1)) := by
  obtain ⟨_,touches,onward⟩ := careful
  obtain ⟨later,moves,goes⟩ := onward (s.perform op).1
  exact ⟨⟨later,goes,held_own holds moves⟩,fun other kept => held_other different holds touches kept⟩

theorem stays {at_ : Option UInt64 → Prop} (here : at_ held)
    (holds : Held g mine s held) : Steps g mine theirs s s at_ := ⟨⟨held,here,holds⟩,fun _ kept => kept⟩

theorem consumer_access_keeps (may : Side.consumer.may op = true) :
    (s.perform op).2.writePos = s.writePos ∧ (s.perform op).2.data = s.data := by
  cases op with
  | storeWritePos | copyIn => cases may
  | _ => exact ⟨rfl,rfl⟩

structure ConsumerSteps (g : Geometry) (m next : Machine) : Prop where
  steps : Steps g .consumer .producer m.shared next.shared (ConsumerAt g next.consumer)
  producer : next.producer = m.producer
  writePos : next.shared.writePos = m.shared.writePos
  data : next.shared.data = m.shared.data

theorem access_consumes {Q : Option UInt64 → α → Prop} {rest : Reply op → Call α}
    (careful : Careful g .consumer Q (.request op rest) reading) (holds : Held g .consumer m.shared reading)
    (shared : next.shared = (m.shared.perform op).2) (producer : next.producer = m.producer)
    (goes : ConsumerAt g next.consumer = Careful g .consumer Q (rest (m.shared.perform op).1)) : ConsumerSteps g m next := by
  obtain ⟨writePos,data⟩ := consumer_access_keeps (s := m.shared) careful.1
  have different : Side.consumer ≠ .producer := by decide
  refine ⟨?_,producer,?_,?_⟩
  · rw [shared,goes]
    exact access_steps different careful holds
  · rw [shared,writePos]
  · rw [shared,data]

theorem stepConsumer_steps (stands : ConsumerAt g m.consumer reading) (holds : Held g .consumer m.shared reading)
    (ran : stepConsumer m = some next) : ConsumerSteps g m next := by
  have rests : Steps g .consumer .producer m.shared m.shared (ConsumerAt g .idle) := stays rfl (held_none _ _)
  unfold stepConsumer at ran
  -- an access, a return that ends the call, the return that lends a slice
  split at ran <;> rename_i doing <;> cases ran <;> rw [doing] at stands
  all_goals first
    | exact access_consumes stands holds rfl rfl rfl
    | exact ⟨rests,rfl,rfl,rfl⟩
    | exact ⟨stays stands holds,rfl,rfl,rfl⟩

def Action.consumers : Action → Bool
  | .tryPopInto | .tryPopIntoSlice _ | .peekFrame | .unpeek | .advance | .isEmpty | .consumer => true
  | _ => false

theorem execute_consumer (consuming : Consuming g m) (theirs : action.consumers = true)
    (ran : execute g m action = some next) : ConsumerSteps g m next := by
  cases execute_enters ran with
  | tryPopInto idle => exact ⟨stays (tryPopInto_careful g) (held_none _ _),rfl,rfl,rfl⟩
  | tryPopIntoSlice room idle => exact ⟨stays (tryPopIntoSlice_careful g room) (held_none _ _),rfl,rfl,rfl⟩
  | peekFrame idle => exact ⟨stays (peekFrame_careful g) (held_none _ _),rfl,rfl,rfl⟩
  | unpeek slice held => exact ⟨stays rfl (held_none _ _),rfl,rfl,rfl⟩
  | advance slice held => exact ⟨stays (advance_careful g) (held_none _ _),rfl,rfl,rfl⟩
  | isEmpty idle => exact ⟨stays (isEmpty_careful g) (held_none _ _),rfl,rfl,rfl⟩
  | consumer moved =>
    obtain ⟨reading,stands,holds⟩ := consuming
    exact stepConsumer_steps stands holds moved
  | _ => cases theirs

theorem stepProducer_steps (stands : ProducerAt g m.producer working) (holds : Held g .producer m.shared working)
    (ran : stepProducer m = some next) :
    Steps g .producer .consumer m.shared next.shared (ProducerAt g next.producer) ∧ next.consumer = m.consumer := by
  have different : Side.producer ≠ .consumer := by decide
  have rests : Steps g .producer .consumer m.shared m.shared (ProducerAt g .idle) := stays rfl (held_none _ _)
  unfold stepProducer at ran
  split at ran <;> rename_i doing <;> cases ran <;> rw [doing] at stands
  all_goals first
    | exact ⟨access_steps different stands holds,rfl⟩
    | exact ⟨rests,rfl⟩
    | exact ⟨stays (stands _ rfl) holds,rfl⟩

def Exclusive (g : Geometry) (m : Machine) : Prop := Producing g m ∧ Consuming g m

theorem Exclusive.consumer_steps (kept : Exclusive g m) (moves : ConsumerSteps g m next) : Exclusive g next := by
  obtain ⟨⟨working,stands,holds⟩,_⟩ := kept
  refine ⟨⟨working,?_,moves.steps.theirs working holds⟩,moves.steps.mine⟩
  rwa [moves.producer]

theorem Exclusive.producer_steps (kept : Exclusive g m)
    (steps : Steps g .producer .consumer m.shared next.shared (ProducerAt g next.producer))
    (same : next.consumer = m.consumer) : Exclusive g next := by
  obtain ⟨_,⟨reading,stands,holds⟩⟩ := kept
  refine ⟨steps.mine,reading,?_,steps.theirs reading holds⟩
  rwa [same]

def anywhere (g : Geometry) : Transition.System Machine Action where
  initial m := m.producer = .idle ∧ m.consumer = .idle
  step := execute g

theorem execute_exclusive (kept : Exclusive g m) (ran : execute g m action = some next) : Exclusive g next := by
  cases theirs : action.consumers with
  | true => exact kept.consumer_steps (execute_consumer kept.2 theirs ran)
  | false =>
    obtain ⟨working,stands,holds⟩ := kept.1
    cases execute_enters ran with
    | tryPush frame idle => exact kept.producer_steps (stays (tryPush_careful g frame) (held_none _ _)) rfl
    | reserve idle => exact kept.producer_steps (stays (reserve_careful g) (held_none _ _)) rfl
    | fill slot start bytes held within => exact ⟨kept.1,kept.2⟩
    | commit slot trafficId len held =>
      rw [held] at stands
      obtain ⟨rfl,same⟩ := stands
      exact kept.producer_steps (stays (commit_careful same trafficId len) holds) rfl
    | abandon slot held => exact kept.producer_steps (stays rfl (held_none _ _)) rfl
    | producer moved =>
      obtain ⟨steps,same⟩ := stepProducer_steps stands holds moved
      exact kept.producer_steps steps same
    | _ => cases theirs

theorem reached_exclusive (path : Transition.Reached (anywhere g) m) : Exclusive g m := by
  refine path.invariant ?_ ?_
  · rintro m ⟨producer,consumer⟩
    refine ⟨⟨none,?_,held_none _ _⟩,none,?_,held_none _ _⟩
    · rw [producer]; rfl
    · rw [consumer]; rfl
  · intro m action next kept ran
    exact execute_exclusive kept ran

end Machines

end Scg.SlotRing
