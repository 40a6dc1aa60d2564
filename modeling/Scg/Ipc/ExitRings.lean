import Scg.Ipc.RelayExit
import Scg.Ipc.SlotOwnership

namespace Scg.RelayExit
open Ipc Interaction Option

def Reported : Outcome → Prop
  | .ok (some _) => True
  | _ => False

-- The ring as a call on memory of any kind: `perform` answers each access, and the client
-- may rewrite everything between two of them.
section Memory
variable {Op W : Type} {Reply : Op → Type}

def memoryChannel (perform : W → (op : Op) → Reply op × W) (push : Frame → Program Op Reply Outcome)
    (marks : Op → Bool) : Channel (W × Option (Program Op Reply Outcome)) (W → W) where
  start r frame := match r.2 with
    | none => some (r.1,some (push frame))
    | some _ => none
  step r := match r.2 with
    | some (.request op next) => some (((perform r.1 op).2,some (next (perform r.1 op).1)),.access (marks op))
    | some (.ret outcome) => some ((r.1,none),.returned outcome)
    | none => none
  client r rewrite := some (rewrite r.1,r.2)
  looksEmpty _ _ := false
  drained _ := false

def Calls (marks : Op → Bool) (r : W × Option (Program Op Reply Outcome)) : Option Bool → Prop
  | none => r.2 = none
  | some published => ∃ call, r.2 = some call ∧ call.Commits marks Reported published

variable {perform : W → (op : Op) → Reply op × W} {push : Frame → Program Op Reply Outcome} {marks : Op → Bool}

theorem memory_lawful (commits : ∀ frame, (push frame).Commits marks Reported false) :
    Lawful (memoryChannel perform push marks) (Calls marks) where
  start := by
    intro r r' frame idle started
    simp only [memoryChannel,show r.2 = none from idle,some.injEq] at started
    subst started
    exact ⟨_,rfl,commits frame⟩
  access := by
    rintro r r' before published ⟨call,running,kept⟩ stepped
    simp only [memoryChannel,running] at stepped
    match call with
    | .ret outcome => cases stepped
    | .request op next =>
      cases stepped
      exact ⟨_,rfl,kept _⟩
  returned := by
    rintro r r' published outcome ⟨call,running,kept⟩ stepped
    simp only [memoryChannel,running] at stepped
    match call with
    | .request op next => cases stepped
    | .ret outcome =>
      cases stepped
      refine ⟨rfl,fun marked => ?_⟩
      have reported := kept marked
      match outcome with
      | .ok (some wasEmpty) => exact ⟨wasEmpty,rfl⟩
      | .ok none | .error e => exact reported.elim
  client := by
    rintro r r' phase rewrite stands acted
    cases acted
    cases phase <;> exact stands

theorem memory_settled (commits : ∀ frame, (push frame).Commits marks Reported false)
    (path : Transition.ReachedWhen (system (memoryChannel perform push marks) false fun r => r.2 = none)
      (Orderly (memoryChannel perform push marks)) s) : Sound (Calls marks) false s := by
  refine path.invariant ?_ ?_
  · rintro s ⟨ring,idle,rfl⟩
    exact start_sound idle
  · intro s move next sound orderly ran
    refine step_sound (memory_lawful commits) sound orderly ?_ ran
    intro _ _ _ _ _ _ futex
    cases futex

end Memory

def slotOutcome : Except ShmError SlotRing.PushOutcome → Outcome
  | .ok (.pushed wasEmpty) => .ok (some wasEmpty)
  | .ok .full => .ok none
  | .error e => .error e

def byteOutcome : Except ShmError Bool → Outcome
  | .ok true => .ok (some true)
  | .ok false => .ok none
  | .error e => .error e

def slotPush (g : SlotRing.Geometry) (frame : Frame) : SlotRing.Call Outcome :=
  SlotRing.tryPush g frame >>= fun result => .ret (slotOutcome result)

def bytePush (r : ByteRing.Ring) (frame : Frame) : ByteRing.Call Outcome :=
  ByteRing.tryPush r frame >>= fun result => .ret (byteOutcome result)

variable (g : SlotRing.Geometry) (frame : Frame)

theorem tryPush_commits :
    (SlotRing.tryPush g frame).Commits SlotRing.marksReady (SlotRing.isPushed · = true) false := by
  rw [SlotRing.tryPush_call]
  split
  · exact nofun
  · intro pos seq
    dsimp only
    cases SlotRing.checkSeq g seq pos with
    | full | corrupt => exact nofun
    | free => exact fun _ _ _ _ _ _ => rfl

theorem slotPush_commits :
    (slotPush g frame).Commits SlotRing.marksReady Reported false := by
  refine Program.commits_map (tryPush_commits g frame) fun result shown => ?_
  match result with
  | .ok (.pushed _) => trivial
  | .ok .full | .error _ => cases shown

theorem unpublished_commits (unpublished : ByteRing.Unpublished call) :
    call.Commits ByteRing.publishes (· = .ok true) false := by
  induction call with
  | ret result => exact nofun
  | request op next ih =>
    intro reply
    cases marked : ByteRing.publishes op with
    | true =>
      rw [unpublished.1 marked reply]
      exact fun _ => rfl
    | false => exact ih reply (unpublished.2 marked reply)

theorem bytePush_commits (r : ByteRing.Ring) (frame : Frame) :
    (bytePush r frame).Commits ByteRing.publishes Reported false := by
  refine Program.commits_map (unpublished_commits (ByteRing.tryPush_unpublished r frame)) ?_
  rintro result rfl
  trivial

section Slot
open SlotRing

def asks : Consumer → Option Op
  | .popping _ (.request op _) => some op
  | .peeking (.request op _) => some op
  | .advancing (.request op _) => some op
  | .checking (.request op _) => some op
  | _ => none

-- The client finds the ring empty where it loads a sequence word that is not READY.
def slotChannel (g : Geometry) : Channel Machine SlotRing.Action where
  start m frame := execute g m (.tryPush frame)
  step m := match m.producer with
    | .publishing _ (.request op _) => (stepProducer m).map (·,.access (marksReady op))
    | .publishing _ (.ret result) => (stepProducer m).map (·,.returned (slotOutcome result))
    | _ => none
  client m action := if action.consumers then execute g m action else none
  looksEmpty m action := match action,asks m.consumer with
    | .consumer,some (.loadSeq idx) => !isReady (m.shared.seq idx) m.shared.readPos
    | _,_ => false
  drained m := match m.producer with
    | .publishing _ (.request .loadReadPos _) => m.shared.readPos == m.shared.writePos
    | _ => false

def Pushes (m : Machine) : Option Bool → Prop
  | none => m.producer = .idle
  | some published => ∃ frame call, m.producer = .publishing frame call ∧
      call.Commits marksReady (isPushed · = true) published

variable {g : Geometry}

theorem client_producer (theirs : action.consumers = true)
    (ran : execute g m action = some next) : next.producer = m.producer := by
  cases execute_enters ran with
  | tryPopInto | tryPopIntoSlice | peekFrame | unpeek | advance | isEmpty => rfl
  | consumer moved =>
    unfold stepConsumer at moved
    split at moved <;> first | (cases moved; rfl) | cases moved
  | _ => cases theirs

theorem slotChannel_client (acted : (slotChannel g).client m action = some next) :
    action.consumers = true ∧ execute g m action = some next := by
  obtain ⟨theirs,acted⟩ := ite_none_right_eq_some.mp acted
  exact ⟨theirs,acted⟩

theorem slot_lawful (g : Geometry) : Lawful (slotChannel g) Pushes where
  start := by
    intro m next frame idle started
    simp only [slotChannel,execute,show m.producer = .idle from idle,some.injEq] at started
    subst started
    exact ⟨_,_,rfl,tryPush_commits g frame⟩
  access := by
    rintro m next before published ⟨frame,call,running,kept⟩ stepped
    cases call with
    | ret result =>
      simp only [slotChannel,stepProducer,running,map_some,some.injEq,Prod.mk.injEq] at stepped
      cases stepped.2
    | request op rest =>
      simp only [slotChannel,stepProducer,running,
        PushEvent.access.injEq] at stepped
      obtain ⟨rfl,rfl⟩ := stepped
      exact ⟨_,_,rfl,kept _⟩
  returned := by
    rintro m next published outcome ⟨frame,call,running,kept⟩ stepped
    cases call with
    | request op rest =>
      simp only [slotChannel,stepProducer,running,map_some,some.injEq,Prod.mk.injEq] at stepped
      cases stepped.2
    | ret result =>
      simp only [slotChannel,stepProducer,running,
        PushEvent.returned.injEq] at stepped
      obtain ⟨rfl,rfl⟩ := stepped
      refine ⟨rfl,fun marked => ?_⟩
      have pushed := kept marked
      cases result with
      | error e => cases pushed
      | ok outcome =>
        cases outcome with
        | full => cases pushed
        | pushed wasEmpty => exact ⟨wasEmpty,rfl⟩
  client := by
    intro m next phase action stands acted
    obtain ⟨theirs,ran⟩ := slotChannel_client acted
    have same := client_producer theirs ran
    cases phase with
    | none => exact same.trans stands
    | some published =>
      obtain ⟨frame,call,running,kept⟩ := stands
      exact ⟨frame,call,same.trans running,kept⟩

end Slot
end Scg.RelayExit
