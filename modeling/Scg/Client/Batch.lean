import Scg.Client.Shm
import Scg.Ipc.ByteWindow

namespace Scg.Client
open Ipc Interaction List Program

structure Watched (S : Type) where
  memory : S
  tick : Nat

def Watched.perform {Op : Type} {Reply : Op → Type} (perform : S → (op : Op) → Reply op × S)
    (interfere : Nat → S → S) (w : Watched S) (op : Op) : Reply op × Watched S :=
  let (reply,after) := perform (interfere w.tick w.memory) op
  (reply,⟨after,w.tick+1⟩)

inductive Verdict where
  | accepted
  | full
  | refused
  deriving DecidableEq

def Verdict.result : Verdict → Except ScgError Bool
  | .accepted => .ok true
  | .full => .ok false
  | .refused => .error .frameTooLarge

def Verdict.shows (frame : Frame) : Verdict → List Frame
  | .accepted => [frame]
  | .full | .refused => []

-- One `try_push` with the frames it makes visible, and what the pages say before it is tried.
structure Outbound (M : Type) where
  tryPush : Frame → M → Except ScgError Bool × List Frame × M
  verdict : M → Frame → Verdict
  result : ∀ frame m, (tryPush frame m).1 = (verdict m frame).result
  pushed : ∀ frame m, (tryPush frame m).2.1 = (verdict m frame).shows frame

section Slot
open SlotRing
variable (g : Geometry) (interfere : Nat → Shared → Shared)

def slotNote (frame : Frame) (op : Op) : List Frame := if marksReady op then [frame] else []

-- The write position and the word of its slot are read in two accesses.
def slotVerdict (w : Watched Shared) (frame : Frame) : Verdict :=
  if frame.payload.length > g.maxPayload then .refused
  else
    let first := interfere w.tick w.memory
    let second := interfere (w.tick+1) first
    match checkSeq g (second.seq (g.index first.writePos)) first.writePos with
    | .free => .accepted
    | .full => .full
    | .corrupt => .refused

def slotPlay (frame : Frame) (w : Watched Shared) : Except ScgError Bool × List Frame × Watched Shared :=
  (slotTryPush g frame).play (Watched.perform Shared.perform interfere) (slotNote frame) w

theorem slotPlay_verdict (frame : Frame) (w : Watched Shared) :
    (slotPlay g interfere frame w).1 = (slotVerdict g interfere w frame).result ∧
    (slotPlay g interfere frame w).2.1 = (slotVerdict g interfere w frame).shows frame := by
  unfold slotPlay slotTryPush slotVerdict
  rw [play_bind,tryPush_call]
  split
  · exact ⟨rfl,rfl⟩
  · simp only [PushPoint.call,PushPoint.atLoadSeq,play,Watched.perform,Shared.perform]
    cases checkSeq g _ _ <;> exact ⟨rfl,rfl⟩

def slotOutbound : Outbound (Watched Shared) where
  tryPush := slotPlay g interfere
  verdict := slotVerdict g interfere
  result frame w := (slotPlay_verdict g interfere frame w).1
  pushed frame w := (slotPlay_verdict g interfere frame w).2

end Slot

section ByteStream
open ByteRing
variable (r : Ring) (interfere : Nat → Shared → Shared)

def byteResult : Except ShmError Bool → Except ScgError Bool
  | .error _ => .error .frameTooLarge
  | .ok accepted => .ok accepted

def byteTryPush (frame : Frame) : Call (Except ScgError Bool) := do
  let result ← tryPush r frame
  return byteResult result

def byteNote (frame : Frame) : Op → List Frame
  | .storeWriteIdx _ => [frame]
  | _ => []

def bytePlay (frame : Frame) (w : Watched Shared) : Except ScgError Bool × List Frame × Watched Shared :=
  (byteTryPush r frame).play (Watched.perform Shared.perform interfere) (byteNote frame) w

theorem writeWrapping_silent (frame : Frame) (off : Nat) (src : List UInt8) (w : Watched Shared) :
    ((writeWrapping r off src).play (Watched.perform Shared.perform interfere) (byteNote frame) w).2.1 = [] := by
  refine play_silent _ _ ((writeWrapping_copies r off src).weaken ?_) w
  intro op copy
  cases op with
  | copyIn => rfl
  | _ => cases copy

def room (frame : Frame) (write read : UInt64) : Verdict :=
  if (write-read).toNat > r.cap then .refused
  else if r.cap-(write-read).toNat < FRAME_HEADER_LEN+frame.payload.length then .full
  else .accepted

theorem pushRest_play (frame : Frame) (write read : UInt64) (w : Watched Shared) :
    let done := (pushRest r frame write read).play (Watched.perform Shared.perform interfere) (byteNote frame) w
    byteResult done.1 = (room r frame write read).result ∧ done.2.1 = (room r frame write read).shows frame := by
  unfold pushRest room
  split
  · exact ⟨rfl,rfl⟩
  · split
    · exact ⟨rfl,rfl⟩
    · simp only [play_bind,writeWrapping_silent]
      exact ⟨rfl,rfl⟩

def byteVerdict (w : Watched Shared) (frame : Frame) : Verdict :=
  if FRAME_HEADER_LEN+frame.payload.length > r.cap then .refused
  else
    let first := interfere w.tick w.memory
    room r frame first.writeIdx (interfere (w.tick+1) first).readIdx

theorem bytePlay_verdict (frame : Frame) (w : Watched Shared) :
    (bytePlay r interfere frame w).1 = (byteVerdict r interfere w frame).result ∧
    (bytePlay r interfere frame w).2.1 = (byteVerdict r interfere w frame).shows frame := by
  unfold bytePlay byteTryPush byteVerdict
  rw [play_bind,tryPush_call]
  split
  · exact ⟨rfl,rfl⟩
  · have rest := pushRest_play r interfere frame (interfere w.tick w.memory).writeIdx
      (interfere (w.tick+1) (interfere w.tick w.memory)).readIdx
      ⟨interfere (w.tick+1) (interfere w.tick w.memory),w.tick+1+1⟩
    refine ⟨rest.1,?_⟩
    rw [← rest.2]
    exact append_nil _

def byteOutbound : Outbound (Watched Shared) where
  tryPush := bytePlay r interfere
  verdict := byteVerdict r interfere
  result frame w := (bytePlay_verdict r interfere frame w).1
  pushed frame w := (bytePlay_verdict r interfere frame w).2

end ByteStream

section Batch
variable {M : Type} (ring : Outbound M) (trafficId : UInt32)

-- The loop of `try_send_batch`: `?` on a push leaves the whole function.
def pushBatch : List (List UInt8) → Nat → M → Except ScgError Nat × List Frame × M
  | [],sent,m => (.ok sent,[],m)
  | msg :: rest,sent,m =>
    match ring.tryPush ⟨trafficId,msg⟩ m with
    | (.error e,pushed,m) => (.error e,pushed,m)
    | (.ok false,pushed,m) => (.ok sent,pushed,m)
    | (.ok true,pushed,m) =>
      let (result,more,m) := pushBatch rest (sent+1) m
      (result,pushed ++ more,m)

structure Sent (M : Type) where
  result : Except ScgError Nat
  pushed : List Frame
  signalled : Bool
  memory : M

-- `signal` is the kernel's answer to the one eventfd write, if it comes to it.
def trySendBatch (signal : Except ScgError Unit) (msgs : List (List UInt8)) (m : M) : Sent M :=
  match pushBatch ring trafficId msgs 0 m with
  | (.error e,pushed,m) => ⟨.error e,pushed,false,m⟩
  | (.ok sent,pushed,m) =>
    if sent > 0 then
      match signal with
      | .ok () => ⟨.ok sent,pushed,true,m⟩
      | .error e => ⟨.error e,pushed,false,m⟩
    else ⟨.ok sent,pushed,false,m⟩

structure AllOrReported (msgs : List (List UInt8)) (sent : Sent M) : Prop where
  signalled : sent.pushed ≠ [] → sent.signalled = true
  reported : ∀ n, sent.result = .ok n → n ≤ msgs.length ∧ sent.pushed = (msgs.take n).map (⟨trafficId,·⟩)
  untouched : ∀ e, sent.result = .error e → sent.pushed = []

def before : List (List UInt8) → Nat → M → Option M
  | _,0,m => some m
  | [],_+1,_ => none
  | msg :: rest,j+1,m =>
    match ring.verdict m ⟨trafficId,msg⟩ with
    | .accepted => before rest j (ring.tryPush ⟨trafficId,msg⟩ m).2.2
    | _ => none

def Clear (signal : Except ScgError Unit) (msgs : List (List UInt8)) (m : M) : Prop :=
  (∀ j state msg, before ring trafficId msgs (j+1) m = some state → msgs[j+1]? = some msg →
    ring.verdict state ⟨trafficId,msg⟩ ≠ .refused) ∧
  ∀ state, before ring trafficId msgs 1 m = some state → signal = .ok ()

def ends : List (List UInt8) → M → Nat × Bool
  | [],_ => (0,false)
  | msg :: rest,m =>
    match ring.verdict m ⟨trafficId,msg⟩ with
    | .refused => (0,true)
    | .full => (0,false)
    | .accepted =>
      let (accepted,refused) := ends rest (ring.tryPush ⟨trafficId,msg⟩ m).2.2
      (accepted+1,refused)

variable (signal : Except ScgError Unit) (msgs : List (List UInt8)) (j : Nat) (m : M)

theorem ends_le : (ends ring trafficId msgs m).1 ≤ msgs.length := by
  induction msgs generalizing m with
  | nil => exact Nat.le_refl _
  | cons msg rest ih =>
    unfold ends
    cases ring.verdict m ⟨trafficId,msg⟩ with
    | refused | full => exact Nat.zero_le _
    | accepted => exact Nat.succ_le_succ (ih _)

theorem pushBatch_ends (sent : Nat) (m : M) :
    (pushBatch ring trafficId msgs sent m).1 =
      (if (ends ring trafficId msgs m).2 then .error .frameTooLarge else .ok (sent+(ends ring trafficId msgs m).1)) ∧
    (pushBatch ring trafficId msgs sent m).2.1 =
      (msgs.take (ends ring trafficId msgs m).1).map (⟨trafficId,·⟩) := by
  induction msgs generalizing sent m with
  | nil => exact ⟨rfl,rfl⟩
  | cons msg rest ih =>
    have result := ring.result ⟨trafficId,msg⟩ m
    have pushed := ring.pushed ⟨trafficId,msg⟩ m
    unfold ends pushBatch
    generalize ring.tryPush ⟨trafficId,msg⟩ m = done at result pushed
    obtain ⟨outcome,frames,after⟩ := done
    subst result pushed
    cases ring.verdict m ⟨trafficId,msg⟩ with
    | refused | full => exact ⟨rfl,rfl⟩
    | accepted =>
      obtain ⟨reported,shown⟩ := ih (sent+1) after
      simp only [Verdict.result]
      refine ⟨?_,?_⟩
      · rw [reported,Nat.add_assoc,Nat.add_comm 1]
      · rw [shown]
        rfl

theorem before_reached :
    (∃ state, before ring trafficId msgs j m = some state) ↔ j ≤ (ends ring trafficId msgs m).1 := by
  induction msgs generalizing j m with
  | nil =>
    cases j with
    | zero => exact ⟨fun _ => Nat.le_refl _,fun _ => ⟨m,rfl⟩⟩
    | succ j => exact ⟨nofun,nofun⟩
  | cons msg rest ih =>
    cases j with
    | zero => exact ⟨fun _ => Nat.zero_le _,fun _ => ⟨m,rfl⟩⟩
    | succ j =>
      unfold ends before
      cases ring.verdict m ⟨trafficId,msg⟩ with
      | refused | full => exact ⟨nofun,nofun⟩
      | accepted => exact (ih j _).trans Nat.succ_le_succ_iff.symm

theorem before_refused :
    (∃ state msg, before ring trafficId msgs j m = some state ∧ msgs[j]? = some msg ∧
      ring.verdict state ⟨trafficId,msg⟩ = .refused) ↔
    (ends ring trafficId msgs m).2 = true ∧ (ends ring trafficId msgs m).1 = j := by
  induction msgs generalizing j m with
  | nil =>
    constructor
    · rintro ⟨state,msg,_,none,_⟩
      cases none
    · exact fun ended => absurd ended.1 Bool.false_ne_true
  | cons msg rest ih =>
    cases j with
    | zero =>
      have first : (∃ state other, before ring trafficId (msg :: rest) 0 m = some state ∧
          (msg :: rest)[0]? = some other ∧ ring.verdict state ⟨trafficId,other⟩ = .refused) ↔
          ring.verdict m ⟨trafficId,msg⟩ = .refused := by
        constructor
        · rintro ⟨state,other,here,same,refused⟩
          cases here
          cases same
          exact refused
        · exact fun refused => ⟨m,msg,rfl,rfl,refused⟩
      rw [first]
      unfold ends
      cases ring.verdict m ⟨trafficId,msg⟩ with
      | refused => exact ⟨fun _ => ⟨rfl,rfl⟩,fun _ => rfl⟩
      | full | accepted => exact ⟨nofun,nofun⟩
    | succ j =>
      unfold ends before
      cases ring.verdict m ⟨trafficId,msg⟩ with
      | refused | full =>
        constructor
        · rintro ⟨state,other,none,_⟩
          cases none
        · exact nofun
      | accepted =>
        simp only [Nat.succ.injEq]
        exact ih j _

theorem clear_iff :
    Clear ring trafficId signal msgs m ↔
      ((ends ring trafficId msgs m).2 = true → (ends ring trafficId msgs m).1 = 0) ∧
      (0 < (ends ring trafficId msgs m).1 → signal = .ok ()) := by
  have refused := before_refused ring trafficId msgs
  have reached := before_reached ring trafficId msgs 1 m
  constructor
  · rintro ⟨behind,answered⟩
    refine ⟨?_,?_⟩
    · intro stopped
      cases count : (ends ring trafficId msgs m).1 with
      | zero => rfl
      | succ j =>
        obtain ⟨state,msg,there,present,bad⟩ := (refused (j+1) m).mpr ⟨stopped,count⟩
        exact absurd bad (behind j state msg there present)
    · intro some_
      obtain ⟨state,there⟩ := reached.mpr some_
      exact answered state there
  · rintro ⟨behind,answered⟩
    refine ⟨?_,?_⟩
    · intro j state msg there present bad
      obtain ⟨stopped,count⟩ := (refused (j+1) m).mp ⟨state,msg,there,present,bad⟩
      rw [behind stopped] at count
      cases count
    · intro state there
      exact answered (reached.mp ⟨state,there⟩)

theorem batch_reported :
    AllOrReported trafficId msgs (trySendBatch ring trafficId signal msgs m) ↔ Clear ring trafficId signal msgs m := by
  have within := ends_le ring trafficId msgs m
  obtain ⟨result,pushed⟩ := pushBatch_ends ring trafficId msgs 0 m
  rw [clear_iff]
  unfold trySendBatch
  generalize pushBatch ring trafficId msgs 0 m = done at result pushed
  obtain ⟨outcome,frames,after⟩ := done
  subst result pushed
  generalize ends ring trafficId msgs m = stop at within
  obtain ⟨accepted,refused⟩ := stop
  have some_ : 0 < accepted → (msgs.take accepted).map (Frame.mk trafficId) ≠ [] := by
    intro positive empty
    have length := congrArg length empty
    rw [length_map,length_take,length_nil] at length
    omega
  cases refused with
  | true =>
    simp only
    constructor
    · intro held
      have none := held.untouched _ rfl
      have zero : accepted = 0 := Nat.le_zero.mp (Nat.le_of_not_lt fun positive => some_ positive none)
      subst zero
      exact ⟨fun _ => rfl,nofun⟩
    · rintro ⟨zero,_⟩
      obtain rfl := zero trivial
      exact ⟨fun pushed => absurd rfl pushed,nofun,fun _ _ => rfl⟩
  | false =>
    simp only [Bool.false_eq_true,if_false,Nat.zero_add]
    by_cases positive : accepted > 0
    · rw [if_pos positive]
      cases signal with
      | ok answer =>
        refine ⟨fun _ => ⟨nofun,fun _ => rfl⟩,fun _ => ⟨fun _ => rfl,?_,nofun⟩⟩
        intro n same
        cases same
        exact ⟨within,rfl⟩
      | error e =>
        constructor
        · intro held
          exact absurd (held.untouched e rfl) (some_ positive)
        · rintro ⟨_,answered⟩
          cases answered positive
    · obtain rfl : accepted = 0 := by omega
      refine ⟨fun _ => ⟨nofun,nofun⟩,fun _ => ⟨fun pushed => absurd rfl pushed,?_,nofun⟩⟩
      intro n same
      cases same
      exact ⟨Nat.zero_le _,rfl⟩

end Batch

theorem batch_all_or_reported (trafficId : UInt32) (signal : Except ScgError Unit) (msgs : List (List UInt8)) :
    (∀ g interfere m, AllOrReported trafficId msgs (trySendBatch (slotOutbound g interfere) trafficId signal msgs m) ↔
      Clear (slotOutbound g interfere) trafficId signal msgs m) ∧
    (∀ r interfere m, AllOrReported trafficId msgs (trySendBatch (byteOutbound r interfere) trafficId signal msgs m) ↔
      Clear (byteOutbound r interfere) trafficId signal msgs m) :=
  ⟨fun g interfere => batch_reported (slotOutbound g interfere) trafficId signal msgs,
    fun r interfere => batch_reported (byteOutbound r interfere) trafficId signal msgs⟩

def tooLong : List (List UInt8) := [[1],List.replicate 57 0]

def sendTooLong (m : Watched SlotRing.Shared) : Sent (Watched SlotRing.Shared) :=
  trySendBatch (slotOutbound SlotRing.smallest fun _ s => s) 7 (.ok ()) tooLong m

def fresh : Watched SlotRing.Shared := ⟨SlotRing.initRingControl fun _ => 0,0⟩

-- The first message is in the ring, unsignalled and unreported; a retry pushes it again.
theorem batch_error_leaves_message :
    (sendTooLong fresh).result = .error .frameTooLarge ∧ (sendTooLong fresh).pushed = [⟨7,[1]⟩] ∧
    (sendTooLong fresh).signalled = false ∧ (sendTooLong (sendTooLong fresh).memory).pushed = [⟨7,[1]⟩] :=
  ⟨rfl,rfl,rfl,rfl⟩

end Scg.Client
