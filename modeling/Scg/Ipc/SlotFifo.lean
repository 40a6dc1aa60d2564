import Scg.Ipc.SlotSafety

namespace Scg.SlotRing
open Ipc Interaction List

variable {g : Geometry}

-- What the ring is for: a queue of at most `bound` frames.
inductive QueueStep (bound : Nat) : List Frame → List Frame → Prop where
  | stay : QueueStep bound queue queue
  | enqueue : queue.length < bound → QueueStep bound queue (queue ++ [frame])
  | dequeue : QueueStep bound (frame :: queue) queue

def queue (m : Machine) : List Frame := m.pushed.drop m.released

theorem queue_publish (ring : RingValid g m.shared.seq m.shared.data m.pushed m.released) (room : HasRoom g m)
    (frame : Frame) : QueueStep g.capacity (queue m) ((m.pushed ++ [frame]).drop m.released) := by
  have behind := ring.behind
  unfold HasRoom at room
  rw [drop_append_of_le_length behind]
  refine .enqueue ?_
  unfold queue
  rw [length_drop]
  omega

theorem queue_release (left : m.released < m.pushed.length) :
    QueueStep g.capacity (queue m) (m.pushed.drop (m.released+1)) := by
  unfold queue
  rw [drop_eq_getElem_cons left]
  exact .dequeue

-- The enqueue is the READY store, the dequeue the release store; no other access is seen.
theorem producer_refines {next : Machine} (valid : Invariant g m) (ran : stepProducer m = some next) :
    QueueStep g.capacity (queue m) (queue next) := by
  cases stepProducer_moves valid.producer ran with
  | push frame point _ facts =>
    cases point with
    | storeSeq pos wasEmpty => exact queue_publish valid.ring facts.1.2.2.2 frame
    | _ => exact .stay
  | _ => exact .stay

theorem consumer_refines {next : Machine} (valid : Invariant g m) (ran : stepConsumer m = some next) :
    QueueStep g.capacity (queue m) (queue next) := by
  cases stepConsumer_moves valid.consumer ran with
  | pop room point facts =>
    cases point with
    | storeSeq pos idx frame =>
      obtain ⟨_,_,_,whole,present,_⟩ := facts
      exact queue_release (List.getElem?_eq_some_iff.mp present).1
    | _ => exact .stay
  | advance point facts =>
    cases point with
    | storeSeq pos => exact queue_release facts.1.2.2
    | _ => exact .stay
  | _ => exact .stay

theorem step_refines {next : Machine} (valid : Invariant g m) (ran : execute g m action = some next) :
    QueueStep g.capacity (queue m) (queue next) := by
  cases execute_enters ran with
  | producer ran => exact producer_refines valid ran
  | consumer ran => exact consumer_refines valid ran
  | _ => exact .stay

def Obtained.LargeEnough (entry : Obtained) (frame : Frame) : Prop :=
  ∀ room, entry.room = some room → frame.payload.length ≤ room

-- What a live peek shows right now counts as obtained: its borrow can be read at
-- any moment until `advance`.
def peekedNow (m : Machine) : Option Frame :=
  match m.consumer with
  | .peeked slice => some (slice.frame m.shared)
  | _ => none

def taken (m : Machine) : List Frame := m.obtained.map (·.frame) ++ (peekedNow m).toList

theorem prefix_of_getElem? (each : ∀ (i : Nat) frame, one[i]? = some frame → two[i]? = some frame) : one <+: two := by
  induction one generalizing two with
  | nil => exact nil_prefix
  | cons head rest ih =>
    have first := each 0 head rfl
    cases two with
    | nil => cases first
    | cons other tail =>
      cases Option.some.inj first
      exact cons_prefix_cons.mpr ⟨rfl,ih fun i frame present => each (i+1) frame present⟩

theorem clipFrame_whole {entry : Obtained} (large : entry.LargeEnough frame) :
    clipFrame entry.room frame = frame := by
  cases given : entry.room with
  | none => exact clipFrame_none frame
  | some room => simp [clipFrame,clip,Nat.min_eq_left (large room given)]

end Scg.SlotRing
