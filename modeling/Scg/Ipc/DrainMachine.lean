import Scg.Ipc.SlotFifo
import Scg.Ipc.SlotDrain
import Scg.Ipc.SlotOwnership

namespace Scg.SlotRing
open Ipc Interaction Option

-- `staged` writes the coalesced frames, `last` at the end of the pass or ahead of a direct
-- write; `direct` writes the peeked slot; `off` bytes of either have been taken.
inductive Stage where
  | resting
  | looking
  | staged (off : Nat) (last : Bool)
  | direct (off : Nat)
  | advancing (last : Bool)
  | failed

structure Pass where
  owed : Bool
  forwarded : Nat
  direct : Nat

structure Drain where
  ring : Machine
  stage : Stage
  framed : List UInt8
  direct : Nat
  out : List UInt8
  begun : Nat
  owed : Bool
  passes : List Pass

-- `check` is the relay's `is_empty` between two passes; `access` the next memory access
-- of its ring call; `send` a write of which the upstream takes `n` bytes.
inductive Move where
  | client (action : Action)
  | check
  | pass
  | access
  | inspect
  | send (n : Nat)
  | fail

namespace Drain

def rests (d : Drain) : Drain :=
  {d with
    stage := .resting
    framed := []
    passes := d.passes ++ [⟨d.owed,d.ring.obtained.length-d.begun,d.direct⟩]}

def closes (d : Drain) : Drain :=
  if d.framed.isEmpty then d.rests else {d with stage := .staged 0 true}

-- The head of either loop. Only `coalesce_c2g_into` tests its buffer here.
def loop (g : Geometry) (zerocopy : Bool) (d : Drain) : Option Drain :=
  if !zerocopy && decide (RELAY_BUF_SIZE ≤ d.framed.length) then some d.closes
  else (execute g d.ring .peekFrame).map fun ring => {d with ring := ring,stage := .looking}

def begins (d : Drain) : Drain :=
  {d with
    framed := []
    direct := 0
    begun := d.ring.obtained.length
    owed := !(queue d.ring).isEmpty}

def accesses (g : Geometry) (zerocopy : Bool) (d : Drain) : Option Drain :=
  match d.stage with
  | .resting => (stepConsumer d.ring).map fun ring => {d with ring := ring}
  | .looking => (stepConsumer d.ring).map fun ring =>
    match ring.consumer with
    | .idle => closes {d with ring := ring}
    | _ => {d with ring := ring}
  | .advancing last => (stepConsumer d.ring).bind fun ring =>
    match ring.consumer with
    | .idle => if last then some (closes {d with ring := ring}) else loop g zerocopy {d with ring := ring}
    | _ => some {d with ring := ring}
  | _ => none

def inspects (g : Geometry) (zerocopy : Bool) (d : Drain) : Option Drain :=
  match d.stage,d.ring.consumer with
  | .looking,.peeked slice =>
    if zerocopy && decide (ZC_DIRECT_THRESHOLD ≤ slice.len) then
      some {d with stage := if d.framed.isEmpty then .direct 0 else .staged 0 false}
    else if zerocopy && decide (RELAY_BUF_SIZE < d.framed.length+slice.len) then
      (execute g d.ring .unpeek).map fun ring => closes {d with ring := ring}
    else (execute g d.ring .advance).map fun ring =>
      {d with ring := ring,stage := .advancing false,framed := d.framed ++ d.ring.shared.view slice}
  | _,_ => none

def flushes (d : Drain) (off : Nat) (last : Bool) (n : Nat) : Drain :=
  let sent := {d with out := d.out ++ (d.framed.drop off).take n}
  if off+n < d.framed.length then {sent with stage := .staged (off+n) last}
  else if last then sent.rests else {sent with stage := .direct 0,framed := []}

def writes (g : Geometry) (d : Drain) (slice : Slice) (off n : Nat) : Option Drain :=
  let sent := {d with out := d.out ++ ((d.ring.shared.view slice).drop off).take n}
  if off+n < slice.len then some {sent with stage := .direct (off+n)}
  else (execute g d.ring .advance).map fun ring =>
    {sent with ring := ring,direct := d.direct+1,stage := .advancing (decide (ZC_MAX_DIRECT ≤ d.direct+1))}

def sends (g : Geometry) (d : Drain) (n : Nat) : Option Drain :=
  match d.stage,d.ring.consumer with
  | .staged off last,_ => if 0 < n ∧ off+n ≤ d.framed.length then some (d.flushes off last n) else none
  | .direct off,.peeked slice => if 0 < n ∧ off+n ≤ slice.len then d.writes g slice off n else none
  | _,_ => none

-- `zerocopy` selects `drain_c2g_routing_zerocopy`, otherwise a pass is
-- `coalesce_c2g_into` and the write behind it.
def step (g : Geometry) (zerocopy : Bool) (d : Drain) : Move → Option Drain
  | .client action =>
    if action.consumers then none else (execute g d.ring action).map fun ring => {d with ring := ring}
  | .check =>
    match d.stage with
    | .resting => (execute g d.ring .isEmpty).map fun ring => {d with ring := ring}
    | _ => none
  | .pass =>
    match d.stage with
    | .resting => loop g zerocopy d.begins
    | _ => none
  | .access => d.accesses g zerocopy
  | .inspect => d.inspects g zerocopy
  | .send n => d.sends g n
  | .fail =>
    match d.stage with
    | .staged _ _ | .direct _ => some {d with stage := .failed}
    | _ => none

def start (data : Nat → UInt8) : Drain :=
  {ring := initial data,stage := .resting,framed := [],direct := 0,out := [],begun := 0,owed := false,passes := []}

def system (g : Geometry) (zerocopy : Bool) : Transition.System Drain Move where
  initial d := ∃ data, d = start data
  step := step g zerocopy

end Drain

inductive Drain.Moves (g : Geometry) (zerocopy : Bool) (d : Drain) : Move → Drain → Prop where
  | client {action : Action} {ring : Machine} : action.consumers = false → execute g d.ring action = some ring →
      Moves g zerocopy d (.client action) {d with ring := ring}
  | check {ring : Machine} : d.stage = .resting → execute g d.ring .isEmpty = some ring →
      Moves g zerocopy d .check {d with ring := ring}
  | checking {ring : Machine} : d.stage = .resting → stepConsumer d.ring = some ring →
      Moves g zerocopy d .access {d with ring := ring}
  | begin {ring : Machine} : d.stage = .resting → execute g d.ring .peekFrame = some ring →
      Moves g zerocopy d .pass {d.begins with ring := ring,stage := .looking}
  | look {ring : Machine} : d.stage = .looking → stepConsumer d.ring = some ring → ring.consumer ≠ .idle →
      Moves g zerocopy d .access {d with ring := ring}
  | nothing {ring : Machine} : d.stage = .looking → stepConsumer d.ring = some ring → ring.consumer = .idle →
      Moves g zerocopy d .access (closes {d with ring := ring})
  | advance {ring : Machine} {last : Bool} : d.stage = .advancing last → stepConsumer d.ring = some ring →
      ring.consumer ≠ .idle → Moves g zerocopy d .access {d with ring := ring}
  | leave {ring : Machine} {last : Bool} : d.stage = .advancing last → stepConsumer d.ring = some ring →
      ring.consumer = .idle → Moves g zerocopy d .access (closes {d with ring := ring})
  | again {mid ring : Machine} : d.stage = .advancing false → stepConsumer d.ring = some mid → mid.consumer = .idle →
      (zerocopy = false → d.framed.length < RELAY_BUF_SIZE) → execute g mid .peekFrame = some ring →
      Moves g zerocopy d .access {d with ring := ring,stage := .looking}
  | large {slice : Slice} : d.stage = .looking → d.ring.consumer = .peeked slice → zerocopy = true →
      Moves g zerocopy d .inspect {d with stage := if d.framed.isEmpty then .direct 0 else .staged 0 false}
  | full {slice : Slice} {ring : Machine} : d.stage = .looking → d.ring.consumer = .peeked slice → zerocopy = true →
      slice.len < ZC_DIRECT_THRESHOLD → RELAY_BUF_SIZE < d.framed.length+slice.len →
      execute g d.ring .unpeek = some ring → Moves g zerocopy d .inspect (closes {d with ring := ring})
  | small {slice : Slice} {ring : Machine} : d.stage = .looking → d.ring.consumer = .peeked slice →
      (zerocopy = true → d.framed.length+slice.len ≤ RELAY_BUF_SIZE) → execute g d.ring .advance = some ring →
      Moves g zerocopy d .inspect
        {d with ring := ring,stage := .advancing false,framed := d.framed ++ d.ring.shared.view slice}
  | flush {off n : Nat} {last : Bool} : d.stage = .staged off last → 0 < n → off+n ≤ d.framed.length →
      Moves g zerocopy d (.send n) (d.flushes off last n)
  | write {slice : Slice} {off n : Nat} : d.stage = .direct off → d.ring.consumer = .peeked slice → 0 < n →
      off+n < slice.len →
      Moves g zerocopy d (.send n)
        {d with out := d.out ++ ((d.ring.shared.view slice).drop off).take n,stage := .direct (off+n)}
  | written {slice : Slice} {off n : Nat} {ring : Machine} : d.stage = .direct off → d.ring.consumer = .peeked slice →
      off+n = slice.len → execute g d.ring .advance = some ring →
      Moves g zerocopy d (.send n)
        {d with
          out := d.out ++ ((d.ring.shared.view slice).drop off).take n
          ring := ring
          direct := d.direct+1
          stage := .advancing (decide (ZC_MAX_DIRECT ≤ d.direct+1))}
  | fail : (∃ off last, d.stage = .staged off last) ∨ (∃ off, d.stage = .direct off) →
      Moves g zerocopy d .fail {d with stage := .failed}

namespace Drain
theorem loop_moves (ran : loop g zerocopy d = some next) :
    (zerocopy = false ∧ RELAY_BUF_SIZE ≤ d.framed.length ∧ next = d.closes) ∨
      ((zerocopy = false → d.framed.length < RELAY_BUF_SIZE) ∧
        ∃ ring, execute g d.ring .peekFrame = some ring ∧ next = {d with ring := ring,stage := .looking}) := by
  unfold loop at ran
  split at ran
  · rename_i full
    cases ran
    simp only [Bool.and_eq_true,Bool.not_eq_true',decide_eq_true_eq] at full
    exact .inl ⟨full.1,full.2,rfl⟩
  · rename_i room
    simp only [Bool.and_eq_true,Bool.not_eq_true',decide_eq_true_eq,not_and,Nat.not_le] at room
    obtain ⟨ring,peeks,rfl⟩ := map_eq_some_iff.mp ran
    exact .inr ⟨room,ring,peeks,rfl⟩

theorem accesses_moves (ran : d.accesses g zerocopy = some next) : Moves g zerocopy d .access next := by
  unfold accesses at ran
  split at ran
  · rename_i stands
    obtain ⟨ring,moved,rfl⟩ := map_eq_some_iff.mp ran
    exact .checking stands moved
  · rename_i stands
    obtain ⟨ring,moved,rfl⟩ := map_eq_some_iff.mp ran
    split
    · rename_i idle
      exact .nothing stands moved idle
    · rename_i busy
      exact .look stands moved busy
  · rename_i last stands
    obtain ⟨ring,moved,onward⟩ := bind_eq_some_iff.mp ran
    split at onward
    · rename_i idle
      split at onward
      · cases onward
        exact .leave stands moved idle
      · rename_i more
        rw [Bool.eq_false_iff.mpr more] at stands
        obtain ⟨_,_,rfl⟩ | ⟨room,after,peeks,rfl⟩ := loop_moves onward
        · exact .leave stands moved idle
        · exact .again stands moved idle room peeks
    · rename_i busy
      cases onward
      exact .advance stands moved busy
  · cases ran

theorem inspects_moves (ran : d.inspects g zerocopy = some next) : Moves g zerocopy d .inspect next := by
  unfold inspects at ran
  split at ran
  · rename_i slice stands held
    split at ran
    · rename_i isLarge
      cases ran
      simp only [Bool.and_eq_true] at isLarge
      exact .large stands held isLarge.1
    · rename_i isSmall
      simp only [Bool.and_eq_true,decide_eq_true_eq,not_and,Nat.not_le] at isSmall
      split at ran
      · rename_i isFull
        simp only [Bool.and_eq_true,decide_eq_true_eq] at isFull
        obtain ⟨ring,drops,rfl⟩ := map_eq_some_iff.mp ran
        exact .full stands held isFull.1 (isSmall isFull.1) isFull.2 drops
      · rename_i room
        simp only [Bool.and_eq_true,decide_eq_true_eq,not_and,Nat.not_lt] at room
        obtain ⟨ring,moved,rfl⟩ := map_eq_some_iff.mp ran
        exact .small stands held room moved
  · cases ran

theorem sends_moves (ran : d.sends g n = some next) : Moves g zerocopy d (.send n) next := by
  unfold sends at ran
  split at ran
  · rename_i off last stands
    split at ran <;> cases ran
    rename_i within
    exact .flush stands within.1 within.2
  · rename_i off slice stands held
    obtain ⟨within,ran⟩ := ite_none_right_eq_some.mp ran
    unfold writes at ran
    split at ran
    · rename_i more
      cases ran
      exact .write stands held within.1 more
    · obtain ⟨ring,moved,rfl⟩ := map_eq_some_iff.mp ran
      exact .written stands held (by omega) moved
  · cases ran

theorem step_moves (ran : step g zerocopy d move = some next) : Moves g zerocopy d move next := by
  cases move with
  | client action =>
    obtain ⟨theirs,ran⟩ := ite_none_left_eq_some.mp ran
    obtain ⟨ring,moved,rfl⟩ := map_eq_some_iff.mp ran
    exact .client (Bool.eq_false_iff.mpr theirs) moved
  | check =>
    simp only [step] at ran
    split at ran
    · rename_i stands
      obtain ⟨ring,moved,rfl⟩ := map_eq_some_iff.mp ran
      exact .check stands moved
    · cases ran
  | pass =>
    simp only [step] at ran
    split at ran
    · rename_i stands
      obtain ⟨_,full,_⟩ | ⟨_,ring,peeks,rfl⟩ := loop_moves ran
      · exact absurd full (by decide : ¬ RELAY_BUF_SIZE ≤ 0)
      · exact .begin stands peeks
    · cases ran
  | access => exact accesses_moves ran
  | inspect => exact inspects_moves ran
  | send n => exact sends_moves ran
  | fail =>
    simp only [step] at ran
    split at ran <;> cases ran
    · rename_i off last stands
      exact .fail (.inl ⟨off,last,stands⟩)
    · rename_i off stands
      exact .fail (.inr ⟨off,stands⟩)

end Drain

end Scg.SlotRing
