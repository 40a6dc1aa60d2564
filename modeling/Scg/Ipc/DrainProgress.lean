import Scg.Ipc.DrainPasses
import Scg.Library.Inevitable

namespace Scg.SlotRing
open Ipc Interaction

inductive Shrinks : Consumer → Consumer → Prop where
  | peeking (op : Op) (rest : Reply op → Call (Option Slice)) (reply : Reply op) :
      Shrinks (.peeking (rest reply)) (.peeking (.request op rest))
  | peeked (slice : Slice) : Shrinks (.peeked slice) (.peeking (.ret (some slice)))
  | advancing (op : Op) (rest : Reply op → Call Unit) (reply : Reply op) :
      Shrinks (.advancing (rest reply)) (.advancing (.request op rest))

theorem shrinks_founded : WellFounded Shrinks := by
  have held : ∀ slice, Acc Shrinks (.peeked slice) := fun slice => ⟨_,nofun⟩
  refine ⟨fun consumer => ?_⟩
  cases consumer with
  | idle | popping | checking => exact ⟨_,nofun⟩
  | peeked slice => exact held slice
  | peeking call =>
    induction call with
    | ret found =>
      constructor
      rintro _ ⟨⟩
      exact held _
    | request op rest ih =>
      constructor
      rintro _ ⟨⟩
      exact ih _
  | advancing call =>
    induction call with
    | ret => exact ⟨_,nofun⟩
    | request op rest ih =>
      constructor
      rintro _ ⟨⟩
      exact ih _

namespace Drain
variable {d : Drain}

structure Faithful (g : Geometry) (zerocopy : Bool) (d : Drain) : Prop where
  ring : Invariant g d.ring
  written : d.Written
  bounded : d.Bounded zerocopy
  owing : d.Owing

theorem closes_ring (d : Drain) : d.closes.ring = d.ring := by
  unfold closes
  split <;> rfl

theorem flushes_ring (d : Drain) (off : Nat) (last : Bool) (n : Nat) : (d.flushes off last n).ring = d.ring := by
  unfold flushes
  split
  · rfl
  · cases last <;> rfl

theorem step_ring (valid : Invariant g d.ring) (moves : Moves g zerocopy d move next) : Invariant g next.ring := by
  cases moves with
  | client _ ran | check _ ran | begin _ ran | small _ _ _ ran | written _ _ _ ran => exact step_preserved valid ran
  | checking _ ran | look _ ran | advance _ ran => exact consumer_preserved valid ran
  | nothing _ ran | leave _ ran =>
    rw [closes_ring]
    exact consumer_preserved valid ran
  | full _ _ _ _ _ drops =>
    rw [closes_ring]
    exact step_preserved valid drops
  | again _ ran _ _ peeks => exact step_preserved (consumer_preserved valid ran) peeks
  | flush => rwa [flushes_ring]
  | large | write | fail => exact valid

theorem step_faithful (holds : Faithful g zerocopy d) (ran : step g zerocopy d move = some next) :
    Faithful g zerocopy next := by
  have moves := step_moves ran
  exact ⟨step_ring holds.ring moves,step_written holds.ring holds.written moves,step_bounded holds.bounded moves,
    step_owing holds.ring holds.written holds.owing moves⟩

theorem start_faithful (g : Geometry) (zerocopy : Bool) (data : Nat → UInt8) : Faithful g zerocopy (start data) :=
  ⟨initial_invariant g data,⟨rfl,rfl,.inl rfl⟩,⟨fun _ => Nat.zero_le _,Nat.zero_le _,nofun,nofun,nofun⟩,
    ⟨Nat.le_refl _,nofun,nofun⟩⟩

theorem reached_faithful (path : Transition.Reached (system g zerocopy) d) : Faithful g zerocopy d := by
  refine Transition.Reached.invariant ?_ (fun s move next holds ran => step_faithful holds ran) path
  rintro s ⟨data,rfl⟩
  exact start_faithful g zerocopy data

def finished (d : Drain) : Prop := d.stage = .resting ∨ d.stage = .failed

def ahead : Consumer → Nat
  | .peeked slice => slice.len+1
  | _ => 0

-- How far a pass is from its end: direct writes left, room in the buffer, the running
-- call, bytes of the running write.
def rank (d : Drain) : Nat × Nat × Consumer × Nat :=
  match d.stage with
  | .looking => (ZC_MAX_DIRECT-d.direct,RELAY_BUF_SIZE+1-d.framed.length,d.ring.consumer,0)
  | .advancing _ => (ZC_MAX_DIRECT-d.direct,RELAY_BUF_SIZE+1-d.framed.length+1,d.ring.consumer,0)
  | .staged off _ => (ZC_MAX_DIRECT-d.direct,0,d.ring.consumer,d.framed.length-off+ahead d.ring.consumer)
  | .direct off => (ZC_MAX_DIRECT-d.direct,0,d.ring.consumer,ahead d.ring.consumer-off)
  | .resting | .failed => (0,0,.idle,0)

def Below : Nat × Nat × Consumer × Nat → Nat × Nat × Consumer × Nat → Prop :=
  Prod.Lex (· < ·) (Prod.Lex (· < ·) (Prod.Lex Shrinks (· < ·)))

theorem below_founded : WellFounded Below :=
  WellFounded.prod_lex Nat.lt_wfRel.wf
    (WellFounded.prod_lex Nat.lt_wfRel.wf (WellFounded.prod_lex shrinks_founded Nat.lt_wfRel.wf))

theorem closes_falls (stands : d.stage = .looking ∨ ∃ last, d.stage = .advancing last)
    (room : d.stage = .looking → d.framed.length ≤ RELAY_BUF_SIZE) {ring : Machine} :
    finished (closes {d with ring := ring}) ∨ Below (rank (closes {d with ring := ring})) d.rank := by
  unfold closes
  split
  · exact .inl (.inl rfl)
  · right
    rcases stands with stands | ⟨last,stands⟩ <;> simp only [rank,stands]
    · have := room stands
      exact .right _ (.left _ _ (by omega))
    · exact .right _ (.left _ _ (by omega))

theorem Faithful.room (holds : Faithful g zerocopy d) (stands : d.stage = .looking) :
    d.framed.length ≤ RELAY_BUF_SIZE := by
  cases mode : zerocopy with
  | true => exact holds.bounded.staged mode
  | false => exact Nat.le_of_lt (holds.bounded.room mode stands)

theorem flushes_falls (stands : d.stage = .staged off last) (some_ : 0 < n)
    (within : off+n ≤ d.framed.length) : finished (d.flushes off last n) ∨ Below (rank (d.flushes off last n)) d.rank := by
  unfold flushes
  split
  · right
    simp only [rank,stands]
    exact .right _ (.right _ (.right _ (by omega)))
  · cases last with
    | true => exact .inl (.inl rfl)
    | false =>
      right
      simp only [rank,stands,Bool.false_eq_true,if_false]
      exact .right _ (.right _ (.right _ (by omega)))

theorem step_falls (holds : Faithful g zerocopy d) (running : ¬ d.finished) (mine : ∀ action, move ≠ .client action)
    (moves : Moves g zerocopy d move next) : next.finished ∨ Below next.rank d.rank := by
  cases moves with
  | client => exact absurd rfl (mine _)
  | check stands | checking stands | begin stands => exact absurd (.inl stands) running
  | look stands ran busy =>
    obtain ⟨call,held,rfl⟩ := holds.written.peeks ran stands
    right
    simp only [rank,stands,held]
    refine .right _ (.right _ (.left _ _ ?_))
    match call with
    | .request op rest => exact .peeking op rest _
    | .ret (some slice) => exact .peeked slice
    | .ret none => exact absurd rfl busy
  | nothing stands | full stands => exact closes_falls (.inl stands) holds.room
  | advance stands ran busy =>
    obtain ⟨call,held,rfl⟩ := holds.written.advances ran stands
    right
    simp only [rank,stands,held]
    refine .right _ (.right _ (.left _ _ ?_))
    match call with
    | .request op rest => exact .advancing op rest _
    | .ret () => exact absurd rfl busy
  | leave stands => exact closes_falls (.inr ⟨_,stands⟩) holds.room
  | again stands =>
    right
    simp only [rank,stands]
    exact .right _ (.left _ _ (Nat.lt_succ_self _))
  | large stands held =>
    right
    have room := holds.room stands
    by_cases empty : d.framed.isEmpty
    · simp only [rank,stands,empty]
      exact .right _ (.left _ _ (by omega))
    · simp only [rank,stands,empty]
      exact .right _ (.left _ _ (by omega))
  | small stands held fits =>
    right
    obtain ⟨_,_,_,long⟩ := peeked_view holds.ring held
    have header : FRAME_HEADER_LEN = 8 := rfl
    simp only [rank,stands,List.length_append,view_length]
    refine .right _ (.left _ _ ?_)
    cases mode : zerocopy with
    | true =>
      have := fits mode
      omega
    | false =>
      have := holds.bounded.room mode stands
      omega
  | flush stands some_ within => exact flushes_falls stands some_ within
  | write stands held some_ more =>
    right
    simp only [rank,stands,held,ahead]
    exact .right _ (.right _ (.right _ (by omega)))
  | written stands held =>
    right
    have more := holds.bounded.more
    simp only [loops,stands] at more
    have := more trivial
    simp only [rank,stands]
    exact .left _ _ (by omega)
  | fail => exact .inl (.inr rfl)

def serves (move : Move) : Prop := move = .access ∨ move = .inspect ∨ move = .send 1

section
variable (holds : Faithful g zerocopy d)
include holds

theorem pass_enabled (running : ¬ d.finished) :
    ∃ move next, serves move ∧ step g zerocopy d move = some next := by
  have written := holds.written
  unfold Written at written
  cases stands : d.stage with rw [stands] at written
  | resting => exact absurd (.inl stands) running
  | failed => exact absurd (.inr stands) running
  | looking =>
    obtain ⟨_,⟨call,held⟩ | ⟨slice,held⟩⟩ := written
    · refine ⟨.access,?_⟩
      simp only [step,accesses,stands,stepConsumer_peeking held]
      exact ⟨_,.inl rfl,rfl⟩
    · refine ⟨.inspect,?_⟩
      simp only [step,inspects,stands,held,execute]
      split
      · exact ⟨_,.inr (.inl rfl),rfl⟩
      · split <;> exact ⟨_,.inr (.inl rfl),rfl⟩
  | staged off last =>
    refine ⟨.send 1,?_⟩
    simp only [step,sends,stands]
    rw [if_pos ⟨Nat.one_pos,written.1⟩]
    exact ⟨_,.inr (.inr rfl),rfl⟩
  | direct off =>
    obtain ⟨_,slice,held,within,_⟩ := written
    refine ⟨.send 1,?_⟩
    simp only [step,sends,stands,held,writes,execute]
    rw [if_pos ⟨Nat.one_pos,within⟩]
    split <;> exact ⟨_,.inr (.inr rfl),rfl⟩
  | advancing last =>
    obtain ⟨_,call,held⟩ := written
    refine ⟨.access,?_⟩
    simp only [step,accesses,stands,stepConsumer_advancing held,Option.bind_some,loop]
    split
    · rename_i idle
      simp only [execute,idle]
      split
      · exact ⟨_,.inl rfl,rfl⟩
      · split <;> exact ⟨_,.inl rfl,rfl⟩
    · exact ⟨_,.inl rfl,rfl⟩

theorem client_rank (running : ¬ d.finished)
    (moves : Moves g zerocopy d (.client action) next) : next.rank = d.rank ∧ ¬ next.finished := by
  cases moves with
  | client theirs ran =>
    refine ⟨?_,running⟩
    have sees := client_sees holds.ring theirs ran
    unfold rank
    simp only [sees.consumer]

-- A pass comes to its end, or to a failed write, whatever the client pushes meanwhile.
theorem pass_ends :
    Transition.Inevitable (system g zerocopy) (fun move => ∀ action, move ≠ .client action) serves finished d := by
  refine Transition.Inevitable.of_rank (I := Faithful g zerocopy) rank below_founded ?_ ?_ ?_ ?_ holds
  · intro d move next holds ran
    exact step_faithful holds ran
  · intro d move next holds running theirs ran
    obtain ⟨action,rfl⟩ := Classical.not_forall_not.mp theirs
    exact client_rank holds running (step_moves ran)
  · intro d holds running
    exact pass_enabled holds running
  · intro d move next holds running mine ran
    exact step_falls holds running mine (step_moves ran)

theorem out_initial : d.out <+: d.ring.pushed.flatMap encodeInto := by
  have written := holds.written
  have whole := handed_initial d.ring
  unfold Written at written
  cases stands : d.stage with rw [stands] at written
  | resting => rwa [written.2.1]
  | looking | advancing => exact List.IsPrefix.trans ⟨_,written.1⟩ whole
  | staged => exact List.IsPrefix.trans ⟨_,written.2.1⟩ whole
  | direct off =>
    obtain ⟨_,slice,held,_,wrote⟩ := written
    exact direct_initial holds.ring held wrote
  | failed => exact written

theorem rest_splits (rests : d.stage = .resting) :
    d.out ++ (queue d.ring).flatMap encodeInto = d.ring.pushed.flatMap encodeInto := by
  have written := holds.written
  unfold Written at written
  rw [rests] at written
  obtain ⟨_,wrote,idle⟩ := written
  have quiet : d.ring.obtained.length = d.ring.released := by
    have consumer := holds.ring.consumer
    unfold ConsumerValid at consumer
    rcases idle with idle | ⟨call,held⟩
    · rw [idle] at consumer
      exact consumer.2
    · rw [held] at consumer
      exact consumer.1.2
  rw [wrote,handed,queue,quiet,← List.flatMap_append,List.take_append_drop]

theorem same_stream (also : Faithful g other e)
    (rests : d.stage = .resting) (resting : e.stage = .resting) (pushes : e.ring.pushed = d.ring.pushed)
    (left : queue e.ring = queue d.ring) : d.out = e.out := by
  have one := rest_splits holds rests
  have two := rest_splits also resting
  rw [pushes,left,← one] at two
  exact List.append_cancel_right two.symm

end

-- Against an honest client, in any interleaving: the stream is that of the coalescing
-- drain, and each pass is bounded, makes progress and ends.
theorem zerocopy_drain_equals_coalescing (g : Geometry) {d : Drain}
    (path : Transition.Reached (system g true) d) :
    d.out <+: d.ring.pushed.flatMap encodeInto ∧
    (d.stage = .resting →
      d.out ++ (queue d.ring).flatMap encodeInto = d.ring.pushed.flatMap encodeInto ∧
      ∀ e, Transition.Reached (system g false) e → e.stage = .resting → e.ring.pushed = d.ring.pushed →
        queue e.ring = queue d.ring → d.out = e.out) ∧
    (∀ pass ∈ d.passes, (pass.owed = true → 0 < pass.forwarded) ∧ pass.direct ≤ ZC_MAX_DIRECT) ∧
    d.direct ≤ ZC_MAX_DIRECT ∧ d.framed.length ≤ RELAY_BUF_SIZE ∧
    Transition.Inevitable (system g true) (fun move => ∀ action, move ≠ .client action) serves finished d := by
  have holds := reached_faithful path
  refine ⟨out_initial holds,?_,?_,holds.bounded.direct,holds.bounded.staged rfl,pass_ends holds⟩
  · intro rests
    exact ⟨rest_splits holds rests,fun e coalesces => same_stream holds (reached_faithful coalesces) rests⟩
  · intro pass member
    exact ⟨holds.owing.logged pass member,holds.bounded.logged pass member⟩

def twoFrames : List Move :=
  .client (.tryPush ⟨7,[1,2]⟩) :: List.replicate 8 (Move.client .producer) ++
    Move.pass :: List.replicate 5 Move.access ++ Move.client (.tryPush ⟨9,[3]⟩) :: Move.inspect ::
    List.replicate 8 (Move.client .producer) ++ List.replicate 10 Move.access ++ Move.inspect ::
    List.replicate 8 Move.access ++ [Move.send 4,Move.send 15]

def shown (d : Drain) : List UInt8 × List (Bool × Nat × Nat) :=
  (d.out,d.passes.map fun pass => (pass.owed,pass.forwarded,pass.direct))

theorem twoFrames_run : (Transition.run (system smallest true) (start fun _ => 0) twoFrames).map shown =
    some ([2,0,0,0,7,0,0,0,1,2,1,0,0,0,9,0,0,0,3],[(true,2,0)]) := by rfl

theorem zerocopy_drain_two_frames : ∃ d, Transition.Reached (system smallest true) d ∧
    d.shown = ([2,0,0,0,7,0,0,0,1,2,1,0,0,0,9,0,0,0,3],[(true,2,0)]) ∧
    d.out <+: d.ring.pushed.flatMap encodeInto ∧ d.framed.length ≤ RELAY_BUF_SIZE := by
  obtain ⟨d,path,seen⟩ := Transition.run_shows twoFrames_run ⟨_,rfl⟩
  have facts := zerocopy_drain_equals_coalescing smallest path
  exact ⟨d,path,seen,facts.1,facts.2.2.2.2.1⟩

end Drain

end Scg.SlotRing
