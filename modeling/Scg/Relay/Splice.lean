import Scg.Relay.Loops

namespace Scg.Relay.Splice
open Duplex Transition

variable {pipeSize : Nat} {s : State Unit UInt8} {actions : List (Action TlsRead)}

-- A system call that a signal breaks off; an interrupted poll answers that nothing is ready.
def interrupted : Action TlsRead → Bool
  | .read .interrupted => true
  | .write .interrupted => true
  | _ => false

-- The other errors; a splice that moves nothing out of a filled pipe is one of them.
def faulty : Action TlsRead → Bool
  | .poll _ none => true
  | .read .failed => true
  | .write .failed => true
  | .write (.ok 0) => true
  | _ => false

-- `goesOn` is about the last call: what the relay has ended with takes no further one.
structure Transparent (actions : List (Action TlsRead)) (s : State Unit UInt8) : Prop where
  ordered : ∀ side, (s.flow side).delivered <+: (s.flow side).taken
  drained : (∀ side more rest next, s.stage ≠ .writing side more rest next) → s.Settled
  goesOn : ∀ action, actions.getLast? = some action → interrupted action = true → ∀ ok, s.stage ≠ .ended ok

theorem settled_finish (settled : s.Settled) (e : Ending) : (s.finish e).Settled := by
  intro side
  rw [finish_delivered,← settled side]
  cases side <;> rfl

theorem settled_go (empty : s.batch = []) (settled : s.Settled) (next : Next) : (s.go side more next).Settled := by
  cases next with
  | again | ask => exact settled_update settled _ _ _
  | leave =>
    rw [State.go,State.leave,if_pos (by rw [empty]; rfl)]
    cases more <;> exact settled_update settled _ _ _
  | finish e => exact settled_finish settled e

theorem leg_writer (side : Side) : ((relayBidirectionalSplice pipeSize).leg side).writer = spliceOut := by
  cases side <;> rfl

-- However the relay ends in a sound run, nothing is left in a pipe.
theorem write_settled
    (conveyed : Conveyed s) (here : s.stage = .writing side more rest after) (sound : faulty (.write answer) = false)
    (quiet : interrupted (.write answer) = false)
    (closed : (write (relayBidirectionalSplice pipeSize) s side more rest after answer).stage = .ended ok) :
    (write (relayBidirectionalSplice pipeSize) s side more rest after answer).Settled := by
  obtain ⟨empty,moved⟩ := conveyed
  rw [here] at moved
  simp only [write,leg_writer] at closed ⊢
  cases answer with
  | ok n =>
    cases n with
    | zero => cases sound
    | succ n =>
      by_cases whole : rest.length ≤ n+1
      · simp only [Writer.wrote,if_pos whole,accepted,List.take_of_length_le whole]
        exact settled_go (gave_batch.trans empty) (gave_settled moved.1 moved.2) _
      · simp only [Writer.wrote,if_neg whole] at closed
        cases closed
  | wouldBlock waited => simp [Writer.wrote,spliceOut] at closed
  | interrupted => cases quiet
  | failed => cases sound

theorem ended_settled (conveyed : Conveyed s) (ran : step (relayBidirectionalSplice pipeSize) s action = some next)
    (sound : faulty action = false) (quiet : interrupted action = false) (closed : next.stage = .ended ok) : next.Settled := by
  have writes : ∀ side more rest after answer, action = .write answer → s.stage = .writing side more rest after →
      next.Settled := by
    rintro side more rest after answer rfl here
    simp only [step,here,Option.some.injEq] at ran
    subst ran
    exact write_settled conveyed here sound quiet closed
  obtain ⟨empty,moved⟩ := conveyed
  cases step_moved ran with
  | stopped here | unpolled here =>
    rw [here] at moved
    exact settled_finish moved _
  | began here => cases closed
  | polled here ready =>
    obtain ⟨first,second⟩ := ready
    cases first <;> cases second <;> cases closed
  | read here found =>
    rename_i side more answer inner reaction
    rw [here] at moved
    obtain ⟨stop,after,take⟩ := relayBidirectionalSplice_legs pipeSize side
    rw [take] at found
    rcases streamTake_cases found with ⟨after,rfl⟩ | ⟨bytes,rfl,_,rfl⟩
    · exact settled_go empty (settled_update moved _ _ _) after
    · cases bytes with
      | nil => cases found
      | cons byte bytes =>
        rw [State.react,State.put,if_neg (by simp)] at closed
        cases closed
  | gaveUp here | stalled here _ | partly here _ | wrote here _ => exact writes _ _ _ _ _ rfl here
  | sent here | asked here =>
    rw [here] at moved
    exact settled_go empty moved _

theorem interrupted_ends (ran : step (relayBidirectionalSplice pipeSize) s action = some next)
    (signal : interrupted action = true) : ∃ ok, next.stage = .ended ok := by
  cases action with
  | read answer =>
    cases answer with
    | interrupted =>
      simp only [step] at ran
      split at ran
      · rename_i side more here
        cases side <;> cases ran <;> exact ⟨true,rfl⟩
      · cases ran
    | _ => cases signal
  | write answer =>
    cases answer with
    | interrupted =>
      simp only [step] at ran
      split at ran
      · rename_i side more rest after here
        cases side <;> cases ran <;> exact ⟨true,rfl⟩
      · cases ran
    | _ => cases signal
  | _ => cases signal

theorem transparent_of_settled (conveyed : Conveyed s) (settled : ∀ ok, s.stage = .ended ok → s.Settled)
    (quiet : ∀ action ∈ actions, interrupted action = false) : Transparent actions s := by
  have drained : (∀ side more rest next, s.stage ≠ .writing side more rest next) → s.Settled := by
    intro idle
    obtain ⟨_,moved⟩ := conveyed
    cases here : s.stage with
    | writing side more rest next => exact absurd here (idle side more rest next)
    | ended ok => exact settled ok here
    | _ => rwa [here] at moved
  refine ⟨fun side => ?_,drained,fun action last signal => ?_⟩
  · by_cases idle : ∀ side more rest next, s.stage ≠ .writing side more rest next
    · exact drained idle side ▸ List.prefix_rfl
    · push Not at idle
      obtain ⟨writer,more,rest,next,here⟩ := idle
      obtain ⟨_,moved⟩ := conveyed
      rw [here] at moved
      by_cases same : side = writer
      · exact ⟨rest,same ▸ moved.1.symm⟩
      · exact moved.2 side same ▸ List.prefix_rfl
  · rw [quiet action (List.mem_of_getLast? last)] at signal
    cases signal

theorem splice_transparent_iff (ran : run (system (relayBidirectionalSplice pipeSize) ()) (start ()) actions = some s)
    (sound : ∀ action ∈ actions, faulty action = false) :
    Transparent actions s ↔ ∀ action ∈ actions, interrupted action = false := by
  constructor
  · intro transparent action present
    by_contra signal
    rw [Bool.not_eq_false] at signal
    obtain ⟨before,after,rfl⟩ := List.append_of_mem present
    rw [run_append] at ran
    obtain ⟨middle,_,ran⟩ := Option.bind_eq_some_iff.mp ran
    obtain ⟨next,taken,ran⟩ := Option.bind_eq_some_iff.mp ran
    obtain ⟨ok,closed⟩ := interrupted_ends taken signal
    cases after with
    | nil =>
      cases ran
      exact transparent.goesOn action (by simp) signal ok closed
    | cons later rest =>
      rw [run,show (system (relayBidirectionalSplice pipeSize) ()).step next later = none from ended_stuck closed later] at ran
      cases ran
  · intro quiet
    have reached : ∀ {actions s}, run (system (relayBidirectionalSplice pipeSize) ()) (start ()) actions = some s →
        Conveyed s :=
      fun ran => reached_conveyed (relayBidirectionalSplice_legs pipeSize).direct (reached_run (.initial rfl) ran)
    refine transparent_of_settled (reached ran) (fun ok closed => ?_) quiet
    rcases List.eq_nil_or_concat' actions with rfl | ⟨before,action,rfl⟩
    · cases ran
      cases closed
    · rw [run_append] at ran
      obtain ⟨middle,earlier,ran⟩ := Option.bind_eq_some_iff.mp ran
      obtain ⟨next,taken,ran⟩ := Option.bind_eq_some_iff.mp ran
      cases ran
      have last : action ∈ before ++ [action] := List.mem_append_right _ List.mem_cons_self
      exact ended_settled (reached earlier) taken (sound action last) (quiet action last) closed

def shortSplices : List (Action TlsRead) :=
  [.check false,.poll 0 (some (true,false)),.read (.ok [1,2]),.write (.ok 1),.write (.wouldBlock false),.write (.ok 1),
    .read .wouldBlock,.check false,.poll 0 (some (false,false))]

theorem splice_transparent_short : ∃ s, run (system (relayBidirectionalSplice 4) ()) (start ()) shortSplices = some s ∧
    Transparent shortSplices s := by
  have ran : run (system (relayBidirectionalSplice 4) ()) (start ()) shortSplices =
    some ⟨.top,(),[],⟨[1,2],[1,2],false⟩,⟨[],[],false⟩⟩ := rfl
  exact ⟨_,ran,(splice_transparent_iff ran (by decide)).mpr (by decide)⟩

-- A signal during the splice out of the pipe: the byte left there is lost with the relay.
def signalled : List (Action TlsRead) :=
  [.check false,.poll 0 (some (true,false)),.read (.ok [1,2]),.write (.ok 1),.write .interrupted]

theorem splice_interrupted : ∃ s, run (system (relayBidirectionalSplice 4) ()) (start ()) signalled = some s ∧
    (∀ action ∈ signalled, faulty action = false) ∧ s.stage = .ended true ∧ s.first.taken = [1,2] ∧
    s.first.delivered = [1] ∧ ¬ Transparent signalled s := by
  have ran : run (system (relayBidirectionalSplice 4) ()) (start ()) signalled =
    some ⟨.ended true,(),[],⟨[1,2],[1],false⟩,⟨[],[],false⟩⟩ := rfl
  refine ⟨_,ran,by decide,rfl,rfl,rfl,fun transparent => ?_⟩
  exact transparent.goesOn (.write .interrupted) rfl rfl true rfl

end Scg.Relay.Splice
