import Scg.Library.Transition

-- A loop that serves two directions in turn: a pass waits for a readable source and
-- writes what it takes there to the opposite sink.
namespace Duplex
open List

-- A side is served first or second; as the name of a direction it is the one that is read.
inductive Side where
  | first | second
  deriving DecidableEq

def Side.other : Side → Side
  | .first => .second
  | .second => .first

inductive Wrote where
  | ok (n : Nat)
  | wouldBlock (waited : Bool)
  | interrupted | failed
  deriving DecidableEq

def Wrote.stalled : Wrote → Bool
  | .wouldBlock _ => true
  | .interrupted => true
  | .ok _ => false
  | .failed => false

structure Writer where
  retriesInterrupted : Bool
  needsWait : Bool

inductive Progress (β : Type) where
  | more (rest : List β)
  | done
  | gaveUp

def Writer.wrote {β : Type} (w : Writer) (rest : List β) : Wrote → Progress β
  | .ok 0 => .gaveUp
  | .ok (n+1) => if rest.length ≤ n+1 then .done else .more (rest.drop (n+1))
  | .wouldBlock waited => if waited || !w.needsWait then .more rest else .gaveUp
  | .interrupted => if w.retriesInterrupted then .more rest else .gaveUp
  | .failed => .gaveUp

structure Ending where
  closes : List Side
  ok : Bool

inductive Next where
  | again | ask | leave
  | finish (ending : Ending)

inductive Reaction (β : Type) where
  | go (next : Next)
  | keep (bytes : List β)
  | relay (bytes : List β) (next : Next)
  | send (next : Next)

def Reaction.bytes {β : Type} : Reaction β → List β
  | .keep bytes => bytes
  | .relay bytes _ => bytes
  | .go _ => []
  | .send _ => []

def Reaction.goesOn {β : Type} : Reaction β → Bool
  | .keep _ => true
  | .go .again => true
  | .relay _ .again => true
  | .send .again => true
  | _ => false

structure Leg (σ α β : Type) where
  take : σ → α → Option (σ × Reaction β)
  writer : Writer
  onWriteError : Ending

-- `layered`: what is left in a source's own buffer makes both sources count as readable.
structure Loop (σ α β : Type) where
  leg : Side → Leg σ α β
  layered : Bool
  onStop : Ending
  onPollError : Ending

inductive Stage (β : Type) where
  | top | waiting
  | reading (side : Side) (more : Bool)
  | writing (side : Side) (more : Bool) (rest : List β) (next : Next)
  | sending (side : Side) (more : Bool) (next : Next)
  | asking (side : Side) (more : Bool)
  | ended (ok : Bool)

structure Flow (β : Type) where
  taken : List β
  delivered : List β
  closed : Bool

structure State (σ β : Type) where
  stage : Stage β
  inner : σ
  batch : List β
  first : Flow β
  second : Flow β

inductive Action (α : Type) where
  | check (stop : Bool)
  | poll (pending : Nat) (answer : Option (Bool × Bool))
  | read (answer : α)
  | write (answer : Wrote)
  | sent
  | pending (n : Nat)

namespace State
variable {σ β : Type} (s : State σ β)

def flow : Side → Flow β
  | .first => s.first
  | .second => s.second

def setFlow (side : Side) (f : Flow β) : State σ β :=
  match side with
  | .first => {s with first := f}
  | .second => {s with second := f}

def took (side : Side) (bytes : List β) : State σ β :=
  s.setFlow side {s.flow side with taken := (s.flow side).taken ++ bytes}

def gave (side : Side) (bytes : List β) : State σ β :=
  s.setFlow side {s.flow side with delivered := (s.flow side).delivered ++ bytes}

def finish (e : Ending) : State σ β :=
  {s with
    stage := .ended e.ok
    first := {s.first with closed := s.first.closed || e.closes.contains .first}
    second := {s.second with closed := s.second.closed || e.closes.contains .second}}

def drain (side : Side) (more : Bool) : State σ β := {s with stage := .reading side more,batch := []}

def advance (more : Bool) : State σ β := if more then s.drain .second false else {s with stage := .top}

def leave (side : Side) (more : Bool) : State σ β :=
  if s.batch.isEmpty then s.advance more else {s with stage := .writing side more s.batch .leave,batch := []}

def go (side : Side) (more : Bool) : Next → State σ β
  | .again => {s with stage := .reading side more}
  | .ask => {s with stage := .asking side more}
  | .leave => s.leave side more
  | .finish e => s.finish e

def put (side : Side) (more : Bool) (bytes : List β) (next : Next) : State σ β :=
  if bytes.isEmpty then s.go side more next else {s with stage := .writing side more bytes next}

def react (side : Side) (more : Bool) : Reaction β → State σ β
  | .go next => s.go side more next
  | .keep bytes => {s.took side bytes with stage := .reading side more,batch := s.batch ++ bytes}
  | .relay bytes next => {s.took side bytes with batch := []}.put side more (s.batch ++ bytes) next
  | .send next => {s with stage := .sending side more next}

def serve : Bool × Bool → State σ β
  | (true,second) => s.drain .first second
  | (false,true) => s.drain .second false
  | (false,false) => {s with stage := .top}

end State

section Machine
variable {σ α β : Type} (L : Loop σ α β)

def Loop.ready (pending : Nat) (answer : Option (Bool × Bool)) : Option (Bool × Bool) :=
  if L.layered && pending > 0 then some (true,true) else answer

def accepted (rest : List β) : Wrote → List β
  | .ok n => rest.take n
  | _ => []

def write (s : State σ β) (side : Side) (more : Bool) (rest : List β) (next : Next) (answer : Wrote) : State σ β :=
  match (L.leg side).writer.wrote rest answer with
  | .more left => {s.gave side (accepted rest answer) with stage := .writing side more left next}
  | .done => (s.gave side (accepted rest answer)).go side more next
  | .gaveUp => s.finish (L.leg side).onWriteError

def step (s : State σ β) : Action α → Option (State σ β)
  | .check stop =>
    match s.stage with
    | .top => some (if stop then s.finish L.onStop else {s with stage := .waiting})
    | _ => none
  | .poll pending answer =>
    match s.stage with
    | .waiting =>
      match L.ready pending answer with
      | some ready => some (s.serve ready)
      | none => some (s.finish L.onPollError)
    | _ => none
  | .read answer =>
    match s.stage with
    | .reading side more =>
      match (L.leg side).take s.inner answer with
      | some (inner,reaction) => some (({s with inner := inner} : State σ β).react side more reaction)
      | none => none
    | _ => none
  | .write answer =>
    match s.stage with
    | .writing side more rest next => some (write L s side more rest next answer)
    | _ => none
  | .sent =>
    match s.stage with
    | .sending side more next => some (s.go side more next)
    | _ => none
  | .pending n =>
    match s.stage with
    | .asking side more => some (s.go side more (if n = 0 then .leave else .again))
    | _ => none

def start (inner : σ) : State σ β := ⟨.top,inner,[],⟨[],[],false⟩,⟨[],[],false⟩⟩

def system (inner : σ) : Transition.System (State σ β) (Action α) where
  initial s := s = start inner
  step := step L

inductive Moved (s : State σ β) : Action α → State σ β → Prop where
  | stopped (here : s.stage = .top) : Moved s (.check true) (s.finish L.onStop)
  | began (here : s.stage = .top) : Moved s (.check false) {s with stage := .waiting}
  | unpolled {pending : Nat} {answer : Option (Bool × Bool)} (here : s.stage = .waiting) :
      Moved s (.poll pending answer) (s.finish L.onPollError)
  | polled {pending : Nat} {answer : Option (Bool × Bool)} (here : s.stage = .waiting) (ready : Bool × Bool) :
      Moved s (.poll pending answer) (s.serve ready)
  | read {side : Side} {more : Bool} {answer : α} {inner : σ} {reaction : Reaction β} (here : s.stage = .reading side more)
      (found : (L.leg side).take s.inner answer = some (inner,reaction)) :
      Moved s (.read answer) (({s with inner := inner} : State σ β).react side more reaction)
  | gaveUp {side : Side} {more : Bool} {rest : List β} {next : Next} {answer : Wrote}
      (here : s.stage = .writing side more rest next) : Moved s (.write answer) (s.finish (L.leg side).onWriteError)
  | stalled {side : Side} {more : Bool} {rest : List β} {next : Next} {answer : Wrote}
      (here : s.stage = .writing side more rest next) (stall : answer.stalled = true) : Moved s (.write answer) s
  | partly {side : Side} {more : Bool} {rest : List β} {next : Next} {n : Nat}
      (here : s.stage = .writing side more rest next) (short : n+1 < rest.length) :
      Moved s (.write (.ok (n+1))) {s.gave side (rest.take (n+1)) with stage := .writing side more (rest.drop (n+1)) next}
  | wrote {side : Side} {more : Bool} {rest : List β} {next : Next} {n : Nat}
      (here : s.stage = .writing side more rest next) (whole : rest.length ≤ n+1) :
      Moved s (.write (.ok (n+1))) ((s.gave side rest).go side more next)
  | sent {side : Side} {more : Bool} {next : Next} (here : s.stage = .sending side more next) :
      Moved s .sent (s.go side more next)
  | asked {side : Side} {more : Bool} {n : Nat} (here : s.stage = .asking side more) :
      Moved s (.pending n) (s.go side more (if n = 0 then .leave else .again))

variable {L}

theorem gave_nothing (s : State σ β) (side : Side) : s.gave side [] = s := by
  cases side <;> simp [State.gave,State.setFlow,State.flow]

theorem stall_moved {next : Next}
    (here : s.stage = .writing side more rest next) (stall : answer.stalled = true) (nothing : accepted rest answer = [])
    (tried : (L.leg side).writer.wrote rest answer = .more rest ∨ (L.leg side).writer.wrote rest answer = .gaveUp) :
    Moved L s (.write answer) (write L s side more rest next answer) := by
  rcases tried with more_ | gaveUp
  · simp only [write,more_,nothing,gave_nothing,← here]
    exact .stalled here stall
  · simp only [write,gaveUp]
    exact .gaveUp here

theorem write_moved {next : Next} (here : s.stage = .writing side more rest next) (answer : Wrote) :
    Moved L s (.write answer) (write L s side more rest next answer) := by
  cases answer with
  | ok n =>
    cases n with
    | zero => exact .gaveUp here
    | succ n =>
      by_cases whole : rest.length ≤ n+1
      · simp only [write,Writer.wrote,if_pos whole,accepted,take_of_length_le whole]
        exact .wrote here whole
      · simp only [write,Writer.wrote,if_neg whole]
        exact .partly here (Nat.lt_of_not_le whole)
  | wouldBlock | interrupted => exact stall_moved here rfl rfl (ite_eq_or_eq _ _ _)
  | failed => exact .gaveUp here

theorem step_read {inner : σ}
    (here : s.stage = .reading side more) (found : (L.leg side).take s.inner answer = some (inner,reaction)) :
    step L s (.read answer) = some (({s with inner := inner} : State σ β).react side more reaction) := by
  simp only [step,here,found]

theorem step_moved {next : State σ β} (ran : step L s action = some next) : Moved L s action next := by
  unfold step at ran
  split at ran <;> split at ran <;> rename_i here <;> try cases ran
  · rename_i stop _
    cases stop with
    | true => exact .stopped here
    | false => exact .began here
  · split at ran <;> cases ran
    · exact .polled here _
    · exact .unpolled here
  · split at ran <;> cases ran
    rename_i found
    exact .read here found
  · exact write_moved here _
  · exact .sent here
  · exact .asked here

end Machine

section Ended
variable {σ α β : Type} {s : State σ β}

theorem finish_delivered (e : Ending) : ((s.finish e).flow side).delivered = (s.flow side).delivered := by
  cases side <;> rfl

theorem finish_closed (closes : side ∈ e.closes) : ((s.finish e).flow side).closed = true := by
  cases side <;> simp [State.finish,State.flow,closes]

theorem ended_stuck (done : s.stage = .ended ok) (action : Action α) : step L s action = none := by
  cases action <;> simp only [step,done]

theorem ended_run {inner : σ} (done : s.stage = .ended ok)
    (ran : Transition.run (system L inner) s actions = some later) : later = s := by
  cases actions with
  | nil => exact (Option.some.inj ran).symm
  | cons action rest =>
    rw [Transition.run,show (system L inner).step s action = none from ended_stuck done action] at ran
    cases ran

end Ended

section Conveyance
variable {σ α β : Type} {s : State σ β} {side : Side} {bytes : List β}

@[simp] theorem flow_setFlow_same (f : Flow β) : (s.setFlow side f).flow side = f := by cases side <;> rfl

theorem flow_setFlow_other (apart : other ≠ side) (f : Flow β) : (s.setFlow side f).flow other = s.flow other := by
  cases side <;> cases other <;> first | rfl | exact absurd rfl apart

@[simp] theorem flow_update (stage : Stage β) (inner : σ) (batch : List β) (side : Side) :
    State.flow ⟨stage,inner,batch,s.first,s.second⟩ side = s.flow side := by cases side <;> rfl

def Loop.Direct (L : Loop σ α β) : Prop :=
  ∀ side inner answer later reaction, (L.leg side).take inner answer = some (later,reaction) →
    (∃ next, reaction = .go next) ∨ ∃ bytes next, reaction = .relay bytes next

def State.Settled (s : State σ β) : Prop := ∀ side, (s.flow side).taken = (s.flow side).delivered

def Conveyed (s : State σ β) : Prop :=
  s.batch = [] ∧
    match s.stage with
    | .ended _ => True
    | .writing side _ rest _ => (s.flow side).taken = (s.flow side).delivered ++ rest ∧
        ∀ other, other ≠ side → (s.flow other).taken = (s.flow other).delivered
    | _ => s.Settled

theorem settled_update (settled : s.Settled) (stage : Stage β) (inner : σ) (batch : List β) :
    State.Settled ⟨stage,inner,batch,s.first,s.second⟩ := by
  intro side
  exact settled side

theorem conveyed_go (empty : s.batch = []) (settled : s.Settled) (next : Next) : Conveyed (s.go side more next) := by
  cases next with
  | again | ask => exact ⟨empty,settled_update settled _ _ _⟩
  | leave =>
    rw [State.go,State.leave,if_pos (by rw [empty]; rfl)]
    cases more with
    | true => exact ⟨rfl,settled_update settled _ _ _⟩
    | false => exact ⟨empty,settled_update settled _ _ _⟩
  | finish e => exact ⟨empty,trivial⟩

theorem conveyed_relay (empty : s.batch = []) (settled : s.Settled) (bytes : List β) (next : Next) :
    Conveyed (s.react side more (.relay bytes next)) := by
  have here : ((s.took side bytes).flow side).taken = ((s.took side bytes).flow side).delivered ++ bytes := by
    rw [State.took,flow_setFlow_same]
    exact congrArg (· ++ bytes) (settled side)
  have elsewhere : ∀ other, other ≠ side → ((s.took side bytes).flow other).taken = ((s.took side bytes).flow other).delivered := by
    intro other apart
    rw [State.took,flow_setFlow_other apart]
    exact settled other
  simp only [State.react,empty]
  cases bytes with
  | nil =>
    refine conveyed_go rfl (fun other => ?_) next
    rw [flow_update]
    by_cases same : other = side
    · rw [same,here,append_nil]
    · exact elsewhere other same
  | cons byte bytes =>
    refine ⟨rfl,?_,fun other apart => ?_⟩
    · rwa [flow_update]
    · exact elsewhere other apart

theorem gave_flow (bytes : List β) (left : List β) (cut : rest = bytes ++ left)
    (here : (s.flow side).taken = (s.flow side).delivered ++ rest) :
    ((s.gave side bytes).flow side).taken = ((s.gave side bytes).flow side).delivered ++ left := by
  rwa [State.gave,flow_setFlow_same,append_assoc,← cut]

theorem gave_batch : (s.gave side bytes).batch = s.batch := by cases side <;> rfl

theorem gave_inner : (s.gave side bytes).inner = s.inner := by cases side <;> rfl

theorem took_inner : (s.took side bytes).inner = s.inner := by cases side <;> rfl

theorem gave_elsewhere (bytes : List β) (apart : other ≠ side) : (s.gave side bytes).flow other = s.flow other := by
  rw [State.gave,flow_setFlow_other apart]

theorem gave_settled (here : (s.flow side).taken = (s.flow side).delivered ++ rest)
    (elsewhere : ∀ other, other ≠ side → (s.flow other).taken = (s.flow other).delivered) : (s.gave side rest).Settled := by
  intro other
  by_cases same : other = side
  · rw [same,gave_flow rest [] (append_nil rest).symm here,append_nil]
  · rw [gave_elsewhere rest same]
    exact elsewhere other same

theorem conveyed_step {next : State σ β} (direct : L.Direct) (conveyed : Conveyed s)
    (ran : step L s action = some next) : Conveyed next := by
  obtain ⟨empty,moved⟩ := conveyed
  cases step_moved ran with
  | began here =>
    rw [here] at moved
    exact ⟨empty,settled_update moved _ _ _⟩
  | polled here ready =>
    rw [here] at moved
    match ready with
    | (true,_) | (false,true) => exact ⟨rfl,settled_update moved _ _ _⟩
    | (false,false) => exact ⟨empty,settled_update moved _ _ _⟩
  | read here found =>
    rw [here] at moved
    rename_i inner reaction
    have settled : State.Settled {s with inner := inner} := settled_update moved _ _ _
    rcases direct _ _ _ _ _ found with ⟨next,rfl⟩ | ⟨bytes,next,rfl⟩
    · exact conveyed_go (s := {s with inner := inner}) empty settled next
    · exact conveyed_relay (s := {s with inner := inner}) empty settled bytes next
  | stalled here stall => exact ⟨empty,moved⟩
  | partly here short =>
    rw [here] at moved
    obtain ⟨held,elsewhere⟩ := moved
    refine ⟨gave_batch.trans empty,?_,fun other apart => ?_⟩
    · exact gave_flow _ _ (take_append_drop _ _).symm held
    · rw [flow_update,gave_elsewhere _ apart]
      exact elsewhere other apart
  | wrote here whole =>
    rw [here] at moved
    obtain ⟨held,elsewhere⟩ := moved
    exact conveyed_go (gave_batch.trans empty) (gave_settled held elsewhere) _
  | sent here | asked here =>
    rw [here] at moved
    exact conveyed_go empty moved _
  | _ => exact ⟨empty,trivial⟩

theorem reached_conveyed {inner : σ} (direct : L.Direct) (path : Transition.Reached (system L inner) s) : Conveyed s := by
  refine Transition.Reached.invariant ?_ (fun s action next conveyed ran => conveyed_step direct conveyed ran) path
  rintro s rfl
  refine ⟨rfl,fun side => ?_⟩
  cases side <;> rfl

end Conveyance

end Duplex
