import Scg.Ipc.DrainMachine

namespace Scg.SlotRing
open Ipc Interaction List

section Ring
theorem client_sees {next : Machine} (valid : Invariant g m) (theirs : action.consumers = false)
    (ran : execute g m action = some next) : ConsumerSees m next := by
  cases execute_enters ran with
  | producer moved =>
    cases stepProducer_moves valid.producer moved with
    | push frame point => exact push_sees g m frame point
    | _ => exact ⟨rfl,rfl,rfl,rfl,prefix_refl _⟩
  | tryPush | reserve | fill | commit | abandon => exact ⟨rfl,rfl,rfl,rfl,prefix_refl _⟩
  | _ => cases theirs

def handed (m : Machine) : List UInt8 := (m.pushed.take m.obtained.length).flatMap encodeInto

theorem obtained_le (valid : Invariant g m) : m.obtained.length ≤ m.pushed.length := by
  refine Nat.le_of_not_lt fun beyond => ?_
  obtain ⟨frame,present,_⟩ := valid.delivered m.pushed.length _ (List.getElem?_eq_getElem beyond)
  exact absurd (List.getElem?_eq_some_iff.mp present).1 (Nat.lt_irrefl _)

theorem handed_sees {next : Machine} (valid : Invariant g m) (sees : ConsumerSees m next) : handed next = handed m := by
  obtain ⟨more,grown⟩ := sees.pushed
  unfold handed
  rw [sees.obtained,← grown,take_append_of_le_length (obtained_le valid)]

theorem handed_initial (m : Machine) : handed m <+: m.pushed.flatMap encodeInto := by
  refine ⟨(m.pushed.drop m.obtained.length).flatMap encodeInto,?_⟩
  unfold handed
  rw [← flatMap_append,take_append_drop]

theorem taken_next (present : m.pushed[m.obtained.length]? = some frame) :
    (m.pushed.take (m.obtained.length+1)).flatMap encodeInto = handed m ++ encodeInto frame := by
  unfold handed
  rw [take_add_one,present]
  simp

theorem next_initial (present : m.pushed[m.obtained.length]? = some frame) :
    handed m ++ encodeInto frame <+: m.pushed.flatMap encodeInto := by
  rw [← taken_next present]
  exact ⟨(m.pushed.drop (m.obtained.length+1)).flatMap encodeInto,by rw [← flatMap_append,take_append_drop]⟩

-- An honest client leaves the peeked slot alone, so a direct write reads one frame
-- however many reads it takes.
theorem peeked_view (valid : Invariant g m) (held : m.consumer = .peeked slice) :
    ∃ frame, m.pushed[m.obtained.length]? = some frame ∧ m.shared.view slice = encodeInto frame ∧
      FRAME_HEADER_LEN ≤ slice.len := by
  have consumer := valid.consumer
  unfold ConsumerValid at consumer
  rw [held] at consumer
  obtain ⟨quiet,frame,present,same⟩ := consumer
  refine ⟨frame,?_,(slice_frame valid.ring present same).2,?_⟩
  · rwa [quiet.2]
  · rw [same]
    exact Nat.le_add_right _ _

theorem direct_initial (valid : Invariant g m) (held : m.consumer = .peeked slice)
    (wrote : out = handed m ++ (m.shared.view slice).take off) : out <+: m.pushed.flatMap encodeInto := by
  obtain ⟨frame,present,shown,_⟩ := peeked_view valid held
  have whole : out <+: handed m ++ encodeInto frame := by
    rw [wrote,shown]
    exact (prefix_append_right_inj _).mpr ( take_prefix _ _)
  exact whole.trans (next_initial present)

theorem view_sees {next : Machine} (valid : Invariant g m) (still : Invariant g next) (sees : ConsumerSees m next)
    (held : m.consumer = .peeked slice) : next.shared.view slice = m.shared.view slice := by
  obtain ⟨frame,before,shown,_⟩ := peeked_view valid held
  obtain ⟨frame',after,shown',_⟩ := peeked_view still (sees.consumer.trans held)
  rw [sees.obtained,prefix_getElem sees.pushed before] at after
  rw [shown,shown',Option.some.inj after]

theorem advance_hands {next : Machine} (valid : Invariant g m) (held : m.consumer = .peeked slice)
    (ran : execute g m .advance = some next) :
    handed next = handed m ++ m.shared.view slice ∧ next.obtained.length = m.obtained.length+1 ∧
      ∃ call, next.consumer = .advancing call := by
  obtain ⟨frame,present,shown,_⟩ := peeked_view valid held
  cases execute_enters ran with
  | advance slice' held' =>
    refine ⟨?_,by simp,_,rfl⟩
    rw [shown,← taken_next present,handed,length_append,length_singleton]

def afterPeeking (m : Machine) : Call (Option Slice) → Machine
  | .request op rest =>
    {m with shared := (m.shared.perform op).2,consumer := .peeking (rest (m.shared.perform op).1)}
  | .ret (some slice) => {m with consumer := .peeked slice}
  | .ret none => {m with consumer := .idle}

def afterAdvancing (m : Machine) : Call Unit → Machine
  | .request op rest =>
    {m with
      shared := (m.shared.perform op).2
      consumer := .advancing (rest (m.shared.perform op).1)
      released := if marksReady op then m.released+1 else m.released}
  | .ret () => {m with consumer := .idle}

def afterChecking (m : Machine) : Call Bool → Machine
  | .request op rest =>
    {m with shared := (m.shared.perform op).2,consumer := .checking (rest (m.shared.perform op).1)}
  | .ret _ => {m with consumer := .idle}

theorem stepConsumer_peeking (held : m.consumer = .peeking call) : stepConsumer m = some (afterPeeking m call) := by
  unfold stepConsumer
  rw [held]
  match call with
  | .request op rest | .ret (some slice) | .ret none => rfl

theorem stepConsumer_advancing (held : m.consumer = .advancing call) :
    stepConsumer m = some (afterAdvancing m call) := by
  unfold stepConsumer
  rw [held]
  match call with
  | .request op rest | .ret () => rfl

theorem stepConsumer_checking (held : m.consumer = .checking call) :
    stepConsumer m = some (afterChecking m call) := by
  unfold stepConsumer
  rw [held]
  match call with
  | .request op rest | .ret empty => rfl

theorem peeking_keeps (m : Machine) (call : Call (Option Slice)) :
    handed (afterPeeking m call) = handed m ∧ (afterPeeking m call).obtained = m.obtained ∧
      (afterPeeking m call).pushed = m.pushed ∧ (afterPeeking m call).released = m.released := by
  match call with
  | .request op rest | .ret (some slice) | .ret none => exact ⟨rfl,rfl,rfl,rfl⟩

theorem advancing_keeps (m : Machine) (call : Call Unit) :
    handed (afterAdvancing m call) = handed m ∧ (afterAdvancing m call).obtained = m.obtained ∧
      ((afterAdvancing m call).consumer = .idle ∨ ∃ rest, (afterAdvancing m call).consumer = .advancing rest) := by
  match call with
  | .request op rest => exact ⟨rfl,rfl,.inr ⟨_,rfl⟩⟩
  | .ret () => exact ⟨rfl,rfl,.inl rfl⟩

theorem queue_left (valid : Invariant g m) : (queue m).isEmpty = false ↔ m.released < m.pushed.length := by
  rw [queue,isEmpty_eq_false_iff,ne_eq,drop_eq_nil_iff,Nat.not_le]

theorem peek_finds (valid : Invariant g m) (held : m.consumer = .peeking call)
    (left : m.released < m.pushed.length) (hopeful : m.consumer ≠ .peeking (.ret none)) :
    (afterPeeking m call).consumer ≠ .idle ∧ (afterPeeking m call).consumer ≠ .peeking (.ret none) := by
  have consumer := valid.consumer
  rw [ConsumerValid,held] at consumer
  rw [held] at hopeful
  obtain ⟨point,rfl,facts⟩ := consumer
  rcases point with (_ | pos | _ | _ | _) | _
  case looking.found.none => exact absurd rfl hopeful
  case looking.loadSeq =>
    have place : pos = UInt64.ofNat m.released := facts.2
    have ready := (seq_at_read valid.ring).mpr left
    refine ⟨fun same => (by cases same),?_⟩
    change Consumer.peeking ((if !isReady (m.shared.seq (g.index pos)) pos then _ else _) >>= peekRest g) ≠ _
    rw [place,ready]
    intro same
    cases same
  all_goals exact ⟨fun same => (by cases same),fun same => (by cases same)⟩

end Ring

namespace Drain
variable {d : Drain}
variable {ring : Machine}

-- What has been written and what is staged are together the frames taken so far; a
-- direct write runs ahead of them by the bytes of the slot it has written.
def Written (d : Drain) : Prop :=
  match d.stage with
  | .resting => d.framed = [] ∧ d.out = handed d.ring ∧
      (d.ring.consumer = .idle ∨ ∃ call, d.ring.consumer = .checking call)
  | .looking => d.out ++ d.framed = handed d.ring ∧
      ((∃ call, d.ring.consumer = .peeking call) ∨ ∃ slice, d.ring.consumer = .peeked slice)
  | .staged off last => off < d.framed.length ∧ d.out ++ d.framed.drop off = handed d.ring ∧
      (if last then d.ring.consumer = .idle else ∃ slice, d.ring.consumer = .peeked slice)
  | .direct off => d.framed = [] ∧ ∃ slice, d.ring.consumer = .peeked slice ∧ off < slice.len ∧
      d.out = handed d.ring ++ (d.ring.shared.view slice).take off
  | .advancing _ => d.out ++ d.framed = handed d.ring ∧ ∃ call, d.ring.consumer = .advancing call
  | .failed => d.out <+: d.ring.pushed.flatMap encodeInto

section Accesses
variable (written : d.Written) (ran : stepConsumer d.ring = some ring)
include written ran

theorem Written.checks (stands : d.stage = .resting) :
    ∃ call, d.ring.consumer = .checking call ∧ ring = afterChecking d.ring call := by
  cases d
  cases stands
  obtain ⟨_,_,idle | ⟨call,held⟩⟩ := written
  · rw [stepConsumer,idle] at ran
    cases ran
  · rw [stepConsumer_checking held] at ran
    exact ⟨call,held,(Option.some.inj ran).symm⟩

theorem Written.peeks (stands : d.stage = .looking) :
    ∃ call, d.ring.consumer = .peeking call ∧ ring = afterPeeking d.ring call := by
  cases d
  cases stands
  obtain ⟨_,⟨call,held⟩ | ⟨slice,held⟩⟩ := written
  · rw [stepConsumer_peeking held] at ran
    exact ⟨call,held,(Option.some.inj ran).symm⟩
  · rw [stepConsumer,held] at ran
    cases ran

theorem Written.advances (stands : d.stage = .advancing last) :
    ∃ call, d.ring.consumer = .advancing call ∧ ring = afterAdvancing d.ring call := by
  cases d
  cases stands
  obtain ⟨_,call,held⟩ := written
  rw [stepConsumer_advancing held] at ran
  exact ⟨call,held,(Option.some.inj ran).symm⟩

end Accesses

theorem closes_written (staged : d.out ++ d.framed = handed d.ring) (idle : d.ring.consumer = .idle) :
    d.closes.Written := by
  unfold closes
  split
  · rename_i empty
    rw [List.isEmpty_iff] at empty
    rw [empty,append_nil] at staged
    exact ⟨rfl,staged,.inl idle⟩
  · rename_i some_left
    rw [List.isEmpty_iff] at some_left
    exact ⟨length_pos_iff.mpr some_left,staged,idle⟩

theorem client_written (valid : Invariant g d.ring) (written : d.Written)
    (theirs : action.consumers = false) (ran : execute g d.ring action = some ring) :
    Written {d with ring := ring} := by
  have sees := client_sees valid theirs ran
  have same := handed_sees valid sees
  unfold Written at written ⊢
  cases stands : d.stage with rw [stands] at written
  | failed =>
    obtain ⟨more,grown⟩ := sees.pushed
    rw [← grown,flatMap_append]
    exact prefix_append_of_prefix written
  | direct off =>
    obtain ⟨empty,slice,held,within,wrote⟩ := written
    refine ⟨empty,slice,sees.consumer.trans held,within,?_⟩
    rwa [view_sees valid (step_preserved valid ran) sees held,same]
  | _ =>
    simp only [sees.consumer,same]
    exact written

theorem flushes_written (written : d.Written) (valid : Invariant g d.ring)
    (stands : d.stage = .staged off last) : (d.flushes off last n).Written := by
  unfold Written at written
  rw [stands] at written
  obtain ⟨_,staged,rests⟩ := written
  rw [← take_append_drop n (d.framed.drop off),drop_drop,← append_assoc] at staged
  unfold flushes
  split
  · rename_i more
    exact ⟨more,staged,rests⟩
  · rename_i whole
    rw [drop_of_length_le (Nat.le_of_not_lt whole),append_nil] at staged
    cases last with
    | true => exact ⟨rfl,staged,.inl rests⟩
    | false =>
      obtain ⟨slice,held⟩ := rests
      obtain ⟨_,_,_,long⟩ := peeked_view valid held
      exact ⟨rfl,slice,held,Nat.lt_of_lt_of_le (by decide) long,staged.trans (append_nil _).symm⟩

theorem Written.writes (written : d.Written) (stands : d.stage = .direct off)
    (held : d.ring.consumer = .peeked slice) :
    d.framed = [] ∧ off < slice.len ∧ d.out = handed d.ring ++ (d.ring.shared.view slice).take off := by
  cases d
  cases stands
  obtain ⟨empty,shown,same,more,wrote⟩ := written
  cases same.symm.trans held
  exact ⟨empty,more,wrote⟩

theorem large_written (valid : Invariant g d.ring) (written : d.Written) (stands : d.stage = .looking)
    (held : d.ring.consumer = .peeked slice) :
    Written {d with stage := if d.framed.isEmpty then .direct 0 else .staged 0 false} := by
  cases d
  cases stands
  obtain ⟨_,_,_,long⟩ := peeked_view valid held
  obtain ⟨staged,_⟩ := written
  split
  · rename_i empty
    rw [List.isEmpty_iff] at empty
    rw [empty,append_nil] at staged
    exact ⟨empty,_,held,Nat.lt_of_lt_of_le (by decide) long,staged.trans (append_nil _).symm⟩
  · rename_i some_left
    rw [List.isEmpty_iff] at some_left
    exact ⟨length_pos_iff.mpr some_left,staged,_,held⟩

theorem step_written {next : Drain} (valid : Invariant g d.ring) (written : d.Written) (moves : Moves g zerocopy d move next) :
    next.Written := by
  cases d
  cases moves with
  | client theirs ran => exact client_written valid written theirs ran
  | check stands ran =>
    cases stands
    cases execute_enters ran with
    | isEmpty => exact ⟨written.1,written.2.1,.inr ⟨_,rfl⟩⟩
  | checking stands ran =>
    cases stands
    obtain ⟨_ | _,_,rfl⟩ := written.checks ran rfl
    · exact ⟨written.1,written.2.1,.inl rfl⟩
    · exact ⟨written.1,written.2.1,.inr ⟨_,rfl⟩⟩
  | begin stands ran =>
    cases stands
    cases execute_enters ran with
    | peekFrame => exact ⟨(append_nil _).trans written.2.1,.inl ⟨_,rfl⟩⟩
  | look stands ran busy =>
    cases stands
    obtain ⟨⟨_ | slice⟩ | _,_,rfl⟩ := written.peeks ran rfl
    · exact absurd rfl busy
    · exact ⟨written.1,.inr ⟨slice,rfl⟩⟩
    · exact ⟨written.1,.inl ⟨_,rfl⟩⟩
  | nothing stands ran idle =>
    cases stands
    obtain ⟨call,_,rfl⟩ := written.peeks ran rfl
    exact closes_written (written.1.trans (peeking_keeps _ call).1.symm) idle
  | advance stands ran busy =>
    cases stands
    obtain ⟨_ | _,_,rfl⟩ := written.advances ran rfl
    · exact absurd rfl busy
    · exact ⟨written.1,_,rfl⟩
  | leave stands ran idle =>
    cases stands
    obtain ⟨call,_,rfl⟩ := written.advances ran rfl
    exact closes_written (written.1.trans (advancing_keeps _ call).1.symm) idle
  | again stands ran idle _ peeks =>
    cases stands
    obtain ⟨call,_,rfl⟩ := written.advances ran rfl
    cases execute_enters peeks with
    | peekFrame => exact ⟨written.1.trans (advancing_keeps _ call).1.symm,.inl ⟨_,rfl⟩⟩
  | large stands held => exact large_written valid written stands held
  | full stands held _ _ _ drops =>
    cases stands
    cases execute_enters drops with
    | unpeek => exact closes_written written.1 rfl
  | small stands held _ ran =>
    cases stands
    obtain ⟨same,_,call⟩ := advance_hands valid held ran
    refine ⟨?_,call⟩
    rw [same,← append_assoc,written.1]
  | flush stands => exact flushes_written written valid stands
  | write stands held _ more =>
    obtain ⟨empty,_,wrote⟩ := written.writes stands held
    refine ⟨empty,_,held,more,?_⟩
    rw [wrote,append_assoc,← take_add]
  | written stands held whole ran =>
    obtain ⟨empty,_,wrote⟩ := written.writes stands held
    obtain ⟨same,_,call⟩ := advance_hands valid held ran
    refine ⟨?_,call⟩
    rw [wrote,append_assoc (handed _),← take_add,whole,empty,append_nil,same]
    rw [take_of_length_le (Nat.le_of_eq (view_length _ _))]
  | fail stands =>
    rcases stands with ⟨off,last,rfl⟩ | ⟨off,rfl⟩
    · exact List.IsPrefix.trans ⟨_,written.2.1⟩ (handed_initial _)
    · obtain ⟨_,slice,held,_,wrote⟩ := written
      exact direct_initial valid held wrote

def loops (d : Drain) : Bool :=
  match d.stage with
  | .looking | .direct _ => true
  | .staged _ last | .advancing last => !last
  | .resting | .failed => false

structure Bounded (zerocopy : Bool) (d : Drain) : Prop where
  staged : zerocopy = true → d.framed.length ≤ RELAY_BUF_SIZE
  direct : d.direct ≤ ZC_MAX_DIRECT
  more : d.loops = true → d.direct < ZC_MAX_DIRECT
  room : zerocopy = false → d.stage = .looking → d.framed.length < RELAY_BUF_SIZE
  logged : ∀ pass ∈ d.passes, pass.direct ≤ ZC_MAX_DIRECT

section
variable (bounded : Bounded zerocopy d)
include bounded

theorem rests_bounded : Bounded zerocopy d.rests := by
  refine ⟨fun _ => Nat.zero_le _,bounded.direct,nofun,nofun,?_⟩
  exact forall_mem_append.mpr ⟨bounded.logged,forall_mem_singleton.mpr bounded.direct⟩

theorem closes_bounded : Bounded zerocopy d.closes := by
  unfold closes
  split
  · exact rests_bounded bounded
  · exact ⟨bounded.staged,bounded.direct,nofun,nofun,bounded.logged⟩

theorem flushes_bounded (stands : d.stage = .staged off last) : Bounded zerocopy (d.flushes off last n) := by
  have more := bounded.more
  simp only [loops,stands] at more
  unfold flushes
  split
  · exact ⟨bounded.staged,bounded.direct,more,nofun,bounded.logged⟩
  · cases last with
    | true => exact rests_bounded ⟨bounded.staged,bounded.direct,bounded.more,bounded.room,bounded.logged⟩
    | false => exact ⟨fun _ => Nat.zero_le _,bounded.direct,fun _ => more rfl,nofun,bounded.logged⟩

theorem step_bounded {next : Drain} (moves : Moves g zerocopy d move next) : Bounded zerocopy next := by
  obtain ⟨staged,direct,more,room,logged⟩ := id bounded
  cases d
  cases moves with
  | begin stands => exact ⟨fun _ => Nat.zero_le _,Nat.zero_le _,fun _ => (by decide : 0 < ZC_MAX_DIRECT),
      fun _ _ => (by decide : 0 < RELAY_BUF_SIZE),logged⟩
  | nothing | leave | full => exact closes_bounded ⟨staged,direct,more,room,logged⟩
  | again stands _ _ free =>
    cases stands
    exact ⟨staged,direct,fun _ => more rfl,fun coalesces _ => free coalesces,logged⟩
  | large stands _ zero =>
    cases stands
    cases zero
    exact ⟨staged,direct,fun _ => more rfl,nofun,logged⟩
  | small stands _ fits =>
    cases stands
    refine ⟨?_,direct,fun _ => more rfl,nofun,logged⟩
    rwa [length_append,view_length]
  | flush stands => exact flushes_bounded bounded stands
  | write stands =>
    cases stands
    exact ⟨staged,direct,fun _ => more rfl,nofun,logged⟩
  | written stands =>
    cases stands
    refine ⟨staged,more rfl,?_,nofun,logged⟩
    simpa [loops] using comes
  | fail => exact ⟨staged,direct,nofun,nofun,logged⟩
  | _ => exact ⟨staged,direct,more,room,logged⟩

end

-- A pass that began on a non-empty ring and has forwarded nothing yet is on its way to
-- the frame at the front.
def Hopeful (d : Drain) : Prop :=
  match d.stage with
  | .looking => d.framed = [] ∧ d.ring.released < d.ring.pushed.length ∧ d.ring.consumer ≠ .peeking (.ret none)
  | .direct _ | .failed => True
  | .resting | .staged _ _ | .advancing _ => False

structure Owing (d : Drain) : Prop where
  begun : d.begun ≤ d.ring.obtained.length
  owes : d.owed = true → d.begun < d.ring.obtained.length ∨ d.Hopeful
  logged : ∀ pass ∈ d.passes, pass.owed = true → 0 < pass.forwarded

theorem rests_owing (begun : d.begun ≤ d.ring.obtained.length)
    (owes : d.owed = true → d.begun < d.ring.obtained.length)
    (logged : ∀ pass ∈ d.passes, pass.owed = true → 0 < pass.forwarded) : d.rests.Owing := by
  refine ⟨begun,fun owed => .inl (owes owed),?_⟩
  intro pass member owed
  rcases mem_append.mp member with old | new
  · exact logged pass old owed
  · rw [mem_singleton.mp new] at owed ⊢
    exact Nat.sub_pos_of_lt (owes owed)

theorem closes_owing (begun : d.begun ≤ d.ring.obtained.length)
    (owes : d.owed = true → d.begun < d.ring.obtained.length)
    (logged : ∀ pass ∈ d.passes, pass.owed = true → 0 < pass.forwarded) : d.closes.Owing := by
  unfold closes
  split
  · exact rests_owing begun owes logged
  · exact ⟨begun,fun owed => .inl (owes owed),logged⟩

theorem client_owing (valid : Invariant g d.ring) (owing : d.Owing)
    (theirs : action.consumers = false) (ran : execute g d.ring action = some ring) : Owing {d with ring := ring} := by
  have sees := client_sees valid theirs ran
  obtain ⟨begun,owes,logged⟩ := owing
  rw [← sees.obtained] at begun owes
  refine ⟨begun,fun owed => (owes owed).imp_right ?_,logged⟩
  unfold Hopeful
  cases d.stage with
  | looking =>
    rintro ⟨empty,left,hopeful⟩
    rw [← sees.consumer] at hopeful
    rw [← sees.released] at left
    exact ⟨empty,Nat.lt_of_lt_of_le left sees.pushed.length_le,hopeful⟩
  | _ => exact id

theorem flushes_owing (owing : d.Owing) (stands : d.stage = .staged off last) :
    (d.flushes off last n).Owing := by
  obtain ⟨begun,owes,logged⟩ := owing
  simp only [Hopeful,stands,or_false] at owes
  unfold flushes
  split
  · exact ⟨begun,fun owed => .inl (owes owed),logged⟩
  · cases last with
    | true => exact rests_owing begun owes logged
    | false => exact ⟨begun,fun _ => .inr trivial,logged⟩

theorem taking_pays (valid : Invariant g d.ring) (begun : d.begun ≤ d.ring.obtained.length)
    (held : d.ring.consumer = .peeked slice) (ran : execute g d.ring .advance = some ring) : d.begun < ring.obtained.length := by
  obtain ⟨_,taken,_⟩ := advance_hands valid held ran
  omega

-- No frame is forwarded by an access; the taking of a frame pays what is owed.
theorem step_owing {next : Drain} (valid : Invariant g d.ring) (written : d.Written) (owing : d.Owing)
    (moves : Moves g zerocopy d move next) : next.Owing := by
  obtain ⟨begun,owes,logged⟩ := id owing
  cases d
  cases moves with
  | client theirs ran => exact client_owing valid owing theirs ran
  | check stands ran =>
    cases stands
    cases execute_enters ran with
    | isEmpty => exact ⟨begun,owes,logged⟩
  | checking stands ran =>
    cases stands
    obtain ⟨_ | _,_,rfl⟩ := written.checks ran rfl <;> exact ⟨begun,owes,logged⟩
  | begin stands ran =>
    cases execute_enters ran with
    | peekFrame =>
      refine ⟨Nat.le_refl _,fun owed => .inr ⟨rfl,(queue_left valid).mp ?_,?_⟩,logged⟩
      · simpa [begins] using owed
      · nofun
  | look stands ran busy =>
    cases stands
    obtain ⟨call,held,rfl⟩ := written.peeks ran rfl
    obtain ⟨_,taken,pushed,released⟩ := peeking_keeps _ call
    rw [← taken] at begun owes
    refine ⟨begun,fun owed => (owes owed).imp_right ?_,logged⟩
    rintro ⟨empty,left,hopeful⟩
    refine ⟨empty,?_,(peek_finds valid held left hopeful).2⟩
    rwa [pushed,released]
  | nothing stands ran idle =>
    cases stands
    obtain ⟨call,held,rfl⟩ := written.peeks ran rfl
    rw [← (peeking_keeps _ call).2.1] at begun owes
    refine closes_owing begun (fun owed => (owes owed).resolve_right ?_) logged
    rintro ⟨_,left,hopeful⟩
    exact (peek_finds valid held left hopeful).1 idle
  | advance stands ran busy =>
    cases stands
    obtain ⟨_ | _,_,rfl⟩ := written.advances ran rfl <;> exact ⟨begun,owes,logged⟩
  | leave stands ran idle =>
    cases stands
    obtain ⟨call,_,rfl⟩ := written.advances ran rfl
    rw [← (advancing_keeps _ call).2.1] at begun owes
    exact closes_owing begun (fun owed => (owes owed).resolve_right id) logged
  | again stands ran idle _ peeks =>
    cases stands
    obtain ⟨call,_,rfl⟩ := written.advances ran rfl
    rw [← (advancing_keeps _ call).2.1] at begun owes
    cases execute_enters peeks with
    | peekFrame => exact ⟨begun,fun owed => .inl ((owes owed).resolve_right id),logged⟩
  | large stands held =>
    cases stands
    refine ⟨begun,fun owed => (owes owed).imp_right ?_,logged⟩
    rintro ⟨rfl,_,_⟩
    trivial
  | full stands held _ isSmall isFull drops =>
    cases stands
    cases execute_enters drops with
    | unpeek =>
      refine closes_owing begun (fun owed => (owes owed).resolve_right ?_) logged
      rintro ⟨rfl,_,_⟩
      simp only [length_nil,RELAY_BUF_SIZE,ZC_DIRECT_THRESHOLD] at isFull isSmall
      omega
  | small stands held _ ran | written stands held whole ran =>
    have paid := taking_pays valid begun held ran
    exact ⟨Nat.le_of_lt paid,fun _ => .inl paid,logged⟩
  | flush stands => exact flushes_owing owing stands
  | write | fail => exact ⟨begun,fun _ => .inr trivial,logged⟩

end Drain

end Scg.SlotRing
