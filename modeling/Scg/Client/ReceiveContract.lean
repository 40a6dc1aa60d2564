import Scg.Client.Receive

namespace Scg.Client.Receive
open Ipc Arrivals Deframe List

-- With a timeout the call is over by then, and says `Ok(None)` only at that instant and
-- with no frame there; without one it never says so.
def Contract {α : Type} (available : Nat → Prop) : Option Nat → Option (Except ScgError (Option α) × Nat) → Prop
  | some t,outcome => ∃ result now, outcome = some (result,now) ∧ now ≤ t ∧
      (result = .ok none → t ≤ now ∧ ¬ available now)
  | none,outcome => ∀ now, outcome ≠ some (.ok none,now)

def Available : Transport → Nat → Prop
  | .uds u,now => ∃ frame rest, frameFront u.dec.maxLen (u.dec.unread ++ arrived now u.bytes) = .item frame rest
  | .shm c,now => arrived now c.frames ≠ []

-- What a socket brings first, byte by byte: the end of a frame or of a malformed header,
-- the end of the stream, or a silence longer than `span`, given by the instant it starts.
inductive Meets where
  | decided (instant : Nat)
  | ended (instant : Nat)
  | silent (since : Nat)

def longer (delay : Nat) : Option Nat → Bool
  | some span => span < delay
  | none => false

def meets (maxLen : Nat) (span : Option Nat) (ending : Option (Nat × Ending)) :
    List UInt8 → Schedule UInt8 → Nat → Meets
  | unread,bytes,now =>
    match frameFront maxLen unread,bytes with
    | .more,(delay,byte) :: rest =>
      if longer delay span then .silent now else meets maxLen span ending (unread ++ [byte]) rest (now+delay)
    | .more,[] =>
      match ending with
      | some (delay,_) => if longer delay span then .silent now else .ended (now+delay)
      | none => .silent now
    | _,_ => .decided now
termination_by structural _ bytes => bytes

def Uds.meets (u : Uds) (timeout : Option Nat) : Meets :=
  Receive.meets u.dec.maxLen (timeout.map pollSpan) u.ending u.dec.unread u.bytes 0

def Uds.Kept (u : Uds) : Option Nat → Prop
  | none => True
  | some t =>
    match u.meets (some t) with
    | .decided instant => instant ≤ t
    | .ended instant => instant ≤ t
    | .silent since => since+pollSpan t = t

def Shm.KeptByEventfd (c : Shm) : Option Nat → Prop
  | some t => arrived 0 c.frames ≠ [] ∨
      (∃ notice, firstAt c.notices = some notice ∧ notice ≤ pollSpan t ∧
        (arrived notice c.frames ≠ [] ∨ notice = t)) ∨
      ((∀ notice, firstAt c.notices = some notice → pollSpan t < notice) ∧ pollSpan t = t ∧ arrived t c.frames = [])
  | none => arrived 0 c.frames ≠ [] ∨
      ∀ notice, firstAt c.notices = some notice → arrived notice c.frames ≠ []

def Shm.unparked (c : Shm) (timeout : Option Nat) : Nat := c.futexWait (c.notifyWord 0) (parkFor timeout) SPIN

def Shm.KeptByFutex (c : Shm) : Option Nat → Prop
  | some t => arrived 0 c.frames ≠ [] ∨
      (∃ frame, firstAt c.frames = some frame ∧ frame ≤ SPIN ∧ frame ≤ t) ∨
      (arrived SPIN c.frames = [] ∧ c.unparked (some t) ≤ t ∧
        (arrived (c.unparked (some t)) c.frames ≠ [] ∨ c.unparked (some t) = t))
  | none => arrived (c.unparked none) c.frames ≠ []

def Kept (timeout : Option Nat) : Transport → Prop
  | .uds u => u.Kept timeout
  | .shm c => if c.futex && c.slotRing then c.KeptByFutex timeout else c.KeptByEventfd timeout

theorem pollSpan_le (timeout : Nat) : pollSpan timeout ≤ timeout := by
  calc min (timeout/MILLISECOND) C_INT_MAX*MILLISECOND
      ≤ timeout/MILLISECOND*MILLISECOND := Nat.mul_le_mul_right _ (Nat.min_le_left _ _)
    _ ≤ timeout := Nat.div_mul_le_self _ _

section Contracts
variable {α β : Type} {available : Nat → Prop}

theorem contract_some :
    Contract available (some t) (some (result,now)) ↔
      now ≤ t ∧ (result = .ok none → t ≤ now ∧ ¬ available now) := by
  constructor
  · rintro ⟨_,_,same,kept⟩
    cases same
    exact kept
  · exact fun kept => ⟨result,now,rfl,kept⟩

theorem contract_none : Contract available none (some (result,now)) ↔ result ≠ .ok none := by
  constructor
  · rintro kept rfl
    exact kept now rfl
  · intro other later same
    cases same
    exact other rfl

theorem contract_answer (answer : result ≠ .ok none) :
    Contract available timeout (some (result,now)) ↔ ∀ t, timeout = some t → now ≤ t := by
  cases timeout with
  | none => exact contract_none.trans (iff_of_true answer nofun)
  | some t =>
    refine contract_some.trans ⟨?_,fun inTime => ⟨inTime t rfl,fun none_ => absurd none_ answer⟩⟩
    rintro ⟨inTime,_⟩ _ same
    cases same
    exact inTime

theorem contract_map (f : α → β) :
    Contract available timeout (outcome.map fun (result,now) => (result.map (Option.map f),now)) ↔
      Contract available timeout outcome := by
  match outcome with
  | none => cases timeout <;> simp [Contract]
  | some (result,now) =>
    have same : result.map (Option.map f) = .ok none ↔ result = .ok none := by
      match result with
      | .error e | .ok none | .ok (some a) => simp [Except.map]
    cases timeout with
    | none => exact contract_none.trans ((not_congr same).trans contract_none.symm)
    | some t =>
      refine contract_some.trans (Iff.trans ?_ contract_some.symm)
      rw [same]

end Contracts

section Shm
variable {α : Type} {c : Shm} {pop : Frame → α}

theorem tryPop_none : c.tryPop now = none ↔ arrived now c.frames = [] := head?_eq_none_iff

theorem pop_nothing :
    (Except.ok ((c.tryPop now).map pop) : Except ScgError (Option α)) = .ok none ↔ arrived now c.frames = [] := by
  rw [← tryPop_none,Except.ok.injEq,Option.map_eq_none_iff]

theorem receive_there (there : arrived 0 c.frames ≠ []) :
    ∃ frame, c.receive pop timeout = some (.ok (some (pop frame)),0) := by
  unfold Shm.receive
  cases popped : c.tryPop 0 with
  | none => exact absurd (tryPop_none.mp popped) there
  | some frame => exact ⟨frame,rfl⟩

section
variable (empty : arrived 0 c.frames = [])
include empty

theorem receive_looks (waited : c.waitG2c timeout = some (true,now)) :
    c.receive pop timeout = some (.ok ((c.tryPop now).map pop),now) := by
  unfold Shm.receive
  rw [tryPop_none.mpr empty,waited]

theorem receive_gives_up (waited : c.waitG2c timeout = some (false,now)) :
    c.receive pop timeout = some (.ok none,now) := by
  unfold Shm.receive
  rw [tryPop_none.mpr empty,waited]

theorem looks_contract (waited : c.waitG2c (some t) = some (true,now)) :
    Contract (Available (.shm c)) (some t) (c.receive pop (some t)) ↔
      now ≤ t ∧ (arrived now c.frames ≠ [] ∨ now = t) := by
  rw [receive_looks empty waited,contract_some,pop_nothing]
  by_cases there : arrived now c.frames = []
  · simp only [there,Available,ne_eq,not_true_eq_false,not_false_eq_true,and_true,false_or,forall_const]
    omega
  · simp [there]

theorem gives_up_contract (waited : c.waitG2c (some t) = some (false,now)) :
    Contract (Available (.shm c)) (some t) (c.receive pop (some t)) ↔ now = t ∧ arrived t c.frames = [] := by
  rw [receive_gives_up empty waited,contract_some]
  simp only [Available,Decidable.not_not,forall_const]
  constructor
  · rintro ⟨inTime,elapsed,nothing⟩
    have same : now = t := by omega
    exact ⟨same,same ▸ nothing⟩
  · rintro ⟨rfl,nothing⟩
    exact ⟨Nat.le_refl _,Nat.le_refl _,nothing⟩

end

theorem there_contract (there : arrived 0 c.frames ≠ []) :
    Contract (Available (.shm c)) timeout (c.receive pop timeout) := by
  obtain ⟨frame,received⟩ : ∃ frame, c.receive pop timeout = some (.ok (some (pop frame)),0) := receive_there there
  rw [received]
  exact (contract_answer (by simp)).mpr fun _ _ => Nat.zero_le _

section
variable (path : (c.futex && c.slotRing) = false)
include path

theorem eventfd_waits : c.waitG2c timeout = pollReadable (firstAt c.notices) timeout 0 := by
  unfold Shm.waitG2c
  rw [path]
  rfl

theorem eventfd_unlimited (empty : arrived 0 c.frames = []) :
    Contract (Available (.shm c)) none (c.receive pop none) ↔ c.KeptByEventfd none := by
  have waits : c.waitG2c none = _ := eventfd_waits path
  simp only [Shm.KeptByEventfd,empty,ne_eq,not_true_eq_false,false_or]
  cases first : firstAt c.notices with
  | none =>
    rw [first] at waits
    have never : c.receive pop none = none := by
      unfold Shm.receive
      rw [tryPop_none.mpr empty,waits]
      rfl
    rw [never]
    exact iff_of_true nofun nofun
  | some notice =>
    have looks : c.waitG2c none = some (true,notice) := by
      rw [waits,first]
      simp [pollReadable]
    rw [receive_looks empty looks,contract_none,ne_eq,pop_nothing]
    constructor
    · intro filled _ same
      cases same
      exact filled
    · exact fun filled => filled notice rfl

theorem eventfd_limited (empty : arrived 0 c.frames = []) :
    Contract (Available (.shm c)) (some t) (c.receive pop (some t)) ↔ c.KeptByEventfd (some t) := by
  have waits : c.waitG2c (some t) = _ := eventfd_waits path
  simp only [Shm.KeptByEventfd,empty,ne_eq,not_true_eq_false,false_or]
  by_cases early : ∃ notice, firstAt c.notices = some notice ∧ notice ≤ pollSpan t
  · obtain ⟨notice,first,within⟩ := early
    have looks : c.waitG2c (some t) = some (true,notice) := by
      rw [waits,first]
      simp [pollReadable,within]
    rw [looks_contract empty looks]
    constructor
    · exact fun kept => .inl ⟨notice,first,within,kept.2⟩
    · rintro (⟨_,same,_,kept⟩ | ⟨late,_⟩)
      · cases first.symm.trans same
        exact ⟨Nat.le_trans within (pollSpan_le t),kept⟩
      · exact absurd (late notice first) (Nat.not_lt.mpr within)
  · have late : ∀ notice, firstAt c.notices = some notice → pollSpan t < notice :=
      fun notice first => Nat.lt_of_not_le fun within => early ⟨notice,first,within⟩
    have silent : c.waitG2c (some t) = some (false,pollSpan t) := by
      rw [waits]
      cases first : firstAt c.notices with
      | none => simp [pollReadable]
      | some notice => simp [pollReadable,late notice first]
    rw [gives_up_contract empty silent]
    exact ⟨fun kept => .inr ⟨late,kept⟩,fun kept => (kept.resolve_left fun ⟨notice,first,within,_⟩ =>
      early ⟨notice,first,within⟩).2⟩

theorem eventfd_contract :
    Contract (Available (.shm c)) timeout (c.receive pop timeout) ↔ c.KeptByEventfd timeout := by
  by_cases there : arrived 0 c.frames ≠ []
  · refine iff_of_true (there_contract there) ?_
    cases timeout <;> exact .inl there
  · have empty : arrived 0 c.frames = [] := Decidable.not_not.mp there
    cases timeout with
    | none => exact eventfd_unlimited path empty
    | some t => exact eventfd_limited path empty

end

theorem futexWait_later (observed : UInt32) (park now : Nat) : now ≤ c.futexWait observed park now := by
  unfold Shm.futexWait
  split
  · exact Nat.le_refl _
  · split
    · rename_i instant next
      exact Nat.le_min.mpr ⟨Nat.le_of_lt (nextAfter_later next),Nat.le_add_right _ _⟩
    · exact Nat.le_add_right _ _

theorem arrived_later (order : early ≤ late) (there : arrived early c.frames ≠ []) : arrived late c.frames ≠ [] := by
  obtain ⟨instant,first,soon⟩ := arrived_ne_nil.mp there
  exact arrived_ne_nil.mpr ⟨instant,first,Nat.le_trans soon order⟩

theorem spin_catches (path : (c.futex && c.slotRing) = true) (first : firstAt c.frames = some instant)
    (soon : instant ≤ SPIN) : c.waitG2c timeout = some (true,instant) := by
  have ends : c.spinEnd = instant := by
    unfold Shm.spinEnd
    rw [first]
    exact Nat.min_eq_left soon
  have there : c.tryPop instant ≠ none := fun nothing =>
    arrived_ne_nil.mpr ⟨instant,first,Nat.le_refl _⟩ (tryPop_none.mp nothing)
  unfold Shm.waitG2c Shm.consumerIsEmpty
  rw [path,ends]
  simp [there]

theorem spin_parks (path : (c.futex && c.slotRing) = true) (quiet : arrived SPIN c.frames = []) :
    c.waitG2c timeout = some (true,c.unparked timeout) := by
  have ends : c.spinEnd = SPIN := by
    unfold Shm.spinEnd
    split
    · rename_i instant first
      refine Nat.min_eq_right (Nat.le_of_not_le fun soon => ?_)
      exact arrived_ne_nil.mpr ⟨instant,first,soon⟩ quiet
    · rfl
  unfold Shm.waitG2c Shm.consumerIsEmpty Shm.unparked
  rw [path,ends,tryPop_none.mpr quiet]
  simp

theorem futex_contract (path : (c.futex && c.slotRing) = true) :
    Contract (Available (.shm c)) timeout (c.receive pop timeout) ↔ c.KeptByFutex timeout := by
  by_cases there : arrived 0 c.frames ≠ []
  · refine iff_of_true (there_contract there) ?_
    cases timeout with
    | none => exact arrived_later (Nat.zero_le _) there
    | some t => exact .inl there
  · have empty : arrived 0 c.frames = [] := Decidable.not_not.mp there
    by_cases quiet : arrived SPIN c.frames = []
    · have parks : c.waitG2c timeout = some (true,c.unparked timeout) := spin_parks path quiet
      cases timeout with
      | none => rw [receive_looks empty parks,contract_none,ne_eq,pop_nothing]; rfl
      | some t =>
        rw [looks_contract empty parks]
        simp only [Shm.KeptByFutex,there,quiet,true_and,false_or]
        refine ⟨.inr,fun kept => kept.resolve_left ?_⟩
        rintro ⟨instant,first,soon,_⟩
        exact arrived_ne_nil.mpr ⟨instant,first,soon⟩ quiet
    · obtain ⟨instant,first,soon⟩ := arrived_ne_nil.mp quiet
      have catches : c.waitG2c timeout = some (true,instant) := spin_catches path first soon
      have caught := arrived_ne_nil.mpr ⟨instant,first,Nat.le_refl _⟩
      cases timeout with
      | none =>
        rw [receive_looks empty catches,contract_none,ne_eq,pop_nothing]
        exact iff_of_true caught (arrived_later (futexWait_later _ _ _) quiet)
      | some t =>
        rw [looks_contract empty catches]
        simp only [Shm.KeptByFutex,there,quiet,false_and,or_false,false_or]
        constructor
        · exact fun kept => ⟨instant,first,soon,kept.1⟩
        · rintro ⟨_,same,_,inTime⟩
          cases first.symm.trans same
          exact ⟨inTime,.inl caught⟩

end Shm

section Uds
variable {span : Option Nat} {u : Uds}

theorem decided_stays (decided : frameFront maxLen xs ≠ .more) (later : List UInt8) :
    frameFront maxLen (xs ++ later) ≠ .more := by
  cases shown : frameFront maxLen xs with
  | more => exact absurd shown decided
  | item frame rest => simp [frameFront_item_stays shown]
  | bad => simp [frameFront_bad_stays shown]

theorem meets_decided (decided : frameFront maxLen unread ≠ .more) :
    meets maxLen span ending unread bytes now = .decided now := by
  unfold meets
  split <;> first | rfl | (rename_i more; exact absurd more decided)

theorem meets_byte (more : frameFront maxLen unread = .more) (soon : longer delay span = false) :
    meets maxLen span ending unread ((delay,byte) :: rest) now =
      meets maxLen span ending (unread ++ [byte]) rest (now+delay) := by
  have stays : ¬ longer delay span = true := by simp [soon]
  rwa [meets,if_neg stays]

theorem meets_late (more : frameFront maxLen unread = .more) (late : longer delay span = true) :
    meets maxLen span ending unread ((delay,byte) :: rest) now = .silent now := by rwa [meets,if_pos late]

theorem meets_nil (more : frameFront maxLen unread = .more) :
    meets maxLen span ending unread [] now =
      match ending with
      | some (delay,_) => if longer delay span then .silent now else .ended (now+delay)
      | none => .silent now := by
  cases ending with
  | none | some => rwa [meets]

theorem longer_zero (span : Option Nat) : longer 0 span = false := by
  cases span with
  | none => rfl
  | some span => simp [longer]

theorem meets_burst (room : Nat) (unread : List UInt8) (bytes : Schedule UInt8) :
    meets maxLen span ending (unread ++ (Uds.burst room bytes).1) (Uds.burst room bytes).2 now =
      meets maxLen span ending unread bytes now := by
  induction bytes generalizing room unread with
  | nil => simp [Uds.burst]
  | cons entry rest ih =>
    by_cases more : frameFront maxLen unread = .more
    · obtain ⟨delay,byte⟩ := entry
      unfold Uds.burst
      split
      · rename_i soon
        obtain ⟨rfl,_⟩ := soon
        simpa [meets_byte more (longer_zero span)] using ih (room-1) (unread ++ [byte])
      · simp
    · rw [meets_decided more,meets_decided (decided_stays more _)]

theorem poll_waits (delay now : Nat) :
    pollReadable (some (now+delay)) timeout now =
      if longer delay (timeout.map pollSpan) then timeout.map fun t => (false,now+pollSpan t)
      else some (true,now+delay) := by
  cases timeout with
  | none => simp [pollReadable,longer]
  | some t => by_cases soon : delay ≤ pollSpan t <;> simp [pollReadable,longer,soon]

def Answers (timeout : Option Nat) (outcome : Option (Except ScgError (Option Frame) × Nat)) : Meets → Prop
  | .decided instant => ∃ result, outcome = some (result,instant) ∧ result ≠ .ok none
  | .ended instant => ∃ result, outcome = some (result,instant) ∧ result ≠ .ok none
  | .silent since => outcome = timeout.map fun t => (.ok none,since+pollSpan t)

theorem recv_decided (decided : frameFront u.dec.maxLen u.dec.unread ≠ .more) :
    ∃ result, u.recvTimeout timeout now = some (result,now) ∧ result ≠ .ok none := by
  unfold Uds.recvTimeout
  cases shown : frameFront u.dec.maxLen u.dec.unread with
  | more => exact absurd shown decided
  | item frame rest =>
    obtain ⟨found,_,_⟩ := nextFrame_item shown
    have next : u.dec.nextFrame = (.ok (some frame),u.dec.nextFrame.2) := Prod.ext found rfl
    rw [next]
    exact ⟨_,rfl,by simp⟩
  | bad =>
    rw [nextFrame_bad shown]
    exact ⟨_,rfl,by simp⟩

theorem recv_fills (more : frameFront u.dec.maxLen u.dec.unread = .more) : u.recvTimeout timeout now =
      match u.fillOnce timeout now with
      | none => none
      | some (.error e,later) => some (.error e,later)
      | some (.ok .timeout,later) => some (.ok none,later)
      | some (.ok .eof,later) => some (.error .closed,later)
      | some (.ok (.filled after),later) => after.recvTimeout timeout later := by
  rw [Uds.recvTimeout,nextFrame_more more]
  dsimp only
  split <;> rename_i found <;> rw [found]

def Uds.fed (u : Uds) (byte : UInt8) (rest : Schedule UInt8) : Uds :=
  {u with dec := u.dec.feed (byte :: (Uds.burst (RECV_BUF_LEN-1) rest).1),bytes := (Uds.burst (RECV_BUF_LEN-1) rest).2}

section
variable (more : frameFront u.dec.maxLen u.dec.unread = .more)
include more

theorem recv_silent (ready : u.readyAt now = some (now+delay)) (late : longer delay (timeout.map pollSpan) = true) :
    u.recvTimeout timeout now = timeout.map fun t => (.ok none,now+pollSpan t) := by
  rw [recv_fills more,Uds.fillOnce,ready,poll_waits,if_pos late]
  cases timeout with
  | none => cases late
  | some t => rfl

theorem recv_byte (coming : u.bytes = (delay,byte) :: rest)
    (soon : longer delay (timeout.map pollSpan) = false) :
    u.recvTimeout timeout now = (u.fed byte rest).recvTimeout timeout (now+delay) := by
  have ready : u.readyAt now = some (now+delay) := by rw [Uds.readyAt,coming]
  have found : u.read = some (.ok (.filled (u.fed byte rest))) := by
    rw [Uds.read,coming]
    rfl
  rw [recv_fills more,Uds.fillOnce,ready,poll_waits,soon,found]
  rfl

theorem recv_end
    (nothing : u.bytes = []) (ends : u.ending = some (delay,how)) (soon : longer delay (timeout.map pollSpan) = false) :
    ∃ result, u.recvTimeout timeout now = some (result,now+delay) ∧ result ≠ .ok none := by
  have ready : u.readyAt now = some (now+delay) := by rw [Uds.readyAt,nothing,ends]; rfl
  rw [recv_fills more,Uds.fillOnce,ready,poll_waits,soon,Uds.read,nothing,ends]
  cases how <;> exact ⟨_,rfl,by simp⟩

theorem recv_never_ends (nothing : u.bytes = [])
    (open_ : u.ending = none) : u.recvTimeout timeout now = timeout.map fun t => (.ok none,now+pollSpan t) := by
  have ready : u.readyAt now = none := by rw [Uds.readyAt,nothing,open_]; rfl
  rw [recv_fills more,Uds.fillOnce,ready]
  cases timeout <;> rfl

end

theorem recv_meets (u : Uds) (timeout : Option Nat) (now : Nat) :
    Answers timeout (u.recvTimeout timeout now)
      (meets u.dec.maxLen (timeout.map pollSpan) u.ending u.dec.unread u.bytes now) := by
  by_cases more : frameFront u.dec.maxLen u.dec.unread = .more
  · cases coming : u.bytes with
    | nil =>
      rw [meets_nil more]
      cases ends : u.ending with
      | none => exact recv_never_ends more coming ends
      | some ended =>
        obtain ⟨delay,how⟩ := ended
        have ready : u.readyAt now = some (now+delay) := by rw [Uds.readyAt,coming,ends]; rfl
        dsimp only
        split
        · rename_i late
          exact recv_silent more ready late
        · rename_i soon
          exact recv_end more coming ends (Bool.eq_false_iff.mpr soon)
    | cons entry rest =>
      obtain ⟨delay,byte⟩ := entry
      cases soon : longer delay (timeout.map pollSpan) with
      | true =>
        have ready : u.readyAt now = some (now+delay) := by rw [Uds.readyAt,coming]
        rw [meets_late more soon]
        exact recv_silent more ready soon
      | false =>
        have shorter : (u.fed byte rest).bytes.length < u.bytes.length := by
          rw [coming]
          exact Nat.lt_succ_of_le (Uds.burst_shorter _ rest)
        have later := recv_meets (u.fed byte rest) timeout (now+delay)
        rw [recv_byte more coming soon,meets_byte more soon,← meets_burst (RECV_BUF_LEN-1)]
        simpa [Uds.fed,feed_unread] using later
  · rw [meets_decided more]
    exact recv_decided more
termination_by u.bytes.length

theorem silent_undecided (silent : meets maxLen (some width) ending unread bytes now = .silent since) :
    now ≤ since ∧ frameFront maxLen (unread ++ arrived (since+width-now) bytes) = .more := by
  by_cases more : frameFront maxLen unread = .more
  · induction bytes generalizing unread now with
    | nil =>
      rw [meets_nil more] at silent
      rw [arrived,append_nil]
      split at silent
      · split at silent <;> cases silent
        exact ⟨Nat.le_refl _,more⟩
      · cases silent
        exact ⟨Nat.le_refl _,more⟩
    | cons entry rest ih =>
      obtain ⟨delay,byte⟩ := entry
      cases soon : longer delay (some width) with
      | true =>
        rw [meets_late more soon] at silent
        cases silent
        have late : width < delay := of_decide_eq_true soon
        rw [arrived,if_neg (by omega),append_nil]
        exact ⟨Nat.le_refl _,more⟩
      | false =>
        rw [meets_byte more soon] at silent
        by_cases still : frameFront maxLen (unread ++ [byte]) = .more
        · obtain ⟨order,undecided⟩ := ih silent still
          have within : delay ≤ since+width-now := by omega
          rw [Nat.sub_add_eq,append_assoc] at undecided
          rw [arrived,if_pos within]
          exact ⟨by omega,undecided⟩
        · rw [meets_decided still] at silent
          cases silent
  · rw [meets_decided more] at silent
    cases silent

theorem uds_contract : Contract (Available (.uds u)) timeout (u.recvTimeout timeout 0) ↔ u.Kept timeout := by
  have answers := recv_meets u timeout 0
  cases met : meets u.dec.maxLen (timeout.map pollSpan) u.ending u.dec.unread u.bytes 0 with rw [met] at answers
  | decided instant | ended instant =>
    obtain ⟨result,answered,some_⟩ := answers
    rw [answered,contract_answer some_]
    cases timeout <;> simp only [Uds.Kept,Uds.meets,met] <;> simp
  | silent since =>
    cases timeout with
    | none =>
      rw [show u.recvTimeout none 0 = none from answers]
      exact iff_of_true nofun trivial
    | some t =>
      have undecided := (silent_undecided met).2
      rw [Nat.sub_zero] at undecided
      have unavailable : ¬ Available (.uds u) (since+pollSpan t) := by
        rintro ⟨frame,rest,whole⟩
        rw [undecided] at whole
        cases whole
      rw [show u.recvTimeout (some t) 0 = some (.ok none,since+pollSpan t) from answers,contract_some]
      simp only [Uds.Kept,Uds.meets,met]
      exact ⟨fun kept => Nat.le_antisymm kept.1 (kept.2 trivial).1,
        fun same => ⟨Nat.le_of_eq same,fun _ => ⟨Nat.le_of_eq same.symm,unavailable⟩⟩⟩

end Uds

-- `recv_timeout` and `recv_into` keep their timeout exactly where the schedule lets them.
theorem receive_timeout_contract (transport : Transport) (timeout : Option Nat) :
    (Contract (Available transport) timeout (recvTimeout timeout transport) ↔ Kept timeout transport) ∧
    ∀ room, Contract (Available transport) timeout (recvInto room timeout transport) ↔ Kept timeout transport := by
  cases transport with
  | uds u => exact ⟨uds_contract,fun room => (contract_map (clip room)).trans uds_contract⟩
  | shm c =>
    cases path : c.futex && c.slotRing with
    | true =>
      have kept : c.KeptByFutex timeout ↔ Kept timeout (.shm c) := by rw [Kept,path]; rfl
      exact ⟨(futex_contract path).trans kept,fun room => (futex_contract path).trans kept⟩
    | false =>
      have kept : c.KeptByEventfd timeout ↔ Kept timeout (.shm c) := by rw [Kept,path]; rfl
      exact ⟨(eventfd_contract path).trans kept,fun room => (eventfd_contract path).trans kept⟩

def SECOND : Nat := 1000*MILLISECOND

-- A silent futex client; an eventfd client with a notification left over; a socket that
-- brings one byte after 0.9 s.
def silentFutex : Transport := .shm {slotRing := true,futex := true,word := 0,frames := [],notices := []}
def staleEventfd : Transport := .shm {slotRing := true,futex := false,word := 0,frames := [],notices := [(0,())]}
def slowSocket : Transport := .uds {dec := .new 1024,bytes := [(900*MILLISECOND,1)],ending := none}

theorem slowSocket_late : recvTimeout (some SECOND) slowSocket = some (.ok none,1900*MILLISECOND) :=
  recv_meets {dec := .new 1024,bytes := [(900*MILLISECOND,1)],ending := none} (some SECOND) 0

theorem receive_timeout_broken : (recvTimeout none silentFutex = some (.ok none,SPIN+FUTEX_PARK) ∧
      ¬ Contract (Available silentFutex) none (recvTimeout none silentFutex)) ∧
    (recvTimeout (some SECOND) silentFutex = some (.ok none,SPIN+FUTEX_PARK) ∧
      ¬ Contract (Available silentFutex) (some SECOND) (recvTimeout (some SECOND) silentFutex)) ∧
    (recvTimeout (some SECOND) staleEventfd = some (.ok none,0) ∧
      ¬ Contract (Available staleEventfd) (some SECOND) (recvTimeout (some SECOND) staleEventfd)) ∧
    (recvTimeout (some SECOND) slowSocket = some (.ok none,1900*MILLISECOND) ∧
      ¬ Contract (Available slowSocket) (some SECOND) (recvTimeout (some SECOND) slowSocket)) := by
  have early : recvTimeout none silentFutex = some (.ok none,SPIN+FUTEX_PARK) := rfl
  have parked : recvTimeout (some SECOND) silentFutex = some (.ok none,SPIN+FUTEX_PARK) := rfl
  have stale : recvTimeout (some SECOND) staleEventfd = some (.ok none,0) := rfl
  refine ⟨⟨early,fun kept => kept _ early⟩,⟨parked,?_⟩,⟨stale,?_⟩,⟨slowSocket_late,?_⟩⟩
  · rw [parked,contract_some]
    exact fun kept => absurd (kept.2 rfl).1 (by decide)
  · rw [stale,contract_some]
    exact fun kept => absurd (kept.2 rfl).1 (by decide)
  · rw [slowSocket_late,contract_some]
    exact fun kept => absurd kept.1 (by decide)

end Scg.Client.Receive
