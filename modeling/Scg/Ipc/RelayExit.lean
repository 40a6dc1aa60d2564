import Scg.Ipc.FrameReader
import Scg.Ipc.ByteFifo

namespace Scg.RelayExit
open Ipc Interaction Option

def DEFAULT_MAX_FRAME_LEN : Nat := 16*1024*1024

-- `push_g2c_frame`: `Some(was_empty)`, `None` for a full ring, or the ring's error.
abbrev Outcome := Except ShmError (Option Bool)

inductive PushEvent where
  | access (published : Bool)
  | returned (outcome : Outcome)

-- The gateway-to-client ring under a relay. `drained`: the push that runs samples
-- `read_pos` next and finds the ring drained.
structure Channel (R A : Type) where
  start : R → Frame → Option R
  step : R → Option (R × PushEvent)
  client : R → A → Option R
  looksEmpty : R → A → Bool
  drained : R → Bool

inductive Exit where
  | shutdown
  | hungUp
  | endOfStream
  | io (error : IoError)
  | malformed (error : FrameError)
  | ringPush (error : ShmError)
  | shutdownWhileFull
  | clientGone

-- `pushed` and `any` are the locals of the batch that one read makes.
inductive Stage where
  | polling
  | reading
  | batch (pushed any : Bool)
  | pushing (frame : Frame) (pushed any : Bool)
  | full (frame : Frame) (pushed any : Bool)
  | returned (exit : Exit)

-- The last four are history. `fresh`: this batch has pushed a frame since its last nudge;
-- `drained`: one of its pushes sampled a drained ring.
structure State (R : Type) where
  stage : Stage
  decoder : FrameDecoder
  ring : R
  fresh : Bool
  drained : Bool
  signalled : List Frame
  unsignalled : List Frame

inductive Polled where
  | shutdown
  | failed (error : IoError)
  | hungUp
  | quiet
  | ready

inductive Arrived where
  | closed
  | bytes (data : List UInt8)
  | wouldBlock
  | interrupted
  | failed (error : IoError)

inductive Move (A : Type) where
  | poll (polled : Polled)
  | read (arrived : Arrived)
  | decode (sslPending : Bool)
  | access
  | backoff (shutdown gone : Bool)
  | client (action : A)

section Relay
variable {R A : Type}

-- `signal_g2c`: on the slot ring in futex mode only an empty ring is worth a wakeup,
-- otherwise the eventfd is always written.
def State.signal (s : State R) (futex wasEmpty : Bool) : State R :=
  if futex && !wasEmpty then s
  else {s with signalled := s.signalled ++ s.unsignalled,unsignalled := []}

def poll (s : State R) : Polled → State R
  | .shutdown => {s with stage := .returned .shutdown}
  | .failed error => {s with stage := .returned (.io error)}
  | .hungUp => {s with stage := .returned .hungUp}
  | .quiet => s
  | .ready => {s with stage := .reading}

def read (s : State R) : Arrived → State R
  | .closed => {s with stage := .returned .endOfStream}
  | .bytes data =>
    {s with stage := .batch false false,decoder := s.decoder.feed data,fresh := false,drained := false}
  | .wouldBlock => {s with stage := .polling}
  | .interrupted => s
  | .failed error => {s with stage := .returned (.io error)}

def decode (C : Channel R A) (futex : Bool) (s : State R) (pushed any sslPending : Bool) : Option (State R) :=
  match s.decoder.nextFrame with
  | (.ok (some frame),decoder) =>
    (C.start s.ring frame).map fun ring => {s with ring := ring,decoder := decoder,stage := .pushing frame pushed any}
  | (.ok none,decoder) =>
    let s := {s with decoder := decoder,fresh := false,stage := if sslPending then .reading else .polling}
    some (if pushed then s.signal futex any else s)
  | (.error e,decoder) => some {s with decoder := decoder,stage := .returned (.malformed e)}

def pushed (s : State R) (frame : Frame) (pushed any : Bool) : PushEvent → State R
  | .access published => if published then {s with fresh := true,unsignalled := s.unsignalled ++ [frame]} else s
  | .returned (.ok (some wasEmpty)) => {s with stage := .batch true (any || wasEmpty)}
  | .returned (.ok none) => {s with stage := .full frame pushed any}
  | .returned (.error e) => {s with stage := .returned (.ringPush e)}

-- The full ring: only a relay that goes on nudges the client.
def backoff (C : Channel R A) (futex : Bool) (s : State R) (frame : Frame) (pushed any shutdown gone : Bool) :
    Option (State R) :=
  if shutdown then some {s with stage := .returned .shutdownWhileFull}
  else if gone then some {s with stage := .returned .clientGone}
  else (C.start s.ring frame).map fun ring =>
    {s.signal futex true with ring := ring,fresh := false,stage := .pushing frame pushed any}

-- `futex` is futex mode on a slot ring; the byte-stream ring always uses the eventfd.
def step (C : Channel R A) (futex : Bool) (s : State R) : Move A → Option (State R)
  | .poll polled =>
    match s.stage with
    | .polling => some (poll s polled)
    | _ => none
  | .read arrived =>
    match s.stage with
    | .reading => some (read s arrived)
    | _ => none
  | .decode sslPending =>
    match s.stage with
    | .batch pushed any => decode C futex s pushed any sslPending
    | _ => none
  | .access =>
    match s.stage with
    | .pushing frame earlier any => (C.step s.ring).map fun (ring,event) =>
      pushed {s with ring := ring,drained := s.drained || C.drained s.ring} frame earlier any event
    | _ => none
  | .backoff shutdown gone =>
    match s.stage with
    | .full frame pushed any => backoff C futex s frame pushed any shutdown gone
    | _ => none
  | .client action =>
    (C.client s.ring action).map fun ring =>
      if C.looksEmpty s.ring action then {s with ring := ring,signalled := [],unsignalled := []}
      else {s with ring := ring}

def start (ring : R) : State R :=
  {stage := .polling,decoder := .new DEFAULT_MAX_FRAME_LEN,ring := ring,
    fresh := false,drained := false,signalled := [],unsignalled := []}

def system (C : Channel R A) (futex : Bool) (begun : R → Prop) : Transition.System (State R) (Move A) where
  initial s := ∃ ring, begun ring ∧ s = start ring
  step := step C futex

-- A frame without a notification after it; with `edges`, none after any frame of that time.
def Withheld (edges : Bool) (s : State R) : Prop := s.unsignalled ≠ [] ∧ (edges = true → s.signalled = [])

-- The ways out of a batch are taken only while it has pushed nothing since its last nudge.
def Orderly (C : Channel R A) (s : State R) (move : Move A) : Prop :=
  match s.stage,move with
  | .batch _ _,.decode _ => (∃ e, s.decoder.nextFrame.1 = .error e) → s.fresh = false
  | .pushing _ _ _,.access => (∃ ring e, C.step s.ring = some (ring,.returned (.error e))) → s.fresh = false
  | .full _ _ _,.backoff shutdown gone => shutdown = true ∨ gone = true → s.fresh = false
  | _,_ => True

-- `At r none`: no push runs; `At r (some published)`: one does, with its frame in the
-- ring or not.
structure Lawful (C : Channel R A) (At : R → Option Bool → Prop) : Prop where
  start : ∀ {r r' frame}, At r none → C.start r frame = some r' → At r' (some false)
  access : ∀ {r r' before published}, At r (some before) → C.step r = some (r',.access published) →
    At r' (some (before || published))
  returned : ∀ {r r' published outcome}, At r (some published) → C.step r = some (r',.returned outcome) →
    At r' none ∧ (published = true → ∃ wasEmpty, outcome = .ok (some wasEmpty))
  client : ∀ {r r' phase action}, At r phase → C.client r action = some r' → At r' phase

def Placed (At : R → Option Bool → Prop) (s : State R) : Prop :=
  match s.stage with
  | .batch pushed _ => At s.ring none ∧ (s.fresh = true → pushed = true)
  | .pushing _ pushed _ => ∃ published, At s.ring (some published) ∧ (s.fresh = true → pushed = true ∨ published = true)
  | .full _ pushed _ => At s.ring none ∧ (s.fresh = true → pushed = true)
  | .polling | .reading | .returned _ => At s.ring none ∧ s.fresh = false

structure Sound (At : R → Option Bool → Prop) (edges : Bool) (s : State R) : Prop where
  placed : Placed At s
  withheld : Withheld edges s → s.fresh = true

variable {C : Channel R A} {At : R → Option Bool → Prop}

theorem signal_placed (placed : Placed At s) : Placed At (s.signal futex wasEmpty) := by
  unfold State.signal
  split <;> exact placed

theorem signal_settles (covers : Withheld edges s → futex = true → wasEmpty = true) :
    ¬ Withheld edges (s.signal futex wasEmpty) := by
  unfold State.signal
  split
  · rename_i kept
    rw [Bool.and_eq_true] at kept
    intro withheld
    rw [covers withheld kept.1] at kept
    cases kept.2
  · exact fun withheld => withheld.1 rfl

theorem start_sound (idle : At ring none) : Sound At edges (start ring) :=
  ⟨⟨idle,rfl⟩,fun withheld => absurd rfl withheld.1⟩

theorem poll_sound (sound : Sound At edges s) (stands : s.stage = .polling) : Sound At edges (poll s polled) := by
  obtain ⟨placed,withheld⟩ := sound
  cases s
  cases stands
  cases polled <;> exact ⟨placed,withheld⟩

theorem read_sound (sound : Sound At edges s) (stands : s.stage = .reading) : Sound At edges (read s arrived) := by
  obtain ⟨placed,withheld⟩ := sound
  cases s
  cases stands
  cases arrived with
  | bytes data =>
    refine ⟨⟨placed.1,nofun⟩,fun open_ => ?_⟩
    cases placed.2.symm.trans (withheld open_)
  | _ => exact ⟨placed,withheld⟩

section
variable (lawful : Lawful C At)
include lawful

-- The end of a batch is where a frame must not stay behind without its notification.
theorem decode_sound {pushed any sslPending : Bool} (sound : Sound At edges s)
    (stands : s.stage = .batch pushed any) (orderly : Orderly C s (.decode sslPending))
    (covers : pushed = true → Withheld edges s → s.decoder.nextFrame.1 = .ok none → futex = true → any = true)
    (ran : decode C futex s pushed any sslPending = some next) : Sound At edges next := by
  obtain ⟨placed,withheld⟩ := sound
  cases s
  cases stands
  unfold decode at ran
  split at ran
  · obtain ⟨ring,started,rfl⟩ := map_eq_some_iff.mp ran
    exact ⟨⟨false,lawful.start placed.1 started,fun fresh => .inl (placed.2 fresh)⟩,withheld⟩
  · rename_i decoder decoded
    cases ran
    cases pushed with
    | true =>
      refine ⟨signal_placed ?_,fun open_ => absurd open_ (signal_settles fun owing => ?_)⟩
      · cases sslPending <;> exact ⟨placed.1,rfl⟩
      · exact covers rfl owing (by rw [decoded])
    | false =>
      refine ⟨?_,fun open_ => absurd (placed.2 (withheld open_)) Bool.false_ne_true⟩
      cases sslPending <;> exact ⟨placed.1,rfl⟩
  · rename_i e decoder decoded
    cases ran
    exact ⟨⟨placed.1,orderly ⟨e,by rw [decoded]⟩⟩,withheld⟩

theorem access_sound (sound : Sound At edges s)
    (stands : s.stage = .pushing frame earlier any) (orderly : Orderly C s .access)
    (ran : step C futex s .access = some next) : Sound At edges next := by
  obtain ⟨placed,withheld⟩ := sound
  obtain ⟨_,_,_,fresh⟩ := s
  cases stands
  obtain ⟨published,running,known⟩ := placed
  obtain ⟨⟨ring,event⟩,stepped,rfl⟩ := map_eq_some_iff.mp ran
  have unpublished : ∀ outcome, event = .returned outcome → (∀ wasEmpty, outcome ≠ .ok (some wasEmpty)) →
      At ring none ∧ (fresh = true → earlier = true) := by
    rintro outcome rfl failed
    obtain ⟨idle,reported⟩ := lawful.returned running stepped
    refine ⟨idle,fun fresh => (known fresh).resolve_right fun shown => ?_⟩
    obtain ⟨wasEmpty,same⟩ := reported shown
    exact failed wasEmpty same
  match event with
  | .access true => exact ⟨⟨_,lawful.access running stepped,fun _ => .inr (Bool.or_true published)⟩,fun _ => rfl⟩
  | .access false =>
    refine ⟨⟨_,lawful.access running stepped,?_⟩,withheld⟩
    rwa [Bool.or_false]
  | .returned (.ok (some wasEmpty)) => exact ⟨⟨(lawful.returned running stepped).1,fun _ => rfl⟩,withheld⟩
  | .returned (.ok none) => exact ⟨unpublished _ rfl nofun,withheld⟩
  | .returned (.error e) => exact ⟨⟨(unpublished _ rfl nofun).1,orderly ⟨ring,e,stepped⟩⟩,withheld⟩

theorem backoff_sound {pushed any shutdown gone : Bool}
    (sound : Sound At edges s) (stands : s.stage = .full frame pushed any)
    (orderly : Orderly C s (.backoff shutdown gone))
    (ran : backoff C futex s frame pushed any shutdown gone = some next) : Sound At edges next := by
  obtain ⟨placed,withheld⟩ := sound
  unfold Placed at placed
  unfold Orderly at orderly
  rw [stands] at placed orderly
  unfold backoff at ran
  split at ran
  · rename_i stopped
    cases ran
    exact ⟨⟨placed.1,orderly (.inl stopped)⟩,withheld⟩
  · split at ran
    · rename_i left
      cases ran
      exact ⟨⟨placed.1,orderly (.inr left)⟩,withheld⟩
    · obtain ⟨ring,started,rfl⟩ := map_eq_some_iff.mp ran
      have nudged : ¬ Withheld edges (s.signal futex true) := signal_settles fun _ _ => rfl
      exact ⟨⟨false,lawful.start placed.1 started,nofun⟩,fun open_ => absurd open_ nudged⟩

theorem client_sound (sound : Sound At edges s)
    (ran : step C futex s (.client action) = some next) : Sound At edges next := by
  obtain ⟨placed,withheld⟩ := sound
  obtain ⟨ring,acted,rfl⟩ := map_eq_some_iff.mp ran
  have kept : Placed At {s with ring := ring} := by
    unfold Placed at placed ⊢
    cases stands : s.stage with rw [stands] at placed
    | pushing frame pushed any =>
      obtain ⟨published,running,known⟩ := placed
      exact ⟨published,lawful.client running acted,known⟩
    | _ => exact ⟨lawful.client placed.1 acted,placed.2⟩
  split
  · exact ⟨kept,fun open_ => absurd rfl open_.1⟩
  · exact ⟨kept,withheld⟩

theorem step_sound (sound : Sound At edges s) (orderly : Orderly C s move)
    (covers : ∀ any sslPending, move = .decode sslPending → s.stage = .batch true any → Withheld edges s →
      s.decoder.nextFrame.1 = .ok none → futex = true → any = true)
    (ran : step C futex s move = some next) : Sound At edges next := by
  cases move with
  | client action => exact client_sound lawful sound ran
  | access =>
    cases stands : s.stage with
    | pushing frame earlier any => exact access_sound lawful sound stands orderly ran
    | _ => simp only [step,stands] at ran; cases ran
  | _ =>
    simp only [step] at ran
    split at ran <;> rename_i stands <;> try cases ran
    first
      | exact poll_sound sound stands
      | exact read_sound sound stands
      | exact decode_sound lawful sound stands orderly (by rintro rfl; exact covers _ _ rfl stands) ran
      | exact backoff_sound lawful sound stands orderly ran

end

theorem Sound.settled (sound : Sound At edges s) (stands : s.stage = .reading ∨ ∃ exit, s.stage = .returned exit) :
    ¬ Withheld edges s := by
  intro open_
  have fresh := sound.withheld open_
  have placed := sound.placed
  rcases stands with stands | ⟨exit,stands⟩ <;> rw [Placed,stands] at placed <;> cases placed.2.symm.trans fresh

theorem returned_settled (sound : Sound At edges s) (stands : s.stage = .returned exit) : ¬ Withheld edges s := sound.settled (.inr ⟨exit,stands⟩)

theorem settled_notified (settled : ¬ Withheld false s) : s.unsignalled = [] := by
  refine Decidable.byContradiction fun left => settled ⟨left,nofun⟩

end Relay
end Scg.RelayExit
