import Scg.Ipc.FutexPushes

namespace Scg.FutexRelay
open Ipc Interaction SlotRing Option

variable {s : State}
theorem popping_step (valid : Invariant g m)
    (doing : m.consumer = .popping room call) (ran : stepConsumer m = some after) :
    ProducerSees m after ∧ (after.shared.readPos = m.shared.readPos ∨
      ∃ word rest, call = .request (.storeReadPos word) rest ∧ after.shared.readPos = word) ∧
    ((∃ result, call = .ret result ∧ after.consumer = .idle) ∨
      (∀ result, call ≠ .ret result) ∧ ∃ later, after.consumer = .popping room later) := by
  have consumer := valid.consumer
  rw [ConsumerValid,doing] at consumer
  obtain ⟨point,rfl,facts⟩ := consumer
  rcases point with (_ | _ | _ | _ | _) | _ | _ | _
  case looking.found.none =>
    rw [stepConsumer_nothing doing] at ran
    cases ran
    exact ⟨⟨rfl,rfl,rfl,rfl,rfl,Nat.le_refl _⟩,.inl rfl,.inl ⟨_,rfl,rfl⟩⟩
  case returned =>
    rw [stepConsumer_popped doing] at ran
    cases ran
    exact ⟨⟨rfl,rfl,rfl,rfl,rfl,Nat.le_refl _⟩,.inl rfl,.inl ⟨_,rfl,rfl⟩⟩
  all_goals
    rw [stepConsumer_pop _ rfl doing] at ran
    cases ran
    refine ⟨pop_sees g m room _,?_,.inr ⟨fun _ same => (by cases same),_,rfl⟩⟩
    first | exact .inl rfl | exact .inr ⟨_,_,rfl,rfl⟩

theorem checking_step (valid : Invariant g m)
    (doing : m.consumer = .checking call) (ran : stepConsumer m = some after) :
    (∃ empty, call = .ret empty ∧ after = {m with consumer := .idle}) ∨
    (∀ empty, call ≠ .ret empty) ∧ ∃ later, after = {m with consumer := .checking later} ∧
      (later = .ret true → m.released = m.pushed.length) := by
  have consumer := valid.consumer
  rw [ConsumerValid,doing] at consumer
  obtain ⟨_,point,rfl,facts⟩ := consumer
  cases point with
  | loadReadPos =>
    rw [stepConsumer_check .loadReadPos (fun _ same => by cases same) doing] at ran
    cases ran
    exact .inr ⟨fun _ same => (by cases same),_,rfl,fun same => (by cases same)⟩
  | loadSeq pos =>
    rw [stepConsumer_check (.loadSeq pos) (fun _ same => by cases same) doing] at ran
    cases ran
    refine .inr ⟨fun _ same => (by cases same),_,rfl,fun empty => ?_⟩
    have position : pos = UInt64.ofNat m.released := facts
    subst position
    have word := seq_at_read valid.ring
    have behind := valid.ring.behind
    simp only [CheckPoint.next,CheckPoint.call,Program.ret.injEq,Bool.not_eq_true'] at empty
    simp only [empty,Bool.false_eq_true,false_iff] at word
    omega
  | returned empty =>
    rw [stepConsumer,doing] at ran
    cases ran
    exact .inl ⟨empty,rfl,rfl⟩

-- A client step leaves the relay's side as it was, up to the `read_pos` store that
-- the schedule condition is about.
theorem client_relay (client : Client) (at_ : RelayPoint g s point)
    (fresh : EdgeFresh s point) (sees : ProducerSees s.ring ring)
    (apart : windowOpen point = true → latched s.relay = false → inWindow s.relay point = true →
      ring.shared.readPos = s.ring.shared.readPos ∨
      ring.shared.readPos ≠ UInt64.ofNat s.ring.pushed.length) :
    RelayPoint g {s with ring := ring,client := client} point ∧
      EdgeFresh {s with ring := ring,client := client} point := by
  constructor
  · unfold RelayPoint at at_ ⊢
    simp only [sees.producer]
    cases doing : s.relay with
    | pushing frame rest any =>
      rw [doing] at at_
      exact ⟨at_.1,at_.2.1.stable sees,at_.2.2⟩
    | _ => rwa [doing] at at_
  · unfold EdgeFresh at fresh ⊢
    cases doing : s.relay with
    | pushing frame rest any =>
      rw [doing] at fresh apart
      intro unlatched open_ late
      rw [sees.pushed]
      rcases apart open_ unlatched open_ with same | other
      · rw [same]
        exact fresh unlatched open_ late
      · exact other
    | _ => trivial

theorem window_midPush
    (doing : s.relay = .pushing frame rest any) (at_ : RelayPoint g s point) (open_ : windowOpen point = true) :
    midPush s.ring.producer = true ∧ s.ring.shared.writePos = UInt64.ofNat s.ring.pushed.length := by
  unfold RelayPoint at at_
  rw [doing] at at_
  obtain ⟨producer,facts,_⟩ := at_
  rw [producer]
  cases point with
  | copyHeader | copyPayload | storeSeq => exact ⟨rfl,facts.1.1.1⟩
  | _ => cases open_

theorem client_moves (consumer : Consumer) (awake : Awake g s)
    (valid : SlotRing.Invariant g {s.ring with consumer := consumer})
    (called : ClientCall {s with ring := {s.ring with consumer := consumer},client := client})
    (watches : ∀ point, Watched g s point →
      Watched g {s with ring := {s.ring with consumer := consumer},client := client} point) :
    Awake g {s with ring := {s.ring with consumer := consumer},client := client} := by
  refine ⟨valid,called,fun running => ?_⟩
  obtain ⟨point,at_,fresh,watched⟩ := awake.relay running
  have sees : ProducerSees s.ring {s.ring with consumer := consumer} := ⟨rfl,rfl,rfl,rfl,rfl,Nat.le_refl _⟩
  obtain ⟨kept,late⟩ := client_relay client at_ fresh sees (fun _ _ _ => .inl rfl)
  exact ⟨point,kept,late,watches point watched⟩

theorem unobserved (silent : observedBy client = none) : Watched g {s with ring := ring,client := client} point := by
  intro observed seen
  rw [silent] at seen
  cases seen

theorem Watched.same (watched : Watched g s point) (observes : observedBy client = observedBy s.client)
    (commits : Committed {s with ring := {s.ring with consumer := consumer},client := client} →
      Committed s ∨ s.ring.released = s.ring.pushed.length) :
    Watched g {s with ring := {s.ring with consumer := consumer},client := client} point := by
  intro observed seen
  obtain ⟨b,watch⟩ := watched observed (observes ▸ seen)
  refine ⟨b,watch.word,watch.budget,?_⟩
  intro committed
  rcases commits committed with before | empty
  · exact watch.covered before
  · exact .inl (.inl empty)

theorem popping_preserved_by (awake : Awake g s) (apart : NoCatchUp s (.client expired))
    (doing : s.client = .popping) (ran : stepClient g s expired = some next) : Awake g next := by
  have called := awake.client
  rw [ClientCall,doing] at called
  obtain ⟨call,consumer⟩ := called
  simp only [stepClient,doing,map_eq_some_iff] at ran
  obtain ⟨ring,stepped,rfl⟩ := ran
  have valid := step_preserved awake.ring stepped
  obtain ⟨sees,position,outcome⟩ := popping_step awake.ring consumer stepped
  have relay : ∀ client, observedBy client = none → Running s →
      ∃ point, RelayPoint g {s with ring := ring,client := client} point ∧
        EdgeFresh {s with ring := ring,client := client} point ∧
        Watched g {s with ring := ring,client := client} point := by
    intro client silent running
    obtain ⟨point,at_,fresh,_⟩ := awake.relay running
    have later := client_relay client at_ fresh sees ?_
    · exact ⟨point,later.1,later.2,unobserved silent⟩
    · intro open_ unlatched inside
      rcases position with same | ⟨word,rest,rfl,stored⟩
      · exact .inl same
      · right
        cases pushing : s.relay with
        | pushing frame rest any =>
          obtain ⟨mid,written⟩ := window_midPush pushing at_ open_
          rw [stored,← written]
          exact apart expired rfl none word _ consumer mid unlatched
        | _ =>
          rw [pushing] at inside
          cases inside
  rw [consumer]
  rcases outcome with ⟨result,rfl,idle⟩ | ⟨live,later,popping⟩
  · cases result with
    | some frame => exact ⟨valid,idle,relay .trying rfl⟩
    | none => exact ⟨valid,idle,relay .loading rfl⟩
  · cases call with
    | ret result => exact absurd rfl (live result)
    | request op rest => exact ⟨valid,⟨later,popping⟩,relay .popping rfl⟩

theorem check_starts (idle : s.ring.consumer = .idle) :
    check g s client = some {s with ring := {s.ring with consumer := .checking (isEmpty g)},client := client} := by
  simp only [check,execute,idle,map_some]

theorem checking_valid (awake : Awake g s) (idle : s.ring.consumer = .idle) :
    SlotRing.Invariant g {s.ring with consumer := .checking (isEmpty g)} := by
  have called : execute g s.ring .isEmpty = some {s.ring with consumer := .checking (isEmpty g)} := by
    simp only [execute,idle]
  exact step_preserved awake.ring called

theorem isEmpty_unanswered (empty : Bool) : isEmpty g ≠ .ret empty := nofun

theorem spinning_preserved (awake : Awake g s)
    (doing : s.client = .spinning observed) (ran : stepClient g s expired = some next) : Awake g next := by
  have called := awake.client
  rw [ClientCall,doing] at called
  obtain ⟨call,consumer⟩ := called
  simp only [stepClient,doing,bind_eq_some_iff] at ran
  obtain ⟨ring,stepped,ran⟩ := ran
  rw [consumer] at ran
  rcases checking_step awake.ring consumer stepped with ⟨empty,rfl,rfl⟩ | ⟨live,later,rfl,_⟩
  · -- The check is answered; another one starts, the last one after the deadline.
    have called : execute g {s.ring with consumer := .idle} .isEmpty =
        some {s.ring with consumer := .checking (isEmpty g)} := rfl
    have valid := step_preserved (step_preserved awake.ring stepped) called
    have idle : ({s with ring := {s.ring with consumer := .idle},client := .spinning observed} : State).ring.consumer =
        .idle := rfl
    simp only [check_starts idle] at ran
    split at ran <;> cases ran
    · exact client_moves _ awake valid ⟨_,rfl⟩ fun point watched =>
        watched.same (by rw [doing]) (fun committed => by cases committed)
    · refine client_moves _ awake valid ⟨_,rfl⟩ fun point watched => watched.same (by rw [doing]; rfl) ?_
      intro committed
      injection (committed : Consumer.checking (isEmpty g) = .checking (.ret true)) with answered
      exact absurd answered (isEmpty_unanswered true)
  · cases call with
    | ret empty => exact absurd rfl (live empty)
    | request op rest =>
      cases ran
      exact client_moves _ awake (step_preserved awake.ring stepped) ⟨_,rfl⟩ fun point watched =>
        watched.same (by rw [doing]) (fun committed => by cases committed)

theorem rechecking_preserved (awake : Awake g s)
    (doing : s.client = .rechecking observed) (ran : stepClient g s expired = some next) : Awake g next := by
  have called := awake.client
  rw [ClientCall,doing] at called
  obtain ⟨call,consumer⟩ := called
  simp only [stepClient,doing,map_eq_some_iff] at ran
  obtain ⟨ring,stepped,rfl⟩ := ran
  have valid := step_preserved awake.ring stepped
  rw [consumer]
  rcases checking_step awake.ring consumer stepped with ⟨empty,rfl,rfl⟩ | ⟨live,later,rfl,empty⟩
  · cases empty with
    | true =>
      refine client_moves _ awake valid rfl fun point watched => watched.same (by rw [doing]; rfl) fun _ => .inl ?_
      rwa [Committed,doing]
    | false => exact client_moves _ awake valid rfl fun point _ => unobserved rfl
  · cases call with
    | ret empty => exact absurd rfl (live empty)
    | request op rest =>
      refine client_moves _ awake valid ⟨_,rfl⟩ fun point watched => watched.same (by rw [doing]) ?_
      intro committed
      injection (committed : Consumer.checking later = .checking (.ret true)) with answered
      exact .inr (empty answered)

theorem client_preserved (awake : Awake g s) (apart : NoCatchUp s (.client expired))
    (ran : stepClient g s expired = some next) : Awake g next := by
  have called := awake.client
  cases doing : s.client with rw [ClientCall,doing] at called
  | popping => exact popping_preserved_by awake apart doing ran
  | spinning observed => exact spinning_preserved awake doing ran
  | rechecking observed => exact rechecking_preserved awake doing ran
  | trying =>
    have started : execute g s.ring .tryPopInto = some {s.ring with consumer := .popping none (tryPopInto g)} := by
      simp only [execute,called]
    simp only [stepClient,doing,started] at ran
    cases ran
    exact client_moves _ awake (step_preserved awake.ring started) ⟨_,rfl⟩ fun point _ => unobserved rfl
  | loading =>
    simp only [stepClient,doing,check_starts called] at ran
    cases ran
    refine client_moves _ awake (checking_valid awake called) ⟨_,rfl⟩ fun point _ => ?_
    intro observed seen
    cases seen
    refine ⟨0,?_,.inl ?_,False.elim⟩
    · simp
    · rw [Nat.zero_add]
      exact potential_le _ _
  | parking observed =>
    simp only [stepClient,doing] at ran
    cases ran
    split
    · refine client_moves s.ring.consumer awake awake.ring called
        fun point watched => watched.same (by rw [doing]; rfl) fun _ => .inl ?_
      rw [Committed,doing]
      trivial
    · exact client_moves s.ring.consumer awake awake.ring called fun point _ => unobserved rfl
  | parked observed => simp [stepClient,doing] at ran

theorem initial_awake (g : Geometry) (data : Nat → UInt8) : Awake g (initial data) :=
  ⟨initial_invariant g data,rfl,fun _ => ⟨.loadWritePos,rfl,trivial,fun _ seen => nomatch seen⟩⟩

theorem awake_preserved (awake : Awake g s) (apart : NoCatchUp s action)
    (ran : step g s action = some next) : Awake g next := by
  cases action with
  | batch frames =>
    cases frames with
    | nil =>
      simp only [step] at ran
      split at ran
      · cases ran; exact awake
      · cases ran
    | cons frame rest =>
      simp only [step] at ran
      split at ran
      · rename_i reading
        obtain ⟨point,at_,watched⟩ := awake.stands reading nofun
        refine nextFrame_awake awake.ring at_ awake.client rfl rfl rfl watched ?_ ?_ ?_ ran
        · simp [Looping,reading]
        · simp [owed,potential,credit,inWindow,reading]
        · simp [Bumps,reading]
      · cases ran
  | relay => exact relay_preserved awake ran
  | stop =>
    simp only [step] at ran
    split at ran <;> cases ran
    exact ⟨awake.ring,clientCall_kept awake.client rfl rfl,fun stopped => absurd rfl stopped⟩
  | client expired => exact client_preserved awake apart ran
  | timeout =>
    simp only [step] at ran
    split at ran <;> cases ran
    rename_i observed parked
    have called := awake.client
    unfold ClientCall at called
    rw [parked] at called
    exact client_moves s.ring.consumer awake awake.ring called fun point _ => unobserved rfl

-- In every run in which the client never catches up inside a push's window, no client
-- is left to its park timeout.
theorem relay_wakes_client (g : Geometry) (s : State)
    (path : Transition.ReachedWhen (system g) NoCatchUp s) : ¬ Stranded g s := by
  refine awake_not_stranded (path.invariant ?_ fun s action next awake apart ran => awake_preserved awake apart ran)
  rintro s ⟨data,rfl⟩
  exact initial_awake g data

def noCatchUpNow (s : State) (action : Action) : Bool :=
  match action,s.ring.consumer with
  | .client _,.popping _ (.request (.storeReadPos word) _) =>
    !midPush s.ring.producer || latched s.relay || word != s.ring.shared.writePos
  | _,_ => true

theorem noCatchUpNow_sound (s : State) (action : Action) (checked : noCatchUpNow s action = true) :
    NoCatchUp s action := by
  rintro expired rfl room word rest consumer mid unlatched
  simp only [noCatchUpNow,consumer,mid,unlatched] at checked
  simpa using checked

def parkingSchedule : List Action := List.replicate 12 (Action.client true) ++ Action.batch [⟨1,[]⟩] :: List.replicate 6 Action.relay

def readyWhileParked (s : State) : Bool :=
  match s.client with
  | .parked observed =>
    observed == s.futexWord && isReady (s.ring.shared.seq (smallest.index s.ring.shared.readPos)) s.ring.shared.readPos
  | _ => false

theorem relay_wakes_parked_client : ∃ s, Transition.ReachedWhen (system smallest) NoCatchUp s ∧
    s.client = .parked s.futexWord ∧ FrameReady smallest s.ring ∧ ¬ Stranded smallest s := by
  have ran : (Transition.runChecked (system smallest) noCatchUpNow (initial fun _ => 0) parkingSchedule).map
      readyWhileParked = some true := by decide +kernel
  obtain ⟨s,path,shown⟩ := Transition.runChecked_shows noCatchUpNow_sound ran ⟨_,rfl⟩
  cases parked : s.client with
  | parked observed =>
    simp only [readyWhileParked,parked,Bool.and_eq_true,beq_iff_eq] at shown
    exact ⟨s,path,by rw [parked,shown.1],shown.2,relay_wakes_client smallest s path⟩
  | _ => simp [readyWhileParked,parked] at shown

end Scg.FutexRelay
