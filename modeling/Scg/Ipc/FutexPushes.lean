import Scg.Ipc.FutexBumps

namespace Scg.FutexRelay
open Ipc Interaction SlotRing Option

variable {s : State}
variable {relay : Relay}

attribute [local simp] potential latch nudge credit inWindow owed edge decidedFull undecided windowOpen Covered Bumps
  Looping RingFull afterPush PushPoint.next PushPoint.effect PushPoint.publishes

structure Fresh (g : Geometry) (m : Machine) (frame : Frame) (point : PushPoint) : Prop where
  facts : PushFacts g m frame point
  sized : (∃ e, point = .returned (.error e)) ∨ frame.payload.length ≤ g.maxPayload
  begun : frame.payload.length ≤ g.maxPayload → point = .loadWritePos
  edge : edge point = none
  closed : windowOpen point = false
  open_ : decidedFull point = false

theorem start_push (ring : SlotRing.Invariant g m) (idle : m.producer = .idle) (frame : Frame) :
    ∃ point, execute g m (.tryPush frame) =
      some {m with producer := .publishing frame (PushPoint.call g frame point)} ∧
      Fresh g {m with producer := .publishing frame (PushPoint.call g frame point)} frame point := by
  have settled := ring.producer
  unfold ProducerValid at settled
  rw [idle] at settled
  by_cases large : frame.payload.length > g.maxPayload
  · refine ⟨.returned (.error .frameTooLarge),?_,⟨⟨settled,nofun⟩,.inl ⟨_,rfl⟩,?_,rfl,rfl,rfl⟩⟩
    · simp only [execute,idle,tryPush_call,if_pos large]
      rfl
    · omega
  · have fits := Nat.le_of_not_gt large
    refine ⟨.loadWritePos,?_,⟨⟨settled,fits⟩,.inr fits,fun _ => rfl,rfl,rfl,rfl⟩⟩
    simp only [execute,idle,tryPush_call,if_neg large]

theorem push_edge_fresh (doing : s.relay = .pushing frame rest any) (facts : PushFacts g s.ring frame point)
    (fresh : EdgeFresh s point) :
    EdgeFresh {s with ring := afterPush g s.ring frame point} (point.next g s.ring.shared) := by
  unfold EdgeFresh at fresh ⊢
  rw [doing] at fresh
  simp only [doing]
  intro unlatched open_ late
  cases point with
  | loadSeq pos => cases state : checkSeq g (s.ring.shared.seq (g.index pos)) pos <;> simp [state] at open_
  | loadReadPos inPlace pos =>
    obtain ⟨⟨_,_,position,_⟩,_⟩ := facts
    simp only [PushPoint.next,edge,some.injEq,beq_eq_false_iff_ne] at late
    change s.ring.shared.readPos ≠ UInt64.ofNat s.ring.pushed.length
    rwa [← position]
  | copyHeader inPlace pos wasEmpty =>
    refine fresh unlatched rfl ?_
    cases inPlace <;> exact late
  | copyPayload pos wasEmpty => exact fresh unlatched rfl late
  | returned result => cases result <;> cases open_
  | _ => cases open_

theorem full_looping (doing : s.relay = .pushing frame rest any)
    (full : RingFull g s.ring)
    (word : checkSeq g (s.ring.shared.seq (g.index (UInt64.ofNat s.ring.pushed.length)))
      (UInt64.ofNat s.ring.pushed.length) = .full) :
    Looping g {s with ring := afterPush g s.ring frame (.loadSeq (UInt64.ofNat s.ring.pushed.length))}
      (PushPoint.next g s.ring.shared (.loadSeq (UInt64.ofNat s.ring.pushed.length))) := by
  refine ⟨full,?_⟩
  simp only [doing,PushPoint.next,word]
  exact .inr rfl

section Access
theorem push_looping (ring : SlotRing.Invariant g s.ring) (doing : s.relay = .pushing frame rest any)
    (facts : PushFacts g s.ring frame point) (looping : Looping g s point) :
    Looping g {s with ring := afterPush g s.ring frame point} (point.next g s.ring.shared) := by
  cases point with
  | loadWritePos =>
    revert looping
    simp [doing]
  | loadSeq pos =>
    obtain ⟨_,_,rfl⟩ := facts
    rcases seq_at_write ring.ring with ⟨room,_⟩ | ⟨full,word⟩
    · have notFull := looping.1
      unfold HasRoom at room
      unfold RingFull at notFull
      omega
    · exact full_looping doing full word
  | returned result => exact looping
  | _ => simp [doing] at looping

theorem push_potential (ring : SlotRing.Invariant g s.ring) (doing : s.relay = .pushing frame rest any)
    (facts : PushFacts g s.ring frame point) (quiet : Quiet s.ring) (live : ∀ result, point ≠ .returned result) :
    potential {s with ring := afterPush g s.ring frame point} (point.next g s.ring.shared) ≤ potential s point ∨
      Looping g {s with ring := afterPush g s.ring frame point} (point.next g s.ring.shared) := by
  have behind := ring.ring.behind
  have within := ring.ring.within
  have bound := g.capacity_bound
  cases point with
  | loadSeq pos =>
    obtain ⟨_,_,rfl⟩ := facts
    rcases seq_at_write ring.ring with ⟨_,word⟩ | ⟨full,word⟩
    · simp [doing,word]
    · exact .inr (full_looping doing full word)
  | loadReadPos inPlace pos =>
    obtain ⟨⟨_,_,rfl,_⟩,_⟩ := facts
    by_cases empty : s.ring.released = s.ring.pushed.length
    · simp only [potential,credit,doing]
      cases any
      · simp
        split <;> omega
      · simp
    · have stale : (s.ring.shared.readPos == UInt64.ofNat s.ring.pushed.length) = false := by
        rwa [quiet.1,beq_eq_false_iff_ne,ne_eq,Wrapping.ofNat_inj_near behind (by omega)]
      simp [doing,stale]
  | copyHeader inPlace pos wasEmpty => cases inPlace <;> simp [doing]
  | loadWritePos | copyPayload | storeWritePos => simp [doing]
  | storeSeq pos wasEmpty =>
    have ahead : ¬ s.ring.released = s.ring.pushed.length+1 := by omega
    simp [doing,ahead]
  | returned result => exact absurd rfl (live result)

theorem push_covered (ring : SlotRing.Invariant g s.ring) (doing : s.relay = .pushing frame rest any)
    (facts : PushFacts g s.ring frame point) (fresh : EdgeFresh s point) (quiet : Quiet s.ring)
    (covered : Covered g s point) :
    Covered g {s with ring := afterPush g s.ring frame point} (point.next g s.ring.shared) := by
  cases point with
  | loadSeq pos =>
    obtain ⟨_,_,rfl⟩ := facts
    rcases seq_at_write ring.ring with ⟨room,word⟩ | ⟨full,word⟩
    · unfold HasRoom at room
      have notFull : ¬ s.ring.pushed.length = s.ring.released+g.capacity := by omega
      revert covered
      simp [doing,word,notFull]
    · exact .inr (looping_bumps (full_looping doing full word))
  | loadReadPos inPlace pos =>
    revert covered
    simp only [Covered,Bumps,doing]
    rintro (equal | latched | impossible | impossible | impossible)
    · exact .inl equal
    · exact .inr (.inl latched)
    · cases impossible
    · cases impossible
    · cases impossible.1
  | copyHeader inPlace pos wasEmpty =>
    revert covered
    cases inPlace <;> simp [doing]
  | loadWritePos | copyPayload | storeWritePos =>
    revert covered
    simp [doing]
  | storeSeq pos wasEmpty =>
    refine .inr ?_
    unfold EdgeFresh at fresh
    rw [doing] at fresh
    simp only [doing]
    cases latched : any with
    | true => exact .inl rfl
    | false =>
      cases saw : wasEmpty with
      | true => exact .inr (.inl rfl)
      | false =>
        subst latched saw
        have late := fresh rfl rfl rfl
        rcases covered with equal | bumps
        · -- A frame published without an edge at the client's own position.
          rw [quiet.1,equal] at late
          exact absurd rfl late
        · simp [doing] at bumps
  | returned result => exact covered

end Access

theorem push_watched
    (awake : Awake g s) (doing : s.relay = .pushing frame rest any) (facts : PushFacts g s.ring frame point)
    (fresh : EdgeFresh s point) (live : ∀ result, point ≠ .returned result) (watched : Watched g s point) :
    Watched g {s with ring := afterPush g s.ring frame point} (point.next g s.ring.shared) := by
  intro observed seen
  obtain ⟨b,watch⟩ := watched observed seen
  have quiet := observed_quiet awake.ring awake.client seen
  refine ⟨b,watch.word,?_,?_⟩
  · rcases watch.budget with bounded | looping
    · rcases push_potential awake.ring doing facts quiet live with less | looping
      · exact .inl (Nat.le_trans (Nat.add_le_add_left less b) bounded)
      · exact .inr looping
    · exact .inr (push_looping awake.ring doing facts looping)
  · intro committed
    rcases watch.covered committed with covered | bumped
    · exact .inl (push_covered awake.ring doing facts fresh quiet covered)
    · exact .inr bumped

theorem Watched.moves (watched : Watched g s point) (ring : Machine)
    (released : ring.released = s.ring.released) (pushed : ring.pushed = s.ring.pushed)
    (consumer : ring.consumer = s.ring.consumer)
    (account : potential {s with ring := ring,relay := relay} point' ≤ potential s point)
    (loops : Looping g s point → Looping g {s with ring := ring,relay := relay} point')
    (bumps : Bumps g s point → Bumps g {s with ring := ring,relay := relay} point') :
    Watched g {s with ring := ring,relay := relay} point' := by
  intro observed seen
  obtain ⟨b,watch⟩ := watched observed seen
  refine ⟨b,watch.word,?_,?_⟩
  · rcases watch.budget with bounded | looping
    · exact .inl (Nat.le_trans (Nat.add_le_add_left account b) bounded)
    · exact .inr (loops looping)
  · intro committed
    have before : Committed s := by
      unfold Committed at committed ⊢
      rwa [consumer] at committed
    rcases watch.covered before with (equal | bumps_) | bumped
    · refine .inl (.inl ?_)
      rwa [released,pushed]
    · exact .inl (.inr (bumps bumps_))
    · exact .inr bumped

theorem Watched.bump (watched : Watched g s point)
    (account : potential {s with futexWord := s.futexWord+1,relay := relay} point+1 ≤ potential s point)
    (loops : Looping g s point → Looping g {s with futexWord := s.futexWord+1,relay := relay} point) :
    Watched g {s with futexWord := s.futexWord+1,relay := relay} point := by
  intro observed seen
  obtain ⟨b,watch⟩ := watched observed seen
  refine ⟨b+1,?_,?_,fun _ => .inr (Nat.le_add_left 1 b)⟩
  · have counted : UInt32.ofNat (b+1) = UInt32.ofNat b+1 := by simp
    rw [watch.word,counted,UInt32.add_assoc]
  · rcases watch.budget with bounded | looping
    · exact .inl (by omega)
    · exact .inr (loops looping)

theorem Watched.woken (watched : Watched g s point)
    (account : potential {s with relay := relay} point ≤ potential s point)
    (loops : Looping g s point → Looping g {s with relay := relay} point)
    (bumps : Bumps g s point → Bumps g {s with relay := relay} point) :
    Watched g {s with client := wake s.client,relay := relay} point := by
  intro observed seen
  have kept : wake s.client = s.client := by
    unfold wake at seen ⊢
    split at seen
    · cases seen
    · rename_i other
      cases doing : s.client with
      | parked o => exact absurd doing (other o)
      | _ => rfl
  have moved := watched.moves s.ring rfl rfl rfl account loops bumps
  have same : ({s with client := wake s.client,relay := relay} : State) = {s with relay := relay} := by rw [kept]
  rw [same] at seen ⊢
  exact moved observed seen

theorem idle_of_returned (running : m.producer = .publishing frame (PushPoint.call g frame (.returned result))) :
    ∃ after, execute g m .producer = some after ∧ after.producer = .idle ∧ after.shared = m.shared ∧
      after.released = m.released ∧ after.pushed = m.pushed ∧ after.consumer = m.consumer :=
  ⟨_,stepProducer_returned running,rfl,rfl,rfl,rfl,rfl⟩

theorem clientCall_kept {after : State} (client : ClientCall s) (same : after.client = s.client)
    (consumer : after.ring.consumer = s.ring.consumer) : ClientCall after := by
  unfold ClientCall at client ⊢
  rwa [same,consumer]

theorem wake_call (client : ClientCall s) : ClientCall {s with client := wake s.client,relay := relay} := by
  unfold ClientCall at client ⊢
  cases doing : s.client <;> (rw [doing] at client; exact client)

theorem Awake.stands (awake : Awake g s) (doing : s.relay = relay) (runs : relay ≠ .stopped) :
    ∃ point, RelayPoint g {s with relay := relay} point ∧ Watched g s point := by
  subst doing
  obtain ⟨point,at_,_,watched⟩ := awake.relay runs
  exact ⟨point,at_,watched⟩

theorem nextFrame_awake (valid : SlotRing.Invariant g ring) (idle : ring.producer = .idle) (client : ClientCall s)
    (released : ring.released = s.ring.released) (pushed : ring.pushed = s.ring.pushed)
    (consumer : ring.consumer = s.ring.consumer) (watched : Watched g s point)
    (unlooped : ¬ Looping g s point) (account : owed ring any ≤ potential s point)
    (bumps : Bumps g s point → any = true)
    (ran : nextFrame g {s with ring := ring} frames any = some next) : Awake g next := by
  unfold nextFrame at ran
  cases frames with
  | nil =>
    cases ran
    refine ⟨valid,clientCall_kept client rfl consumer,fun _ => ⟨point,idle,trivial,?_⟩⟩
    refine watched.moves _ released pushed consumer (Nat.le_trans ?_ account)
      (fun looping => absurd looping unlooped) bumps
    simp
  | cons frame rest =>
    obtain ⟨fresh,started,begun⟩ := start_push valid idle frame
    simp only [started] at ran
    cases ran
    refine ⟨step_preserved valid started,clientCall_kept client rfl consumer,
      fun _ => ⟨fresh,⟨rfl,begun.facts,begun.sized⟩,?_,?_⟩⟩
    · intro _ open_
      rw [begun.closed] at open_
      cases open_
    · refine watched.moves _ released pushed consumer (Nat.le_trans ?_ account)
        (fun looping => absurd looping unlooped) (fun bumping => .inl (bumps bumping))
      simp [-edge,-decidedFull,-windowOpen,begun.edge,begun.open_,begun.closed]

theorem pushing_preserved (awake : Awake g s)
    (doing : s.relay = .pushing frame rest any) (ran : stepRelay g s = some next) : Awake g next := by
  obtain ⟨point,at_,fresh,watched⟩ := awake.relay (by simp [Running,doing])
  unfold RelayPoint at at_
  rw [doing] at at_
  obtain ⟨producer,facts,sized⟩ := at_
  unfold stepRelay at ran
  simp only [doing] at ran
  by_cases ended : ∃ result, point = .returned result
  · obtain ⟨result,rfl⟩ := ended
    obtain ⟨ring,returned,idle,_,released,pushed,consumer⟩ := idle_of_returned producer
    have valid := step_preserved awake.ring returned
    simp only [returned,producer] at ran
    cases result with
    | error e =>
      cases ran
      exact ⟨valid,clientCall_kept awake.client rfl consumer,fun stopped => absurd rfl stopped⟩
    | ok outcome =>
      cases outcome with
      | pushed wasEmpty =>
        refine nextFrame_awake valid idle awake.client released pushed consumer watched ?_ ?_ ?_ ran
        · simp [doing]
        · simp [doing,released,pushed]
        · simp [doing]
      | full =>
        cases ran
        have fits := sized.resolve_left (by simp)
        refine ⟨valid,clientCall_kept awake.client rfl consumer,fun _ => ⟨.loadWritePos,⟨idle,fits⟩,trivial,?_⟩⟩
        refine watched.moves _ released pushed consumer ?_ ?_ (fun _ => trivial)
        · simp [doing,released,pushed]
        · simp [doing,released,pushed]
  · have live := not_exists.mp ended
    have stepped : execute g s.ring .producer = some (afterPush g s.ring frame point) :=
      stepProducer_point point live producer
    have asks : ∃ op rest, point.call g frame = .request op rest := by
      cases point with
      | returned result => exact absurd rfl (live result)
      | _ => exact ⟨_,_,rfl⟩
    obtain ⟨op,rest,asked⟩ := asks
    simp only [stepped,producer,asked] at ran
    cases ran
    have keeps := push_edge_fresh doing facts fresh
    have watches := push_watched awake doing facts fresh live watched
    simp only [doing] at keeps watches
    refine ⟨step_preserved awake.ring stepped,clientCall_kept awake.client rfl rfl,
      fun _ => ⟨point.next g s.ring.shared,?_,keeps,watches⟩⟩
    refine ⟨rfl,push_facts awake.ring.ring point facts live,.inr (sized.resolve_left ?_)⟩
    rintro ⟨e,same⟩
    exact live _ same

theorem relay_preserved (awake : Awake g s) (ran : stepRelay g s = some next) : Awake g next := by
  cases doing : s.relay with
  | pushing frame rest any => exact pushing_preserved awake doing ran
  | nudging frame rest any =>
    obtain ⟨point,at_,watched⟩ := awake.stands doing nofun
    simp only [stepRelay,doing] at ran
    cases ran
    refine ⟨awake.ring,clientCall_kept awake.client rfl rfl,fun _ => ⟨point,at_,trivial,watched.bump ?_ ?_⟩⟩
    · simp only [potential,latch,nudge,credit,inWindow,doing]
      omega
    · simp [doing]
  | nudgeWaking | waking =>
    obtain ⟨point,at_,watched⟩ := awake.stands doing nofun
    simp only [stepRelay,doing] at ran
    cases ran
    refine ⟨awake.ring,wake_call awake.client,fun _ => ⟨point,at_,trivial,watched.woken ?_ ?_ ?_⟩⟩ <;> simp [doing]
  | backoff frame rest any =>
    obtain ⟨point,⟨idle,fits⟩,watched⟩ := awake.stands doing nofun
    obtain ⟨fresh,started,begun⟩ := start_push awake.ring idle frame
    have first := begun.begun fits
    subst first
    simp only [stepRelay,doing,started] at ran
    cases ran
    refine ⟨step_preserved awake.ring started,clientCall_kept awake.client rfl rfl,
      fun _ => ⟨.loadWritePos,⟨rfl,begun.facts,begun.sized⟩,fun _ => nofun,watched.moves _ rfl rfl rfl ?_ ?_ ?_⟩⟩
    all_goals simp [doing]
  | signalling any =>
    obtain ⟨point,at_,watched⟩ := awake.stands doing nofun
    cases any <;> simp only [stepRelay,doing] at ran <;> cases ran
    · refine ⟨awake.ring,clientCall_kept awake.client rfl rfl,
        fun _ => ⟨point,at_,trivial,watched.moves s.ring rfl rfl rfl ?_ ?_ ?_⟩⟩ <;> simp [doing]
    · refine ⟨awake.ring,clientCall_kept awake.client rfl rfl,fun _ => ⟨point,at_,trivial,watched.bump ?_ ?_⟩⟩
      · simp only [potential,latch,nudge,credit,inWindow,doing,if_true]
        omega
      · simp [doing]
  | reading | stopped => simp [stepRelay,doing] at ran

end Scg.FutexRelay
