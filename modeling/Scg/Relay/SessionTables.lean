import Scg.Relay.SessionLoop

namespace Scg.Relay.Sessions
open Net Policy Config AList

structure Admitted (ctx : RuleContext) (s : State) : Prop where
  bounded : s.sessions.entries.length ≤ ctx.maxSessions
  passed : ∀ peer ∈ s.sessions, ∃ target flow, s.phase = .relaying target ∧ .checked flow peer target true ∈ s.log

section Admission
theorem initial_admitted (gate : Gate) : Admitted ctx (initial gate) :=
  ⟨Nat.zero_le _,fun peer present => absurd present (notMem_empty peer)⟩

theorem Admitted.keep (valid : Admitted ctx s) (fewer : next.sessions.entries.length ≤ s.sessions.entries.length)
    (within : ∀ peer ∈ next.sessions, peer ∈ s.sessions) (phase : next.phase = s.phase) (grown : s.log ⊆ next.log) :
    Admitted ctx next := by
  refine ⟨fewer.trans valid.bounded,?_⟩
  intro peer present
  obtain ⟨target,flow,relaying,checked⟩ := valid.passed peer (within peer present)
  exact ⟨target,flow,phase.trans relaying,grown checked⟩

theorem Admitted.enter (valid : Admitted ctx s) (fits : peer ∈ s.sessions ∨ s.sessions.entries.length < ctx.maxSessions)
    (relaying : s.phase = .relaying target) (cleared : .checked flow peer target true ∈ s.log) :
    Admitted ctx {s with sessions := s.sessions.insert peer now} := by
  refine ⟨?_,?_⟩
  · by_cases old : peer ∈ s.sessions
    · rw [Tables.length_insert_old old]
      exact valid.bounded
    · rw [Tables.length_insert_new old]
      exact fits.resolve_left old
  · intro other present
    rcases (mem_insert _).mp present with rfl | old
    · exact ⟨target,flow,relaying,cleared⟩
    · exact valid.passed other old

theorem send_admitted (valid : Admitted ctx s) (present : peer ∈ s.sessions)
    (relaying : s.phase = .relaying target) (cleared : .checked flow peer target true ∈ s.log) :
    Admitted ctx (send s now peer target flow sent) := by
  cases sent with
  | done =>
    have entered : Admitted ctx {s with sessions := s.sessions.insert peer now} :=
      valid.enter (.inl present) relaying cleared
    exact entered.keep (le_refl _) (fun _ kept => kept) rfl (List.subset_append_left _ _)
  | wouldBlock => exact valid
  | failed => exact valid.keep Tables.length_erase_le (fun _ kept => (mem_erase.mp kept).2) rfl (List.Subset.refl _)

theorem datagram_admitted (valid : Admitted ctx s) (relaying : s.phase = .relaying target) :
    Admitted ctx (datagram ctx s target now peer opened sent) := by
  unfold datagram
  split
  · exact valid.keep (le_refl _) (fun _ kept => kept) rfl (List.Subset.refl _)
  · rename_i admitted
    have fits : peer ∈ s.sessions ∨ s.sessions.entries.length < ctx.maxSessions := by
      simp only [sessionAdmitted,Bool.and_eq_true,decide_eq_true_eq,Bool.not_eq_true',decide_eq_false_iff_not,
        not_and,not_not] at admitted
      exact or_iff_not_imp_left.mpr admitted
    rcases s.gate.classifyAndCheckPolicy now ctx.trafficClass peer target with ⟨allowed,gate⟩
    have checked : Admitted ctx {s with
        arrivals := s.arrivals+1
        gate := gate
        log := s.log ++ [.checked s.arrivals peer target allowed]} :=
      valid.keep (le_refl _) (fun _ kept => kept) rfl (List.subset_append_left _ _)
    cases allowed with
    | false => exact checked
    | true =>
      have cleared : Event.checked s.arrivals peer target true ∈
          s.log ++ [.checked s.arrivals peer target true] := by simp
      simp only [Bool.not_true,Bool.false_eq_true,if_false]
      split
      · rename_i present
        exact send_admitted checked present relaying cleared
      · split
        · exact send_admitted (checked.enter fits relaying cleared) ((mem_insert _).mpr (.inl rfl)) relaying cleared
        · exact checked

theorem step_admitted (valid : Admitted ctx s) (ran : step kind ctx s action = some next) : Admitted ctx next := by
  cases action with
  | start resolved =>
    simp only [step] at ran
    split at ran
    · rename_i starting
      have none_yet : ∀ peer, peer ∉ s.sessions := by
        intro peer present
        obtain ⟨_,_,relaying,_⟩ := valid.passed peer present
        rw [starting] at relaying
        cases relaying
      have moved : ∀ phase, Admitted ctx {s with phase := phase} := fun _ =>
        ⟨valid.bounded,fun peer present => absurd present (none_yet peer)⟩
      split at ran
      · cases ran
        exact moved _
      · split at ran
        all_goals
          cases ran
          exact moved _
    · cases ran
  | datagram now peer opened sent =>
    simp only [step] at ran
    split at ran <;> cases ran
    rename_i relaying
    exact datagram_admitted valid relaying
  | reply now peer closed =>
    obtain ⟨present,ran⟩ := Option.ite_none_right_eq_some.mp ran
    cases ran
    cases closed with
    | true => exact valid.keep Tables.length_erase_le (fun _ kept => (mem_erase.mp kept).2) rfl (List.Subset.refl _)
    | false =>
      obtain ⟨_,_,relaying,cleared⟩ := valid.passed peer present
      exact valid.enter (.inl present) relaying cleared
  | evict now =>
    cases ran
    obtain ⟨fewer,kept⟩ := Tables.erases_within (stalePeers s.sessions ctx.idleTtl now) s.sessions
    refine valid.keep fewer ?_ rfl (List.Subset.refl _)
    intro peer present
    obtain ⟨last,found⟩ := Option.isSome_iff_exists.mp (lookup_isSome.mpr present)
    exact lookup_isSome.mp (by rw [kept peer last found]; rfl)
  | ambient gate =>
    cases ran
    exact ⟨valid.bounded,valid.passed⟩

theorem reached_step (path : Transition.Reached (system kind ctx) s)
    (ran : step kind ctx s action = some next) : Transition.Reached (system kind ctx) next :=
  path.next ran

theorem reached_admitted (path : Transition.Reached (system kind ctx) s) : Admitted ctx s := by
  refine Transition.Reached.invariant (fun s begun => ?_) (fun _ _ _ valid ran => step_admitted valid ran) path
  obtain ⟨gate,rfl⟩ := begun
  exact initial_admitted gate

end Admission

end Scg.Relay.Sessions

namespace Scg.Relay.SessionLoop
open Net Policy Config AList
open Sessions (Kind Phase Sent stalePeers)

def State.table (s : State) : Sessions.State :=
  {gate := s.gate,phase := s.phase,sessions := Tables.column Leg.last s.legs,arrivals := s.arrivals,log := s.log}

inductive Moves (kind : Kind) (ctx : RuleContext) (s : State) : State → Prop where
  | start (resolved : Option SocketAddr) (phase : Phase) (lastEvict : Instant)
      (moved : Sessions.step kind ctx s.table (.start resolved) = some {s.table with phase := phase}) :
      Moves kind ctx s {s with phase := phase,lastEvict := lastEvict}
  | poll {now : Instant} {result : Poll} {next : State} (polled : poll ctx s now result = some next) : Moves kind ctx s next
  | arrive {target : SocketAddr} {polled : List Polled} {arrival : Arrival} (relaying : s.phase = .relaying target) :
      Moves kind ctx s (arrive ctx s polled target arrival)
  | visit {current : Polled} {rest : List Polled} {toRemove : List SocketAddr} {read : Read} :
      Moves kind ctx s (visit kind s current rest toRemove read)
  | sweep (toRemove : List SocketAddr) : Moves kind ctx s {s with legs := eraseAll toRemove s.legs,stage := .top}
  | shutdown : Moves kind ctx s {s with stage := .ended}
  | ambient (gate : Gate) : Moves kind ctx s {s with gate := gate}

section Table
theorem start_moves (ran : step kind ctx s (.start now resolved) = some next) : Moves kind ctx s next := by
  simp only [step] at ran
  split at ran
  · rename_i starting
    split at ran
    · rename_i auto
      cases ran
      exact .start resolved .stopped s.lastEvict (by simp [Sessions.step,State.table,starting,auto])
    · rename_i fixed
      cases resolved with
      | none =>
        cases ran
        exact .start none .stopped s.lastEvict (by simp [Sessions.step,State.table,starting])
      | some target =>
        cases ran
        exact .start (some target) (.relaying target) now (by simp [Sessions.step,State.table,starting,fixed])
  · cases ran

theorem step_moves (ran : step kind ctx s action = some next) : Moves kind ctx s next := by
  cases action with
  | start now resolved => exact start_moves ran
  | poll now result =>
    simp only [step] at ran
    split at ran
    · exact .poll ran
    · cases ran
  | arrive arrival =>
    simp only [step] at ran
    split at ran <;> cases ran
    rename_i relaying _
    exact .arrive relaying
  | visit read =>
    simp only [step] at ran
    split at ran <;> cases ran
    · exact .visit
    · exact .sweep _
  | shutdown =>
    simp only [step] at ran
    split at ran <;> cases ran
    exact .shutdown
  | ambient gate =>
    cases ran
    exact .ambient gate

theorem send_table : (send s now peer target leg flow sent).table = Sessions.send s.table now peer target flow sent := by
  cases sent with
  | done | failed => simp [send,Sessions.send,State.table]
  | wouldBlock => rfl

theorem datagram_table : (datagram ctx s target now peer opened sent).table =
      Sessions.datagram ctx s.table target now peer opened.isSome sent := by
  unfold datagram Sessions.datagram
  simp only [State.table,Tables.mem_column,Tables.length_column]
  split
  · rfl
  · rcases s.gate.classifyAndCheckPolicy now ctx.trafficClass peer target with ⟨_ | _,gate⟩
    · rfl
    · cases found : s.legs.lookup peer with
      | some leg =>
        have present : peer ∈ s.legs := lookup_isSome.mp (by rw [found]; rfl)
        rw [if_pos present]
        exact send_table
      | none =>
        rw [if_neg (lookup_eq_none.mp found)]
        cases opened with
        | none => rfl
        | some fd =>
          refine send_table.trans ?_
          simp [openLeg,State.table]

def Refined (kind : Kind) (ctx : RuleContext) (s : State) : Prop :=
  Transition.Reached (Sessions.system kind ctx) s.table

theorem erases_reached (path : Transition.Reached (Sessions.system kind ctx) table)
    (peers : List SocketAddr) : Transition.Reached (Sessions.system kind ctx)
      {table with sessions := peers.foldl (fun kept peer => kept.erase peer) table.sessions} := by
  induction peers generalizing table with
  | nil => exact path
  | cons peer peers ih =>
    have erased : Transition.Reached (Sessions.system kind ctx) {table with sessions := table.sessions.erase peer} := by
      by_cases present : peer ∈ table.sessions
      · have moved : Sessions.step kind ctx table (.reply 0 peer true) =
            some {table with sessions := table.sessions.erase peer} := by simp [Sessions.step,present]
        exact Sessions.reached_step path moved
      · have same : table.sessions.erase peer = table.sessions := ext (List.kerase_of_notMem_keys present)
        rwa [same]
    exact ih erased

theorem Refined.erase (valid : Refined kind ctx s) (peers : List SocketAddr) (stage : Stage) :
    Refined kind ctx {s with legs := eraseAll peers s.legs,stage := stage} := by
  have path := erases_reached valid peers
  unfold Refined State.table eraseAll
  rwa [Tables.column_erases]

theorem evictIdle_refined (valid : Refined kind ctx s) : Refined kind ctx (evictIdle ctx s now) := by
  unfold evictIdle
  split
  · exact valid.erase _ s.stage
  · exact valid

theorem poll_refined (valid : Refined kind ctx s) (polled : poll ctx s now result = some next) :
    Refined kind ctx next := by
  have evicted : Refined kind ctx (evictIdle ctx s now) := evictIdle_refined valid
  unfold poll at polled
  cases result with
  | ready listen legs =>
    dsimp only at polled
    split at polled
    · cases polled; exact evicted
    · cases polled
  | _ => cases polled; exact evicted

theorem arrive_refined (valid : Refined kind ctx s)
    (relaying : s.phase = .relaying target) : Refined kind ctx (arrive ctx s polled target arrival) := by
  cases arrival with
  | datagram now peer opened sent =>
    have moved : Sessions.step kind ctx s.table (.datagram now peer opened.isSome sent) =
        some (datagram ctx s target now peer opened sent).table := by
      have phase : s.table.phase = .relaying target := relaying
      simp only [Sessions.step,phase,datagram_table]
    exact Sessions.reached_step valid moved
  | _ => exact valid

theorem visit_refined {read : Read}
    (valid : Refined kind ctx s) : Refined kind ctx (visit kind s current rest toRemove read) := by
  unfold visit
  split
  · split
    · exact valid
    · rename_i leg found
      have present : current.peer ∈ s.table.sessions :=
        Tables.mem_column.mpr (lookup_isSome.mp (by rw [found]; rfl))
      split
      · rename_i now data _
        have moved : Sessions.step kind ctx s.table (.reply now current.peer false) =
            some {s.table with sessions := s.table.sessions.insert current.peer now} := by
          simp [Sessions.step,present]
        have path := Sessions.reached_step valid moved
        unfold Refined State.table
        rwa [Tables.column_insert]
      · exact valid
      · exact valid
      · exact valid
  · exact valid

theorem step_refined {action : Action} (valid : Refined kind ctx s) (ran : step kind ctx s action = some next) :
    Refined kind ctx next := by
  cases step_moves ran with
  | start resolved phase lastEvict moved => exact Sessions.reached_step valid moved
  | poll polled => exact poll_refined valid polled
  | arrive relaying => exact arrive_refined valid relaying
  | visit => exact visit_refined valid
  | sweep toRemove => exact valid.erase toRemove .top
  | shutdown => exact valid
  | ambient gate =>
    have moved : Sessions.step kind ctx s.table (.ambient gate) = some {s with gate := gate}.table := rfl
    exact Sessions.reached_step valid moved

theorem reached_refined (path : Transition.Reached (system kind ctx) s) : Refined kind ctx s := by
  refine Transition.Reached.invariant (fun s begun => ?_) (fun _ _ _ valid ran => step_refined valid ran) path
  obtain ⟨gate,rfl⟩ := begun
  exact .initial ⟨gate,rfl⟩

end Table

def Answers (owners : List SocketAddr) (received : Received) (reply : Reply) : Prop :=
  owners[received.socket]? = some reply.dst ∧ reply.bytes = received.bytes

structure Owned (s : State) : Prop where
  owner : ∀ peer leg, s.legs.lookup peer = some leg → s.owners[leg.socket]? = some peer
  answered : List.Forall₂ (Answers s.owners) s.received s.replies

section Ownership
theorem owners_grow {socket : Nat} (new : SocketAddr) (known : owners[socket]? = some peer) :
    (owners ++ [new])[socket]? = some peer := by
  obtain ⟨inside,_⟩ := List.getElem?_eq_some_iff.mp known
  rwa [List.getElem?_append_left inside]

theorem Owned.keep (valid : Owned s) (owners : next.owners = s.owners) (received : next.received = s.received)
    (replies : next.replies = s.replies)
    (within : ∀ peer leg, next.legs.lookup peer = some leg →
      ∃ old, s.legs.lookup peer = some old ∧ leg.socket = old.socket) : Owned next := by
  refine ⟨?_,?_⟩
  · intro peer leg found
    obtain ⟨old,present,same⟩ := within peer leg found
    rw [owners,same]
    exact valid.owner peer old present
  · rw [owners,received,replies]
    exact valid.answered

theorem within_erases (peers : List SocketAddr) (peer : SocketAddr) (leg : Leg)
    (found : (eraseAll peers legs).lookup peer = some leg) : ∃ old, legs.lookup peer = some old ∧ leg.socket = old.socket :=
  ⟨leg,(Tables.erases_within peers legs).2 peer leg found,rfl⟩

theorem touch_within {legs : AList fun _ : SocketAddr => Leg} (present : legs.lookup peer = some leg) (other : SocketAddr)
    (found : Leg) (looked : (legs.insert peer {leg with last := now}).lookup other = some found) :
    ∃ old, legs.lookup other = some old ∧ found.socket = old.socket := by
  by_cases same : other = peer
  · subst same
    rw [lookup_insert] at looked
    cases looked
    exact ⟨leg,present,rfl⟩
  · rw [lookup_insert_ne same] at looked
    exact ⟨found,looked,rfl⟩

theorem send_owned (valid : Owned s) (present : s.legs.lookup peer = some leg) :
    Owned (send s now peer target leg flow sent) := by
  cases sent with
  | done => exact valid.keep rfl rfl rfl (touch_within present)
  | wouldBlock => exact valid
  | failed =>
    refine valid.keep rfl rfl rfl ?_
    intro other found looked
    exact ⟨found,(Tables.lookup_erase_some looked).2,rfl⟩

theorem openLeg_owned {fd : Nat} (valid : Owned s) : Owned (openLeg s now peer fd).2 := by
  refine ⟨?_,?_⟩
  · intro other leg found
    by_cases same : other = peer
    · subst same
      simp only [openLeg,lookup_insert,Option.some.injEq] at found
      rw [← found]
      exact List.getElem?_concat_length
    · simp only [openLeg,lookup_insert_ne same] at found
      exact owners_grow peer (valid.owner other leg found)
  · exact valid.answered.imp fun _ _ answer => ⟨owners_grow peer answer.1,answer.2⟩

theorem datagram_owned (valid : Owned s) : Owned (datagram ctx s target now peer opened sent) := by
  unfold datagram
  split
  · exact ⟨valid.owner,valid.answered⟩
  · rcases s.gate.classifyAndCheckPolicy now ctx.trafficClass peer target with ⟨_ | _,gate⟩
    · exact ⟨valid.owner,valid.answered⟩
    · simp only [Bool.not_true,Bool.false_eq_true,if_false]
      split
      · rename_i leg _ found
        exact send_owned ⟨valid.owner,valid.answered⟩ found
      · exact ⟨valid.owner,valid.answered⟩
      · refine send_owned (openLeg_owned ⟨valid.owner,valid.answered⟩) ?_
        exact lookup_insert _

theorem evictIdle_owned (valid : Owned s) : Owned (evictIdle ctx s now) := by
  unfold evictIdle
  split
  · exact valid.keep rfl rfl rfl (within_erases _)
  · exact valid

theorem poll_owned (valid : Owned s) (polled : poll ctx s now result = some next) : Owned next := by
  have evicted : Owned (evictIdle ctx s now) := evictIdle_owned valid
  unfold poll at polled
  cases result with
  | interrupted | timeout => cases polled; exact evicted
  | failed => cases polled; exact ⟨evicted.owner,evicted.answered⟩
  | ready listen legs =>
    dsimp only at polled
    split at polled
    · cases polled; exact ⟨evicted.owner,evicted.answered⟩
    · cases polled

-- The row is found by the peer of the snapshot, so the reply goes to the row's own peer
-- however the table has changed since.
theorem visit_owned {read : Read} (valid : Owned s) : Owned (visit kind s current rest toRemove read) := by
  unfold visit
  split
  · split
    · exact ⟨valid.owner,valid.answered⟩
    · rename_i leg found
      split
      · refine ⟨?_,?_⟩
        · intro other touched looked
          obtain ⟨old,present,same⟩ := touch_within found other touched looked
          rw [same]
          exact valid.owner other old present
        · refine List.rel_append valid.answered (.cons ?_ .nil)
          exact ⟨valid.owner current.peer leg found,rfl⟩
      · exact valid
      · exact ⟨valid.owner,valid.answered⟩
      · exact ⟨valid.owner,valid.answered⟩
  · exact ⟨valid.owner,valid.answered⟩

theorem arrive_owned (valid : Owned s) : Owned (arrive ctx s polled target arrival) := by
  cases arrival with
  | datagram now peer opened sent => exact datagram_owned valid
  | wouldBlock | failed => exact ⟨valid.owner,valid.answered⟩
  | interrupted => exact valid

theorem step_owned {action : Action} (valid : Owned s) (ran : step kind ctx s action = some next) : Owned next := by
  cases step_moves ran with
  | poll polled => exact poll_owned valid polled
  | arrive relaying => exact arrive_owned valid
  | visit => exact visit_owned valid
  | sweep toRemove => exact valid.keep rfl rfl rfl (within_erases toRemove)
  | _ => exact ⟨valid.owner,valid.answered⟩

theorem reached_owned (path : Transition.Reached (system kind ctx) s) : Owned s := by
  refine Transition.Reached.invariant (fun s begun => ?_) (fun _ _ _ valid ran => step_owned valid ran) path
  obtain ⟨gate,rfl⟩ := begun
  refine ⟨?_,.nil⟩
  intro peer leg found
  simp [initial] at found

end Ownership

-- At every moment of both loops the table is within its cap, its peers have passed the
-- gate, and the n-th reply is the n-th datagram read, sent to the peer of its socket.
theorem session_tables_sound (kind : Kind) (ctx : RuleContext) (s : State)
    (path : Transition.Reached (system kind ctx) s) :
    s.legs.entries.length ≤ ctx.maxSessions ∧
    (∀ peer ∈ s.legs, ∃ target flow, s.phase = .relaying target ∧ .checked flow peer target true ∈ s.log) ∧
    (∀ peer leg, s.legs.lookup peer = some leg → s.owners[leg.socket]? = some peer) ∧
    List.Forall₂ (fun received reply => s.owners[received.socket]? = some reply.dst ∧ reply.bytes = received.bytes)
      s.received s.replies := by
  have admitted := Sessions.reached_admitted (reached_refined path)
  have owned := reached_owned path
  refine ⟨?_,?_,owned.owner,owned.answered⟩
  · have bounded : (Tables.column Leg.last s.legs).entries.length ≤ ctx.maxSessions := admitted.bounded
    rwa [Tables.length_column] at bounded
  · intro peer present
    exact admitted.passed peer (Tables.mem_column.mpr present)

def readable : Revents := ⟨true,false,false,false⟩

def client (n : UInt16) : SocketAddr := .v4 0x0a000009 n

def pairRule : RuleContext := {tunnelRule with maxSessions := 2}

-- The first session is lost to a failed send and its descriptor goes to a third client.
-- The answer meant for the first is not read, the second gets its own.
theorem session_tables_sound_reused : ∃ s, Transition.Reached (system .routing pairRule) s ∧
    s.legs.keys = [client 2,client 3] ∧ s.owners = [client 1,client 2,client 3] ∧
    s.received = [⟨1,[7]⟩] ∧ s.replies = [⟨client 2,[7]⟩] ∧ s.legs.entries.length ≤ 2 := by
  have ran : (Transition.run (system .routing pairRule) (initial openGate)
      [.start 0 (some (.v4 0xc0000201 9443)),
        .poll 0 (.ready readable []),
        .arrive (.datagram 1 (client 1) (some 5) .done),
        .arrive (.datagram 1 (client 2) (some 6) .done),
        .arrive (.datagram 1 (client 3) (some 7) .done),
        .arrive .wouldBlock,
        .visit .wouldBlock,
        .poll 2 (.ready readable [⟨client 1,5,readable⟩,⟨client 2,6,readable⟩]),
        .arrive (.datagram 3 (client 1) none .failed),
        .arrive (.datagram 3 (client 3) (some 5) .done),
        .arrive .wouldBlock,
        .visit (.bytes 4 [9]),
        .visit (.bytes 4 [7])]).map
      (fun s => (s.legs.keys,s.owners,s.received,s.replies)) =
        some ([client 2,client 3],[client 1,client 2,client 3],[⟨1,[7]⟩],[⟨client 2,[7]⟩]) := by decide +kernel
  obtain ⟨s,path,same⟩ := Transition.run_shows ran ⟨_,rfl⟩
  obtain ⟨keys,same⟩ := Prod.mk.inj same
  obtain ⟨owners,same⟩ := Prod.mk.inj same
  obtain ⟨received,replies⟩ := Prod.mk.inj same
  obtain ⟨bounded,_⟩ := session_tables_sound .routing pairRule s path
  exact ⟨s,path,keys,owners,received,replies,bounded⟩

end Scg.Relay.SessionLoop
