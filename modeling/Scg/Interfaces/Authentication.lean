import Scg.Interfaces.Endpoint

namespace Scg.Interfaces
open Ipc

def Pinned (attempt : Attempt) : Prop := ∀ e, pidfdOpen attempt = .error e → e.rawOsError ≠ some ESRCH

structure Entitled (endpoint : Endpoint) (attempt : Attempt) (cred : PeerCred) : Prop where
  peer : attempt.peerCred = .ok cred
  uid : cred.uid ∈ endpoint.allowedUids
  owner : cred.uid = endpoint.ownerUid
  pid : endpoint.allowedPids = [] ∨ cred.pid ∈ endpoint.allowedPids ∧ Pinned attempt

def Carries (attempt : Attempt) (token : CapabilityToken) : Prop :=
  ∃ buf hello, readExact attempt = .ok buf ∧ Hello.decode buf = .ok hello ∧ hello.token = token

-- The right peer with the right token, whose read timeout cannot be cleared afterwards.
def Unfinished (endpoint : Endpoint) (issued : CapabilityToken) (attempt : Attempt) : Prop :=
  (∃ cred, Entitled endpoint attempt cred) ∧ Carries attempt issued ∧ attempt.clearTimeoutFault ≠ none

section Checks
theorem pinned_live (pinned : Pinned attempt) (sound : attempt.pidfdFault = none) : attempt.live = true := by
  cases alive : attempt.live with
  | true => rfl
  | false =>
    have gone : pidfdOpen attempt = .error ⟨some ESRCH,"No such process (os error 3)"⟩ := by
      simp [pidfdOpen,sound,alive]
    exact absurd rfl (pinned _ gone)

theorem live_pinned (sound : attempt.pidfdFault = none) (alive : attempt.live = true) : Pinned attempt := by
  intro e failed
  simp [pidfdOpen,sound,alive] at failed

theorem checkPid_ok : checkPid endpoint attempt cred = .ok () ↔
    endpoint.allowedPids = [] ∨ cred.pid ∈ endpoint.allowedPids ∧ Pinned attempt := by
  unfold checkPid
  split
  · rename_i open_to_all
    exact ⟨fun _ => .inl open_to_all,fun _ => rfl⟩
  · rename_i restricted
    rw [or_iff_right restricted]
    split
    · rename_i unlisted
      constructor
      · intro impossible
        cases impossible
      · intro allowed
        exact absurd allowed.1 unlisted
    · rename_i listed
      have listed := Decidable.not_not.mp listed
      rw [and_iff_right listed]
      cases opened : pidfdOpen attempt with
      | ok fd =>
        refine ⟨fun _ e failed => ?_,fun _ => rfl⟩
        rw [opened] at failed
        cases failed
      | error e =>
        dsimp only
        split
        · rename_i gone
          constructor
          · intro impossible
            cases impossible
          · intro pinned
            exact absurd gone (pinned e opened)
        · rename_i other
          refine ⟨fun _ failure failed => ?_,fun _ => rfl⟩
          rw [opened] at failed
          cases failed
          exact other

theorem checkCred_ok : checkCred endpoint attempt = .ok cred ↔ Entitled endpoint attempt cred := by
  unfold checkCred
  cases answered : attempt.peerCred with
  | error e =>
    constructor
    · intro impossible
      cases impossible
    · intro entitled
      rw [entitled.peer] at answered
      cases answered
  | ok peer =>
    constructor
    · intro passed
      dsimp only at passed
      split at passed
      · cases passed
      · rename_i listed
        split at passed
        · cases passed
        · rename_i owned
          cases checked : checkPid endpoint attempt peer with
          | error reason =>
            rw [checked] at passed
            cases passed
          | ok done =>
            rw [checked] at passed
            cases passed
            exact ⟨answered,Decidable.not_not.mp listed,Decidable.not_not.mp owned,checkPid_ok.mp checked⟩
    · intro entitled
      have same : peer = cred := Except.ok.inj (answered.symm.trans entitled.peer)
      subst same
      dsimp only
      rw [if_neg (not_not_intro entitled.uid),if_neg (not_not_intro entitled.owner),checkPid_ok.mpr entitled.pid]

theorem readHello_ok : readHello attempt = .ok hello ↔ attempt.setTimeoutFault = none ∧
    ∃ buf, readExact attempt = .ok buf ∧ Hello.decode buf = .ok hello := by
  unfold readHello
  cases attempt.setTimeoutFault with
  | some e => simp
  | none =>
    cases readExact attempt with
    | error e => simp
    | ok buf => cases decoded : Hello.decode buf <;> simp [decoded]

end Checks

inductive Outcome (endpoint : Endpoint) (attempt : Attempt) (token : Option CapabilityToken) :
    Except String PeerCred × Option CapabilityToken → Prop where
  | refused (reason : String) : Outcome endpoint attempt token (.error reason,token)
  | admitted {tok : CapabilityToken} {cred : PeerCred} : token = some tok → Entitled endpoint attempt cred →
      Carries attempt tok → Outcome endpoint attempt token (.ok cred,none)
  | unfinished (reason : String) {tok : CapabilityToken} {cred : PeerCred} : token = some tok →
      Entitled endpoint attempt cred → Carries attempt tok → attempt.clearTimeoutFault ≠ none →
      Outcome endpoint attempt token (.error reason,none)

section Attempts
theorem authenticatePeer_outcome (endpoint : Endpoint) (attempt : Attempt) (token : Option CapabilityToken) :
    Outcome endpoint attempt token (authenticatePeer endpoint token attempt) := by
  unfold authenticatePeer
  cases checked : checkCred endpoint attempt with
  | error reason => exact .refused reason
  | ok cred =>
    have entitled := checkCred_ok.mp checked
    cases read : readHello attempt with
    | error reason => exact .refused reason
    | ok hello =>
      obtain ⟨_,buf,delivered,decoded⟩ := readHello_ok.mp read
      cases token with
      | none => exact .refused _
      | some tok =>
        dsimp only
        split
        · rename_i equal
          have same : tok = hello.token := (ctEq_token tok hello.token).mp equal
          have carried : Carries attempt tok := ⟨buf,hello,delivered,decoded,same.symm⟩
          cases cleared : attempt.clearTimeoutFault with
          | some e => exact .unfinished _ rfl entitled carried (by simp [cleared])
          | none => exact .admitted rfl entitled carried
        · exact .refused _

theorem authenticatePeer_matched (entitled : Entitled endpoint attempt cred) (carried : Carries attempt issued)
    (set : attempt.setTimeoutFault = none) : authenticatePeer endpoint (some issued) attempt =
      match attempt.clearTimeoutFault with
      | some e => (.error s!"clearing read timeout: {e.text}",none)
      | none => (.ok cred,none) := by
  obtain ⟨buf,hello,delivered,decoded,same⟩ := carried
  have read := readHello_ok.mpr ⟨set,buf,delivered,decoded⟩
  have equal := (ctEq_token issued hello.token).mpr same.symm
  unfold authenticatePeer
  cases attempt.clearTimeoutFault <;> simp only [checkCred_ok.mpr entitled,read,equal,if_true]

theorem authenticatePeer_accepts (entitled : Entitled endpoint attempt cred) (carried : Carries attempt issued)
    (set : attempt.setTimeoutFault = none) (cleared : attempt.clearTimeoutFault = none) :
    authenticatePeer endpoint (some issued) attempt = (.ok cred,none) := by
  rw [authenticatePeer_matched entitled carried set,cleared]

theorem rejected_keeps (known : ∀ tok, token = some tok → tok = issued)
    (rejected : (authenticatePeer endpoint token attempt).1 = .error reason)
    (finished : ¬ Unfinished endpoint issued attempt) : (authenticatePeer endpoint token attempt).2 = token := by
  have outcome := authenticatePeer_outcome endpoint attempt token
  generalize authenticatePeer endpoint token attempt = answer at rejected outcome
  cases outcome with
  | refused => rfl
  | admitted => cases rejected
  | unfinished _ held entitled carried failed =>
    have same := known _ held
    subst same
    exact absurd ⟨⟨_,entitled⟩,carried,failed⟩ finished

-- That operation does cost the client its token: it is rejected, and so is its next attempt.
theorem unfinished_loses (set : attempt.setTimeoutFault = none) (unfinished : Unfinished endpoint issued attempt) :
    ∃ reason, authenticatePeer endpoint (some issued) attempt = (.error reason,none) := by
  obtain ⟨⟨cred,entitled⟩,carried,failed⟩ := unfinished
  obtain ⟨e,fault⟩ := Option.ne_none_iff_exists'.mp failed
  rw [authenticatePeer_matched entitled carried set,fault]
  exact ⟨_,rfl⟩

theorem consumed_rejects (attempt : Attempt) : ∃ reason, (authenticatePeer endpoint none attempt).1 = .error reason := by
  have outcome := authenticatePeer_outcome endpoint attempt none
  generalize authenticatePeer endpoint none attempt = answer at outcome
  cases outcome with
  | refused reason => exact ⟨reason,rfl⟩
  | admitted held | unfinished _ held => cases held

def authenticated (s : State) : Nat := s.log.countP fun entry => entry.2.isOk

structure Guarded (endpoint : Endpoint) (issued : CapabilityToken) (s : State) : Prop where
  entitled : ∀ attempt cred, (attempt,.ok cred) ∈ s.log → Entitled endpoint attempt cred ∧ Carries attempt issued
  once : authenticated s+s.token.toList.length ≤ 1
  held : ∀ tok, s.token = some tok → tok = issued
  spared : (∀ entry ∈ s.log, entry.2.isOk = false ∧ ¬ Unfinished endpoint issued entry.1) → s.token = some issued

theorem initial_guarded (endpoint : Endpoint) (issued : CapabilityToken) : Guarded endpoint issued ⟨some issued,true,[]⟩ := by
  refine ⟨?_,Nat.le_refl 1,?_,fun _ => rfl⟩
  · intro attempt cred impossible
    cases impossible
  · intro tok same
    exact (Option.some.inj same).symm

theorem authenticated_refused (left : Option CapabilityToken) (listening : Bool) (reason : String) :
    authenticated ⟨left,listening,s.log ++ [(attempt,.error reason)]⟩ = authenticated s := by
  unfold authenticated
  rw [List.countP_append]
  rfl

theorem authenticated_admitted (left : Option CapabilityToken) (listening : Bool) :
    authenticated ⟨left,listening,s.log ++ [(attempt,.ok cred)]⟩ = authenticated s+1 := by
  unfold authenticated
  rw [List.countP_append]
  rfl

theorem refused_entitled {log : List (Attempt × Except String PeerCred)}
    (before : ∀ attempt cred, (attempt,.ok cred) ∈ log → Entitled endpoint attempt cred ∧ Carries attempt issued) :
    ∀ other cred, (other,.ok cred) ∈ log ++ [(attempt,.error reason)] →
      Entitled endpoint other cred ∧ Carries other issued := by
  intro other cred present
  rcases List.mem_append.mp present with present | present
  · exact before other cred present
  · cases List.mem_singleton.mp present

theorem logged_guarded {result : Except String PeerCred}
    (valid : Guarded endpoint issued s) (outcome : Outcome endpoint attempt s.token (result,left)) :
    Guarded endpoint issued ⟨left,listening,s.log ++ [(attempt,result)]⟩ := by
  have once := valid.once
  have earlier : (∀ entry ∈ s.log ++ [(attempt,result)], entry.2.isOk = false ∧ ¬ Unfinished endpoint issued entry.1) →
      s.token = some issued ∧ result.isOk = false ∧ ¬ Unfinished endpoint issued attempt := by
    intro all
    have last := all (attempt,result) List.mem_concat_self
    exact ⟨valid.spared fun entry present => all entry (List.mem_append_left _ present),last⟩
  cases outcome with
  | refused reason =>
    refine ⟨refused_entitled valid.entitled,?_,valid.held,fun all => (earlier all).1⟩
    rwa [authenticated_refused]
  | admitted held entitled carried =>
    have same := valid.held _ held
    subst same
    refine ⟨?_,?_,nofun,?_⟩
    · intro other cred present
      rcases List.mem_append.mp present with present | present
      · exact valid.entitled other cred present
      · cases List.mem_singleton.mp present
        exact ⟨entitled,carried⟩
    · rw [authenticated_admitted]
      rwa [held] at once
    · intro all
      cases (earlier all).2.1
  | unfinished reason held entitled carried failed =>
    have same := valid.held _ held
    subst same
    refine ⟨refused_entitled valid.entitled,?_,nofun,?_⟩
    · rw [authenticated_refused]
      exact Nat.le_trans (Nat.le_add_right _ _) once
    · intro all
      exact absurd ⟨⟨_,entitled⟩,carried,failed⟩ (earlier all).2.2

theorem connected_guarded (valid : Guarded endpoint issued s) : Guarded endpoint issued (connected endpoint s attempt) :=
  logged_guarded valid (authenticatePeer_outcome endpoint attempt s.token)

theorem step_guarded {next : State} (valid : Guarded endpoint issued s) (ran : step endpoint s event = some next) :
    Guarded endpoint issued next := by
  obtain ⟨_,ran⟩ := Option.ite_none_right_eq_some.mp ran
  cases event with
  | quiet =>
    cases ran
    exact valid
  | shutdown =>
    cases ran
    exact ⟨valid.entitled,valid.once,valid.held,valid.spared⟩
  | connect attempt =>
    cases ran
    exact connected_guarded valid

theorem reached_connected (path : Transition.Reached (system endpoint issued) s) (listening : s.listening = true)
    (attempt : Attempt) : Transition.Reached (system endpoint issued) (connected endpoint s attempt) := by
  have ran : (system endpoint issued).step s (.connect attempt) = some (connected endpoint s attempt) := by
    simp only [system,step,listening,if_true]
  exact path.next ran

theorem reached_guarded (path : Transition.Reached (system endpoint issued) s) : Guarded endpoint issued s := by
  apply path.invariant
  · intro s begun
    cases begun
    exact initial_guarded endpoint issued
  · intro s event next valid ran
    exact step_guarded valid ran

structure Legitimate (endpoint : Endpoint) (issued : CapabilityToken) (attempt : Attempt) (cred : PeerCred) : Prop where
  peer : attempt.peerCred = .ok cred
  uid : cred.uid ∈ endpoint.allowedUids
  owner : cred.uid = endpoint.ownerUid
  pid : endpoint.allowedPids = [] ∨ cred.pid ∈ endpoint.allowedPids ∧ attempt.live = true
  hello : ∃ role rest, attempt.arrived = (Hello.new role issued).encode.toList ++ rest
  sound : attempt.pidfdFault = none ∧ attempt.setTimeoutFault = none ∧ attempt.clearTimeoutFault = none

theorem readExact_front (arrived : attempt.arrived = buf.toList ++ rest) : readExact attempt = .ok buf := by
  have size : buf.toList.length = HELLO_LEN := Vector.length_toList
  have long : HELLO_LEN ≤ attempt.arrived.length := by
    rw [arrived,List.length_append,size]
    exact Nat.le_add_right _ _
  have front : attempt.arrived.take HELLO_LEN = buf.toList := by
    rw [arrived]
    exact List.take_left' size
  unfold readExact
  rw [dif_pos long]
  congr 1
  apply Vector.toList_inj.mp
  exact front

theorem legitimate_accepted (client : Legitimate endpoint issued attempt cred) :
    authenticatePeer endpoint (some issued) attempt = (.ok cred,none) := by
  obtain ⟨pidfd,set,cleared⟩ := client.sound
  have pid : endpoint.allowedPids = [] ∨ cred.pid ∈ endpoint.allowedPids ∧ Pinned attempt :=
    client.pid.imp_right fun listed => ⟨listed.1,live_pinned pidfd listed.2⟩
  obtain ⟨role,rest,arrived⟩ := client.hello
  have carried : Carries attempt issued :=
    ⟨_,Hello.new role issued,readExact_front arrived,Hello.decode_encode role issued,rfl⟩
  exact authenticatePeer_accepts ⟨client.peer,client.uid,client.owner,pid⟩ carried set cleared

end Attempts

theorem endpoint_authentication (endpoint : Endpoint) (issued : CapabilityToken) (s : State)
    (path : Transition.Reached (system endpoint issued) s) :
    authenticated s ≤ 1 ∧
    (1 ≤ authenticated s → ∀ attempt, ∃ reason, (authenticatePeer endpoint s.token attempt).1 = .error reason) ∧
    (∀ attempt cred, (attempt,.ok cred) ∈ s.log → attempt.peerCred = .ok cred ∧ cred.uid ∈ endpoint.allowedUids ∧
      cred.uid = endpoint.ownerUid ∧ (endpoint.allowedPids = [] ∨ cred.pid ∈ endpoint.allowedPids ∧
        (attempt.pidfdFault = none → attempt.live = true)) ∧ Carries attempt issued) ∧
    (∀ attempt reason, (authenticatePeer endpoint s.token attempt).1 = .error reason →
      ¬ Unfinished endpoint issued attempt → (authenticatePeer endpoint s.token attempt).2 = s.token) ∧
    ((∀ entry ∈ s.log, entry.2.isOk = false ∧ ¬ Unfinished endpoint issued entry.1) → s.listening = true →
      ∀ attempt cred, Legitimate endpoint issued attempt cred →
        ∃ next, step endpoint s (.connect attempt) = some next ∧ next.log = s.log ++ [(attempt,.ok cred)]) := by
  have valid := reached_guarded path
  refine ⟨?_,?_,?_,?_,?_⟩
  · exact Nat.le_of_add_right_le valid.once
  · intro someone attempt
    have gone : s.token = none := by
      cases left : s.token with
      | none => rfl
      | some tok =>
        have once := valid.once
        simp only [left,Option.toList_some,List.length_singleton] at once
        omega
    rw [gone]
    exact consumed_rejects attempt
  · intro attempt cred present
    obtain ⟨entitled,carried⟩ := valid.entitled attempt cred present
    refine ⟨entitled.peer,entitled.uid,entitled.owner,?_,carried⟩
    exact entitled.pid.imp_right fun listed => ⟨listed.1,pinned_live listed.2⟩
  · intro attempt reason rejected finished
    exact rejected_keeps valid.held rejected finished
  · intro all listening attempt cred client
    refine ⟨connected endpoint s attempt,?_,?_⟩
    · simp only [step,listening,if_true]
    · rw [connected,valid.spared all,legitimate_accepted client]

def pinnedEndpoint : Endpoint := ⟨[1000],[42],1000⟩

def secret : CapabilityToken := ⟨Vector.replicate TOKEN_LEN 7⟩

def clientCred : PeerCred := ⟨42,1000,1000⟩

def client : Attempt where
  peerCred := .ok clientCred
  live := true
  pidfdFault := none
  setTimeoutFault := none
  arrived := (Hello.new .producer secret).encode.toList
  ended := ⟨none,"failed to fill whole buffer"⟩
  clearTimeoutFault := none

def stranger : Attempt := {client with peerCred := .ok ⟨43,1001,1001⟩}

def orphan : Attempt :=
  {client with live := false,pidfdFault := some ⟨some 38,"Function not implemented (os error 38)"⟩}

def listeningState : State := ⟨some secret,true,[]⟩

theorem client_legitimate : Legitimate pinnedEndpoint secret client clientCred :=
  ⟨rfl,by decide,rfl,.inr ⟨by decide,rfl⟩,⟨.producer,[],(List.append_nil _).symm⟩,rfl,rfl,rfl⟩

theorem endpoint_authenticates_dead : ∃ s, Transition.Reached (system pinnedEndpoint secret) s ∧
    (orphan,.ok clientCred) ∈ s.log ∧ pinnedEndpoint.allowedPids ≠ [] ∧ orphan.live = false := by
  have pinned : Pinned orphan := by
    intro e failed
    cases failed
    decide
  have accepted : authenticatePeer pinnedEndpoint (some secret) orphan = (.ok clientCred,none) := by
    apply authenticatePeer_accepts ⟨rfl,by decide,rfl,.inr ⟨by decide,pinned⟩⟩ _ rfl rfl
    exact ⟨_,_,readExact_front (List.append_nil _).symm,Hello.decode_encode .producer secret,rfl⟩
  have begun : Transition.Reached (system pinnedEndpoint secret) listeningState := .initial rfl
  refine ⟨connected pinnedEndpoint listeningState orphan,reached_connected begun rfl orphan,?_,by decide,rfl⟩
  rw [connected,listeningState,accepted]
  exact List.mem_concat_self

theorem endpoint_authentication_retried : ∃ s next, Transition.Reached (system pinnedEndpoint secret) s ∧
    s.log.length = 1 ∧ step pinnedEndpoint s (.connect client) = some next ∧ (client,.ok clientCred) ∈ next.log := by
  have outsider : ∀ cred, ¬ Entitled pinnedEndpoint stranger cred := by
    intro cred entitled
    cases entitled.peer
    exact absurd entitled.uid (by decide)
  have begun : Transition.Reached (system pinnedEndpoint secret) listeningState := .initial rfl
  have path : Transition.Reached (system pinnedEndpoint secret) (connected pinnedEndpoint listeningState stranger) :=
    reached_connected begun rfl stranger
  obtain ⟨_,_,_,_,retried⟩ := endpoint_authentication pinnedEndpoint secret _ path
  have refused : ∀ entry ∈ (connected pinnedEndpoint listeningState stranger).log,
      entry.2.isOk = false ∧ ¬ Unfinished pinnedEndpoint secret entry.1 := by
    intro entry present
    cases List.mem_singleton.mp present
    exact ⟨rfl,fun unfinished => unfinished.1.elim outsider⟩
  obtain ⟨next,ran,log⟩ := retried refused rfl client clientCred client_legitimate
  refine ⟨_,next,path,rfl,ran,?_⟩
  rw [log]
  exact List.mem_concat_self

end Scg.Interfaces
