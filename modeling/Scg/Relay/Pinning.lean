import Scg.Relay.PolicyGate

namespace Scg.Relay.Wireguard
open Net Policy Config List Option

-- `replies` lists where upstream datagrams were sent; `firstPassing` keeps the first
-- source that the policy lets through, whatever the relay does with it.
structure Watched where
  relay : State
  replies : List SocketAddr
  firstPassing : Option SocketAddr

inductive Turn where
  | forward (action : Action)
  | reply

def passes (ctx : RuleContext) (s : State) (now : Instant) (peer dst : SocketAddr) : Bool :=
  (s.gate.classifyAndCheckPolicy now ctx.trafficClass peer dst).1

def watch (ctx : RuleContext) (s : State) (first : Option SocketAddr) : Action → Option SocketAddr
  | .datagram now peer _ =>
    match first,s.upstream with
    | none,some dst => if passes ctx s now peer dst then some peer else none
    | first,_ => first
  | _ => first

-- A reply read before any client is known is dropped.
def turn (host : Host) (ctx : RuleContext) (s : Watched) : Turn → Option Watched
  | .forward action =>
    match step host ctx s.relay action with
    | some relay => some {s with relay := relay,firstPassing := watch ctx s.relay s.firstPassing action}
    | none => none
  | .reply =>
    match s.relay.upstream with
    | none => none
    | some _ => some {s with replies := s.replies ++ s.relay.lastClient.toList}

def watched (host : Host) (ctx : RuleContext) : Transition.System Watched Turn where
  initial s := ∃ gate, s = {relay := initial gate,replies := [],firstPassing := none}
  step := turn host ctx

-- The datagram that meets an unpinned relay comes from a source the policy lets through.
def FirstPasses (ctx : RuleContext) (s : Watched) : Turn → Prop
  | .forward (.datagram now peer _) => s.relay.lastClient = none →
      ∀ dst, s.relay.upstream = some dst → passes ctx s.relay now peer dst = true
  | _ => True

variable {relay : State}

def Passed (log : List Event) (src : SocketAddr) : Prop := ∃ flow dst, .checked flow src dst true ∈ log

theorem Passed.grows {log after : List Event} (passed : Passed log src) (grown : log <+: after) :
    Passed after src := by
  obtain ⟨flow,dst,present⟩ := passed
  exact ⟨flow,dst,grown.subset present⟩

structure Pinned (s : Watched) : Prop where
  first : s.relay.lastClient = s.firstPassing
  passed : ∀ src, s.relay.lastClient = some src → Passed s.relay.log src
  replied : ∀ src ∈ s.replies, Passed s.relay.log src

section Datagram
theorem acceptSource_pins (bound : Option SocketAddr) (src : SocketAddr) :
    acceptSource bound src = (decide (bound.getD src = src),some (bound.getD src)) := by
  cases bound with
  | none => simp [acceptSource]
  | some b =>
    simp only [acceptSource,getD_some,Prod.mk.injEq,and_true]
    exact beq_eq_decide b src

theorem datagram_lastClient : (datagram host ctx relay upstream now peer sent).lastClient = some (relay.lastClient.getD peer) := by
  unfold datagram
  simp only [acceptSource_pins,host.peerAddr_connected]
  split
  · rfl
  · split <;> rfl

theorem datagram_log : relay.log <+: (datagram host ctx relay upstream now peer sent).log := by
  unfold datagram
  simp only [host.peerAddr_connected]
  split
  · exact prefix_refl _
  · split
    · exact (prefix_append _ _).trans (prefix_append _ _)
    · exact prefix_append _ _

theorem datagram_checked (accepted : relay.lastClient.getD peer = peer) :
    .checked relay.arrivals peer upstream (passes ctx relay now peer upstream) ∈
      (datagram host ctx relay upstream now peer sent).log := by
  unfold datagram passes
  simp only [acceptSource_pins,host.peerAddr_connected,accepted,decide_true,Bool.not_true,Bool.false_eq_true,if_false]
  split <;> simp

theorem datagram_served (accepted : relay.lastClient.getD peer = peer)
    (allowed : passes ctx relay now peer upstream = true) :
    .forwarded relay.arrivals peer upstream ∈ (datagram host ctx relay upstream now peer true).log := by
  unfold passes at allowed
  unfold datagram
  simp [acceptSource_pins,host.peerAddr_connected,accepted,allowed]

end Datagram

theorem datagram_pinned (valid : Pinned s)
    (running : s.relay.upstream = some upstream) (met : FirstPasses ctx s (.forward (.datagram now peer sent))) :
    Pinned {s with
      relay := datagram host ctx s.relay upstream now peer sent
      firstPassing := watch ctx s.relay s.firstPassing (.datagram now peer sent)} := by
  have grown : s.relay.log <+: (datagram host ctx s.relay upstream now peer sent).log := datagram_log
  have replied : ∀ src ∈ s.replies, Passed (datagram host ctx s.relay upstream now peer sent).log src :=
    fun src sent => (valid.replied src sent).grows grown
  have first := valid.first
  cases pin : s.relay.lastClient with
  | none =>
    rw [pin] at first
    have allowed := met pin upstream running
    have accepted : s.relay.lastClient.getD peer = peer := by rw [pin]; rfl
    refine ⟨?_,?_,replied⟩
    · rw [datagram_lastClient,accepted]
      simp only [watch,← first,running,allowed,if_true]
    · intro src pinned
      rw [datagram_lastClient,accepted] at pinned
      cases pinned
      have checked : Event.checked s.relay.arrivals peer upstream (passes ctx s.relay now peer upstream) ∈
          (datagram host ctx s.relay upstream now peer sent).log := datagram_checked accepted
      rw [allowed] at checked
      exact ⟨_,_,checked⟩
  | some client =>
    rw [pin] at first
    refine ⟨?_,?_,replied⟩
    · rw [datagram_lastClient,pin]
      simp only [watch,← first,getD_some]
    · intro src pinned
      rw [datagram_lastClient,pin] at pinned
      cases pinned
      exact (valid.passed client pin).grows grown

theorem turn_pinned {next : Watched} (valid : Pinned s) (met : FirstPasses ctx s action)
    (ran : turn host ctx s action = some next) : Pinned next := by
  cases action with
  | reply =>
    simp only [turn] at ran
    split at ran <;> cases ran
    refine ⟨valid.first,valid.passed,?_⟩
    intro src present
    rcases mem_append.mp present with old | last
    · exact valid.replied src old
    · exact valid.passed src (mem_toList.mp last)
  | forward action =>
    simp only [turn] at ran
    split at ran <;> cases ran
    rename_i relay stepped
    cases action with
    | datagram now peer sent =>
      simp only [step] at stepped
      split at stepped <;> cases stepped
      rename_i upstream running
      exact datagram_pinned valid running met
    | start connected =>
      obtain ⟨_,stepped⟩ := ite_none_right_eq_some.mp stepped
      cases stepped
      exact ⟨valid.first,valid.passed,valid.replied⟩
    | ambient gate =>
      cases stepped
      exact ⟨valid.first,valid.passed,valid.replied⟩

theorem reached_pinned (path : Transition.ReachedWhen (watched host ctx) (FirstPasses ctx) s) : Pinned s := by
  apply path.invariant
  · rintro s ⟨gate,rfl⟩
    exact ⟨rfl,nofun,nofun⟩
  · exact fun _ _ _ valid met ran => turn_pinned valid met ran

-- Where the first datagram comes from a source the policy allows, the pinned client is
-- the first such source, only it gets replies, and it is served both ways.
theorem pins_first_passing (host : Host) (ctx : RuleContext) (s : Watched)
    (path : Transition.ReachedWhen (watched host ctx) (FirstPasses ctx) s) :
    s.relay.lastClient = s.firstPassing ∧
    (∀ src, s.relay.lastClient = some src ∨ src ∈ s.replies → ∃ flow dst, .checked flow src dst true ∈ s.relay.log) ∧
    (∀ src, s.firstPassing = some src →
      (∀ next, turn host ctx s .reply = some next → next.replies = s.replies ++ [src]) ∧
      (∀ now upstream next, s.relay.upstream = some upstream → passes ctx s.relay now src upstream = true →
        turn host ctx s (.forward (.datagram now src true)) = some next →
        .forwarded s.relay.arrivals src upstream ∈ next.relay.log)) := by
  have valid := reached_pinned path
  refine ⟨valid.first,?_,?_⟩
  · intro src known
    rcases known with pinned | replied
    · exact valid.passed src pinned
    · exact valid.replied src replied
  · intro src first
    have pinned : s.relay.lastClient = some src := valid.first.trans first
    refine ⟨?_,?_⟩
    · intro next ran
      simp only [turn] at ran
      split at ran <;> cases ran
      rw [pinned]
      rfl
    · intro now upstream next running allowed ran
      simp only [turn,step,running] at ran
      cases ran
      exact datagram_served (by rw [pinned]; rfl) allowed

def firstPasses (ctx : RuleContext) (s : Watched) : Turn → Bool
  | .forward (.datagram now peer _) => s.relay.lastClient.isSome || s.relay.upstream.all (passes ctx s.relay now peer)
  | _ => true

theorem firstPasses_sound (s : Watched) (action : Turn) (checked : firstPasses ctx s action = true) :
    FirstPasses ctx s action := by
  cases action with
  | reply => trivial
  | forward action =>
    cases action with
    | datagram now peer sent =>
      intro unpinned dst running
      simpa [firstPasses,unpinned,running] using checked
    | start | ambient => trivial

def whitelistGate : Gate :=
  {openGate with policyManager := some (.new .ipv4 (some ⟨.deny,[⟨"10.0.0.8","any"⟩],false⟩))}

def upstream : SocketAddr := .v4 0xc0000201 9443
def allowed : SocketAddr := .v4 0x0a000008 4000
def denied : SocketAddr := .v4 0x0a000009 4000

theorem pins_first_passing_allowed : ∃ s, Transition.ReachedWhen (watched connectedHost tunnelRule) (FirstPasses tunnelRule) s ∧
    s.relay.lastClient = some allowed ∧ s.firstPassing = some allowed ∧ s.replies = [allowed] ∧
    ∃ flow dst, .checked flow allowed dst true ∈ s.relay.log := by
  have ran : (Transition.runChecked (watched connectedHost tunnelRule) (firstPasses tunnelRule)
      {relay := initial whitelistGate,replies := [],firstPassing := none}
      [.forward (.start (some upstream)),.forward (.datagram 0 allowed true),.forward (.datagram 1 denied true),.reply]).map
      (fun s => (s.firstPassing,s.replies)) = some (some allowed,[allowed]) := by decide +kernel
  obtain ⟨s,path,same⟩ := Transition.runChecked_shows firstPasses_sound ran ⟨_,rfl⟩
  obtain ⟨first,replies⟩ := Prod.mk.inj same
  obtain ⟨pinned,passed,_⟩ := pins_first_passing connectedHost tunnelRule s path
  have client : s.relay.lastClient = some allowed := pinned.trans first
  exact ⟨s,path,client,first,replies,passed allowed (.inl client)⟩

-- The denied source is pinned by its own refused datagram.
theorem pins_denied_source : ∃ s, Transition.Reached (watched connectedHost tunnelRule) s ∧
    s.relay.lastClient = some denied ∧ s.replies = [denied] ∧ s.firstPassing = some allowed ∧
    s.relay.log = [.checked 0 denied upstream false] := by
  have ran : (Transition.run (watched connectedHost tunnelRule)
      {relay := initial whitelistGate,replies := [],firstPassing := none}
      [.forward (.start (some upstream)),.forward (.datagram 0 denied true),.reply,.forward (.datagram 1 allowed true)]).map
      (fun s => (s.relay.lastClient,s.replies,s.firstPassing,s.relay.log)) =
        some (some denied,[denied],some allowed,[.checked 0 denied upstream false]) := by decide +kernel
  obtain ⟨s,path,same⟩ := Transition.run_shows ran ⟨_,rfl⟩
  obtain ⟨client,same⟩ := Prod.mk.inj same
  obtain ⟨replies,same⟩ := Prod.mk.inj same
  obtain ⟨first,log⟩ := Prod.mk.inj same
  exact ⟨s,path,client,replies,first,log⟩

end Scg.Relay.Wireguard
