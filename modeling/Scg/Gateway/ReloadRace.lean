import Scg.Gateway.ReloadFunctions

namespace Scg.Gateway.Race
open Net Policy Config Transition List Option

inductive Task where
  | stop (name : String)
  | refresh
  | send
  | start (rule : RuleConfig)

def callback (diff : ConfigDiff) : List Task :=
  diff.removed.map .stop ++ [.refresh,.send] ++ diff.added.map .start ++
    diff.changed.flatMap fun rule => [.stop rule.name,.start rule]

-- `generation` is the load whose policy the event carries.
structure Event where
  generation : Nat
  newPolicy : Option PolicyConfig

inductive Orchestrator where
  | waiting
  | clearing (event : Event)
  | applying (event : Event)

def Orchestrator.event? : Orchestrator → Option Event
  | .waiting => none
  | .clearing event | .applying event => some event

structure Flow where
  listener : Listener
  src : SocketAddr
  dst : SocketAddr
  trafficClass : TrafficClass

structure Admission where
  flow : Flow
  policy : PolicyManager
  allowed : Bool

-- `loaded` lists the configurations by generation and `applied` is the generation of the
-- policy in force; both are history.
structure State where
  live : Live
  todo : List Task
  queue : List Event
  orchestrator : Orchestrator
  flows : List Flow
  admissions : List Admission
  loaded : List GatewayConfig
  applied : Nat

inductive Action where
  | reload (new : GatewayConfig)
  | watcher
  | orchestrator
  | accept (flag : Nat) (now : Instant) (src dst : SocketAddr)
  | check (index : Nat)

def Task.perform (env : Parsers) (s : State) : Task → State
  | .stop name => {s with live := {s.live with listeners := s.live.listeners.stop name}}
  | .refresh => {s with live := {s.live with templates := buildTemplates env s.live.config}}
  | .send => {s with queue := s.queue ++ [⟨s.live.generation,s.live.config.policy⟩]}
  | .start rule =>
    {s with live := {s.live with listeners := s.live.listeners.startSingleRule s.live.generation rule}}

def install (s : State) (new : GatewayConfig) : State :=
  let diff := s.live.config.diff new
  {s with
    live := {s.live with config := new,generation := s.live.generation+1}
    todo := if diff.touches then callback diff else []
    loaded := s.loaded ++ [new]}

def orchestrate (env : Parsers) (s : State) : Option State :=
  match s.orchestrator,s.queue with
  | .waiting,[] => none
  | .waiting,event :: rest => some {s with orchestrator := .clearing event,queue := rest}
  | .clearing event,_ => some {s with live := {s.live with cache := s.live.cache.clear},orchestrator := .applying event}
  | .applying event,_ =>
    some {s with
      live := {s.live with policy := s.live.policy.reload env.std event.newPolicy}
      orchestrator := .waiting
      applied := event.generation}

def accept (s : State) (listener : Listener) (now : Instant) (src dst : SocketAddr) : State :=
  let (trafficClass,gate) := s.live.gate.classOf now listener.rule.trafficClass src dst
  {s with
    live := {s.live with cache := gate.cache,analyzer := gate.analyzer}
    flows := s.flows ++ [⟨listener,src,dst,trafficClass⟩]}

def checkPolicy (s : State) (index : Nat) (flow : Flow) : State :=
  {s with
    flows := s.flows.eraseIdx index
    admissions := s.admissions ++
      [⟨flow,s.live.policy,s.live.policy.checkAllowed flow.src flow.dst flow.trafficClass⟩]}

def step (env : Parsers) (s : State) : Action → Option State
  | .reload new =>
    match s.todo,new.validate env with
    | [],.ok () => some (install s new)
    | [],.error _ => some s
    | _ :: _,_ => none
  | .watcher =>
    match s.todo with
    | [] => none
    | task :: rest => some (task.perform env {s with todo := rest})
  | .orchestrator => orchestrate env s
  -- A listener that was told to stop may still accept until it looks at its flag.
  | .accept flag now src dst => (s.live.listeners.started[flag]?).map fun listener => accept s listener now src dst
  | .check index => (s.flows[index]?).map (checkPolicy s index)

def initial (env : Parsers) (config : GatewayConfig) : State :=
  {live := Gateway.start env config
   todo := []
   queue := []
   orchestrator := .waiting
   flows := []
   admissions := []
   loaded := [config]
   applied := 0}

def racing (env : Parsers) : System State Action where
  initial s := ∃ config, config.validate env = .ok () ∧ s = initial env config
  step := step env

def pending (s : State) : List Event := s.orchestrator.event?.toList ++ s.queue

def Covered (s : State) (generation : Nat) : Prop :=
  generation ≤ s.applied ∨ ∃ event ∈ pending s, event.generation = generation

def StartsCovered (covered : Prop) : List Task → Prop
  | [] => True
  | .send :: _ => True
  | .start _ :: rest => covered ∧ StartsCovered covered rest
  | _ :: rest => StartsCovered covered rest

structure Invariant (env : Parsers) (s : State) : Prop where
  loads : s.loaded.length = s.live.generation+1
  current : s.loaded[s.live.generation]? = some s.live.config
  sent : ∀ event ∈ pending s, ∃ config, s.loaded[event.generation]? = some config ∧ event.newPolicy = config.policy
  ordered : (pending s).Pairwise fun one two => one.generation ≤ two.generation
  later : ∀ event ∈ pending s, s.applied ≤ event.generation
  known : ∀ event ∈ pending s, event.generation ≤ s.live.generation
  inForce : ∃ config, s.loaded[s.applied]? = some config ∧ s.live.policy = .new env.std config.policy
  listeners : ∀ listener ∈ s.live.listeners.started, Covered s listener.generation
  starts : StartsCovered (Covered s s.live.generation) s.todo
  flows : ∀ flow ∈ s.flows, Covered s flow.listener.generation

variable {env : Parsers} {s : State}

variable {covered : Prop}

theorem StartsCovered.imp {wider : Prop} (widen : covered → wider)
    (held : StartsCovered covered todo) : StartsCovered wider todo := by
  induction todo with
  | nil => trivial
  | cons task rest ih =>
    cases task with
    | send => trivial
    | start rule => exact ⟨widen held.1,ih held.2⟩
    | stop | refresh => exact ih held

theorem starts_of_covered (held : covered) (todo : List Task) : StartsCovered covered todo := by
  induction todo with
  | nil => trivial
  | cons task rest ih =>
    cases task with
    | send => trivial
    | start rule => exact ⟨held,ih⟩
    | stop | refresh => exact ih

theorem callback_starts (covered : Prop) (diff : ConfigDiff) : StartsCovered covered (callback diff) := by
  have stops : ∀ (names : List String) rest, StartsCovered covered rest →
      StartsCovered covered (names.map .stop ++ rest) := by
    intro names rest held
    induction names with
    | nil => exact held
    | cons name names ih => exact ih
  unfold callback
  simp only [append_assoc]
  exact stops _ _ trivial

theorem Invariant.behind (valid : Invariant env s) : s.applied ≤ s.live.generation := by
  obtain ⟨config,found,_⟩ := valid.inForce
  have bound := (List.getElem?_eq_some_iff.mp found).1
  have loads := valid.loads
  omega

theorem covered_mono {next : State} (applied : s.applied ≤ next.applied)
    (kept : ∀ event ∈ pending s, event ∈ pending next ∨ event.generation ≤ next.applied)
    (covered : Covered s generation) : Covered next generation := by
  rcases covered with below | ⟨event,present,rfl⟩
  · exact .inl (Nat.le_trans below applied)
  · rcases kept event present with still | below
    · exact .inr ⟨event,still,rfl⟩
    · exact .inl below

theorem loaded_grows {i : Nat} (found : loaded[i]? = some config) : (loaded ++ [new])[i]? = some config := by
  have bound := (List.getElem?_eq_some_iff.mp found).1
  rwa [List.getElem?_append_left bound]

theorem initial_invariant (config : GatewayConfig) : Invariant env (initial env config) where
  loads := rfl
  current := rfl
  sent := fun _ absent => absurd absent not_mem_nil
  ordered := List.Pairwise.nil
  later := fun _ absent => absurd absent not_mem_nil
  known := fun _ absent => absurd absent not_mem_nil
  inForce := ⟨config,rfl,rfl⟩
  listeners := by
    intro listener present
    refine .inl (Nat.le_of_eq ?_)
    have begun : ∀ (rules : List RuleConfig) (l : Listeners), (∀ listener ∈ l.started, listener.generation = 0) →
        ∀ listener ∈ (rules.foldl (Listeners.startSingleRule 0) l).started, listener.generation = 0 := by
      intro rules
      induction rules with
      | nil => exact fun _ held => held
      | cons rule rest ih =>
        intro l held
        apply ih
        exact forall_mem_append.mpr ⟨held,forall_mem_singleton.mpr rfl⟩
    exact begun _ _ (fun _ absent => absurd absent not_mem_nil) listener present
  starts := trivial
  flows := fun _ absent => absurd absent not_mem_nil

theorem stop_started (l : Listeners) (name : String) : (l.stop name).started = l.started := by
  unfold Listeners.stop
  split <;> rfl

section
variable (valid : Invariant env s)
include valid

theorem send_invariant : Invariant env (Task.send.perform env {s with todo := rest}) := by
  have grown : pending (Task.send.perform env {s with todo := rest}) =
      pending s ++ [⟨s.live.generation,s.live.config.policy⟩] := (append_assoc _ _ _).symm
  have members : ∀ event ∈ pending (Task.send.perform env {s with todo := rest}),
      event ∈ pending s ∨ event = ⟨s.live.generation,s.live.config.policy⟩ := by
    intro event present
    rw [grown] at present
    simpa using present
  have covered : ∀ {generation}, Covered s generation → Covered (Task.send.perform env {s with todo := rest}) generation :=
    covered_mono (Nat.le_refl _) fun event present => .inl (grown ▸ mem_append_left _ present)
  have announced : Covered (Task.send.perform env {s with todo := rest}) s.live.generation :=
    .inr ⟨_,grown ▸ mem_append_right _ (mem_singleton_self _),rfl⟩
  refine ⟨valid.loads,valid.current,?_,?_,?_,?_,valid.inForce,?_,starts_of_covered announced rest,?_⟩
  · intro event present
    rcases members event present with old | rfl
    · exact valid.sent event old
    · exact ⟨s.live.config,valid.current,rfl⟩
  · rw [grown]
    refine pairwise_append.mpr ⟨valid.ordered,pairwise_singleton _ _,?_⟩
    intro event old last present
    rw [mem_singleton.mp present]
    exact valid.known event old
  · intro event present
    rcases members event present with old | rfl
    · exact valid.later event old
    · exact valid.behind
  · intro event present
    rcases members event present with old | rfl
    · exact valid.known event old
    · exact Nat.le_refl _
  · exact fun listener present => covered (valid.listeners listener present)
  · exact fun flow present => covered (valid.flows flow present)

theorem perform_invariant (doing : s.todo = task :: rest) :
    Invariant env (task.perform env {s with todo := rest}) := by
  have starts := valid.starts
  rw [doing] at starts
  cases task with
  | stop name =>
    refine ⟨valid.loads,valid.current,valid.sent,valid.ordered,valid.later,valid.known,valid.inForce,?_,starts,valid.flows⟩
    change ∀ listener ∈ (s.live.listeners.stop name).started, _
    rw [stop_started]
    exact valid.listeners
  | refresh => exact {valid with starts := starts}
  | send => exact send_invariant valid
  | start rule =>
    refine ⟨valid.loads,valid.current,valid.sent,valid.ordered,valid.later,valid.known,valid.inForce,?_,starts.2,valid.flows⟩
    exact forall_mem_append.mpr ⟨valid.listeners,forall_mem_singleton.mpr starts.1⟩

theorem install_invariant (new : GatewayConfig) : Invariant env (install s new) := by
  obtain ⟨config,found,policy⟩ := valid.inForce
  refine ⟨?_,?_,?_,valid.ordered,valid.later,?_,⟨config,loaded_grows found,policy⟩,valid.listeners,?_,valid.flows⟩
  · simp [install,valid.loads]
  · simp [install,← valid.loads]
  · intro event present
    obtain ⟨config,found,policy⟩ := valid.sent event present
    exact ⟨config,loaded_grows found,policy⟩
  · exact fun event present => Nat.le_succ_of_le (valid.known event present)
  · unfold install
    dsimp only
    split
    · exact callback_starts _ _
    · trivial

theorem orchestrate_invariant {next : State} (ran : orchestrate env s = some next) : Invariant env next := by
  obtain ⟨live,todo,queue,orchestrator,flows,admissions,loaded,applied⟩ := s
  cases orchestrator with
  | waiting =>
    cases queue with
    | nil => cases ran
    | cons event rest =>
      cases ran
      exact {valid with}
  | clearing event =>
    cases ran
    exact {valid with}
  | applying event =>
    cases ran
    obtain ⟨config,found,policy⟩ := valid.sent event mem_cons_self
    obtain ⟨first,ordered⟩ := pairwise_cons.mp valid.ordered
    have tail : ∀ other ∈ queue, other ∈ event :: queue := fun _ present => mem_cons_of_mem _ present
    have covered : ∀ {generation}, Covered ⟨live,todo,queue,.applying event,flows,admissions,loaded,applied⟩ generation →
        Covered ⟨{live with policy := live.policy.reload env.std event.newPolicy},todo,queue,.waiting,flows,admissions,
          loaded,event.generation⟩ generation := by
      intro generation held
      refine covered_mono (valid.later event mem_cons_self) ?_ held
      intro other present
      rcases mem_cons.mp present with rfl | waiting
      · exact .inr (Nat.le_refl _)
      · exact .inl waiting
    refine ⟨valid.loads,valid.current,fun other present => valid.sent other (tail other present),ordered,first,
      fun other present => valid.known other (tail other present),⟨config,found,?_⟩,
      fun listener present => covered (valid.listeners listener present),valid.starts.imp covered,
      fun flow present => covered (valid.flows flow present)⟩
    rw [← policy]
    rfl

theorem accept_invariant (present : listener ∈ s.live.listeners.started)
    (now : Instant) (src dst : SocketAddr) : Invariant env (accept s listener now src dst) := by
  refine {valid with flows := ?_}
  exact forall_mem_append.mpr ⟨valid.flows,forall_mem_singleton.mpr (valid.listeners listener present)⟩

theorem checkPolicy_invariant (index : Nat) : Invariant env (checkPolicy s index flow) :=
  {valid with flows := fun other member => valid.flows other (mem_of_mem_eraseIdx member)}

theorem step_invariant {next : State} (ran : step env s action = some next) : Invariant env next := by
  cases action with
  | reload new =>
    simp only [step] at ran
    split at ran <;> cases ran
    · exact install_invariant valid new
    · exact valid
  | watcher =>
    simp only [step] at ran
    split at ran <;> cases ran
    rename_i doing
    exact perform_invariant valid doing
  | orchestrator => exact orchestrate_invariant valid ran
  | accept flag now src dst =>
    obtain ⟨listener,found,rfl⟩ := map_eq_some_iff.mp ran
    exact accept_invariant valid (mem_of_getElem? found) now src dst
  | check index =>
    obtain ⟨flow,_,rfl⟩ := map_eq_some_iff.mp ran
    exact checkPolicy_invariant valid index

end

-- The policy that decided is that of the listener's own load or of a later one.
def CurrentPolicy (env : Parsers) (loaded : List GatewayConfig) (admission : Admission) : Prop :=
  ∃ generation config, admission.flow.listener.generation ≤ generation ∧ loaded[generation]? = some config ∧
    admission.policy = .new env.std config.policy

-- The policy is asked only once the reload that started the flow's listener is through.
def Settled (s : State) : Action → Prop
  | .check index => ∀ flow, s.flows[index]? = some flow → ∀ event ∈ pending s, flow.listener.generation < event.generation
  | _ => True

theorem settled_current (valid : Invariant env s) (present : flow ∈ s.flows)
    (settled : ∀ event ∈ pending s, flow.listener.generation < event.generation) :
    flow.listener.generation ≤ s.applied := by
  rcases valid.flows flow present with below | ⟨event,waiting,same⟩
  · exact below
  · have apart := settled event waiting
    omega

theorem step_history {next : State} (ran : step env s action = some next) :
    (next.loaded = s.loaded ∧ next.admissions = s.admissions) ∨
    (∃ new, next.loaded = s.loaded ++ [new] ∧ next.admissions = s.admissions) ∨
    ∃ index flow, action = .check index ∧ s.flows[index]? = some flow ∧ next = checkPolicy s index flow := by
  cases action with
  | reload new =>
    simp only [step] at ran
    split at ran <;> cases ran
    · exact .inr (.inl ⟨new,rfl,rfl⟩)
    · exact .inl ⟨rfl,rfl⟩
  | watcher =>
    simp only [step] at ran
    split at ran <;> cases ran
    rename_i task _ _
    cases task <;> exact .inl ⟨rfl,rfl⟩
  | orchestrator =>
    simp only [step,orchestrate] at ran
    split at ran <;> cases ran <;> exact .inl ⟨rfl,rfl⟩
  | accept flag now src dst =>
    obtain ⟨listener,_,rfl⟩ := map_eq_some_iff.mp ran
    exact .inl ⟨rfl,rfl⟩
  | check index =>
    obtain ⟨flow,found,rfl⟩ := map_eq_some_iff.mp ran
    exact .inr (.inr ⟨index,flow,rfl,found,rfl⟩)

theorem CurrentPolicy.grows {admission : Admission} (new : GatewayConfig)
    (current : CurrentPolicy env loaded admission) : CurrentPolicy env (loaded ++ [new]) admission := by
  obtain ⟨generation,config,later,found,policy⟩ := current
  exact ⟨generation,config,later,loaded_grows found,policy⟩

theorem step_current {next : State} (valid : Invariant env s)
    (current : ∀ admission ∈ s.admissions, CurrentPolicy env s.loaded admission) (settled : Settled s action)
    (ran : step env s action = some next) :
    ∀ admission ∈ next.admissions, CurrentPolicy env next.loaded admission := by
  intro admission present
  rcases step_history ran with ⟨loads,same⟩ | ⟨new,loads,same⟩ | ⟨index,flow,rfl,found,rfl⟩
  · rw [same] at present
    rw [loads]
    exact current admission present
  · rw [same] at present
    rw [loads]
    exact (current admission present).grows new
  · rcases mem_append.mp present with old | fresh
    · exact current admission old
    · rw [mem_singleton.mp fresh]
      obtain ⟨config,loaded,policy⟩ := valid.inForce
      exact ⟨s.applied,config,settled_current valid (mem_of_getElem? found) (settled flow found),loaded,policy⟩

section Settling
variable (env) (s)

theorem perform_stops (names : List String) : (names.map Task.stop).foldl (Task.perform env) s =
    {s with live := {s.live with listeners := names.foldl Listeners.stop s.live.listeners}} := by
  induction names generalizing s with
  | nil => rfl
  | cons name rest ih => exact ih _

theorem perform_starts (rules : List RuleConfig) : (rules.map Task.start).foldl (Task.perform env) s =
    {s with live := {s.live with
      listeners := rules.foldl (Listeners.startSingleRule s.live.generation) s.live.listeners}} := by
  induction rules generalizing s with
  | nil => rfl
  | cons rule rest ih => exact ih _

theorem perform_restarts (rules : List RuleConfig) :
    (rules.flatMap fun rule => [Task.stop rule.name,.start rule]).foldl (Task.perform env) s =
    {s with live := {s.live with listeners := rules.foldl (Listeners.restart s.live.generation) s.live.listeners}} := by
  induction rules generalizing s with
  | nil => rfl
  | cons rule rest ih => exact ih _

theorem perform_callback (diff : ConfigDiff) : (callback diff).foldl (Task.perform env) s =
    {s with
      live := {s.live with
        templates := buildTemplates env s.live.config
        listeners := onReload s.live.generation s.live.listeners diff}
      queue := s.queue ++ [⟨s.live.generation,s.live.config.policy⟩]} := by
  simp only [callback,foldl_append,perform_stops,perform_restarts,perform_starts]
  rfl

theorem watcher_run : run (racing env) s (replicate s.todo.length .watcher) =
    some (s.todo.foldl (Task.perform env) {s with todo := []}) := by
  obtain ⟨live,todo,queue,orchestrator,flows,admissions,loaded,applied⟩ := s
  induction todo generalizing live queue with
  | nil => rfl
  | cons task rest ih => cases task <;> exact ih _ _

end Settling

-- A reload whose threads run to their end with no flow in between is the reload that
-- the gateway's functions and listeners were compared by.
theorem reload_settles (idle : s.todo = []) (drained : s.queue = []) (free : s.orchestrator = .waiting)
    (valid : new.validate env = .ok ()) :
    ∃ actions next, run (racing env) s actions = some next ∧ next.todo = [] ∧ next.queue = [] ∧
      next.orchestrator = .waiting ∧ next.live = Gateway.reload env s.live new := by
  obtain ⟨live,todo,queue,orchestrator,flows,admissions,loaded,applied⟩ := s
  cases idle
  cases drained
  cases free
  have begun : ∀ actions, run (racing env) ⟨live,[],[],.waiting,flows,admissions,loaded,applied⟩ (.reload new :: actions) =
      run (racing env) (install ⟨live,[],[],.waiting,flows,admissions,loaded,applied⟩ new) actions := by
    simp [run,racing,step,valid]
  cases moved : (live.config.diff new).touches with
  | false =>
    refine ⟨[.reload new],_,begun [],?_⟩
    simp [install,Gateway.reload,moved]
  | true =>
    have finished : run (racing env) (install ⟨live,[],[],.waiting,flows,admissions,loaded,applied⟩ new)
        (replicate (callback (live.config.diff new)).length Action.watcher ++
          [Action.orchestrator,Action.orchestrator,Action.orchestrator]) =
        some ⟨Gateway.reload env live new,[],[],.waiting,flows,admissions,loaded ++ [new],live.generation+1⟩ := by
      have ran := watcher_run env (install ⟨live,[],[],.waiting,flows,admissions,loaded,applied⟩ new)
      simp only [install,moved,if_true] at ran ⊢
      rw [run_append,ran,perform_callback]
      simp [Gateway.reload,moved,run,racing,step,orchestrate]
    exact ⟨_,_,(begun _).trans finished,rfl,rfl,rfl,rfl⟩

-- In a run whose policy checks wait for the orchestrator no listener ever admits by a
-- policy older than the configuration it was started from.
theorem settled_admissions (path : ReachedWhen (racing env) Settled s) :
    ∀ admission ∈ s.admissions, CurrentPolicy env s.loaded admission := by
  have facts : Invariant env s ∧ ∀ admission ∈ s.admissions, CurrentPolicy env s.loaded admission := by
    apply path.invariant
    · rintro s ⟨config,_,rfl⟩
      exact ⟨initial_invariant config,fun _ absent => absurd absent List.not_mem_nil⟩
    · intro s action next facts settled ran
      exact ⟨step_invariant facts.1 ran,step_current facts.1 facts.2 settled ran⟩
  exact facts.2

def settles (s : State) : Action → Bool
  | .check index => (s.flows[index]?).all fun flow => (pending s).all (flow.listener.generation < ·.generation)
  | _ => true

theorem settles_sound (s : State) (action : Action) (checked : settles s action = true) : Settled s action := by
  cases action with
  | check index =>
    intro flow found event waiting
    simp only [settles,found,Option.all_some,List.all_eq_true,decide_eq_true_eq] at checked
    exact checked event waiting
  | _ => trivial

def opened : GatewayConfig := {rules := [webRule],policy := some openPolicy}

def closing : GatewayConfig := {rules := [webRule,{movedRule with name := "added",listenAddr := "127.0.0.1:8082"}]}

def history (s : State) : List (Bool × Nat × PolicyManager) × List (Option PolicyConfig) :=
  (s.admissions.map fun a => (a.allowed,a.flow.listener.generation,a.policy),s.loaded.map (·.policy))

theorem history_admission (told : history s = ([(allowed,generation,policy)],loads)) :
    ∃ admission ∈ s.admissions, admission.allowed = allowed ∧ admission.flow.listener.generation = generation ∧
      admission.policy = policy := by
  have listed : (s.admissions.map fun a => (a.allowed,a.flow.listener.generation,a.policy)) =
      [(allowed,generation,policy)] := congrArg Prod.fst told
  have present := listed ▸ mem_singleton_self _
  obtain ⟨admission,member,equal⟩ := mem_map.mp present
  cases equal
  exact ⟨admission,member,rfl,rfl,rfl⟩

theorem settled_admissions_closing : ∃ s, ReachedWhen (racing plainParsers) Settled s ∧
    (∃ admission ∈ s.admissions, admission.allowed = false ∧ admission.flow.listener.generation = 1 ∧
      admission.policy = .new .ipv4 none) ∧
    ∀ admission ∈ s.admissions, CurrentPolicy plainParsers s.loaded admission := by
  have ran : (runChecked (racing plainParsers) settles (initial plainParsers opened)
      [.reload closing,.watcher,.watcher,.watcher,.accept 1 0 client service,.orchestrator,.orchestrator,
        .orchestrator,.check 0]).map history =
      some ([(false,1,PolicyManager.new .ipv4 none)],[some openPolicy,none]) := by decide +kernel
  obtain ⟨s,path,told⟩ := runChecked_shows settles_sound ran ⟨opened,by decide +kernel,rfl⟩
  exact ⟨s,path,history_admission told,settled_admissions path⟩

-- The added rule is started before the orchestrator has taken up the policy.
theorem added_rule_admits_by_old_policy :
    opened.validate plainParsers = .ok () ∧ closing.validate plainParsers = .ok () ∧
    (PolicyManager.new .ipv4 closing.policy).checkAllowed client service .normal = false ∧
    ∃ s, Reached (racing plainParsers) s ∧ s.loaded.map (·.policy) = [opened.policy,closing.policy] ∧
      ∃ admission ∈ s.admissions, admission.allowed = true ∧ admission.flow.listener.generation = 1 ∧
        admission.policy = .new .ipv4 opened.policy := by
  have ran : (run (racing plainParsers) (initial plainParsers opened)
      [.reload closing,.watcher,.watcher,.watcher,.accept 1 0 client service,.check 0]).map history =
      some ([(true,1,PolicyManager.new .ipv4 opened.policy)],[opened.policy,closing.policy]) := by decide +kernel
  obtain ⟨s,path,told⟩ := run_shows ran ⟨opened,by decide +kernel,rfl⟩
  exact ⟨by decide +kernel,by decide +kernel,rfl,s,path,congrArg Prod.snd told,history_admission told⟩

end Scg.Gateway.Race
