import Scg.Library.Tally
import Scg.Pool.Machine

namespace Scg.Pool
open Policy Tally List

def token (job j : Job) : Nat := if job = j then 1 else 0

theorem count_concat (jobs : List Job) (job j : Job) : (jobs ++ [job]).count j = jobs.count j+token job j := by
  simp [token,count_singleton]

theorem count_head (jobs : List Job) (job j : Job) : (job :: jobs).count j = jobs.count j+token job j := by
  simp [token,count_cons]

def Worker.holds (j : Job) : Worker → Nat
  | .taken job => token job j
  | _ => 0

def Worker.runs (j : Job) : Worker → Nat
  | .running job => token job j
  | _ => 0

def Thread.holds (j : Job) : Thread → Nat
  | .spawned job => token job j
  | .taken job => token job j
  | _ => 0

def Thread.runs (j : Job) : Thread → Nat
  | .running job => token job j
  | _ => 0

def Call.holds (j : Job) (call : Call) : Nat :=
  match call.point with
  | .returning _ => 0
  | _ => token call.job j

def Call.accepts (j : Job) (call : Call) : Nat :=
  match call.point with
  | .returning true => token call.job j
  | _ => 0

def Call.refuses (call : Call) : Nat :=
  match call.point with
  | .returning false => 1
  | _ => 0

def Call.reserves (call : Call) : Nat :=
  match call.point with
  | .spawning => 1
  | .spawnFailed => 1
  | _ => 0

def State.held (s : State) (j : Job) : Nat := total (Worker.holds j) s.workers+total (Thread.holds j) s.threads

def State.running (s : State) (j : Job) : Nat := total (Worker.runs j) s.workers+total (Thread.runs j) s.threads

def State.placed (s : State) (j : Job) : Nat := s.queue.count j+s.held j+s.running j+s.finished.count j

def known (submitted : Nat) (j : Job) : Nat := if j < submitted then 1 else 0

-- A job that was submitted is in one place, and its runs are the one now and those
-- finished.
def Balanced (s : State) (j : Job) : Prop :=
  total (Call.holds j) s.calls+s.placed j+s.dropped.count j = known s.submitted j ∧
  s.placed j = total (Call.accepts j) s.calls+s.accepted.count j ∧
  s.started.count j = s.running j+s.finished.count j

structure Accounted (cfg : Setup) (s : State) : Prop where
  bounded : s.overflowCount ≤ cfg.maxOverflow
  slots : s.overflowCount = total Call.reserves s.calls+s.threads.length
  balanced : ∀ j, Balanced s j
  workers : s.workers.length = cfg.baseWorkers
  served : cfg.baseWorkers ≠ 0 → total Call.refuses s.calls+s.rejected.length = 0

section Step
variable {s : State}

theorem initial_accounted (cfg : Setup) : Accounted cfg (initial cfg) := by
  have idle : ∀ measure : Worker → Nat, measure .top = 0 → total measure (initial cfg).workers = 0 := by
    intro measure none_there
    apply total_zero
    intro worker present
    rwa [eq_of_mem_replicate present]
  refine ⟨Nat.zero_le _,rfl,?_,length_replicate,fun _ => rfl⟩
  intro j
  have running : (initial cfg).running j = 0 := by rw [State.running,idle _ rfl]; rfl
  have held : (initial cfg).held j = 0 := by rw [State.held,idle _ rfl]; rfl
  unfold Balanced State.placed
  rw [running,held]
  exact ⟨rfl,rfl,rfl⟩

theorem total_moved (measure : Call → Nat) (at_i : s.calls[i]? = some ⟨job,here⟩) (point : Point) :
    total measure (s.calls.set i ⟨job,point⟩)+measure ⟨job,here⟩ = total measure s.calls+measure ⟨job,point⟩ :=
  total_set measure at_i ⟨job,point⟩

section
variable (valid : Accounted cfg s)
include valid

theorem call_accounted {count : Nat} (at_i : s.calls[i]? = some ⟨job,here⟩) (bounded : count ≤ cfg.maxOverflow)
    (slots : count+Call.reserves ⟨job,here⟩+s.threads.length = s.overflowCount+Call.reserves ⟨job,point⟩+threads.length)
    (holds : ∀ j, Call.holds j ⟨job,point⟩+(queue.count j+total (Thread.holds j) threads+dropped.count j) =
      Call.holds j ⟨job,here⟩+(s.queue.count j+total (Thread.holds j) s.threads+s.dropped.count j))
    (accepts : ∀ j, queue.count j+total (Thread.holds j) threads+Call.accepts j ⟨job,here⟩ =
      s.queue.count j+total (Thread.holds j) s.threads+Call.accepts j ⟨job,point⟩)
    (runs : ∀ j, total (Thread.runs j) threads = total (Thread.runs j) s.threads)
    (refuses : cfg.baseWorkers ≠ 0 → Call.refuses ⟨job,point⟩ = Call.refuses ⟨job,here⟩) :
    Accounted cfg {s.moved i ⟨job,here⟩ point with
      overflowCount := count
      queue := queue
      threads := threads
      dropped := dropped} := by
  have moved := fun measure => total_moved measure at_i point
  refine ⟨bounded,?_,fun j => ?_,valid.workers,fun some_worker => ?_⟩
  · have before := valid.slots
    have reserves := moved Call.reserves
    dsimp only [State.moved]
    omega
  · have before := valid.balanced j
    have held := moved (Call.holds j)
    have answers := moved (Call.accepts j)
    have kept := holds j
    have given := accepts j
    have running := runs j
    simp only [Balanced,State.placed,State.held,State.running,State.moved] at before ⊢
    omega
  · have before := valid.served some_worker
    have answers := moved Call.refuses
    dsimp only [State.moved]
    omega

theorem queueJob_accounted (at_i : s.calls[i]? = some ⟨job,.queueing⟩) :
    Accounted cfg (queueJob s i ⟨job,.queueing⟩) := by
  unfold queueJob
  split
  · rename_i closed
    refine call_accounted valid at_i valid.bounded rfl ?_ (fun _ => rfl) (fun _ => rfl) ?_
    · simp only [State.moved,Call.holds,count_concat]
      omega
    · intro some_worker
      exact absurd (by rw [← valid.workers,closed]; rfl) some_worker
  · refine call_accounted valid at_i valid.bounded rfl ?_ ?_ (fun _ => rfl) (fun _ => rfl)
    all_goals
      simp only [State.moved,Call.holds,Call.accepts,count_concat]
      omega

theorem returned_accounted (at_i : s.calls[i]? = some ⟨job,here⟩)
    (done : ∀ j, Call.holds j ⟨job,here⟩ = 0) (free : Call.reserves ⟨job,here⟩ = 0)
    (answers : ∀ j, accepted.count j = s.accepted.count j+Call.accepts j ⟨job,here⟩)
    (refusals : rejected.length = s.rejected.length+Call.refuses ⟨job,here⟩) :
    Accounted cfg {s with calls := s.calls.eraseIdx i,accepted := accepted,rejected := rejected} := by
  have erased := fun measure => total_erase measure at_i
  refine ⟨valid.bounded,?_,?_,valid.workers,?_⟩
  · have before := valid.slots
    have reserves := erased Call.reserves
    dsimp only
    omega
  · intro j
    have before := valid.balanced j
    have holds := erased (Call.holds j)
    have accepts := erased (Call.accepts j)
    have answered := answers j
    have handed := done j
    simp only [Balanced,State.placed,State.held,State.running] at before ⊢
    omega
  · intro some_worker
    have before := valid.served some_worker
    have refuses := erased Call.refuses
    dsimp only
    omega

theorem stepCall_accounted {call : Call}
    (at_i : s.calls[i]? = some call) : Accounted cfg (stepCall cfg s i call spurious spawned) := by
  obtain ⟨job,here⟩ := call
  cases here with simp only [stepCall]
  | loadIdle | loadOverflow =>
    repeat' split
    all_goals exact call_accounted valid at_i valid.bounded rfl (fun _ => rfl) (fun _ => rfl) (fun _ => rfl) (fun _ => rfl)
  | reserve cur =>
    rw [compareExchange]
    split
    · exact call_accounted valid at_i valid.bounded rfl (fun _ => rfl) (fun _ => rfl) (fun _ => rfl) (fun _ => rfl)
    · rename_i below
      split
      · rename_i exchanged
        simp only [Bool.and_eq_true,decide_eq_true_eq] at exchanged
        obtain ⟨rfl,_⟩ := exchanged
        exact call_accounted valid at_i (Nat.lt_of_not_ge below) rfl (fun _ => rfl) (fun _ => rfl) (fun _ => rfl) (fun _ => rfl)
      · exact call_accounted valid at_i valid.bounded rfl (fun _ => rfl) (fun _ => rfl) (fun _ => rfl) (fun _ => rfl)
  | spawning =>
    split
    · refine call_accounted valid at_i valid.bounded ?_ ?_ ?_ ?_ (fun _ => rfl)
      · simp only [State.moved,Call.reserves,length_append,length_singleton]
        omega
      all_goals
        simp only [State.moved,Call.holds,Call.accepts,total_append,total_cons,total_nil,Thread.holds,Thread.runs]
        omega
    · exact call_accounted valid at_i valid.bounded rfl (fun _ => rfl) (fun _ => rfl) (fun _ => rfl) (fun _ => rfl)
  | spawnFailed =>
    have counted := total_moved Call.reserves at_i .queueing
    have slots := valid.slots
    have bounded := valid.bounded
    simp only [Call.reserves] at counted
    refine call_accounted valid at_i (by omega) ?_ (fun _ => rfl) (fun _ => rfl) (fun _ => rfl) (fun _ => rfl)
    simp only [State.moved,Call.reserves]
    omega
  | queueing => exact queueJob_accounted valid at_i
  | returning accepted =>
    cases accepted with
    | true => exact returned_accounted valid at_i (fun _ => rfl) rfl (fun j => count_concat s.accepted job j) rfl
    | false => exact returned_accounted valid at_i (fun _ => rfl) rfl (fun _ => rfl) length_append

theorem worker_accounted (at_i : s.workers[i]? = some worker)
    (placed : ∀ j, queue.count j+Worker.holds j new+Worker.runs j new+finished.count j =
      s.queue.count j+Worker.holds j worker+Worker.runs j worker+s.finished.count j)
    (runs : ∀ j, started.count j+s.finished.count j+Worker.runs j worker =
      s.started.count j+finished.count j+Worker.runs j new) :
    Accounted cfg {s with
      queue := queue
      workers := s.workers.set i new
      finished := finished
      started := started
      idleCount := idle} := by
  refine ⟨valid.bounded,valid.slots,?_,length_set.trans valid.workers,valid.served⟩
  intro j
  have before := valid.balanced j
  have holds := total_set (Worker.holds j) at_i new
  have running := total_set (Worker.runs j) at_i new
  have kept := placed j
  have counted := runs j
  simp only [Balanced,State.placed,State.held,State.running] at before ⊢
  omega

theorem stepWorker_accounted {next : State} (at_i : s.workers[i]? = some worker)
    (ran : stepWorker s i worker = some next) : Accounted cfg next := by
  cases worker with
  | top =>
    cases ran
    exact worker_accounted valid at_i (fun _ => rfl) (fun _ => rfl)
  | waiting =>
    simp only [stepWorker] at ran
    split at ran <;> cases ran
    rename_i job queue waiting
    refine worker_accounted valid at_i ?_ (fun _ => rfl)
    intro j
    rw [waiting,count_head]
    simp only [Worker.holds,Worker.runs]
  | taken job | running job =>
    cases ran
    refine worker_accounted valid at_i ?_ ?_
    all_goals
      simp only [Worker.holds,Worker.runs,count_concat]
      omega

theorem thread_accounted (at_i : s.threads[i]? = some thread)
    (placed : ∀ j, Thread.holds j new+Thread.runs j new+finished.count j =
      Thread.holds j thread+Thread.runs j thread+s.finished.count j)
    (runs : ∀ j, started.count j+s.finished.count j+Thread.runs j thread =
      s.started.count j+finished.count j+Thread.runs j new) :
    Accounted cfg {s with threads := s.threads.set i new,finished := finished,started := started} := by
  refine ⟨valid.bounded,?_,?_,valid.workers,valid.served⟩
  · rw [length_set]
    exact valid.slots
  · intro j
    have before := valid.balanced j
    have holds := total_set (Thread.holds j) at_i new
    have running := total_set (Thread.runs j) at_i new
    have kept := placed j
    have counted := runs j
    simp only [Balanced,State.placed,State.held,State.running] at before ⊢
    omega

theorem leaving_accounted (at_i : s.threads[i]? = some .leaving) :
    Accounted cfg {s with threads := s.threads.eraseIdx i,overflowCount := s.overflowCount-1} := by
  obtain ⟨inside,_⟩ := List.getElem?_eq_some_iff.mp at_i
  have bounded := valid.bounded
  have slots := valid.slots
  refine ⟨?_,?_,?_,valid.workers,valid.served⟩
  · dsimp only
    omega
  · dsimp only
    rw [List.length_eraseIdx_of_lt inside]
    omega
  · intro j
    have before := valid.balanced j
    have holds : total (Thread.holds j) (s.threads.eraseIdx i)+0 = total (Thread.holds j) s.threads :=
      total_erase (Thread.holds j) at_i
    have running : total (Thread.runs j) (s.threads.eraseIdx i)+0 = total (Thread.runs j) s.threads :=
      total_erase (Thread.runs j) at_i
    simp only [Balanced,State.placed,State.held,State.running] at before ⊢
    omega

theorem stepThread_accounted (at_i : s.threads[i]? = some thread) : Accounted cfg (stepThread s i thread) := by
  cases thread with
  | spawned job => exact thread_accounted valid at_i (fun _ => rfl) (fun _ => rfl)
  | taken job | running job =>
    refine thread_accounted valid at_i ?_ ?_
    all_goals
      simp only [Thread.holds,Thread.runs,count_concat]
      omega
  | leaving => exact leaving_accounted valid at_i

theorem submit_accounted :
    Accounted cfg {s with submitted := s.submitted+1,calls := s.calls ++ [⟨s.submitted,.loadIdle⟩]} := by
  refine ⟨valid.bounded,?_,?_,valid.workers,?_⟩
  · rw [total_append]
    exact valid.slots
  · intro j
    have before := valid.balanced j
    have grown : known (s.submitted+1) j = known s.submitted j+token s.submitted j := by
      unfold known token
      grind
    have calls : total (Call.holds j) (s.calls ++ [⟨s.submitted,.loadIdle⟩]) =
        total (Call.holds j) s.calls+token s.submitted j := by
      rw [total_append]
      rfl
    have answers : total (Call.accepts j) (s.calls ++ [⟨s.submitted,.loadIdle⟩]) = total (Call.accepts j) s.calls := by
      rw [total_append]
      rfl
    simp only [Balanced,State.placed,State.held,State.running] at before ⊢
    omega
  · intro some_worker
    rw [total_append]
    exact valid.served some_worker

theorem step_accounted {next : State} (ran : step cfg s action = some next) : Accounted cfg next := by
  cases action with
  | submit =>
    cases ran
    exact submit_accounted valid
  | call i spurious spawned =>
    obtain ⟨call,at_i,rfl⟩ := Option.map_eq_some_iff.mp ran
    exact stepCall_accounted valid at_i
  | worker i =>
    obtain ⟨worker,at_i,ran⟩ := Option.bind_eq_some_iff.mp ran
    exact stepWorker_accounted valid at_i ran
  | thread i =>
    obtain ⟨thread,at_i,rfl⟩ := Option.map_eq_some_iff.mp ran
    exact stepThread_accounted valid at_i

end

theorem reached_accounted (path : Transition.Reached (system cfg) s) : Accounted cfg s := by
  refine Transition.Reached.invariant (fun s begun => ?_) (fun _ _ _ valid ran => step_accounted valid ran) path
  cases begun
  exact initial_accounted cfg

end Step

-- The overflow count is within its cap and exact; a job whose call returned `true` is in
-- one place and runs at most once; with a base worker no call returns `false`.
theorem pool_accounting (cfg : Setup) (s : State) (path : Transition.Reached (system cfg) s) :
    s.overflowCount ≤ cfg.maxOverflow ∧
    s.overflowCount = total Call.reserves s.calls+s.threads.length ∧
    (∀ job ∈ s.accepted, s.queue.count job+s.held job+s.running job+s.finished.count job = 1) ∧
    (∀ job, s.started.count job ≤ 1) ∧
    (1 ≤ cfg.size → s.rejected = []) := by
  have valid := reached_accounted path
  have single : ∀ job, known s.submitted job ≤ 1 := by
    intro job
    unfold known
    split
    · exact Nat.le_refl 1
    · exact Nat.zero_le 1
  refine ⟨valid.bounded,valid.slots,?_,?_,?_⟩
  · intro job returned
    obtain ⟨once,kept,_⟩ := valid.balanced job
    have answered : 1 ≤ s.accepted.count job := List.one_le_count_iff.mpr returned
    have one := single job
    unfold State.placed at once kept
    omega
  · intro job
    obtain ⟨once,_,runs⟩ := valid.balanced job
    have one := single job
    unfold State.placed at once
    omega
  · intro sized
    have workers : cfg.baseWorkers ≠ 0 := by
      unfold Setup.baseWorkers SAFETY_MIN_WORKERS
      split <;> omega
    exact List.eq_nil_of_length_eq_zero (Nat.eq_zero_of_add_eq_zero (valid.served workers)).2

def safetyPool : Setup := ⟨1,1,.safety⟩

def calls (n : Nat) : List Action := List.replicate n (.call 0 false true)

def serves (i : Nat) : List Action := [.worker i,.worker i]

def fillingSchedule : List Action :=
  [Action.worker 0,Action.worker 1] ++ Action.submit :: calls 3 ++ serves 0 ++ Action.submit :: calls 3 ++ serves 1 ++
    Action.submit :: calls 5 ++ [Action.thread 0,Action.thread 0] ++ Action.submit :: calls 5

-- Two jobs for the base workers, one for the only overflow thread, one that has to wait.
theorem pool_accounting_full : ∃ s, Transition.Reached (system safetyPool) s ∧ s.accepted = [0,1,2,3] ∧
    s.queue = [3] ∧ s.overflowCount = 1 ∧ s.queue.count 3+s.held 3+s.running 3+s.finished.count 3 = 1 := by
  have ran : (Transition.run (system safetyPool) (initial safetyPool) fillingSchedule).map
      (fun s => (s.accepted,s.queue,s.overflowCount)) = some ([0,1,2,3],[3],1) := by decide +kernel
  obtain ⟨s,path,same⟩ := Transition.run_shows ran rfl
  obtain ⟨accepted,same⟩ := Prod.mk.inj same
  obtain ⟨queue,count⟩ := Prod.mk.inj same
  obtain ⟨_,_,placed,_⟩ := pool_accounting safetyPool s path
  exact ⟨s,path,accepted,queue,count,placed 3 (by simp [accepted])⟩

end Scg.Pool
