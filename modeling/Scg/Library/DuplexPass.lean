import Scg.Library.Duplex

-- How much a pass of the loop can do between two looks at the stop flag.
namespace Duplex
open List

variable {σ α β : Type}

structure Meter where
  steps : Nat
  reads : Nat
  stalls : Nat
  deriving DecidableEq

def note (_ : State σ β) : Action α → Meter → Meter
  | .check _,_ => ⟨0,0,0⟩
  | .poll _ _,m => m
  | .read _,m => {m with steps := m.steps+1,reads := m.reads+1}
  | .write answer,m => {m with steps := m.steps+1,stalls := if answer.stalled then m.stalls+1 else 0}
  | .sent,m => {m with steps := m.steps+1}
  | .pending _,m => m

def metered (L : Loop σ α β) (inner : σ) : Transition.System (State σ β × Meter) (Action α) :=
  (system L inner).recording ⟨0,0,0⟩ note

def State.held (s : State σ β) : Nat :=
  match s.stage with
  | .ended _ => 0
  | .writing _ _ rest _ => s.batch.length+rest.length
  | _ => s.batch.length

def Loop.Sized (L : Loop σ α β) (chunk : Nat) : Prop :=
  ∀ side inner answer later reaction, (L.leg side).take inner answer = some (later,reaction) →
    reaction.bytes.length ≤ chunk

-- After so many reads none makes the drain go on, after so many fruitless writes one succeeds.
def yields (L : Loop σ α β) (reads stalls : Nat) (x : State σ β × Meter) : Action α → Bool
  | .read answer =>
    x.2.reads < reads ||
      match x.1.stage with
      | .reading side _ => ((L.leg side).take x.1.inner answer).all fun found => !found.2.goesOn
      | _ => true
  | .pending n => x.2.reads < reads || n == 0
  | .write answer => x.2.stalls < stalls || !answer.stalled
  | _ => true

section Bound
variable (reads stalls chunk : Nat)

def perRead : Nat := 2+chunk*(stalls+1)

def perPass : Nat := (reads+2)*perRead stalls chunk

def owed (kept done : Nat) : Nat := kept*(stalls+1)+(reads+2-done)*perRead stalls chunk

def potential (s : State σ β) (m : Meter) : Nat :=
  match s.stage with
  | .top => 0
  | .ended _ => 0
  | .waiting => perPass reads stalls chunk
  | .reading _ _ => owed reads stalls chunk s.batch.length m.reads
  | .asking _ _ => owed reads stalls chunk s.batch.length m.reads
  | .sending _ _ _ => 1+owed reads stalls chunk s.batch.length m.reads
  | .writing _ _ rest _ => rest.length*(stalls+1)-m.stalls+owed reads stalls chunk s.batch.length m.reads

def limit : Bool → Nat
  | true => reads+1
  | false => reads+2

def Fits (more : Bool) (m : Meter) : Next → Prop
  | .again => m.reads < limit reads more
  | _ => m.reads ≤ limit reads more

def Placed (s : State σ β) (m : Meter) : Prop :=
  match s.stage with
  | .top => s.batch = []
  | .ended _ => True
  | .waiting => s.batch = [] ∧ m.reads = 0 ∧ m.stalls = 0
  | .reading _ more => m.stalls = 0 ∧ Fits reads more m .again
  | .asking _ more => m.stalls = 0 ∧ Fits reads more m .ask
  | .sending _ more next => m.stalls = 0 ∧ Fits reads more m next
  | .writing _ more rest next => m.stalls ≤ stalls ∧ rest ≠ [] ∧ Fits reads more m next

structure Paced (s : State σ β) (m : Meter) : Prop where
  paid : m.steps+potential reads stalls chunk s m ≤ perPass reads stalls chunk
  placed : Placed reads stalls s m

end Bound

section Pace
variable {s : State σ β} {m : Meter}

theorem Fits.within {next : Next} (fits : Fits reads more m next) : m.reads ≤ limit reads more := by
  cases next with
  | again => exact Nat.le_of_lt fits
  | ask | leave | finish => exact fits

theorem Fits.last {next : Next} (fits : Fits reads true m next) : Fits reads false m .again := by
  have within : m.reads ≤ reads+1 := fits.within
  show m.reads < reads+2
  omega

theorem fits_again (left : m.reads ≤ reads) : Fits reads more m .again := by
  cases more with
  | true => exact Nat.lt_succ_of_le left
  | false => exact Nat.lt_succ_of_lt (Nat.lt_succ_of_le left)

theorem paced_leave (idle : m.stalls = 0) (fits : Fits reads more m .leave)
    (paid : m.steps+owed reads stalls chunk s.batch.length m.reads ≤ perPass reads stalls chunk) :
    Paced reads stalls chunk (s.leave side more) m := by
  unfold State.leave
  split
  · rename_i empty
    cases more with
    | true =>
      refine ⟨?_,idle,fits.last⟩
      have cleared : owed reads stalls chunk 0 m.reads ≤ owed reads stalls chunk s.batch.length m.reads :=
        Nat.add_le_add_right (Nat.mul_le_mul_right _ (Nat.zero_le _)) _
      exact Nat.le_trans (Nat.add_le_add_left cleared _) paid
    | false => exact ⟨Nat.le_trans (Nat.le_add_right _ _) paid,isEmpty_iff.mp empty⟩
  · rename_i kept
    refine ⟨?_,by rw [idle]; exact Nat.zero_le _,by simpa using kept,fits⟩
    simp only [potential,owed,length_nil] at paid ⊢
    omega

theorem paced_go {next : Next} (idle : m.stalls = 0) (fits : Fits reads more m next)
    (paid : m.steps+owed reads stalls chunk s.batch.length m.reads ≤ perPass reads stalls chunk) :
    Paced reads stalls chunk (s.go side more next) m := by
  cases next with
  | again | ask => exact ⟨paid,idle,fits⟩
  | leave => exact paced_leave idle fits paid
  | finish e => exact ⟨Nat.le_trans (Nat.le_add_right _ _) paid,trivial⟩

theorem paced_put {next : Next} (idle : m.stalls = 0) (fits : Fits reads more m next)
    (paid : m.steps+(bytes.length*(stalls+1)+owed reads stalls chunk s.batch.length m.reads) ≤ perPass reads stalls chunk) :
    Paced reads stalls chunk (s.put side more bytes next) m := by
  unfold State.put
  split
  · exact paced_go idle fits (Nat.le_trans (Nat.add_le_add_left (Nat.le_add_left _ _) _) paid)
  · rename_i some_
    refine ⟨?_,by rw [idle]; exact Nat.zero_le _,by simpa using some_,fits⟩
    simpa only [potential,idle,Nat.sub_zero] using paid

theorem owed_read (room : m.reads < reads+2) (sized : bytes ≤ chunk) (kept : Nat) :
    bytes*(stalls+1)+owed reads stalls chunk kept (m.reads+1)+2 ≤
      owed reads stalls chunk kept m.reads := by
  have split : reads+2-m.reads = (reads+2-(m.reads+1))+1 := by omega
  have bytes_paid : bytes*(stalls+1) ≤ chunk*(stalls+1) := Nat.mul_le_mul_right _ sized
  simp only [owed,split,Nat.succ_mul,perRead]
  omega

theorem paced_react (idle : m.stalls = 0) (fits : Fits reads more m .again)
    (sized : reaction.bytes.length ≤ chunk) (gives : reaction.goesOn = true → m.reads < reads)
    (paid : m.steps+owed reads stalls chunk s.batch.length m.reads ≤ perPass reads stalls chunk) :
    Paced reads stalls chunk (s.react side more reaction) {m with steps := m.steps+1,reads := m.reads+1} := by
  have room : m.reads < reads+2 := by
    have room : m.reads < limit reads more := fits
    cases more with
    | true => exact Nat.lt_of_lt_of_le room (Nat.le_succ _)
    | false => exact room
  have counted : reaction.bytes.length*(stalls+1)+owed reads stalls chunk s.batch.length (m.reads+1)+2 ≤
      owed reads stalls chunk s.batch.length m.reads := owed_read room sized _
  have fits_next : ∀ next, (next = .again → reaction.goesOn = true) →
      Fits reads more {m with steps := m.steps+1,reads := m.reads+1} next := by
    intro next again
    cases next with
    | again => exact fits_again (m := {m with reads := m.reads+1}) (gives (again rfl))
    | ask | leave | finish => exact fits
  cases reaction with
  | go next =>
    refine paced_go idle (fits_next next (by rintro rfl; rfl)) ?_
    dsimp only
    omega
  | keep bytes =>
    refine ⟨?_,idle,fits_next .again fun _ => rfl⟩
    simp only [Reaction.bytes,owed] at counted paid
    simp only [State.react,potential,owed,length_append,Nat.add_mul]
    omega
  | relay bytes next =>
    refine paced_put idle (fits_next next (by rintro rfl; rfl)) ?_
    simp only [Reaction.bytes,owed] at counted paid
    simp only [owed,length_append,length_nil,Nat.add_mul]
    omega
  | send next =>
    refine ⟨?_,idle,fits_next next (by rintro rfl; rfl)⟩
    simp only [State.react,potential]
    omega

theorem paced_finish (paid : spent.steps ≤ perPass reads stalls chunk) (e : Ending) :
    Paced reads stalls chunk (s.finish e) spent := ⟨paid,trivial⟩

theorem paced_serve (paid : m.steps = 0) (empty : s.batch = []) (fresh : m.reads = 0) (idle : m.stalls = 0) (ready : Bool × Bool) :
    Paced reads stalls chunk (s.serve ready) m := by
  have all : m.steps+owed reads stalls chunk 0 m.reads ≤ perPass reads stalls chunk := by
    simp only [owed,paid,fresh,Nat.zero_mul,Nat.zero_add]
    exact Nat.le_refl _
  have fits : ∀ more, Fits reads more m .again := fun more => fits_again (by rw [fresh]; exact Nat.zero_le _)
  match ready with
  | (true,more) => exact ⟨all,idle,fits more⟩
  | (false,true) => exact ⟨all,idle,fits false⟩
  | (false,false) => exact ⟨by rw [paid]; exact Nat.zero_le _,empty⟩

theorem write_paid (some_ : 0 < gone) (part : gone ≤ rest) (tried : m.stalls ≤ stalls) :
    (rest-gone)*(stalls+1)+1 ≤ rest*(stalls+1)-m.stalls := by
  obtain ⟨left,rfl⟩ := Nat.exists_eq_add_of_le part
  have one : stalls+1 ≤ gone*(stalls+1) := Nat.le_mul_of_pos_left _ some_
  rw [Nat.add_sub_cancel_left,Nat.add_mul]
  omega

theorem paced_step (sized : L.Sized chunk) {after : State σ β}
    (paced : Paced reads stalls chunk s m) (allowed : yields L reads stalls (s,m) action = true)
    (ran : step L s action = some after) : Paced reads stalls chunk after (note s action m) := by
  obtain ⟨paid,placed⟩ := paced
  have spent := Nat.le_trans (Nat.le_add_right _ _) paid
  cases step_moved ran with
  | stopped here => exact paced_finish (Nat.zero_le _) _
  | began here =>
    simp only [Placed,here] at placed
    exact ⟨Nat.le_of_eq (Nat.zero_add _),placed,rfl,rfl⟩
  | unpolled here => exact paced_finish spent _
  | polled here ready =>
    simp only [potential,Placed,here] at paid placed
    exact paced_serve (by omega) placed.1 placed.2.1 placed.2.2 ready
  | read here found =>
    simp only [potential,Placed,here] at paid placed
    refine paced_react placed.1 placed.2 (sized _ _ _ _ _ found) (fun goes => ?_) paid
    simpa [yields,here,found,goes] using allowed
  | gaveUp here =>
    simp only [potential,Placed,here] at paid placed
    have one := write_paid Nat.one_pos (length_pos_iff.mpr placed.2.1) placed.1
    refine paced_finish ?_ _
    simp only [note]
    omega
  | stalled here stall =>
    simp only [potential,Placed,here] at paid placed
    have one := write_paid Nat.one_pos (length_pos_iff.mpr placed.2.1) placed.1
    have tried : m.stalls < stalls := by simpa [yields,stall] using allowed
    refine ⟨?_,?_⟩
    · simp only [potential,here,note,stall,if_true]
      omega
    · simp only [Placed,here,note,stall]
      exact ⟨tried,placed.2⟩
  | partly here short =>
    simp only [potential,Placed,here] at paid placed
    have one := write_paid (Nat.add_one_pos _) (Nat.le_of_lt short) placed.1
    refine ⟨?_,Nat.zero_le _,?_,placed.2.2⟩
    · simp only [potential,note,length_drop,gave_batch]
      omega
    · rw [← length_pos_iff,length_drop]
      omega
  | wrote here whole =>
    simp only [potential,Placed,here] at paid placed
    have one := write_paid Nat.one_pos (length_pos_iff.mpr placed.2.1) placed.1
    refine paced_go rfl placed.2.2 ?_
    simp only [note,gave_batch]
    omega
  | sent here =>
    simp only [potential,Placed,here] at paid placed
    refine paced_go placed.1 placed.2 ?_
    simp only [note]
    omega
  | asked here =>
    simp only [potential,Placed,here] at paid placed
    refine paced_go placed.1 ?_ paid
    split
    · exact placed.2
    · rename_i more_left
      have left : m.reads < reads := by simpa [yields,more_left] using allowed
      exact fits_again (Nat.le_of_lt left)

theorem Paced.held (paced : Paced reads stalls chunk s m) : m.steps+s.held ≤ perPass reads stalls chunk := by
  obtain ⟨paid,placed⟩ := paced
  have kept : s.batch.length ≤ owed reads stalls chunk s.batch.length m.reads :=
    Nat.le_trans (Nat.le_mul_of_pos_right _ (Nat.succ_pos stalls)) (Nat.le_add_right _ _)
  unfold potential at paid
  unfold Placed at placed
  unfold State.held
  cases stage : s.stage with
  | top | waiting =>
    simp only [stage] at paid placed ⊢
    simp only [placed,length_nil]
    omega
  | ended => simpa only [stage] using paid
  | reading | asking | sending =>
    simp only [stage] at paid ⊢
    omega
  | writing side more rest next =>
    simp only [stage] at paid placed ⊢
    have tried := Nat.le_trans placed.1 (Nat.le_mul_of_pos_left stalls (length_pos_iff.mpr placed.2.1))
    rw [Nat.mul_succ] at paid
    omega

theorem pass_bounded (sized : L.Sized chunk) {inner : σ}
    (path : Transition.ReachedWhen (metered L inner) (fun x action => yields L reads stalls x action = true) (s,m)) :
    m.steps+s.held ≤ perPass reads stalls chunk := by
  have begun : ∀ x, (metered L inner).initial x → Paced reads stalls chunk x.1 x.2 := by
    rintro ⟨s,m⟩ ⟨rfl,rfl⟩
    exact ⟨Nat.zero_le _,rfl⟩
  have preserved : ∀ x action next, Paced reads stalls chunk x.1 x.2 → yields L reads stalls x action = true →
      (metered L inner).step x action = some next → Paced reads stalls chunk next.1 next.2 := by
    intro x action next paced allowed ran
    obtain ⟨after,taken,rfl⟩ := Option.map_eq_some_iff.mp ran
    exact paced_step sized paced allowed taken
  exact (path.invariant (I := fun x => Paced reads stalls chunk x.1 x.2) begun preserved).held

end Pace

section Endless
open Transition
variable {guard : State σ β × Meter → Action α → Prop} {s : State σ β}

theorem metered_start (inner : σ) : ReachedWhen (metered L inner) guard (start inner,⟨0,0,0⟩) := .initial ⟨rfl,rfl⟩

theorem metered_next {inner : σ} {after : State σ β} (path : ReachedWhen (metered L inner) guard (s,m))
    (allowed : guard (s,m) action) (ran : step L s action = some after) :
    ReachedWhen (metered L inner) guard (after,note s action m) :=
  .step path allowed (Option.map_eq_some_iff.mpr ⟨after,ran,rfl⟩)

theorem stalls_endlessly {inner : σ} {next : Next} (path : ReachedWhen (metered L inner) guard (s,m))
    (here : s.stage = .writing side more rest next) (refuses : ∀ x, guard x (.write (.wouldBlock true))) (bound : Nat) :
    ∃ m, ReachedWhen (metered L inner) guard (s,m) ∧ bound ≤ m.steps := by
  have stays : step L s (.write (.wouldBlock true)) = some s := by
    simp only [step,here,write,Writer.wrote,Bool.true_or,if_true,accepted,gave_nothing]
    rw [← here]
  induction bound with
  | zero => exact ⟨m,path,Nat.zero_le _⟩
  | succ bound ih =>
    obtain ⟨m,path,enough⟩ := ih
    exact ⟨_,metered_next path (refuses _) stays,Nat.succ_le_succ enough⟩

theorem react_relay {next : Next} (empty : s.batch = []) :
    s.react side more (.relay [byte] next) =
      {s.took side [byte] with stage := .writing side more [byte] next,batch := []} := by
  simp only [State.react,empty]
  rfl

theorem floods_endlessly {inner : σ} (path : ReachedWhen (metered L inner) guard (s,m))
    (here : s.stage = .reading side more) (empty : s.batch = [])
    (gives : (L.leg side).take s.inner answer = some (s.inner,.relay [byte] .again))
    (ready : ∀ x, guard x (.read answer)) (takes : ∀ x, guard x (.write (.ok 1))) (bound : Nat) :
    ∃ s m, ReachedWhen (metered L inner) guard (s,m) ∧ bound ≤ m.steps := by
  have drained : ∃ s' m, ReachedWhen (metered L inner) guard (s',m) ∧ s'.stage = .reading side more ∧ s'.batch = [] ∧
      s'.inner = s.inner ∧ bound ≤ m.steps := by
    induction bound with
    | zero => exact ⟨s,m,path,here,empty,rfl,Nat.zero_le _⟩
    | succ bound ih =>
      obtain ⟨s',m,path,here,empty,same,enough⟩ := ih
      have found : (L.leg side).take s'.inner answer = some (s'.inner,.relay [byte] .again) := by rwa [same]
      let writing : State σ β := {s'.took side [byte] with stage := .writing side more [byte] .again,batch := []}
      have read := (step_read here found).trans (congrArg some (react_relay empty))
      have wrote : step L writing (.write (.ok 1)) = some ((writing.gave side [byte]).go side more .again) := rfl
      refine ⟨_,_,metered_next (metered_next path (ready _) read) (takes _) wrote,rfl,gave_batch,?_,?_⟩
      · exact (@gave_inner _ _ writing side).trans (took_inner.trans same)
      · exact Nat.le_succ_of_le (Nat.succ_le_succ enough)
  obtain ⟨s',m,path,_,_,_,enough⟩ := drained
  exact ⟨s',m,path,enough⟩

theorem hoards_endlessly {inner : σ} (path : ReachedWhen (metered L inner) guard (s,m))
    (here : s.stage = .reading side more) (gives : (L.leg side).take s.inner answer = some (s.inner,.keep (byte :: bytes)))
    (ready : ∀ x, guard x (.read answer)) (bound : Nat) :
    ∃ s m, ReachedWhen (metered L inner) guard (s,m) ∧ bound ≤ m.steps ∧ bound ≤ s.held := by
  have filled : ∃ s' m, ReachedWhen (metered L inner) guard (s',m) ∧ s'.stage = .reading side more ∧
      s'.inner = s.inner ∧ bound ≤ m.steps ∧ bound ≤ s'.batch.length := by
    induction bound with
    | zero => exact ⟨s,m,path,here,rfl,Nat.zero_le _,Nat.zero_le _⟩
    | succ bound ih =>
      obtain ⟨s',m,path,here,same,enough,full⟩ := ih
      have found : (L.leg side).take s'.inner answer = some (s'.inner,.keep (byte :: bytes)) := by rwa [same]
      refine ⟨_,_,metered_next path (ready _) (step_read here found),rfl,took_inner.trans same,Nat.succ_le_succ enough,?_⟩
      simp only [State.react,length_append,length_cons]
      omega
  obtain ⟨s',m,path,here,_,enough,full⟩ := filled
  exact ⟨s',m,path,enough,by simpa only [State.held,here] using full⟩

end Endless

end Duplex
