import Scg.Config.Diff
import Scg.Library.Stamped
import Scg.Library.Transition

namespace Scg.ConfigManager
open Config Stamped Transition

structure SharedConfig (Time : Type) where
  config : GatewayConfig
  lastModified : Time

-- Before and in the startup load, before `SharedConfig::new`, and then outside or in a
-- call of `reload`. A read is `torn` when the file was written after it began.
inductive Stage (Time : Type) where
  | starting
  | loading (torn : Bool)
  | loaded (config : GatewayConfig)
  | stopped (e : String)
  | idle (shared : SharedConfig Time) (answer : Option (Except String ConfigDiff))
  | called (shared : SharedConfig Time)
  | statted (shared : SharedConfig Time) (preRead : Time)
  | reading (shared : SharedConfig Time) (preRead : Time) (torn : Bool)
  | replacing (shared : SharedConfig Time) (preRead : Time) (new : GatewayConfig)
  | stamped (shared : SharedConfig Time) (new : GatewayConfig)

structure State (Time : Type) where
  file : Source String Time
  stage : Stage Time

inductive Action (Time : Type) where
  | write (contents : String) (mtime : Time)
  | beginLoad
  | finishLoad (contents : String)
  | construct
  | poll (sighup : Bool)
  | stat
  | beginRead
  | finishRead (contents : String)
  | stamp
  | swap

def Stage.written : Stage Time → Stage Time
  | .loading _ => .loading true
  | .reading shared preRead _ => .reading shared preRead true
  | stage => stage

variable {Time : Type} [DecidableEq Time]

def SharedConfig.new (config : GatewayConfig) (file : Source String Time) : SharedConfig Time := ⟨config,file.stamp⟩

def SharedConfig.hasChanged (shared : SharedConfig Time) (file : Source String Time) : Bool :=
  decide (file.stamp ≠ shared.lastModified)

def load (env : Parsers) (parse : String → Except String GatewayConfig) (contents : String) :
    Except String GatewayConfig := do
  let config ← parse contents
  config.validate env
  return config

-- A read that no write fell into has the contents of the file; a torn one has any.
def readable (file : Source String Time) (torn : Bool) (contents : String) : Bool :=
  torn || contents == file.contents

def step (env : Parsers) (parse : String → Except String GatewayConfig) (s : State Time) (action : Action Time) :
    Option (State Time) :=
  match action,s.stage with
  | .write contents mtime,stage => (s.file.write contents mtime).map fun file => ⟨file,stage.written⟩
  | .beginLoad,.starting => some ⟨s.file,.loading false⟩
  | .finishLoad contents,.loading torn =>
    if readable s.file torn contents then
      match load env parse contents with
      | .ok config => some ⟨s.file,.loaded config⟩
      | .error e => some ⟨s.file,.stopped e⟩
    else none
  | .construct,.loaded config => some ⟨s.file,.idle (SharedConfig.new config s.file) none⟩
  -- The watcher calls `reload` on a signal or on a change.
  | .poll sighup,.idle shared answer =>
    some ⟨s.file,if sighup || shared.hasChanged s.file then .called shared else .idle shared answer⟩
  | .stat,.called shared => some ⟨s.file,.statted shared s.file.stamp⟩
  | .beginRead,.statted shared preRead => some ⟨s.file,.reading shared preRead false⟩
  | .finishRead contents,.reading shared preRead torn =>
    if readable s.file torn contents then
      match load env parse contents with
      | .ok new => some ⟨s.file,.replacing shared preRead new⟩
      | .error e => some ⟨s.file,.idle shared (some (.error e))⟩
    else none
  | .stamp,.replacing shared preRead new => some ⟨s.file,.stamped {shared with lastModified := preRead} new⟩
  | .swap,.stamped shared new =>
    some ⟨s.file,.idle {shared with config := new} (some (.ok (shared.config.diff new)))⟩
  | _,_ => none

inductive Moved (env : Parsers) (parse : String → Except String GatewayConfig) :
    State Time → Action Time → State Time → Prop where
  | write : file.write contents mtime = some after →
      Moved env parse ⟨file,stage⟩ (.write contents mtime) ⟨after,stage.written⟩
  | beginLoad : Moved env parse ⟨file,.starting⟩ .beginLoad ⟨file,.loading false⟩
  | finishLoad : readable file torn contents = true → load env parse contents = .ok config →
      Moved env parse ⟨file,.loading torn⟩ (.finishLoad contents) ⟨file,.loaded config⟩
  | failLoad : Moved env parse ⟨file,.loading torn⟩ (.finishLoad contents) ⟨file,.stopped e⟩
  | construct : Moved env parse ⟨file,.loaded config⟩ .construct ⟨file,.idle (SharedConfig.new config file) none⟩
  | pollCalls : Moved env parse ⟨file,.idle shared answer⟩ (.poll sighup) ⟨file,.called shared⟩
  | pollWaits : Moved env parse ⟨file,.idle shared answer⟩ (.poll sighup) ⟨file,.idle shared answer⟩
  | stat : Moved env parse ⟨file,.called shared⟩ .stat ⟨file,.statted shared file.stamp⟩
  | beginRead : Moved env parse ⟨file,.statted shared preRead⟩ .beginRead ⟨file,.reading shared preRead false⟩
  | finishRead : readable file torn contents = true → load env parse contents = .ok new →
      Moved env parse ⟨file,.reading shared preRead torn⟩ (.finishRead contents) ⟨file,.replacing shared preRead new⟩
  | failRead : Moved env parse ⟨file,.reading shared preRead torn⟩ (.finishRead contents)
      ⟨file,.idle shared (some (.error e))⟩
  | stamp : Moved env parse ⟨file,.replacing shared preRead new⟩ .stamp
      ⟨file,.stamped {shared with lastModified := preRead} new⟩
  | swap : Moved env parse ⟨file,.stamped shared new⟩ .swap
      ⟨file,.idle {shared with config := new} (some (.ok (shared.config.diff new)))⟩

theorem step_moved {parse : String → Except String GatewayConfig}
    {action : Action Time} (ran : step env parse s action = some next) : Moved env parse s action next := by
  obtain ⟨file,stage⟩ := s
  cases action with
  | write contents mtime =>
    obtain ⟨after,wrote,rfl⟩ := Option.map_eq_some_iff.mp ran
    exact .write wrote
  | finishLoad contents =>
    cases stage with
    | loading torn =>
      obtain ⟨read,ran⟩ := Option.ite_none_right_eq_some.mp ran
      split at ran <;> cases ran
      · rename_i config parsed
        exact .finishLoad read parsed
      · exact .failLoad
    | _ => cases ran
  | poll sighup =>
    cases stage <;> cases ran
    split
    · exact .pollCalls
    · exact .pollWaits
  | finishRead contents =>
    cases stage with
    | reading shared preRead torn =>
      obtain ⟨read,ran⟩ := Option.ite_none_right_eq_some.mp ran
      split at ran <;> cases ran
      · rename_i new parsed
        exact .finishRead read parsed
      · exact .failRead
    | _ => cases ran
  | _ =>
    -- each of the others is enabled at one stage
    cases stage <;> cases ran
    constructor

def watching (env : Parsers) (parse : String → Except String GatewayConfig) : System (State Time) (Action Time) where
  initial s := s.stage = .starting
  step := step env parse

def Converged (env : Parsers) (parse : String → Except String GatewayConfig) (s : State Time) : Prop :=
  ∀ shared answer, s.stage = .idle shared answer → shared.hasChanged s.file = false →
    load env parse s.file.contents = .ok shared.config

-- No write from the beginning of the startup load to the stat in `SharedConfig::new`.
def undisturbed (s : State Time) (action : Action Time) : Bool :=
  match action,s.stage with
  | .write _ _,.loading _ => false
  | .write _ _,.loaded _ => false
  | _,_ => true

def Undisturbed (s : State Time) (action : Action Time) : Prop := undisturbed s action = true

section Invariant
variable {parse : String → Except String GatewayConfig}
variable {s : State Time} {file : Source String Time}

def Holds (env : Parsers) (parse : String → Except String GatewayConfig) (file : Source String Time) (mtime : Time)
    (config : GatewayConfig) : Prop :=
  Current file mtime fun contents => load env parse contents = .ok config

-- A reload has to have its stamp before its read: whatever is written after the stamp
-- takes the file away from it for good.
def Tracks (env : Parsers) (parse : String → Except String GatewayConfig) (file : Source String Time) :
    Stage Time → Prop
  | .idle shared _ => Holds env parse file shared.lastModified shared.config
  | .called shared => Holds env parse file shared.lastModified shared.config
  | .statted shared preRead => Holds env parse file shared.lastModified shared.config ∧ preRead ∈ file.past
  | .reading shared preRead torn => Holds env parse file shared.lastModified shared.config ∧ preRead ∈ file.past ∧
      (torn = true → file.stamp ≠ preRead)
  | .replacing _ preRead new => Holds env parse file preRead new
  | .stamped shared new => Holds env parse file shared.lastModified new
  | .starting | .loading _ | .loaded _ | .stopped _ => True

omit [DecidableEq Time] in
theorem readable_contents (read : readable file torn contents = true)
    (whole : torn = false) : contents = file.contents := by simpa [readable,whole] using read

theorem holds_written (held : Holds env parse file old config) (wrote : file.write contents mtime = some after) :
    Holds env parse after old config := Current.write held wrote

theorem tracks_written (tracks : Tracks env parse file stage) (wrote : file.write contents mtime = some after) :
    Tracks env parse after stage.written := by
  cases stage with
  | idle | called | replacing | stamped => exact holds_written tracks wrote
  | statted shared preRead => exact ⟨holds_written tracks.1 wrote,(write_past wrote tracks.2).1⟩
  | reading shared preRead torn =>
    obtain ⟨seen,gone⟩ := write_past wrote tracks.2.1
    exact ⟨holds_written tracks.1 wrote,seen,fun _ => gone⟩
  | _ => trivial

omit [DecidableEq Time] in
theorem tracks_finishRead (tracks : Tracks env parse file (.reading shared preRead torn))
    (read : readable file torn contents = true) (parsed : load env parse contents = .ok new) :
    Holds env parse file preRead new := by
  obtain ⟨_,seen,gone⟩ := tracks
  refine ⟨seen,fun same => ?_⟩
  cases torn with
  | true => exact absurd same (gone rfl)
  | false => rw [← readable_contents read rfl]; exact parsed

-- `SharedConfig::new` is the one step that takes a stamp without a read after it.
def Settled (env : Parsers) (parse : String → Except String GatewayConfig) (s : State Time) (action : Action Time) :
    Prop :=
  match action,s.stage with
  | .construct,.loaded config => load env parse s.file.contents = .ok config
  | _,_ => True

theorem tracks_moved (moved : Moved env parse s action next) (settled : Settled env parse s action)
    (tracks : Tracks env parse s.file s.stage) : Tracks env parse next.file next.stage := by
  cases moved with
  | write wrote => exact tracks_written tracks wrote
  | beginLoad | finishLoad | failLoad => trivial
  | construct => exact ⟨Source.known _,fun _ => settled⟩
  | stat => exact ⟨tracks,Source.known _⟩
  | beginRead => exact ⟨tracks.1,tracks.2,by simp⟩
  | finishRead read parsed => exact tracks_finishRead tracks read parsed
  | failRead => exact tracks.1
  | _ => exact tracks

theorem tracks_converged (tracks : Tracks env parse s.file s.stage) : Converged env parse s := by
  intro shared answer here unchanged
  rw [here] at tracks
  refine tracks.2 ?_
  simpa [SharedConfig.hasChanged] using unchanged

def Startup (env : Parsers) (parse : String → Except String GatewayConfig) (s : State Time) : Prop :=
  match s.stage with
  | .loading torn => torn = false
  | .loaded config => load env parse s.file.contents = .ok config
  | _ => True

omit [DecidableEq Time] in
theorem startup_settled (startup : Startup env parse s) : Settled env parse s action := by
  unfold Settled
  split
  · rename_i config here
    simpa only [Startup,here] using startup
  · trivial

theorem startup_moved (moved : Moved env parse s action next) (quiet : Undisturbed s action)
    (startup : Startup env parse s) : Startup env parse next := by
  cases moved with
  | @write after file stage contents mtime wrote =>
    cases stage with
    | loading | loaded => cases quiet
    | _ => trivial
  | beginLoad => rfl
  | finishLoad read parsed =>
    have same := readable_contents read startup
    subst same
    exact parsed
  | _ => trivial

theorem undisturbed_tracks (path : ReachedWhen (watching env parse) Undisturbed s) :
    Startup env parse s ∧ Tracks env parse s.file s.stage := by
  refine ReachedWhen.invariant (I := fun s => Startup env parse s ∧ Tracks env parse s.file s.stage) ?_ ?_ path
  · intro s begun
    change s.stage = .starting at begun
    simp [Startup,Tracks,begun]
  · intro s action next ⟨startup,tracks⟩ quiet ran
    have moved := step_moved ran
    exact ⟨startup_moved moved quiet startup,tracks_moved moved (startup_settled startup) tracks⟩

def Constructed (s : State Time) : Prop :=
  match s.stage with
  | .starting | .loading _ | .loaded _ | .stopped _ => False
  | _ => True

theorem constructed_moved (moved : Moved env parse s action next) (constructed : Constructed s) : Constructed next := by
  cases moved with
  | @write after file stage contents mtime wrote =>
    cases stage with
    | idle | called | statted | reading | replacing | stamped => trivial
    | _ => exact constructed.elim
  | beginLoad | finishLoad | failLoad => exact constructed.elim
  | _ => trivial

-- Past its construction the handle takes no stamp that it does not read after.
omit [DecidableEq Time] in
theorem constructed_settled (constructed : Constructed s) : Settled env parse s action := by
  unfold Settled
  split
  · rename_i config here
    simp [Constructed,here] at constructed
  · trivial

theorem constructed_tracks {actions : List (Action Time)} (constructed : Constructed s)
    (tracks : Tracks env parse s.file s.stage) (ran : run (watching env parse) s actions = some next) :
    Tracks env parse next.file next.stage := by
  have both := run_invariant (I := fun s => Constructed s ∧ Tracks env parse s.file s.stage) ?_ ⟨constructed,tracks⟩ ran
  · exact both.2
  · intro s action next ⟨constructed,tracks⟩ ran
    have moved := step_moved ran
    exact ⟨constructed_moved moved constructed,tracks_moved moved (constructed_settled constructed) tracks⟩

end Invariant

theorem config_converges (env : Parsers) (parse : String → Except String GatewayConfig) :
    (∀ s : State Time, ReachedWhen (watching env parse) Undisturbed s → Converged env parse s) ∧
    ∀ (file : Source String Time) (config : GatewayConfig),
      (∀ actions s, run (watching env parse) ⟨file,.loaded config⟩ (.construct :: actions) = some s →
        Converged env parse s) ↔ load env parse file.contents = .ok config := by
  refine ⟨fun s path => tracks_converged (undisturbed_tracks path).2,fun file config => ⟨?_,?_⟩⟩
  · intro converges
    refine converges [] ⟨file,.idle (SharedConfig.new config file) none⟩ rfl _ _ rfl ?_
    simp [SharedConfig.hasChanged,SharedConfig.new]
  · intro settled actions s ran
    let made : State Time := ⟨file,.idle (SharedConfig.new config file) none⟩
    have tracks : Tracks env parse made.file made.stage := ⟨file.known,fun _ => settled⟩
    exact tracks_converged (constructed_tracks (s := made) trivial tracks ran)

def ruleNamed (contents : String) : Except String GatewayConfig :=
  let rule : RuleConfig := {
    name := contents
    direction := .encrypt
    listenAddr := "127.0.0.1:80"
    upstreamAddr := "10.0.0.1:443"
    securityProvider := "routing"}
  .ok {rules := [rule]}

def firstFile : Source String Nat := ⟨"first",1,[1],List.mem_cons_self⟩

-- A write lands after the startup load and before the stat.
theorem startup_write_missed : ∃ s : State Nat, Reached (watching Parsers.accepting ruleNamed) s ∧
    ∃ shared, s.stage = .idle shared none ∧ shared.hasChanged s.file = false ∧ s.file.contents = "second" ∧
      shared.config.rules.map (·.name) = ["first"] ∧ ¬ Converged Parsers.accepting ruleNamed s := by
  obtain ⟨s,ran⟩ : ∃ s, run (watching Parsers.accepting ruleNamed) ⟨firstFile,.starting⟩
      [.beginLoad,.finishLoad "first",.write "second" 2,.construct] = some s := ⟨_,rfl⟩
  have begun : (watching Parsers.accepting ruleNamed).initial ⟨firstFile,.starting⟩ := rfl
  refine ⟨s,reached_run (.initial begun) ran,?_⟩
  cases ran
  refine ⟨_,rfl,rfl,rfl,rfl,fun converged => ?_⟩
  have same := congrArg (Except.map fun config : GatewayConfig => config.rules.map (·.name)) (converged _ _ rfl rfl)
  exact absurd same (by decide)

-- A write before the startup load, and one between the stat and the read of a reload: the
-- reload's stamp is then the older one, and the next poll reads again.
theorem config_converges_reload : ∃ s : State Nat,
    ReachedWhen (watching Parsers.accepting ruleNamed) Undisturbed s ∧
    ∃ shared answer, s.stage = .idle shared answer ∧ shared.hasChanged s.file = false ∧
      shared.config.rules.map (·.name) = ["third"] ∧
      load Parsers.accepting ruleNamed s.file.contents = .ok shared.config := by
  obtain ⟨s,ran⟩ : ∃ s, runChecked (watching Parsers.accepting ruleNamed) undisturbed ⟨firstFile,.starting⟩
      [.write "second" 2,.beginLoad,.finishLoad "second",.construct,.poll true,.stat,.write "third" 3,.beginRead,
        .finishRead "third",.stamp,.swap,.poll false,.stat,.beginRead,.finishRead "third",.stamp,.swap] = some s :=
    ⟨_,rfl⟩
  have begun : (watching Parsers.accepting ruleNamed).initial ⟨firstFile,.starting⟩ := rfl
  have path : ReachedWhen (watching Parsers.accepting ruleNamed) Undisturbed s :=
    reachedWhen_run (fun _ _ quiet => quiet) (.initial begun) ran
  refine ⟨s,path,?_⟩
  have converged := (config_converges Parsers.accepting ruleNamed).1 s path
  cases ran
  exact ⟨_,_,rfl,rfl,rfl,converged _ _ rfl rfl⟩

end Scg.ConfigManager
