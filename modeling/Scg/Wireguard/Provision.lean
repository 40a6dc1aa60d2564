import Scg.Library.Program
import Scg.Wireguard.Admin

namespace Scg.Wireguard
open List
open Net (Std)
open Program

inductive Tool where
  | ip
  | wg
  deriving DecidableEq

def Tool.name : Tool → String
  | .ip => "ip"
  | .wg => "wg"

structure KeyFile where
  dir : String
  name : String
  contents : List Char
  deriving DecidableEq

structure Host where
  links : List String
  dirs : List String
  files : List KeyFile
  deriving DecidableEq

-- A tool with its arguments, and the files that are on disk while it runs.
structure Invocation where
  tool : Tool
  argv : List String
  files : List KeyFile

structure World where
  host : Host
  ran : List Invocation
  operations : Nat

-- How an operation that deletes nothing ends. A write that fails leaves the file with what was written.
inductive Outcome where
  | succeeded
  | unstarted (e : String)
  | failed (e : String) (written : Nat)

abbrev Provisioning (α : Type) : Type := Program World String α

def World.invoke (w : World) (tool : Tool) (argv : List String) : World :=
  {w with ran := w.ran ++ [⟨tool,argv,w.host.files⟩],operations := w.operations+1}

section Operations
variable (outcomes : Nat → Outcome)

def runTool (tool : Tool) (argv : List String) (effect : Host → Host) : Provisioning Unit := fun w =>
  let invoked := w.invoke tool argv
  let name := tool.name
  let args := String.intercalate " " argv
  match outcomes w.operations with
  | .succeeded => (.ok (),{invoked with host := effect invoked.host})
  | .unstarted e => (.error s!"failed to run `{name}`: {e}",invoked)
  | .failed stderr _ =>
    let stderr := Text.trim stderr
    (.error s!"`{name} {args}` failed: {stderr}",invoked)

def Host.without (host : Host) (iface : String) : Host := {host with links := host.links.filter (· ≠ iface)}

def linkDel (iface : String) : Provisioning Unit :=
  modify fun w => {w.invoke .ip (ipLinkDelArgv iface) with host := w.host.without iface}

def safeIface (iface : String) : String :=
  iface.map fun c => if c.isAlphanum || c == '-' || c == '_' then c else '_'

def keyDir (base suffix iface : String) : String := s!"{base}/scg-wg-{safeIface iface}-{suffix}"

-- `mkdtemp` takes no name that is there.
def createKeyDir (base suffix iface : String) : Provisioning String := fun w =>
  let path := keyDir base suffix iface
  let counted := {w with operations := w.operations+1}
  match outcomes w.operations with
  | .succeeded =>
    if path ∈ w.host.dirs ∨ ∃ file ∈ w.host.files, file.dir = path then
      (.error s!"failed to create key dir under {base}: File exists (os error 17)",counted)
    else (.ok path,{counted with host := {w.host with dirs := path :: w.host.dirs}})
  | .unstarted e | .failed e _ => (.error s!"failed to create key dir under {base}: {e}",counted)

def inDir (dir name : String) : String := s!"{dir}/{name}"

def writeKey (dir name : String) (secret : Secret) : Provisioning String := fun w =>
  let contents := secret.expose.toList ++ ['\n']
  let counted := {w with operations := w.operations+1}
  if ∃ file ∈ w.host.files, file.dir = dir ∧ file.name = name then
    (.error "failed to create key file: File exists (os error 17)",counted)
  else
    match outcomes w.operations with
    | .unstarted e => (.error s!"failed to create key file: {e}",counted)
    | .failed e written =>
      (.error s!"failed to write key file: {e}",
        {counted with host := {w.host with files := w.host.files ++ [⟨dir,name,contents.take written⟩]}})
    | .succeeded => (.ok (inDir dir name),{counted with host := {w.host with files := w.host.files ++ [⟨dir,name,contents⟩]}})

def writePsk (dir : String) : Option Secret → Provisioning (Option String)
  | some psk => do
    let path ← writeKey outcomes dir "psk.key" psk
    return some path
  | none => pure none

def removeDirAll (dir : String) : Provisioning Unit := modify fun w =>
  {w with host := {w.host with dirs := w.host.dirs.filter (· ≠ dir),files := w.host.files.filter (·.dir ≠ dir)}}

variable (std : Std) (base suffix : String) (cfg : WgProviderConfig)

def setKeys (dir : String) : Provisioning Unit := do
  let keyPath ← writeKey outcomes dir "private.key" cfg.privateKey
  let pskPath ← writePsk outcomes dir cfg.presharedKey
  runTool outcomes .wg (wgSetArgv cfg keyPath pskPath) id

-- However the block ends in which the directory lives, it is dropped there.
def configure : Provisioning Unit := do
  let dir ← createKeyDir outcomes base suffix cfg.wgInterface
  let result ← attempt (setKeys outcomes cfg dir)
  removeDirAll dir
  ofExcept result
  runTool outcomes .ip (ipAddrAddArgv std cfg) id
  runTool outcomes .ip (ipLinkUpArgv cfg.wgInterface) id

def provision : Provisioning Unit := do
  linkDel cfg.wgInterface
  runTool outcomes .ip (ipLinkAddArgv cfg.wgInterface)
    fun host => {host with links := cfg.wgInterface :: host.links}
  match ← attempt (configure outcomes std base suffix cfg) with
  | .ok _ => pure ()
  | .error e => do
    linkDel cfg.wgInterface
    fail e

end Operations

def WgProviderConfig.masked (cfg : WgProviderConfig) : WgProviderConfig :=
  {cfg with privateKey := ⟨"***"⟩,presharedKey := cfg.presharedKey.map fun _ => ⟨"***"⟩}

def argumentLists (std : Std) (cfg : WgProviderConfig) (dir : String) : List (List String) :=
  [ipLinkDelArgv cfg.wgInterface,ipLinkAddArgv cfg.wgInterface,
    wgSetArgv cfg (inDir dir "private.key") (cfg.presharedKey.map fun _ => inDir dir "psk.key"),
    ipAddrAddArgv std cfg,ipLinkUpArgv cfg.wgInterface]

-- What a provisioning starts from, with the name that `mkdtemp` makes up.
structure Start where
  std : Std
  cfg : WgProviderConfig
  base : String
  suffix : String
  host : Host

namespace Start
variable (s : Start)

def dir : String := keyDir s.base s.suffix s.cfg.wgInterface

def others : List String := s.host.links.filter (· ≠ s.cfg.wgInterface)

-- Every `ip` ran with the disk as it was, and whatever ran had arguments that the configuration
-- gives without its keys.
def Veiled (ran : List Invocation) : Prop :=
  ∀ run ∈ ran, (run.tool = .ip → run.files = s.host.files) ∧ run.argv ∈ argumentLists s.std s.cfg.masked s.dir

structure Rests (links : List String) (w : World) : Prop where
  host : w.host = {s.host with links := links}
  veiled : s.Veiled w.ran

-- The key directory is there, and the only files that are new lie in it.
structure Keyed (links : List String) (w : World) : Prop where
  fresh : s.dir ∉ s.host.dirs ∧ ∀ file ∈ s.host.files, file.dir ≠ s.dir
  host : ∃ keys, w.host = ⟨links,s.dir :: s.host.dirs,s.host.files ++ keys⟩ ∧ ∀ key ∈ keys, key.dir = s.dir
  veiled : s.Veiled w.ran

end Start

section Run
variable {outcomes : Nat → Outcome} {s : Start} {R : String → World → Prop}

theorem veiled_invoke {w : World} (veiled : s.Veiled w.ran)
    (hidden : tool = .ip → w.host.files = s.host.files) (known : argv ∈ argumentLists s.std s.cfg s.dir) :
    s.Veiled (w.invoke tool argv).ran := by
  intro run present
  rcases mem_append.mp present with old | new
  · exact veiled run old
  · rw [mem_singleton.mp new]
    refine ⟨hidden,?_⟩
    simpa [argumentLists,WgProviderConfig.masked,wgSetArgv,ipAddrAddArgv,Function.comp_def] using known

theorem rests_invoke (rests : s.Rests links w) (known : argv ∈ argumentLists s.std s.cfg s.dir) :
    s.Rests links (w.invoke .ip argv) :=
  ⟨rests.host,veiled_invoke rests.veiled (fun _ => by rw [rests.host]) known⟩

theorem spec_ip {next : List String} {effect : Host → Host} (known : argv ∈ argumentLists s.std s.cfg s.dir)
    (changes : effect {s.host with links := links} = {s.host with links := next}) :
    Spec (s.Rests links) (runTool outcomes .ip argv effect) (fun _ => s.Rests next) fun _ => s.Rests links := by
  intro w rests
  have invoked := rests_invoke rests known
  unfold runTool
  cases outcomes w.operations with
  | succeeded => exact ⟨(congrArg effect invoked.host).trans changes,invoked.veiled⟩
  | unstarted | failed => exact invoked

theorem spec_linkDel : Spec (s.Rests links) (linkDel s.cfg.wgInterface)
    (fun _ => s.Rests (links.filter (· ≠ s.cfg.wgInterface))) R := by
  intro w rests
  have known : ipLinkDelArgv s.cfg.wgInterface ∈ argumentLists s.std s.cfg s.dir := by simp [argumentLists]
  exact ⟨congrArg (Host.without · s.cfg.wgInterface) rests.host,(rests_invoke rests known).veiled⟩

theorem spec_createKeyDir : Spec (s.Rests links) (createKeyDir outcomes s.base s.suffix s.cfg.wgInterface)
    (fun dir w => dir = s.dir ∧ s.Keyed links w) fun _ => s.Rests links := by
  rintro w ⟨host,veiled⟩
  unfold createKeyDir
  cases outcomes w.operations with
  | unstarted | failed => exact ⟨host,veiled⟩
  | succeeded =>
    simp only [show keyDir s.base s.suffix s.cfg.wgInterface = s.dir from rfl]
    by_cases taken : s.dir ∈ w.host.dirs ∨ ∃ file ∈ w.host.files, file.dir = s.dir
    · rw [if_pos taken]
      exact ⟨host,veiled⟩
    · rw [if_neg taken]
      rw [host,not_or] at taken
      refine ⟨rfl,⟨taken.1,fun file present same => taken.2 ⟨file,present,same⟩⟩,⟨[],?_,nofun⟩,veiled⟩
      rw [host,append_nil]

theorem spec_writeKey : Spec (s.Keyed links) (writeKey outcomes s.dir name secret)
    (fun path w => path = inDir s.dir name ∧ s.Keyed links w) fun _ => s.Keyed links := by
  rintro w ⟨fresh,⟨keys,host,inside⟩,veiled⟩
  have more (contents : List Char) :
      s.Keyed links ⟨{w.host with files := w.host.files ++ [⟨s.dir,name,contents⟩]},w.ran,w.operations+1⟩ := by
    refine ⟨fresh,⟨keys ++ [⟨s.dir,name,contents⟩],by rw [host,append_assoc],?_⟩,veiled⟩
    exact forall_mem_append.mpr ⟨inside,forall_mem_singleton.mpr rfl⟩
  unfold writeKey
  by_cases taken : ∃ file ∈ w.host.files, file.dir = s.dir ∧ file.name = name
  · rw [if_pos taken]
    exact ⟨fresh,⟨keys,host,inside⟩,veiled⟩
  · rw [if_neg taken]
    cases outcomes w.operations with
    | unstarted e => exact ⟨fresh,⟨keys,host,inside⟩,veiled⟩
    | failed e written => exact more _
    | succeeded => exact ⟨rfl,more _⟩

theorem spec_writePsk : Spec (s.Keyed links) (writePsk outcomes s.dir psk)
    (fun path w => path = psk.map (fun _ => inDir s.dir "psk.key") ∧ s.Keyed links w) fun _ => s.Keyed links := by
  cases psk with
  | none => exact spec_pure fun _ keyed => ⟨rfl,keyed⟩
  | some psk =>
    apply spec_bind spec_writeKey
    intro path
    exact spec_pure fun _ ⟨named,keyed⟩ => ⟨congrArg some named,keyed⟩

theorem spec_setKeys :
    Spec (s.Keyed links) (setKeys outcomes s.cfg s.dir) (fun _ => s.Keyed links) fun _ => s.Keyed links := by
  apply spec_bind spec_writeKey
  intro keyPath
  apply spec_bind ((spec_fact spec_writePsk).weaken (fun _ holds => holds) (fun _ _ holds => holds) fun _ _ holds => holds.2)
  rintro pskPath w ⟨rfl,rfl,fresh,host,veiled⟩
  have known : wgSetArgv s.cfg (inDir s.dir "private.key") (s.cfg.presharedKey.map fun _ => inDir s.dir "psk.key") ∈
      argumentLists s.std s.cfg s.dir := by simp [argumentLists]
  unfold runTool
  cases outcomes w.operations <;> exact ⟨fresh,host,veiled_invoke veiled nofun known⟩

theorem spec_removeDirAll : Spec (s.Keyed links) (removeDirAll s.dir) (fun _ => s.Rests links) R := by
  rintro w ⟨⟨newDir,apart⟩,⟨keys,host,inside⟩,veiled⟩
  refine ⟨?_,veiled⟩
  have dirs : (s.dir :: s.host.dirs).filter (· ≠ s.dir) = s.host.dirs := by
    rw [filter_cons_of_neg (by simp),filter_eq_self]
    exact fun other present => decide_eq_true fun same => newDir (same ▸ present)
  have files : (s.host.files ++ keys).filter (·.dir ≠ s.dir) = s.host.files := by
    rw [filter_append,filter_eq_self.mpr fun file present => decide_eq_true (apart file present),
      filter_eq_nil_iff.mpr fun key present => by simp [inside key present],append_nil]
  dsimp only
  rw [host,dirs,files]

theorem spec_configure : Spec (s.Rests links) (configure outcomes s.std s.base s.suffix s.cfg)
    (fun _ => s.Rests links) fun _ => s.Rests links := by
  have closes (result : Except String Unit) : Spec (s.Keyed links) (do
      removeDirAll s.dir
      ofExcept result
      runTool outcomes .ip (ipAddrAddArgv s.std s.cfg) id
      runTool outcomes .ip (ipLinkUpArgv s.cfg.wgInterface) id) (fun _ => s.Rests links) fun _ => s.Rests links := by
    apply spec_bind spec_removeDirAll
    intro _
    apply spec_bind (spec_ofExcept (fun _ _ _ holds => holds) fun _ _ _ holds => holds)
    intro _
    apply spec_bind (spec_ip (by simp [argumentLists]) rfl)
    intro _
    exact spec_ip (by simp [argumentLists]) rfl
  apply spec_bind spec_createKeyDir
  rintro dir w ⟨rfl,keyed⟩
  exact spec_attempt_bind spec_setKeys (fun _ => closes _) (fun _ => closes _) w keyed

theorem spec_provision (outcomes : Nat → Outcome) (s : Start) :
    Spec (s.Rests s.host.links) (provision outcomes s.std s.base s.suffix s.cfg)
      (fun _ => s.Rests (s.cfg.wgInterface :: s.others)) fun _ => s.Rests s.others := by
  apply spec_bind spec_linkDel
  intro _
  apply spec_bind (spec_ip (by simp [argumentLists]) rfl)
  intro _
  apply spec_attempt_bind spec_configure
  · intro _
    exact spec_pure fun _ holds => holds
  · intro e
    apply spec_bind spec_linkDel
    intro _
    refine spec_fail fun w holds => ?_
    simpa using holds

end Run

-- What is left after a provisioning that ended with `result`.
structure CleanedUp (s : Start) (result : Except String Unit) (w : World) : Prop where
  links : ∀ e, result = .error e → w.host.links = s.others
  disk : w.host.dirs = s.host.dirs ∧ w.host.files = s.host.files
  veiled : s.Veiled w.ran

theorem provision_cleans_up (outcomes : Nat → Outcome) (s : Start) :
    ∃ result w, provision outcomes s.std s.base s.suffix s.cfg ⟨s.host,[],0⟩ = (result,w) ∧ CleanedUp s result w := by
  have ends := spec_provision outcomes s ⟨s.host,[],0⟩ ⟨rfl,nofun⟩
  generalize provision outcomes s.std s.base s.suffix s.cfg ⟨s.host,[],0⟩ = ended at ends ⊢
  obtain ⟨result,w⟩ := ended
  refine ⟨result,w,rfl,?_⟩
  cases result with
  | ok _ => exact ⟨nofun,by rw [ends.host]; exact ⟨rfl,rfl⟩,ends.veiled⟩
  | error e => exact ⟨fun _ _ => by rw [ends.host],by rw [ends.host]; exact ⟨rfl,rfl⟩,ends.veiled⟩

end Scg.Wireguard
