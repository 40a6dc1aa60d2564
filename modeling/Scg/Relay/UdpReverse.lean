import Scg.Relay.PolicyGate
import Scg.Relay.UdpFraming

namespace Scg.Relay

inductive TlsRead where
  | ok (bytes : List UInt8)
  | wouldBlock | interrupted | failed
  deriving DecidableEq

end Scg.Relay

namespace Scg.Relay.UdpReverse
open Net Deframe List

variable {R : AleReader}

-- Poll, drain the client's socket, read the tunnel; `batched` counts the datagrams framed.
inductive Stage where
  | top
  | forward (tlsReady : Bool) (batched : Nat)
  | reverse
  | ended
  deriving DecidableEq

-- `handed` lists the deframed datagrams, each with the client pinned at that moment,
-- `staged` those put into the send batch; `reads` are the answers of all reads.
structure State (R : AleReader) where
  framing : UdpFraming R
  lastPeer : Option SocketAddr
  stage : Stage
  handed : List (Option SocketAddr × Datagram)
  staged : List (SocketAddr × Datagram)
  reads : List TlsRead

def initial (framing : UdpFraming R) : State R :=
  {framing := framing,lastPeer := none,stage := .top,handed := [],staged := [],reads := []}

inductive Action where
  | poll (ready : Option (Bool × Bool))
  | receive (src : Option SocketAddr)
  | flush (written : Bool)
  | read (result : TlsRead) (sslPending : Nat)
  | shutdown

def afterForward : Bool → Stage
  | true => .reverse
  | false => .top

def receive (s : State R) (tlsReady : Bool) (batched : Nat) : Option SocketAddr → State R
  | none => s
  | some src =>
    let (accepted,lastPeer) := acceptSource s.lastPeer src
    {s with lastPeer := lastPeer,stage := .forward tlsReady (if accepted then batched+1 else batched)}

def onData (s : State R) (bytes : List UInt8) (sslPending : Nat) : State R :=
  let found := deframeEach s.framing bytes
  {s with
    framing := found.framing
    handed := s.handed ++ found.datagrams.map (s.lastPeer,·)
    staged := match s.lastPeer with
      | some peer => s.staged ++ found.datagrams.map (peer,·)
      | none => s.staged
    stage := if found.disconnect then .top else if sslPending = 0 then .top else .reverse}

def onRead (s : State R) (sslPending : Nat) : TlsRead → State R
  | .ok [] => {s with stage := .top}
  | .ok (byte :: bytes) => onData s (byte :: bytes) sslPending
  | .wouldBlock => {s with stage := .top}
  | .interrupted => s
  | .failed => {s with stage := .top}

def step (s : State R) : Action → Option (State R)
  | .poll ready =>
    match s.stage,ready with
    | .top,none => some {s with stage := .ended}
    | .top,some (true,tls) => some {s with stage := .forward tls 0}
    | .top,some (false,tls) => some {s with stage := afterForward tls}
    | _,_ => none
  | .receive src =>
    match s.stage with
    | .forward tls batched => some (receive s tls batched src)
    | _ => none
  | .flush written =>
    match s.stage with
    | .forward tls batched =>
      if batched > 0 && !written then some {s with stage := .ended} else some {s with stage := afterForward tls}
    | _ => none
  | .read result sslPending =>
    match s.stage with
    | .reverse => some {onRead s sslPending result with reads := s.reads ++ [result]}
    | _ => none
  | .shutdown =>
    match s.stage with
    | .top => some {s with stage := .ended}
    | _ => none

def system (framing : UdpFraming R) : Transition.System (State R) Action where
  initial s := s = initial framing
  step := step

def turned : Stage → Bool
  | .reverse => true
  | .forward tlsReady _ => tlsReady
  | _ => false

-- Outside a read only the pinned client and the stage change.
inductive Moves (s : State R) : Action → State R → Prop where
  | read (result : TlsRead) (sslPending : Nat) (here : s.stage = .reverse) :
      Moves s (.read result sslPending) {onRead s sslPending result with reads := s.reads ++ [result]}
  | turn {action : Action} (lastPeer : Option SocketAddr) (stage : Stage)
      (turns : turned stage = true → turned s.stage = true ∨ ∃ udp, action = .poll (some (udp,true))) :
      Moves s action {s with lastPeer := lastPeer,stage := stage}

theorem turned_afterForward (tls : Bool) : turned (afterForward tls) = tls := by cases tls <;> rfl

theorem step_moves {next : State R} (ran : step s action = some next) : Moves s action next := by
  cases action with
  | poll ready =>
    simp only [step] at ran
    split at ran <;> cases ran
    · exact .turn s.lastPeer .ended nofun
    · rename_i tls _
      exact .turn s.lastPeer (.forward tls 0) fun ready => .inr ⟨true,by rw [show tls = true from ready]⟩
    · rename_i tls _
      exact .turn s.lastPeer (afterForward tls) fun ready => .inr ⟨false,by rw [← turned_afterForward tls,ready]⟩
  | receive src =>
    simp only [step] at ran
    split at ran <;> cases ran
    rename_i tls batched here
    cases src with
    | none => exact .turn s.lastPeer s.stage .inl
    | some src => exact .turn _ (.forward tls _) fun ready => .inl (by rw [here]; exact ready)
  | flush written =>
    simp only [step] at ran
    split at ran
    · rename_i tls batched here
      split at ran <;> cases ran
      · exact .turn s.lastPeer .ended nofun
      · refine .turn s.lastPeer (afterForward tls) fun ready => .inl ?_
        rw [turned_afterForward] at ready
        rwa [here]
    · cases ran
  | read result sslPending =>
    simp only [step] at ran
    split at ran <;> cases ran
    rename_i here
    exact .read result sslPending here
  | shutdown =>
    simp only [step] at ran
    split at ran <;> cases ran
    exact .turn s.lastPeer .ended nofun

-- What the peer's stream says: the datagrams before its first disconnect indication or
-- its end, and whether it has got there.
structure Transcript where
  datagrams : List Datagram
  ended : Bool
  deriving DecidableEq

def isEof : TlsRead → Bool
  | .ok [] => true
  | _ => false

def bytesOf : TlsRead → List UInt8
  | .ok bytes => bytes
  | _ => []

def rawTranscript (reads : List TlsRead) : Transcript :=
  let stream := decode rawDecoder ((reads.takeWhile (!isEof ·)).flatMap bytesOf)
  ⟨stream.items,stream.bad || reads.any isEof⟩

def isDisconnect (frame : R.Frame) : Bool := R.packetType frame = .di

def beforeDisconnect (frames : List R.Frame) : List Datagram :=
  (frames.takeWhile (!isDisconnect ·)).filterMap datagramOf

structure Reading (R : AleReader) where
  transcript : Transcript
  reader : R.State

def aleRead (seen : Reading R) (read : TlsRead) : Reading R :=
  if seen.transcript.ended then seen
  else match read with
  | .ok [] => {seen with transcript := {seen.transcript with ended := true}}
  | .ok bytes =>
    match R.feed seen.reader bytes with
    | (.ok frames,reader) =>
      ⟨⟨seen.transcript.datagrams ++ beforeDisconnect frames,frames.any isDisconnect⟩,reader⟩
    | (.error _,reader) => ⟨{seen.transcript with ended := true},reader⟩
  | _ => seen

def aleReading (reader : R.State) (reads : List TlsRead) : Reading R :=
  reads.foldl aleRead ⟨⟨[],false⟩,reader⟩

def transcript (framing : UdpFraming R) (reads : List TlsRead) : Transcript :=
  match framing with
  | .ale reader => (aleReading reader reads).transcript
  | .raw _ => rawTranscript reads

def framingAfter (framing : UdpFraming R) (reads : List TlsRead) : UdpFraming R :=
  match framing with
  | .ale reader => .ale (aleReading reader reads).reader
  | .raw _ => .raw (decode rawDecoder ((reads.takeWhile (!isEof ·)).flatMap bytesOf)).rest

def DisconnectLast (framing : UdpFraming R) (bytes : List UInt8) : Prop :=
  ∀ reader frames, framing = .ale reader → (R.feed reader bytes).1 = .ok frames →
    (frames.dropWhile (!isDisconnect ·)).filterMap datagramOf = []

section Reads
variable {framing : UdpFraming R} {read : TlsRead}

theorem stream_concat (going : reads.any isEof = false) (read : TlsRead) :
    ((reads ++ [read]).takeWhile (!isEof ·)).flatMap bytesOf =
      (reads.takeWhile (!isEof ·)).flatMap bytesOf ++ bytesOf read := by
  have all : ∀ other ∈ reads, (!isEof other) = true := by simpa using going
  rw [takeWhile_append_of_pos all,flatMap_append,takeWhile_eq_self_iff.mpr all]
  cases read with
  | ok bytes =>
    cases bytes with
    | nil => rfl
    | cons byte bytes => simp [isEof]
  | _ => rfl

theorem aleReading_concat (reader : R.State) (reads : List TlsRead) (read : TlsRead) :
    aleReading reader (reads ++ [read]) = aleRead (aleReading reader reads) read :=
  foldl_concat _ _ _ _

theorem transcript_eof (going : (transcript framing reads).ended = false) :
    transcript framing (reads ++ [.ok []]) = ⟨(transcript framing reads).datagrams,true⟩ := by
  cases framing with
  | ale reader =>
    simp only [transcript] at going ⊢
    rw [aleReading_concat,aleRead,going]
    rfl
  | raw pending =>
    simp only [transcript,rawTranscript,Bool.or_eq_false_iff] at going ⊢
    rw [stream_concat going.2]
    simp [bytesOf,isEof]

theorem transcript_silent (going : (transcript framing reads).ended = false) (silent : ∀ bytes, read ≠ .ok bytes) :
    transcript framing (reads ++ [read]) = transcript framing reads ∧
    framingAfter framing (reads ++ [read]) = framingAfter framing reads := by
  have nothing : bytesOf read = [] ∧ isEof read = false := by
    cases read with
    | ok bytes => exact absurd rfl (silent bytes)
    | _ => exact ⟨rfl,rfl⟩
  cases framing with
  | ale reader =>
    have same : aleRead (aleReading reader reads) read = aleReading reader reads := by
      simp only [transcript] at going
      unfold aleRead
      rw [going]
      cases read with
      | ok bytes => exact absurd rfl (silent bytes)
      | _ => rfl
    simp only [transcript,framingAfter,aleReading_concat,same,and_self]
  | raw pending =>
    simp only [transcript,rawTranscript,Bool.or_eq_false_iff] at going
    simp only [transcript,rawTranscript,framingAfter,stream_concat going.2,nothing.1,append_nil,any_append,
      any_cons,any_nil,nothing.2,Bool.or_false,and_self]

theorem beforeDisconnect_all (last : (frames.dropWhile (!isDisconnect ·)).filterMap datagramOf = []) :
    beforeDisconnect frames = frames.filterMap datagramOf := by
  have parts : frames.filterMap datagramOf =
      (frames.takeWhile (!isDisconnect ·)).filterMap datagramOf ++
        (frames.dropWhile (!isDisconnect ·)).filterMap datagramOf := by
    rw [← filterMap_append,takeWhile_append_dropWhile]
  rw [parts,last,append_nil]
  rfl

theorem transcript_data (some_data : bytes ≠ []) (going : (transcript framing reads).ended = false)
    (last : DisconnectLast (framingAfter framing reads) bytes) :
    transcript framing (reads ++ [.ok bytes]) =
      ⟨(transcript framing reads).datagrams ++ (deframeEach (framingAfter framing reads) bytes).datagrams,
        (deframeEach (framingAfter framing reads) bytes).disconnect⟩ ∧
    ((deframeEach (framingAfter framing reads) bytes).disconnect = false →
      framingAfter framing (reads ++ [.ok bytes]) = (deframeEach (framingAfter framing reads) bytes).framing) := by
  cases framing with
  | ale reader =>
    simp only [transcript,framingAfter] at going last ⊢
    rw [aleReading_concat]
    generalize aleReading reader reads = seen at going last ⊢
    simp only [aleRead,going,Bool.false_eq_true,if_false,deframeEach]
    rcases fed : R.feed seen.reader bytes with ⟨_ | frames,reader⟩
    · simp
    · have whole := beforeDisconnect_all (last seen.reader frames rfl (by rw [fed]))
      simp only [whole]
      exact ⟨rfl,fun _ => trivial⟩
  | raw pending =>
    simp only [transcript,rawTranscript,Bool.or_eq_false_iff] at going
    have noEof : isEof (.ok bytes) = false := by
      cases bytes with
      | nil => exact absurd rfl some_data
      | cons byte bytes => rfl
    simp only [transcript,rawTranscript,framingAfter,stream_concat going.2,bytesOf,deframeEach_raw,
      decode_append bytes going.1,any_append,going.2,any_cons,any_nil,noEof,Bool.or_false,true_and]
    intro sound
    simp [sound]

end Reads

structure Faithful (framing : UdpFraming R) (s : State R) : Prop where
  handed : s.handed.map Prod.snd = (transcript framing s.reads).datagrams
  staged : s.staged = s.handed.filterMap fun (peer,datagram) => peer.map (·,datagram)
  synced : (transcript framing s.reads).ended = false → s.framing = framingAfter framing s.reads
  quiet : (transcript framing s.reads).ended = true → s.stage ≠ .reverse ∧ ∀ batched, s.stage ≠ .forward true batched
  last : ∀ before after, s.reads = before ++ after → (transcript framing before).ended = true → after = []

-- Once the stream has ended the tunnel is not reported readable again, and a disconnect
-- packet is the last word of its read.
def Undisturbed (framing : UdpFraming R) (s : State R) : Action → Prop
  | .poll (some (_,true)) => (transcript framing s.reads).ended = false
  | .read (.ok bytes) _ => DisconnectLast s.framing bytes
  | _ => True

section Step
theorem initial_faithful (appProtocol : String) :
    Faithful (UdpFraming.forAppProtocol R appProtocol) (initial (UdpFraming.forAppProtocol R appProtocol)) := by
  unfold UdpFraming.forAppProtocol
  split <;> exact ⟨rfl,rfl,fun _ => rfl,nofun,fun _ _ parts _ => (append_eq_nil_iff.mp parts.symm).2⟩

theorem Faithful.move (valid : Faithful framing s) (lastPeer : Option SocketAddr)
    (quiet : (transcript framing s.reads).ended = true → stage ≠ .reverse ∧ ∀ batched, stage ≠ .forward true batched) :
    Faithful framing {s with lastPeer := lastPeer,stage := stage} :=
  ⟨valid.handed,valid.staged,valid.synced,quiet,valid.last⟩

theorem quiet_iff : (stage ≠ .reverse ∧ ∀ batched, stage ≠ .forward true batched) ↔ turned stage = false := by
  cases stage <;> simp [turned]

theorem last_concat (going : (transcript framing reads).ended = false)
    (last : ∀ before after, reads = before ++ after → (transcript framing before).ended = true → after = [])
    (read : TlsRead) (before after : List TlsRead) (parts : reads ++ [read] = before ++ after)
    (ended : (transcript framing before).ended = true) : after = [] := by
  rcases eq_nil_or_concat after with empty | ⟨init,final,rfl⟩
  · exact empty
  · have split : reads = before ++ init := by
      rw [concat_eq_append,← append_assoc] at parts
      exact (append_inj_left' parts rfl)
    have nothing := last before init split ended
    rw [split,nothing,append_nil,ended] at going
    cases going

theorem onData_faithful (valid : Faithful framing s) (some_data : bytes ≠ [])
    (going : (transcript framing s.reads).ended = false) (last : DisconnectLast s.framing bytes) :
    Faithful framing {onData s bytes sslPending with reads := s.reads ++ [.ok bytes]} := by
  have here := valid.synced going
  rw [here] at last
  obtain ⟨grown,stays⟩ := transcript_data some_data going last
  refine ⟨?_,?_,?_,?_,last_concat going valid.last (.ok bytes)⟩
  · simp only [onData,map_append,map_map,grown,valid.handed,here,Function.comp_def,map_id']
  · simp only [onData,valid.staged]
    cases s.lastPeer <;> simp
  · intro sound
    rw [grown] at sound
    simp only [onData,here]
    exact (stays sound).symm
  · intro ended
    rw [grown] at ended
    simp only at ended
    simp only [onData,here,ended]
    exact ⟨nofun,nofun⟩

theorem silent_faithful {read : TlsRead} (stage : Stage) (valid : Faithful framing s)
    (going : (transcript framing s.reads).ended = false) (silent : ∀ bytes, read ≠ .ok bytes) :
    Faithful framing {s with stage := stage,reads := s.reads ++ [read]} := by
  obtain ⟨same,stays⟩ := transcript_silent going silent
  refine ⟨?_,valid.staged,?_,?_,last_concat going valid.last read⟩
  · rw [same]
    exact valid.handed
  · intro _
    rw [stays]
    exact valid.synced going
  · intro ended
    rw [same,going] at ended
    cases ended

theorem read_faithful {read : TlsRead} (valid : Faithful framing s) (here : s.stage = .reverse)
    (met : Undisturbed framing s (.read read sslPending)) :
    Faithful framing {onRead s sslPending read with reads := s.reads ++ [read]} := by
  have going : (transcript framing s.reads).ended = false := by
    by_contra ended
    exact (valid.quiet (by simpa using ended)).1 here
  cases read with
  | ok bytes =>
    cases bytes with
    | nil =>
      have closed := transcript_eof going
      refine ⟨?_,valid.staged,?_,fun _ => ⟨nofun,nofun⟩,last_concat going valid.last (.ok [])⟩
      · rw [closed]
        exact valid.handed
      · intro sound
        rw [closed] at sound
        cases sound
    | cons byte bytes => exact onData_faithful valid (cons_ne_nil _ _) going met
  | wouldBlock | failed => exact silent_faithful (s := s) .top valid going nofun
  | interrupted => exact silent_faithful s.stage valid going nofun

theorem step_faithful {next : State R} {action : Action} (valid : Faithful framing s) (met : Undisturbed framing s action)
    (ran : step s action = some next) : Faithful framing next := by
  cases step_moves ran with
  | read result sslPending here => exact read_faithful valid here met
  | turn lastPeer stage turns =>
    apply valid.move lastPeer
    intro ended
    rw [quiet_iff,← Bool.not_eq_true]
    intro now
    rcases turns now with before | ⟨udp,rfl⟩
    · rw [quiet_iff.mp (valid.quiet ended)] at before
      cases before
    · rw [met] at ended
      cases ended

end Step

theorem reached_faithful (path : Transition.ReachedWhen (system (UdpFraming.forAppProtocol R appProtocol))
      (Undisturbed (UdpFraming.forAppProtocol R appProtocol)) s) :
    Faithful (UdpFraming.forAppProtocol R appProtocol) s := by
  refine path.invariant (fun s begun => ?_) (fun _ _ _ valid met ran => step_faithful valid met ran)
  cases begun
  exact initial_faithful appProtocol

-- Where the end of the stream is the last thing that comes from the tunnel, what is handed
-- on is what the stream says up to there, and nothing is read past the end.
theorem reverse_path_faithful (R : AleReader) (appProtocol : String) (s : State R)
    (path : Transition.ReachedWhen (system (UdpFraming.forAppProtocol R appProtocol))
      (Undisturbed (UdpFraming.forAppProtocol R appProtocol)) s) :
    s.handed.map Prod.snd = (transcript (UdpFraming.forAppProtocol R appProtocol) s.reads).datagrams ∧
    s.staged = s.handed.filterMap (fun (peer,datagram) => peer.map (·,datagram)) ∧
    ∀ before after, s.reads = before ++ after →
      (transcript (UdpFraming.forAppProtocol R appProtocol) before).ended = true → after = [] := by
  have valid := reached_faithful path
  exact ⟨valid.handed,valid.staged,valid.last⟩

def undisturbed (framing : UdpFraming R) (s : State R) : Action → Bool
  | .poll (some (_,true)) => !(transcript framing s.reads).ended
  | .read (.ok bytes) _ =>
    match s.framing with
    | .raw _ => true
    | .ale reader =>
      match (R.feed reader bytes).1 with
      | .ok frames => ((frames.dropWhile (!isDisconnect ·)).filterMap datagramOf).isEmpty
      | .error _ => true
  | _ => true

theorem undisturbed_sound (s : State R) (action : Action)
    (checked : undisturbed framing s action = true) : Undisturbed framing s action := by
  unfold undisturbed at checked
  split at checked
  · simpa [Undisturbed] using checked
  · intro reader frames here fed
    simpa [here,fed] using checked
  · rename_i noPoll noRead
    unfold Undisturbed
    split
    · exact absurd rfl (noPoll _)
    · exact absurd rfl (noRead _ _)
    · trivial

def silentReader : AleReader :=
  {State := Unit,Frame := Unit,packetType := fun _ => .other,userData := fun _ => [],new := (),
    feed := fun _ _ => (.ok [],())}

def tunnelClient : SocketAddr := .v4 0x0a000009 4000

def toReverse : List Action := [.poll (some (true,true)),.receive (some tunnelClient),.flush true]

def splitReads : List Action :=
  toReverse ++ [Action.read (.ok [1,0,0,0]) 7,Action.read (.ok [65,2,0,0,0,66]) 0,Action.poll (some (false,true)),Action.read (.ok [67]) 0,
    Action.poll (some (false,true)),Action.read (.ok []) 0,Action.shutdown]

theorem reverse_path_faithful_split : ∃ s : State silentReader,
    Transition.ReachedWhen (system (UdpFraming.forAppProtocol silentReader "raw"))
      (Undisturbed (UdpFraming.forAppProtocol silentReader "raw")) s ∧
    s.reads = [.ok [1,0,0,0],.ok [65,2,0,0,0,66],.ok [67],.ok []] ∧
    s.staged = [(tunnelClient,[65]),(tunnelClient,[66,67])] ∧
    s.handed.map Prod.snd = (transcript (UdpFraming.forAppProtocol silentReader "raw") s.reads).datagrams := by
  have ran : (Transition.runChecked (system (UdpFraming.forAppProtocol silentReader "raw"))
      (undisturbed (UdpFraming.forAppProtocol silentReader "raw")) (initial (UdpFraming.forAppProtocol silentReader "raw"))
      splitReads).map
      (fun s => (s.reads,s.staged)) =
        some ([.ok [1,0,0,0],.ok [65,2,0,0,0,66],.ok [67],.ok []],[(tunnelClient,[65]),(tunnelClient,[66,67])]) := by
    decide +kernel
  obtain ⟨s,path,same⟩ := Transition.runChecked_shows undisturbed_sound ran rfl
  obtain ⟨reads,staged⟩ := Prod.mk.inj same
  obtain ⟨handed,_⟩ := reverse_path_faithful silentReader "raw" s path
  exact ⟨s,path,reads,staged,handed⟩

def oversizeReads : List Action :=
  toReverse ++ [Action.read (.ok [1,0,0,0,65,255,255,255,255]) 0,Action.poll (some (false,true)),Action.read (.ok [0]) 0]

-- An oversize length behind a whole datagram ends the stream. The tunnel is read again,
-- and the datagram is delivered again.
theorem reverse_path_repeats : ∃ s : State silentReader,
    Transition.Reached (system (UdpFraming.forAppProtocol silentReader "raw")) s ∧
    s.reads = [.ok [1,0,0,0,65,255,255,255,255],.ok [0]] ∧
    s.staged = [(tunnelClient,[65]),(tunnelClient,[65])] ∧
    transcript (UdpFraming.forAppProtocol silentReader "raw") [.ok [1,0,0,0,65,255,255,255,255]] = ⟨[[65]],true⟩ ∧
    transcript (UdpFraming.forAppProtocol silentReader "raw") s.reads = ⟨[[65]],true⟩ := by
  have ran : (Transition.run (system (UdpFraming.forAppProtocol silentReader "raw"))
      (initial (UdpFraming.forAppProtocol silentReader "raw"))
      oversizeReads).map
      (fun s => (s.reads,s.staged)) =
        some ([.ok [1,0,0,0,65,255,255,255,255],.ok [0]],[(tunnelClient,[65]),(tunnelClient,[65])]) := by
    decide +kernel
  obtain ⟨s,path,same⟩ := Transition.run_shows ran rfl
  obtain ⟨reads,staged⟩ := Prod.mk.inj same
  refine ⟨s,path,reads,staged,by decide +kernel,?_⟩
  rw [reads]
  decide +kernel

end Scg.Relay.UdpReverse
