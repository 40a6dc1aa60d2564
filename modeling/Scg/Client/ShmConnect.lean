import Scg.Ipc.ShmLayout

namespace Scg.Client.ShmConnect
open Ipc Segment List

abbrev RawFd := Nat

inductive ConnectError where
  | io (code : Nat)
  | offer (failure : ShmFailure)
  deriving DecidableEq

inductive Cmsg where
  | rights (fds : List RawFd)
  | other

def Cmsg.fds : Cmsg → List RawFd
  | .rights fds => fds
  | .other => []

-- `payload` is what was received of it. No descriptor comes twice.
structure ReceivedFds where
  payload : List UInt8
  fds : List RawFd
  distinct : fds.Nodup

-- What one `recvmsg` comes back with; the kernel makes a new descriptor for each that is
-- passed.
inductive Recvmsg where
  | interrupted
  | failed (code : Nat)
  | got (payload : List UInt8) (cmsgs : List Cmsg) (distinct : (cmsgs.flatMap Cmsg.fds).Nodup)

def recvWithFds : List Recvmsg → Option (Except ConnectError ReceivedFds)
  | [] => none
  | .interrupted :: rest => recvWithFds rest
  | .failed code :: _ => some (.error (.io code))
  | .got payload cmsgs distinct :: _ => some (.ok ⟨payload,cmsgs.flatMap Cmsg.fds,distinct⟩)

-- What the client meets: the control socket, what each descriptor is, the kernel's
-- answers to `mmap`, and what the mapped files hold.
structure Host where
  dial : Except Nat Unit
  hello : Except Nat Unit
  recvmsg : List Recvmsg
  table : RawFd → Fd
  kernel : Kernel
  page : UInt64
  memory : File → Control

structure Connected where
  client : ShmClient
  c2gEvt : RawFd
  g2cEvt : RawFd

-- `closed` are the descriptors given to `close`, in that order.
structure Returned where
  result : Except ConnectError Connected
  closed : List RawFd

def close (closed : List RawFd) (fd : RawFd) : List RawFd := closed ++ [fd]

def closeAll (closed fds : List RawFd) : List RawFd := fds.foldl close closed

structure Maps where
  control : File
  dataC2g : File
  dataG2c : File

def mapRegions (h : Host) (offer : ShmOffer) (controlFd dataC2gFd dataG2cFd : RawFd) : Except ShmFailure Maps := do
  let controlMap ← mmapShared h.kernel (h.table controlFd) (clientCtlLen h.page offer) .readWrite
  let dataC2gMap ← mmapShared h.kernel (h.table dataC2gFd) offer.capC2g .readWrite
  let dataG2cMap ← mmapShared h.kernel (h.table dataG2cFd) offer.capG2c .read
  return ⟨controlMap,dataC2gMap,dataG2cMap⟩

def rings (h : Host) (offer : ShmOffer) (maps : Maps) : Except ShmFailure Backend :=
  attachRings h.page offer (h.memory maps.control) maps.dataC2g maps.dataG2c

-- An offer that is turned down leaves before the descriptors are looked at; rings that do
-- not fit leave with the memfds closed.
def attach (h : Host) (received : ReceivedFds) : Returned :=
  match receiveOffer received.payload with
  | .error e => ⟨.error (.offer e),[]⟩
  | .ok offer =>
    match received.fds with
    | [controlFd,dataC2gFd,dataG2cFd,c2gEvtFd,g2cEvtFd] =>
      match mapRegions h offer controlFd dataC2gFd dataG2cFd with
      | .error e => ⟨.error (.offer e),closeAll [] [controlFd,dataC2gFd,dataG2cFd,c2gEvtFd,g2cEvtFd]⟩
      | .ok maps =>
        let closed := close (close (close [] controlFd) dataC2gFd) dataG2cFd
        match rings h offer maps with
        | .error e => ⟨.error (.offer e),closed⟩
        | .ok backend =>
          let mapped : File → UInt64 := fun
            | .control => clientCtlLen h.page offer
            | .dataC2g => offer.capC2g
            | .dataG2c => offer.capG2c
          ⟨.ok ⟨⟨backend,offer.notify,mapped⟩,c2gEvtFd,g2cEvtFd⟩,closed⟩
    | fds =>
      ⟨.error (.offer (.badOffer ("expected 5 descriptors, got " ++ toString fds.length))),closeAll [] fds⟩

def connect (h : Host) : Option Returned :=
  match h.dial,h.hello with
  | .error code,_ => some ⟨.error (.io code),[]⟩
  | .ok (),.error code => some ⟨.error (.io code),[]⟩
  | .ok (),.ok () =>
    (recvWithFds h.recvmsg).map fun
      | .error e => ⟨.error e,[]⟩
      | .ok received => attach h received

def Host.received (h : Host) : Option ReceivedFds :=
  match h.dial,h.hello,recvWithFds h.recvmsg with
  | .ok (),.ok (),some (.ok received) => some received
  | _,_,_ => none

section Results
variable {received : ReceivedFds}

theorem closeAll_eq (closed fds : List RawFd) : closeAll closed fds = closed ++ fds := by
  induction fds generalizing closed with
  | nil => simp [closeAll]
  | cons fd rest ih =>
    change closeAll (close closed fd) rest = _
    rw [ih,close,append_assoc]
    rfl

theorem attach_turned_down (refused : receiveOffer received.payload = .error e) :
    attach h received = ⟨.error (.offer e),[]⟩ := by rw [attach,refused]

theorem attach_miscounted (accepted : receiveOffer received.payload = .ok offer)
    (count : received.fds.length ≠ 5) :
    attach h received =
      ⟨.error (.offer (.badOffer ("expected 5 descriptors, got " ++ toString received.fds.length))),received.fds⟩ := by
  rw [attach,accepted]
  dsimp only
  split
  · rename_i five
    rw [five] at count
    exact absurd rfl count
  · rw [closeAll_eq,nil_append]

section
variable (accepted : receiveOffer received.payload = .ok offer)
include accepted

theorem attach_unmapped (five : received.fds = [controlFd,dataC2gFd,dataG2cFd,c2gEvtFd,g2cEvtFd])
    (unmapped : mapRegions h offer controlFd dataC2gFd dataG2cFd = .error e) :
    attach h received = ⟨.error (.offer e),received.fds⟩ := by
  rw [attach,accepted]
  simp only [five,unmapped]
  rw [closeAll_eq,nil_append]

theorem attach_misfit (five : received.fds = [controlFd,dataC2gFd,dataG2cFd,c2gEvtFd,g2cEvtFd])
    (mapped : mapRegions h offer controlFd dataC2gFd dataG2cFd = .ok maps) (misfit : rings h offer maps = .error e) :
    attach h received = ⟨.error (.offer e),[controlFd,dataC2gFd,dataG2cFd]⟩ := by
  rw [attach,accepted]
  simp only [five,mapped,misfit]
  rfl

theorem attach_attached (five : received.fds = [controlFd,dataC2gFd,dataG2cFd,c2gEvtFd,g2cEvtFd])
    (mapped : mapRegions h offer controlFd dataC2gFd dataG2cFd = .ok maps) (fits : rings h offer maps = .ok backend) :
    ∃ client, attach h received = ⟨.ok ⟨client,c2gEvtFd,g2cEvtFd⟩,[controlFd,dataC2gFd,dataG2cFd]⟩ := by
  rw [attach,accepted]
  simp only [five,mapped,fits]
  exact ⟨_,rfl⟩

end

theorem attach_connect (h : Host) (received : ReceivedFds) :
    (attach h received).result.map Connected.client =
      (Segment.connect h.kernel h.page received.payload (received.fds.map h.table) h.memory).mapError .offer := by
  obtain ⟨payload,fds,distinct⟩ := received
  unfold attach Segment.connect
  cases receiveOffer payload with
  | error e => rfl
  | ok offer =>
    match fds with
    | [] | [_] | [_,_] | [_,_,_] | [_,_,_,_] => rfl
    | a :: b :: c :: d :: e :: f :: rest => simp [Except.map,Except.mapError,bind,Except.bind]
    | [controlFd,dataC2gFd,dataG2cFd,c2gEvtFd,g2cEvtFd] =>
      simp only [mapRegions,rings,map_cons,map_nil,bind,Except.bind]
      cases mmapShared h.kernel (h.table controlFd) (clientCtlLen h.page offer) .readWrite with
      | error e => rfl
      | ok controlMap =>
        cases mmapShared h.kernel (h.table dataC2gFd) offer.capC2g .readWrite with
        | error e => rfl
        | ok dataC2gMap =>
          cases mmapShared h.kernel (h.table dataG2cFd) offer.capG2c .read with
          | error e => rfl
          | ok dataG2cMap =>
            dsimp only [pure,Except.pure]
            cases attachRings h.page offer (h.memory controlMap) dataC2gMap dataG2cMap <;> rfl

end Results

-- Every descriptor that came is closed once on an error; otherwise the two eventfds are
-- left, and the client has them.
def Settled (fds : List RawFd) (returned : Returned) : Prop :=
  match returned.result with
  | .error _ => ∀ fd ∈ fds, returned.closed.count fd = 1
  | .ok connected =>
    ∃ controlFd dataC2gFd dataG2cFd, fds = [controlFd,dataC2gFd,dataG2cFd,connected.c2gEvt,connected.g2cEvt] ∧
      (∀ fd ∈ [controlFd,dataC2gFd,dataG2cFd], returned.closed.count fd = 1) ∧
      ∀ fd ∈ [connected.c2gEvt,connected.g2cEvt], returned.closed.count fd = 0

def Attachable (h : Host) (received : ReceivedFds) : Prop :=
  ∃ offer, receiveOffer received.payload = .ok offer ∧
    ∀ controlFd dataC2gFd dataG2cFd c2gEvtFd g2cEvtFd maps,
      received.fds = [controlFd,dataC2gFd,dataG2cFd,c2gEvtFd,g2cEvtFd] →
      mapRegions h offer controlFd dataC2gFd dataG2cFd = .ok maps → ∃ backend, rings h offer maps = .ok backend

section Settling
theorem count_distinct {fds : List RawFd} (distinct : fds.Nodup) : ∀ fd ∈ fds, fds.count fd = 1 := by
  intro fd present
  rw [distinct.count,if_pos present]

theorem five_descriptors (five : fds.length = 5) : ∃ a b c d e, fds = [a,b,c,d,e] := by
  match fds,five with
  | [a,b,c,d,e],_ => exact ⟨a,b,c,d,e,rfl⟩

-- With the regions mapped the memfds are closed, and the rings decide on the rest.
theorem attach_mapped_iff (accepted : receiveOffer received.payload = .ok offer)
    (five : received.fds = [controlFd,dataC2gFd,dataG2cFd,c2gEvtFd,g2cEvtFd])
    (mapped : mapRegions h offer controlFd dataC2gFd dataG2cFd = .ok maps) :
    Settled received.fds (attach h received) ↔ received.fds = [] ∨ Attachable h received := by
  have distinct := received.distinct
  rw [five] at distinct
  obtain ⟨memfds,evts,apart⟩ := nodup_append.mp (show ([controlFd,dataC2gFd,dataG2cFd] ++ [c2gEvtFd,g2cEvtFd]).Nodup from distinct)
  have open_ (fd : RawFd) (present : fd ∈ [c2gEvtFd,g2cEvtFd]) : [controlFd,dataC2gFd,dataG2cFd].count fd = 0 :=
    count_eq_zero.mpr fun closed => apart fd closed fd present rfl
  cases fits : rings h offer maps with
  | error e =>
    rw [attach_misfit accepted five mapped fits]
    constructor
    · intro settled
      have once := settled c2gEvtFd (by rw [five]; simp)
      rw [open_ c2gEvtFd (by simp)] at once
      cases once
    · rintro (none_came | ⟨other,taken,all⟩)
      · rw [five] at none_came
        cases none_came
      · rw [accepted] at taken
        cases taken
        obtain ⟨backend,built⟩ := all _ _ _ _ _ maps five mapped
        rw [fits] at built
        cases built
  | ok backend =>
    obtain ⟨client,attached⟩ := attach_attached accepted five mapped fits
    rw [attached]
    refine ⟨fun _ => .inr ⟨offer,accepted,?_⟩,fun _ => ⟨controlFd,dataC2gFd,dataG2cFd,five,count_distinct memfds,open_⟩⟩
    intro a b c d e others same other
    rw [five] at same
    cases same
    rw [mapped] at other
    cases other
    exact ⟨backend,fits⟩

theorem attach_settled_iff (h : Host) (received : ReceivedFds) :
    Settled received.fds (attach h received) ↔ received.fds = [] ∨ Attachable h received := by
  cases accepted : receiveOffer received.payload with
  | error e =>
    rw [attach_turned_down accepted]
    constructor
    · intro settled
      left
      apply eq_nil_iff_forall_not_mem.mpr
      intro fd present
      exact absurd (settled fd present) (by simp)
    · rintro (none_came | ⟨offer,taken,-⟩)
      · intro fd present
        rw [none_came] at present
        cases present
      · rw [accepted] at taken
        cases taken
  | ok offer =>
    by_cases count : received.fds.length = 5
    · obtain ⟨controlFd,dataC2gFd,dataG2cFd,c2gEvtFd,g2cEvtFd,five⟩ := five_descriptors count
      cases mapped : mapRegions h offer controlFd dataC2gFd dataG2cFd with
      | error e =>
        rw [attach_unmapped accepted five mapped]
        refine ⟨fun _ => .inr ⟨offer,accepted,?_⟩,fun _ => count_distinct received.distinct⟩
        intro a b c d e maps same other
        rw [five] at same
        cases same
        rw [mapped] at other
        cases other
      | ok maps => exact attach_mapped_iff accepted five mapped
    · rw [attach_miscounted accepted count]
      refine ⟨fun _ => .inr ⟨offer,accepted,?_⟩,fun _ => count_distinct received.distinct⟩
      intro a b c d e maps five
      rw [five] at count
      exact absurd rfl count

end Settling

theorem connect_received (came : h.received = some received) : connect h = some (attach h received) := by
  unfold Host.received at came
  split at came <;> cases came
  rename_i dialled greeted message
  rw [connect,dialled,greeted,message]
  rfl

theorem connect_nothing (none_came : h.received = none)
    (ran : connect h = some returned) : ∃ e, returned = ⟨.error e,[]⟩ := by
  unfold connect at ran
  unfold Host.received at none_came
  split at ran
  · rename_i code failed
    cases ran
    exact ⟨.io code,rfl⟩
  · rename_i code dialled failed
    cases ran
    exact ⟨.io code,rfl⟩
  · rename_i dialled greeted
    rw [dialled,greeted] at none_came
    cases message : recvWithFds h.recvmsg with
    | none =>
      rw [message] at ran
      cases ran
    | some result =>
      cases result with
      | error e =>
        rw [message] at ran
        cases ran
        exact ⟨e,rfl⟩
      | ok received =>
        rw [message] at none_came
        cases none_came

-- The early returns forget what came with the message; other ways out settle each descriptor.
theorem connect_settles_iff (h : Host) :
    (∀ returned, connect h = some returned → Settled ((h.received.map ReceivedFds.fds).getD []) returned) ↔
      ∀ received, h.received = some received → received.fds = [] ∨ Attachable h received := by
  cases came : h.received with
  | none =>
    constructor
    · rintro - received ⟨⟩
    · intro _ returned ran
      obtain ⟨e,rfl⟩ := connect_nothing came ran
      intro fd present
      cases present
  | some received =>
    have ran := connect_received came
    constructor
    · rintro settles _ ⟨⟩
      exact (attach_settled_iff h received).mp (settles _ ran)
    · intro condition returned ran'
      rw [ran] at ran'
      cases ran'
      exact (attach_settled_iff h received).mpr (condition received rfl)

def unknownNotify : Host where
  dial := .ok ()
  hello := .ok ()
  recvmsg := [.got (ShmOffer.mk HELLO_VERSION 2 5 SHM_RING_SLOT 4096 4096 2 64).encode [.rights [3,4,5,6,7]] (by decide)]
  table fd := if fd = 3 then .memfd .control else if fd = 4 then .memfd .dataC2g else if fd = 5 then .memfd .dataG2c
    else if fd = 6 then .evtC2g else .evtG2c
  kernel _ := true
  page := 4096
  memory _ := .zeroed

theorem connect_leaks : ¬∀ returned, connect unknownNotify = some returned →
    Settled ((unknownNotify.received.map ReceivedFds.fds).getD []) returned := by
  intro settles
  have ran : connect unknownNotify = some ⟨.error (.offer (.badOffer "unsupported notify mode 2")),[]⟩ := rfl
  have once : List.count 3 [] = 1 := settles _ ran 3 (by decide)
  cases once

end Scg.Client.ShmConnect
