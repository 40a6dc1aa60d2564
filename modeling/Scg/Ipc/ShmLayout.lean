import Scg.Ipc.HostilePeer
import Scg.Ipc.Offer
import Scg.Library.Extent

namespace Scg.Ipc

def ShmError.display : ShmError → String
  | .tooSmall => "shm mapping smaller than control page"
  | .badMagic => "shm control magic mismatch"
  | .badVersion => "shm control version mismatch"
  | .badGeometry => "shm data mapping smaller than advertised capacity"
  | .frameTooLarge => "frame larger than ring capacity"
  | .ringCorrupt => "shared ring control state outside its valid window"

end Scg.Ipc

namespace Scg.Segment
open Ipc
open SlotRing (RingHeader SLOT_MAGIC SLOT_VERSION)

inductive ShmRingKind where
  | byteStream | slot
  deriving DecidableEq

inductive ShmNotify where
  | eventfd | futex
  deriving DecidableEq

structure ShmEndpointTask where
  ringKind : ShmRingKind
  capC2g : UInt64
  capG2c : UInt64
  segmentSize : UInt64
  numSegments : UInt64
  g2cNotify : ShmNotify

-- `usize` arithmetic, which wraps. Both sides have their own `round_up`, with this body.
def roundUp (n align : UInt64) : UInt64 := (n+align-1) &&& ~~~(align-1)

def CACHE_LINE : UInt64 := 64
def SLOT_HEADER_SIZE : UInt64 := 256
def SHM_CONTROL_SIZE : UInt64 := 128

def ringControlBytes (capacity : UInt64) : UInt64 := SLOT_HEADER_SIZE+roundUp (capacity*8) CACHE_LINE
def slotControlSize (capacity : UInt64) : UInt64 := 2*ringControlBytes capacity
def ringDataBytes (capacity segmentSize : UInt64) : UInt64 := capacity*segmentSize

def segmentSizeFor (maxPayload : UInt64) : UInt64 :=
  let r := roundUp (8+maxPayload) CACHE_LINE
  if r < CACHE_LINE then CACHE_LINE else r

-- `next_power_of_two`: one above the highest bit of `n-1`. Past 2^63 it wraps to zero.
def nextPowerOfTwo (n : UInt64) : UInt64 := if n ≤ 1 then 1 else UInt64.ofNat (2^((n-1).toNat.log2+1))

-- `page_size`, from the answer of `sysconf`.
def pageSize (v : Int64) : UInt64 := if v ≤ 0 then 4096 else v.toUInt64

structure ShmLayout where
  ringKind : UInt8
  capacity : UInt32
  segmentSize : UInt32
  capC2g : UInt64
  capG2c : UInt64
  ctlLen : UInt64
  notify : UInt8

def resolveShmLayout (page : UInt64) (task : ShmEndpointTask) : ShmLayout :=
  let notify :=
    match task.ringKind,task.g2cNotify with
    | .slot,.futex => SHM_NOTIFY_FUTEX
    | _,_ => SHM_NOTIFY_EVENTFD
  match task.ringKind with
  | .byteStream =>
    let c2g := roundUp (max task.capC2g page) page
    let g2c := roundUp (max task.capG2c page) page
    let ctl := roundUp SHM_CONTROL_SIZE page
    ⟨SHM_RING_BYTESTREAM,0,0,c2g,g2c,ctl,notify⟩
  | .slot =>
    let cap := nextPowerOfTwo (max task.numSegments 2)
    let segSz := roundUp (max task.segmentSize (segmentSizeFor 0)) CACHE_LINE
    let data := roundUp (max (ringDataBytes cap segSz) page) page
    let ctl := roundUp (max (slotControlSize cap) page) page
    ⟨SHM_RING_SLOT,cap.toUInt32,segSz.toUInt32,data,data,ctl,notify⟩

inductive File where
  | control | dataC2g | dataG2c
  deriving DecidableEq

inductive MapProt where
  | read | readWrite
  deriving DecidableEq

inductive Fd where
  | memfd (file : File)
  | evtC2g | evtG2c
  deriving DecidableEq

inductive Syscall where
  | memfdCreate (file : File)
  | ftruncate (file : File) (len : UInt64)
  | mmap (file : File) (len : UInt64) (prot : MapProt)
  | addSeals (file : File)
  | eventfd (fd : Fd)
  deriving DecidableEq

abbrev Kernel := Syscall → Bool

inductive ShmFailure where
  | os (call : Syscall)
  | notMappable
  | invalidInput (text : String)
  | other (text : String)
  | badOffer (text : String)
  deriving DecidableEq

def syscall (kernel : Kernel) (call : Syscall) : Except ShmFailure Unit :=
  if kernel call then .ok () else .error (.os call)

def mmapShared (kernel : Kernel) (fd : Fd) (len : UInt64) (prot : MapProt) : Except ShmFailure File :=
  if len = 0 then .error (.invalidInput "mmap length must be non-zero")
  else
    match fd with
    | .memfd file => do
      syscall kernel (.mmap file len prot)
      return file
    | _ => .error .notMappable

-- What the constructors read of the control page: magic and version at the offset of
-- each ring's header, which is also where `ShmControl` has its own, and its capacities.
structure Control where
  headers : UInt64 → RingHeader
  capC2g : UInt64
  capG2c : UInt64

def Control.zeroed : Control := ⟨fun _ => ⟨0,0⟩,0,0⟩

def Control.init (capC2g capG2c : UInt64) : Control :=
  ⟨Function.update Control.zeroed.headers 0 ⟨ByteRing.SHM_MAGIC,ByteRing.SHM_VERSION⟩,capC2g,capG2c⟩

def initSlotControl (capacity segmentSize : UInt32) : Except ShmError Control := do
  SlotRing.validateGeometry capacity.toNat segmentSize.toNat
  let stride := ringControlBytes capacity.toUInt64
  let c2g := Function.update Control.zeroed.headers 0 ⟨SLOT_MAGIC,SLOT_VERSION⟩
  return {Control.zeroed with headers := Function.update c2g stride ⟨SLOT_MAGIC,SLOT_VERSION⟩}

inductive Half where
  | slots (hdr seq : UInt64) (data : File) (capacity segmentSize : UInt64)
  | stream (idx : UInt64) (data : File) (cap : UInt64)
  deriving DecidableEq

structure Backend where
  consumer : Half
  producer : Half

-- The two constructors of a kind differ in who consumes: both first make these checks.
def slotHalves (control : Control) (controlLen : UInt64) (capacity segmentSize : UInt32) (c2gFile g2cFile : File)
    (dataC2gLen dataG2cLen : UInt64) : Except ShmError (Half × Half) := do
  let stride := ringControlBytes capacity.toUInt64
  let _ ← SlotRing.gatewaySlotRings ⟨controlLen.toNat,capacity,segmentSize,dataC2gLen.toNat,dataG2cLen.toNat,
    control.headers 0,control.headers stride⟩
  return (.slots 0 SLOT_HEADER_SIZE c2gFile capacity.toUInt64 segmentSize.toUInt64,
    .slots stride (stride+SLOT_HEADER_SIZE) g2cFile capacity.toUInt64 segmentSize.toUInt64)

def C2G_INDICES : UInt64 := 32
def G2C_INDICES : UInt64 := 56
def RING_INDICES_SIZE : Nat := 24

def streamHalves (control : Control) (controlLen : UInt64) (c2gFile g2cFile : File) (capC2g capG2c : UInt64) :
    Except ShmError (Half × Half) := do
  let _ ← ByteRing.gatewayRings ⟨controlLen.toNat,(control.headers 0).magic,(control.headers 0).version,control.capC2g,
    control.capG2c,capC2g.toNat,capG2c.toNat⟩
  return (.stream C2G_INDICES c2gFile control.capC2g,.stream G2C_INDICES g2cFile control.capG2c)

-- The gateway consumes what the client produces, and the other way round.
def gatewayBackend : Half × Half → Backend
  | (c2g,g2c) => {consumer := c2g,producer := g2c}

def clientBackend : Half × Half → Backend
  | (c2g,g2c) => {consumer := g2c,producer := c2g}

def gatewaySlotRings (control : Control) (controlLen : UInt64) (capacity segmentSize : UInt32)
    (c2gFile g2cFile : File) (dataC2gLen dataG2cLen : UInt64) : Except ShmError Backend :=
  (slotHalves control controlLen capacity segmentSize c2gFile g2cFile dataC2gLen dataG2cLen).map gatewayBackend

def clientSlotRings (control : Control) (controlLen : UInt64) (capacity segmentSize : UInt32)
    (c2gFile g2cFile : File) (dataC2gLen dataG2cLen : UInt64) : Except ShmError Backend :=
  (slotHalves control controlLen capacity segmentSize c2gFile g2cFile dataC2gLen dataG2cLen).map clientBackend

def gatewayRings (control : Control) (controlLen : UInt64) (c2gFile g2cFile : File) (capC2g capG2c : UInt64) :
    Except ShmError Backend :=
  (streamHalves control controlLen c2gFile g2cFile capC2g capG2c).map gatewayBackend

def clientRings (control : Control) (controlLen : UInt64) (c2gFile g2cFile : File) (capC2g capG2c : UInt64) :
    Except ShmError Backend :=
  (streamHalves control controlLen c2gFile g2cFile capC2g capG2c).map clientBackend

structure ShmSegment where
  backend : Backend
  control : Control
  layout : ShmLayout
  -- the length of each memfd, and of the gateway's mapping of it
  mapped : File → UInt64

def ShmLayout.length (layout : ShmLayout) : File → UInt64
  | .control => layout.ctlLen
  | .dataC2g => layout.capC2g
  | .dataG2c => layout.capG2c

def allocate (kernel : Kernel) (layout : ShmLayout) : Except ShmFailure Unit := do
  syscall kernel (.memfdCreate .control)
  syscall kernel (.memfdCreate .dataC2g)
  syscall kernel (.memfdCreate .dataG2c)
  syscall kernel (.ftruncate .control layout.ctlLen)
  syscall kernel (.ftruncate .dataC2g layout.capC2g)
  syscall kernel (.ftruncate .dataG2c layout.capG2c)

def mapAll (kernel : Kernel) (layout : ShmLayout) : Except ShmFailure Unit := do
  let _ ← mmapShared kernel (.memfd .control) layout.ctlLen .readWrite
  let _ ← mmapShared kernel (.memfd .dataC2g) layout.capC2g .read
  let _ ← mmapShared kernel (.memfd .dataG2c) layout.capG2c .readWrite

def refuse (what : String) (wrap : String → ShmFailure) : Except ShmError α → Except ShmFailure α
  | .ok a => .ok a
  | .error e => .error (wrap (what ++ ": " ++ e.display))

def buildRings (task : ShmEndpointTask) (layout : ShmLayout) : Except ShmFailure (Control × Backend) :=
  match task.ringKind with
  | .byteStream => do
    let control := Control.init layout.capC2g layout.capG2c
    let backend ← refuse "shm rings" .other
      (gatewayRings control layout.ctlLen .dataC2g .dataG2c layout.capC2g layout.capG2c)
    return (control,backend)
  | .slot => do
    let control ← refuse "slot control" .other (initSlotControl layout.capacity layout.segmentSize)
    let backend ← refuse "slot rings" .other
      (gatewaySlotRings control layout.ctlLen layout.capacity layout.segmentSize .dataC2g .dataG2c layout.capC2g
        layout.capG2c)
    return (control,backend)

def sealAll (kernel : Kernel) : Except ShmFailure Unit := do
  syscall kernel (.addSeals .control)
  syscall kernel (.addSeals .dataC2g)
  syscall kernel (.addSeals .dataG2c)
  syscall kernel (.eventfd .evtC2g)
  syscall kernel (.eventfd .evtG2c)

def create (kernel : Kernel) (page : UInt64) (task : ShmEndpointTask) : Except ShmFailure ShmSegment := do
  let layout := resolveShmLayout page task
  allocate kernel layout
  mapAll kernel layout
  let (control,backend) ← buildRings task layout
  sealAll kernel
  return {backend := backend,control := control,layout := layout,mapped := layout.length}

def ShmSegment.offer (seg : ShmSegment) : ShmOffer where
  version := HELLO_VERSION
  notify := seg.layout.notify
  nFds := 5
  ringKind := seg.layout.ringKind
  capC2g := seg.layout.capC2g
  capG2c := seg.layout.capG2c
  capacity := seg.layout.capacity
  segmentSize := seg.layout.segmentSize

def ShmSegment.fds : List Fd := [.memfd .control,.memfd .dataC2g,.memfd .dataG2c,.evtC2g,.evtG2c]

structure ShmClient where
  backend : Backend
  notify : UInt8
  mapped : File → UInt64

def receiveOffer (payload : List UInt8) : Except ShmFailure ShmOffer :=
  if payload.length ≠ SHM_OFFER_LEN then
    .error (.badOffer ("short offer: " ++ toString payload.length ++ " of " ++ toString SHM_OFFER_LEN ++ " bytes"))
  else
    match ShmOffer.decode payload with
    | .error e => .error (.badOffer ("decode failed: " ++ e.display))
    | .ok offer =>
      if offer.notify ≠ SHM_NOTIFY_EVENTFD ∧ offer.notify ≠ SHM_NOTIFY_FUTEX then
        .error (.badOffer ("unsupported notify mode " ++ toString offer.notify))
      else .ok offer

def clientCtlLen (page : UInt64) (offer : ShmOffer) : UInt64 :=
  if offer.ringKind = SHM_RING_SLOT then roundUp (slotControlSize offer.capacity.toUInt64) page
  else roundUp SHM_CONTROL_SIZE page

def attachRings (page : UInt64) (offer : ShmOffer) (control : Control) (c2gFile g2cFile : File) :
    Except ShmFailure Backend :=
  if offer.ringKind = SHM_RING_SLOT then
    refuse "slot ring geometry" .badOffer (clientSlotRings control (clientCtlLen page offer) offer.capacity
      offer.segmentSize c2gFile g2cFile offer.capC2g offer.capG2c)
  else
    refuse "ring geometry" .badOffer (clientRings control (clientCtlLen page offer) c2gFile g2cFile offer.capC2g
      offer.capG2c)

-- `memory` is what each file holds, read as a control page.
def connect (kernel : Kernel) (page : UInt64) (payload : List UInt8) (fds : List Fd) (memory : File → Control) :
    Except ShmFailure ShmClient := do
  let offer ← receiveOffer payload
  let [controlFd,dataC2gFd,dataG2cFd,_,_] := fds
    | .error (.badOffer ("expected 5 descriptors, got " ++ toString fds.length))
  let controlMap ← mmapShared kernel controlFd (clientCtlLen page offer) .readWrite
  let dataC2gMap ← mmapShared kernel dataC2gFd offer.capC2g .readWrite
  let dataG2cMap ← mmapShared kernel dataG2cFd offer.capG2c .read
  let backend ← attachRings page offer (memory controlMap) dataC2gMap dataG2cMap
  return {
    backend := backend
    notify := offer.notify
    mapped := fun
      | .control => clientCtlLen page offer
      | .dataC2g => offer.capC2g
      | .dataG2c => offer.capG2c}

end Scg.Segment
