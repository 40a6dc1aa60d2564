import Scg.Gateway.Live
import Scg.Library.Tables

namespace Scg.Registry
open Policy Config Gateway

structure CallerCred where
  uid : UInt32
  pid : Int32

inductive Code where
  | notFound | permissionDenied | resourceExhausted | invalidArgument
  deriving DecidableEq

structure Status where
  code : Code
  message : String
  deriving DecidableEq

-- `thread` stands for the shutdown flag and the join handle, which belong to one thread.
structure LiveEndpoint where
  ownerUid : UInt32
  ownerKey : String
  thread : Nat

structure LiveState where
  nextId : Nat
  byId : AList fun _ : Nat => LiveEndpoint
  byOwner : AList fun _ : String => Nat

structure Limits where
  maxEndpointsPerUid : UInt32
  maxCreatePerMin : UInt32

def MAX_SHM_RING_CAPACITY : Nat := 256*1024*1024

def ownerKey (uid : UInt32) (appId : String) (trafficClass : TrafficClass) (direction : Direction) (kind : Proto) :
    String :=
  toString uid.toNat ++ "\x00" ++ templateKey appId trafficClass direction kind

namespace LiveState

def empty : LiveState := {nextId := 1,byId := ∅,byOwner := ∅}

def owns (uid : UInt32) (ep : LiveEndpoint) : Bool := ep.ownerUid == uid

def owned (live : LiveState) (uid : UInt32) : Nat := (live.byId.entries.filter fun entry => owns uid entry.2).length

-- A limit of zero is none, a key that is taken does not count, and the count is cast to 32 bits.
def quotaReached (limits : Limits) (live : LiveState) (uid : UInt32) (ownerKey : String) : Bool :=
  limits.maxEndpointsPerUid > 0 && ownerKey ∉ live.byOwner &&
    live.owned uid % 2^32 ≥ limits.maxEndpointsPerUid.toNat

-- `checked_add(1).unwrap_or(1).max(1)` on 32 bits.
def idAfter (id : Nat) : Nat := if id+1 < 2^32 then id+1 else 1

def skipLive (byId : AList fun _ : Nat => LiveEndpoint) : Nat → Nat → Nat
  | 0,id => id
  | fuel+1,id => if id ∈ byId then skipLive byId fuel (idAfter id) else id

def allocId (live : LiveState) : Nat × LiveState :=
  let id := skipLive live.byId (live.byId.entries.length+1) live.nextId
  (id,{live with nextId := idAfter id})

-- The part of `register_or_replace` under one lock; `none` when the quota is reached.
def insertEndpoint (limits : Limits) (live : LiveState) (id : Nat) (ep : LiveEndpoint) :
    Option (LiveState × Option Nat) :=
  if live.quotaReached limits ep.ownerUid ep.ownerKey then none
  else some ({live with byOwner := live.byOwner.insert ep.ownerKey id,byId := live.byId.insert id ep},
    live.byOwner.lookup ep.ownerKey)

def detachEndpoint (live : LiveState) (id : Nat) : LiveState := {live with byId := live.byId.erase id}

-- The owner key is unmapped whatever it maps to by now.
def close (live : LiveState) (caller : CallerCred) (id : Nat) : Except Status (LiveState × LiveEndpoint) :=
  match live.byId.lookup id with
  | none => .error ⟨.notFound,s!"no endpoint id={id}"⟩
  | some ep =>
    if ep.ownerUid ≠ caller.uid then .error ⟨.permissionDenied,"only the owning uid may close this endpoint"⟩
    else .ok ({live with byId := live.byId.erase id,byOwner := live.byOwner.erase ep.ownerKey},ep)

def shutdownAll (live : LiveState) : LiveState := {live with byOwner := ∅,byId := ∅}

end LiveState

def quotaStatus (limits : Limits) : Status :=
  ⟨.resourceExhausted,s!"endpoint quota reached ({limits.maxEndpointsPerUid} live)"⟩

-- `rateAllows` is the answer of the token bucket for the caller's uid.
def checkAdmission (limits : Limits) (rateAllows : Bool) (live : LiveState) (caller : CallerCred) (ownerKey : String) :
    Except Status Unit :=
  if limits.maxCreatePerMin > 0 && !rateAllows then
    .error ⟨.resourceExhausted,s!"endpoint-creation rate limit exceeded ({limits.maxCreatePerMin}/min)"⟩
  else if live.quotaReached limits caller.uid ownerKey then .error (quotaStatus limits)
  else .ok ()

structure CreateRequest where
  appId : String
  trafficClass : TrafficClass
  direction : Direction
  ringCapacity : Nat

def authorizeAndAdmit (limits : Limits) (rateAllows : Bool) (templates : Templates) (live : LiveState) (caller : CallerCred)
    (request : CreateRequest) (kind : Proto) : Except Status (EndpointTemplate × String) :=
  match templates.lookup (templateKey request.appId request.trafficClass request.direction kind) with
  | none => .error ⟨.notFound,s!"no {kind.display} rule for app_id={request.appId} " ++
      s!"class={classDisplay request.trafficClass} direction={request.direction.display}"⟩
  | some template =>
    if template.allowedUids.isEmpty || !template.allowedUids.contains caller.uid then
      .error ⟨.permissionDenied,s!"uid {caller.uid} is not authorised for app_id={request.appId}"⟩
    else if !template.allowedPids.isEmpty && !template.allowedPids.contains caller.pid then
      .error ⟨.permissionDenied,s!"pid {caller.pid} is not authorised for app_id={request.appId}"⟩
    else
      let key := ownerKey caller.uid request.appId request.trafficClass request.direction kind
      match checkAdmission limits rateAllows live caller key with
      | .error status => .error status
      | .ok () => .ok (template,key)

inductive LocalKind where
  | uds | shm
  deriving DecidableEq

def LocalKind.proto : LocalKind → Proto
  | .uds => .uds
  | .shm => .shm

-- `create_uds` and `create_shm` up to their first effect; only the latter looks at the
-- requested capacity.
def beginCreate (limits : Limits) (rateAllows : Bool) (templates : Templates) (live : LiveState) (caller : CallerCred)
    (request : CreateRequest) (kind : LocalKind) : Except Status String :=
  match authorizeAndAdmit limits rateAllows templates live caller request kind.proto with
  | .error status => .error status
  | .ok (_,key) =>
    if kind = .shm && request.ringCapacity > MAX_SHM_RING_CAPACITY then
      .error ⟨.invalidArgument,s!"ring_capacity {request.ringCapacity} exceeds maximum {MAX_SHM_RING_CAPACITY}"⟩
    else .ok key

end Scg.Registry
