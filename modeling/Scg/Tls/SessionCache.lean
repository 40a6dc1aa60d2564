import Scg.Library.Labelled
import Scg.Library.Transition
import Scg.Tls.Params
import Mathlib.Data.List.AList

namespace Scg.Tls

def MAX_CACHED_SESSIONS : Nat := 256

-- `T` is what is kept of a session; the store never looks into it.
structure SessionStore (T : Type) where
  map : AList fun _ : String => T
  order : List String

variable {T : Type}

def SessionStore.empty : SessionStore T := ⟨∅,[]⟩

def SessionStore.evict (map : AList fun _ : String => T) : List String → SessionStore T
  | [] => ⟨map,[]⟩
  | key :: order =>
    if (key :: order).length > MAX_CACHED_SESSIONS then SessionStore.evict (map.erase key) order
    else ⟨map,key :: order⟩

def SessionStore.insert (store : SessionStore T) (key : String) (der : T) : SessionStore T :=
  if key ∈ store.map then {store with map := store.map.insert key der}
  else SessionStore.evict (store.map.insert key der) (store.order ++ [key])

def SessionStore.get (store : SessionStore T) (key : String) : Option T := store.map.lookup key

def resumptionKey (params : TlsSecurityParams) (upstreamAddr : String) (ktls : Bool) : String :=
  upstreamAddr ++ "|sni=" ++ params.serverName.getD "" ++ "|v=" ++ params.version.getD "" ++
    "|verify=" ++ params.verify.debug ++ "|ca=" ++ params.caPath.getD "" ++ "|cert=" ++ params.certPath.getD "" ++
    "|psk=" ++ params.pskIdentity.getD "" ++ "|cl=" ++ params.cipherList.getD "" ++
    "|cs=" ++ params.ciphersuites.getD "" ++ "|ktls=" ++ toString ktls

structure Connection where
  params : TlsSecurityParams
  upstreamAddr : String
  ktls : Bool
  deriving DecidableEq

def Connection.key (connection : Connection) : String :=
  resumptionKey connection.params connection.upstreamAddr connection.ktls

-- An `SSL` object with the key that is kept in its ex-data slot, if it was primed.
structure Session where
  connection : Connection
  primed : Option String

structure Ticket where
  der : List UInt8
  origin : Nat
  deriving DecidableEq

structure State where
  store : SessionStore Ticket
  sessions : List Session
  offered : List (Connection × Ticket)

-- `slot` says that there is an ex-data slot, `readable` that the store can be locked and the
-- ticket in it be read back.
inductive Action where
  | connect (connection : Connection) (slot readable : Bool)
  | ticket (i : Nat) (der : List UInt8)

def primeResumption (s : State) (connection : Connection) (readable : Bool) : State :=
  let offers := if readable then (s.store.get connection.key).toList else []
  {s with
    sessions := s.sessions ++ [⟨connection,some connection.key⟩]
    offered := s.offered ++ offers.map fun ticket => (connection,ticket)}

def newSession (s : State) (i : Nat) (session : Session) (der : List UInt8) : State :=
  match session.primed with
  | none => s
  | some key => {s with store := s.store.insert key ⟨der,i⟩}

def step (s : State) : Action → Option State
  | .connect connection slot readable =>
    if connection.params.resumption && slot then some (primeResumption s connection readable)
    else some {s with sessions := s.sessions ++ [⟨connection,none⟩]}
  | .ticket i der => (s.sessions[i]?).map fun session => newSession s i session der

def system : Transition.System State Action where
  initial s := s = ⟨SessionStore.empty,[],[]⟩
  step := step

end Scg.Tls
