import Scg.Tls.SessionCache

namespace Scg.Tls
open Labelled List AList

structure Same (x y : Connection) : Prop where
  upstreamAddr : x.upstreamAddr = y.upstreamAddr
  ktls : x.ktls = y.ktls
  serverName : x.params.serverName = y.params.serverName
  version : x.params.version = y.params.version
  profile : x.params.profile = y.params.profile
  verify : x.params.verify = y.params.verify
  caPath : x.params.caPath = y.params.caPath
  certPath : x.params.certPath = y.params.certPath
  keyPath : x.params.keyPath = y.params.keyPath
  pskIdentity : x.params.pskIdentity = y.params.pskIdentity
  cipherList : x.params.cipherList = y.params.cipherList
  ciphersuites : x.params.ciphersuites = y.params.ciphersuites
  groups : x.params.groups = y.params.groups

def labels : List (List Char) :=
  ["|sni=".toList,"|v=".toList,"|verify=".toList,"|ca=".toList,"|cert=".toList,"|psk=".toList,"|cl=".toList,"|cs=".toList,
    "|ktls=".toList]

def Connection.texts (connection : Connection) : List String :=
  [connection.upstreamAddr,connection.params.serverName.getD "",connection.params.version.getD "",
    connection.params.verify.debug,connection.params.caPath.getD "",connection.params.certPath.getD "",
    connection.params.pskIdentity.getD "",connection.params.cipherList.getD "",connection.params.ciphersuites.getD "",
    toString connection.ktls]

def Connection.letters (connection : Connection) : List (List Char) := connection.texts.map String.toList

-- Three fields that are not folded in, and an optional field that is unset or set to nothing.
structure Untold (x y : Connection) : Prop where
  profile : x.params.profile = y.params.profile
  keyPath : x.params.keyPath = y.params.keyPath
  groups : x.params.groups = y.params.groups
  serverName : x.params.serverName.isSome = y.params.serverName.isSome
  version : x.params.version.isSome = y.params.version.isSome
  caPath : x.params.caPath.isSome = y.params.caPath.isSome
  certPath : x.params.certPath.isSome = y.params.certPath.isSome
  pskIdentity : x.params.pskIdentity.isSome = y.params.pskIdentity.isSome
  cipherList : x.params.cipherList.isSome = y.params.cipherList.isSome
  ciphersuites : x.params.ciphersuites.isSome = y.params.ciphersuites.isSome

structure Distinguished (x y : Connection) : Prop where
  told : x.texts = y.texts → Untold x y
  unshifted : ¬ Shifted labels x.letters y.letters
  unshifted_back : ¬ Shifted labels y.letters x.letters

theorem marked_labels : ∀ label ∈ labels, Marked '|' label := by
  have once : ∀ label ∈ labels, label.head? = some '|' ∧ '|' ∉ label.tail := by decide +kernel
  intro label present
  obtain ⟨head,further⟩ := once label present
  exact marked_of_head head further

variable (x y connection : Connection)

theorem key_letters : connection.key.toList = spell labels connection.letters := by
  unfold Connection.key resumptionKey
  simp only [String.toList_append,append_assoc]
  rfl

theorem letters_inj {x y : Connection} : x.letters = y.letters ↔ x.texts = y.texts :=
  (map_injective_iff.mpr fun _ _ => String.toList_inj.mp).eq_iff

theorem letters_length : connection.letters.length = labels.length+1 := by
  rw [Connection.letters,length_map]
  rfl

theorem key_eq_iff : x.key = y.key ↔
    x.texts = y.texts ∨ Shifted labels x.letters y.letters ∨ Shifted labels y.letters x.letters := by
  rw [←String.toList_inj,key_letters,key_letters,←letters_inj]
  exact spell_eq_iff marked_labels (letters_length x) (letters_length y)

theorem text_set_iff {a b : Option String} : a = b ↔ a.getD "" = b.getD "" ∧ a.isSome = b.isSome := by
  cases a with
  | none | some => cases b <;> simp

theorem debug_inj {v w : VerifyMode} (same : v.debug = w.debug) : v = w := by
  cases v <;> cases w <;> first | rfl | exact absurd same (by decide)

theorem flag_inj {a b : Bool} (same : toString a = toString b) : a = b := by
  cases a <;> cases b <;> first | rfl | exact absurd same (by decide)

theorem same_iff : Same x y ↔ x.texts = y.texts ∧ Untold x y := by
  constructor
  · intro same
    refine ⟨?_,same.profile,same.keyPath,same.groups,?_,?_,?_,?_,?_,?_,?_⟩
    · simp only [Connection.texts,same.upstreamAddr,same.serverName,same.version,same.verify,same.caPath,same.certPath,
        same.pskIdentity,same.cipherList,same.ciphersuites,same.ktls]
    · rw [same.serverName]
    · rw [same.version]
    · rw [same.caPath]
    · rw [same.certPath]
    · rw [same.pskIdentity]
    · rw [same.cipherList]
    · rw [same.ciphersuites]
  · intro ⟨texts,untold⟩
    simp only [Connection.texts,cons.injEq,and_true] at texts
    obtain ⟨upstreamAddr,serverName,version,verify,caPath,certPath,pskIdentity,cipherList,ciphersuites,ktls⟩ := texts
    exact {
      upstreamAddr
      ktls := flag_inj ktls
      serverName := text_set_iff.mpr ⟨serverName,untold.serverName⟩
      version := text_set_iff.mpr ⟨version,untold.version⟩
      profile := untold.profile
      verify := debug_inj verify
      caPath := text_set_iff.mpr ⟨caPath,untold.caPath⟩
      certPath := text_set_iff.mpr ⟨certPath,untold.certPath⟩
      keyPath := untold.keyPath
      pskIdentity := text_set_iff.mpr ⟨pskIdentity,untold.pskIdentity⟩
      cipherList := text_set_iff.mpr ⟨cipherList,untold.cipherList⟩
      ciphersuites := text_set_iff.mpr ⟨ciphersuites,untold.ciphersuites⟩
      groups := untold.groups }

theorem distinguished_iff : (x.key = y.key → Same x y) ↔ Distinguished x y := by
  constructor
  · intro reliable
    have texts_of_key : x.key = y.key → x.texts = y.texts := fun keys => ((same_iff x y).mp (reliable keys)).1
    refine ⟨?_,?_,?_⟩
    · intro texts
      have keys : x.key = y.key := (key_eq_iff x y).mpr (.inl texts)
      exact ((same_iff x y).mp (reliable keys)).2
    · intro shifted
      have keys : x.key = y.key := (key_eq_iff x y).mpr (.inr (.inl shifted))
      exact shifted_ne marked_labels shifted (letters_inj.mpr (texts_of_key keys))
    · intro shifted
      have keys : x.key = y.key := (key_eq_iff x y).mpr (.inr (.inr shifted))
      exact shifted_ne marked_labels shifted (letters_inj.mpr (texts_of_key keys)).symm
  · intro distinguished keys
    rcases (key_eq_iff x y).mp keys with texts | shifted | shifted
    · exact (same_iff x y).mpr ⟨texts,distinguished.told texts⟩
    · exact absurd shifted distinguished.unshifted
    · exact absurd shifted distinguished.unshifted_back

theorem plain_distinguished {x y : Connection} (x_plain : ∀ text ∈ x.letters, '|' ∉ text)
    (y_plain : ∀ text ∈ y.letters, '|' ∉ text) (told : x.texts = y.texts → Untold x y) : Distinguished x y :=
  ⟨told,not_shifted_of_plain marked_labels y_plain,not_shifted_of_plain marked_labels x_plain⟩

theorem Same.refl : Same x x :=
  ⟨rfl,rfl,rfl,rfl,rfl,rfl,rfl,rfl,rfl,rfl,rfl,rfl,rfl⟩

theorem get_evict {map : AList fun _ : String => T}
    (found : (SessionStore.evict map order).get key = some kept) : map.lookup key = some kept := by
  induction order generalizing map with
  | nil => exact found
  | cons first order ih =>
    unfold SessionStore.evict at found
    split at found
    · have earlier := ih found
      by_cases same : key = first
      · subst same
        rw [lookup_erase] at earlier
        cases earlier
      · rwa [lookup_erase_ne same] at earlier
    · exact found

theorem get_insert {store : SessionStore T} (found : (store.insert key der).get other = some kept) :
    (other = key ∧ kept = der) ∨ other ≠ key ∧ store.get other = some kept := by
  have inserted : (store.map.insert key der).lookup other = some kept := by
    unfold SessionStore.insert at found
    split at found
    · exact found
    · exact get_evict found
  by_cases same : other = key
  · subst same
    rw [lookup_insert] at inserted
    exact .inl ⟨rfl,(Option.some.inj inserted).symm⟩
  · rw [lookup_insert_ne same] at inserted
    exact .inr ⟨same,inserted⟩

def IssuedUnder (s : State) (ticket : Ticket) (key : String) : Prop :=
  ∃ session, s.sessions[ticket.origin]? = some session ∧ session.connection.key = key

structure Filed (s : State) : Prop where
  primed : ∀ session ∈ s.sessions, ∀ key, session.primed = some key → key = session.connection.key
  stored : ∀ key ticket, s.store.get key = some ticket → IssuedUnder s ticket key
  offered : ∀ connection ticket, (connection,ticket) ∈ s.offered →
    (∃ session ∈ s.sessions, session.connection = connection) ∧ IssuedUnder s ticket connection.key

section Step
variable {connection : Connection}

theorem IssuedUnder.later (session : Session)
    (issued : IssuedUnder s ticket key) : IssuedUnder ⟨store,s.sessions ++ [session],offered⟩ ticket key := by
  obtain ⟨holder,at_origin,same⟩ := issued
  exact ⟨holder,List.getElem?_append_left (List.getElem?_eq_some_iff.mp at_origin).1 ▸ at_origin,same⟩

theorem opened_filed {offers : List Ticket} (valid : Filed s) (own : ∀ key, primed = some key → key = connection.key)
    (out : ∀ ticket ∈ offers, s.store.get connection.key = some ticket) :
    Filed ⟨s.store,s.sessions ++ [⟨connection,primed⟩],s.offered ++ offers.map fun ticket => (connection,ticket)⟩ := by
  refine ⟨?_,?_,?_⟩
  · intro session present key set
    rcases mem_append.mp present with present | present
    · exact valid.primed session present key set
    · cases mem_singleton.mp present
      exact own key set
  · intro key ticket found
    exact (valid.stored key ticket found).later _
  · intro other ticket present
    rcases mem_append.mp present with present | present
    · obtain ⟨⟨session,earlier,same⟩,issued⟩ := valid.offered other ticket present
      exact ⟨⟨session,mem_append_left _ earlier,same⟩,issued.later _⟩
    · obtain ⟨offer,offered,same⟩ := mem_map.mp present
      cases same
      exact ⟨⟨_,mem_concat_self,rfl⟩,(valid.stored _ _ (out _ offered)).later _⟩

theorem newSession_filed {i : Nat} (valid : Filed s)
    (at_i : s.sessions[i]? = some session) : Filed (newSession s i session der) := by
  unfold newSession
  split
  · exact valid
  · rename_i key set
    refine ⟨valid.primed,?_,valid.offered⟩
    intro other ticket found
    rcases get_insert found with ⟨rfl,rfl⟩ | ⟨_,kept⟩
    · have own := valid.primed session (mem_of_getElem? at_i) _ set
      exact ⟨session,at_i,own.symm⟩
    · exact valid.stored other ticket kept

theorem step_filed {next : State} {action : Action} (valid : Filed s) (ran : step s action = some next) : Filed next := by
  cases action with
  | connect connection slot readable =>
    simp only [step] at ran
    split at ran <;> cases ran
    · apply opened_filed valid
      · intro key set
        exact (Option.some.inj set).symm
      · intro ticket offered
        split at offered
        · exact Option.mem_toList.mp offered
        · cases offered
    · have opened : Filed ⟨s.store,s.sessions ++ [⟨connection,none⟩],s.offered ++ [].map fun ticket => (connection,ticket)⟩ :=
        opened_filed valid nofun nofun
      rwa [map_nil,append_nil] at opened
  | ticket i der =>
    obtain ⟨session,at_i,rfl⟩ := Option.map_eq_some_iff.mp ran
    exact newSession_filed valid at_i

theorem initial_filed : Filed ⟨SessionStore.empty,[],[]⟩ := by
  refine ⟨?_,?_,?_⟩
  · intro session present
    cases present
  · intro key ticket found
    cases found
  · intro connection ticket present
    cases present

theorem reached_filed (path : Transition.Reached system s) : Filed s := by
  apply path.invariant
  · intro s begun
    cases begun
    exact initial_filed
  · intro s action next valid ran
    exact step_filed valid ran

end Step

-- Equal keys mean the same peer and posture exactly for two connections that the key tells
-- apart; where all connections of a run are such, a ticket is only offered where it came from.
theorem resumption_never_crosses (x y : Connection) (s : State) :
    ((x.key = y.key → Same x y) ↔ Distinguished x y) ∧
    (Transition.Reached system s →
      (∀ a ∈ s.sessions, ∀ b ∈ s.sessions, Distinguished a.connection b.connection) →
      ∀ connection ticket, (connection,ticket) ∈ s.offered →
        ∃ session, s.sessions[ticket.origin]? = some session ∧ Same session.connection connection) := by
  refine ⟨distinguished_iff x y,?_⟩
  intro path all connection ticket offered
  obtain ⟨⟨own,present,rfl⟩,session,at_origin,keys⟩ := (reached_filed path).offered connection ticket offered
  have distinguished := all session (List.mem_of_getElem? at_origin) own present
  exact ⟨session,at_origin,(distinguished_iff _ _).mpr distinguished keys⟩

def strictParams : TlsSecurityParams where
  version := some "tls1.3"
  profile := .default
  verify := .server
  certPath := none
  keyPath := none
  caPath := some "/etc/ca.pem"
  serverName := some "upstream.example"
  pskIdentity := none
  pskKey := none
  cipherList := none
  ciphersuites := none
  groups := some "X448"
  resumption := true

def strict : Connection := ⟨strictParams,"10.0.0.1:443",false⟩

def relaxed : Connection := ⟨{strictParams with groups := none},"10.0.0.1:443",false⟩

def elsewhere : Connection := ⟨strictParams,"10.0.0.2:443",false⟩

theorem key_ignores_groups : strict.params.validate = .ok () ∧ relaxed.params.validate = .ok () ∧
    strict.key = relaxed.key ∧ ¬ Same strict relaxed := by
  refine ⟨by decide +kernel,by decide +kernel,rfl,?_⟩
  intro same
  exact absurd same.groups (by decide)

theorem peers_distinguished : ∀ x ∈ [strict,elsewhere,strict], ∀ y ∈ [strict,elsewhere,strict], Distinguished x y := by
  have plain : ∀ x ∈ [strict,elsewhere,strict], ∀ text ∈ x.letters, '|' ∉ text := by decide +kernel
  intro x x_listed y y_listed
  apply plain_distinguished (plain x x_listed) (plain y y_listed)
  intro texts
  have equal : x = y := by
    revert x y
    decide +kernel
  subst equal
  exact ((same_iff x x).mp (Same.refl x)).2

-- A second upstream in between is not offered the first one's ticket; the reconnect is.
theorem resumption_never_crosses_reconnect : ∃ s, Transition.Reached system s ∧ s.offered = [(strict,⟨[1],0⟩)] ∧
    ∃ session, s.sessions[0]? = some session ∧ Same session.connection strict := by
  have ran : (Transition.run system ⟨SessionStore.empty,[],[]⟩
      [.connect strict true true,.ticket 0 [1],.connect elsewhere true true,.connect strict true true]).map
      (fun s => (s.sessions.map Session.connection,s.offered)) =
      some ([strict,elsewhere,strict],[(strict,⟨[1],0⟩)]) := by decide +kernel
  obtain ⟨s,path,seen⟩ := Transition.run_shows ran rfl
  obtain ⟨connections,offered⟩ := Prod.mk.inj seen
  have listed : ∀ session ∈ s.sessions, session.connection ∈ [strict,elsewhere,strict] := by
    intro session present
    rw [←connections]
    exact List.mem_map_of_mem present
  have all : ∀ a ∈ s.sessions, ∀ b ∈ s.sessions, Distinguished a.connection b.connection := fun a a_in b b_in =>
    peers_distinguished _ (listed a a_in) _ (listed b b_in)
  obtain ⟨session,at_origin,same⟩ := (resumption_never_crosses strict strict s).2 path all strict ⟨[1],0⟩ (by simp [offered])
  exact ⟨s,path,offered,session,at_origin,same⟩

end Scg.Tls
