import Scg.Ipc.SlotMachine

namespace Scg.SlotRing
open Ipc Interaction Option

def RELAY_BUF_SIZE : Nat := 4*1024*1024
def ZC_DIRECT_THRESHOLD : Nat := 512*1024
def ZC_MAX_DIRECT : Nat := 64

def Shared.run (s : Shared) : Call α → α × Shared
  | .ret result => (result,s)
  | .request op next => (s.perform op).2.run (next (s.perform op).1)

def Shared.view (s : Shared) (slice : Slice) : List UInt8 := ByteMemory.read s.data slice.off slice.len

@[simp] theorem run_ret (s : Shared) (a : α) : s.run (.ret a : Call α) = (a,s) := rfl

theorem run_bind (s : Shared) (first : Call α) (next : α → Call β) :
    s.run (first >>= next) = (s.run first).2.run (next (s.run first).1) := by
  induction first generalizing s with
  | ret a => rfl
  | request op rest ih => exact ih _ _

theorem view_length (s : Shared) (slice : Slice) : (s.view slice).length = slice.len := ByteMemory.read_length

section Contents
variable (g : Geometry) (data : Nat → UInt8) (idx : Nat)

def headerAt : Vector UInt8 FRAME_HEADER_LEN := ByteMemory.readVector data (g.slot idx) FRAME_HEADER_LEN

def announced : Nat := (decodeHeader (headerAt g data idx)).1.toNat

def frameAt : Frame :=
  ⟨(decodeHeader (headerAt g data idx)).2,
    ByteMemory.read data (g.slot idx+FRAME_HEADER_LEN) (min (announced g data idx) g.maxPayload)⟩

def wireAt : List UInt8 :=
  ByteMemory.read data (g.slot idx) (FRAME_HEADER_LEN+min (announced g data idx) g.maxPayload)

theorem wireAt_length : (wireAt g data idx).length = FRAME_HEADER_LEN+min (announced g data idx) g.maxPayload :=
  ByteMemory.read_length

theorem view_slot (s : Shared) :
    s.view ⟨g.slot idx,FRAME_HEADER_LEN+min (announced g s.data idx) g.maxPayload⟩ = wireAt g s.data idx := rfl

theorem wireAt_eq : wireAt g data idx = (headerAt g data idx).toList ++ (frameAt g data idx).payload := by
  unfold wireAt frameAt headerAt
  rw [ByteMemory.read_append,ByteMemory.readVector_toList]

end Contents

def readyFrom (g : Geometry) (seq : Nat → UInt64) (pos : UInt64) : Nat → List Nat
  | 0 => []
  | n+1 => if isReady (seq (g.index pos)) pos then g.index pos :: readyFrom g seq (pos+1) n else []

def waiting (g : Geometry) (s : Shared) : List Nat := readyFrom g s.seq s.readPos g.capacity

def released (g : Geometry) (s : Shared) : Shared :=
  {s with
    seq := Function.update s.seq (g.index s.readPos) (s.readPos+UInt64.ofNat g.capacity)
    readPos := s.readPos+1}

theorem index_add (g : Geometry) (pos : UInt64) (k : Nat) :
    g.index (pos+UInt64.ofNat k) = (pos.toNat+k) % g.capacity := by
  have word : pos+UInt64.ofNat k = UInt64.ofNat (pos.toNat+k) := by rw [← Wrapping.ofNat_add,UInt64.ofNat_toNat]
  rw [word,g.index_ofNat]

theorem index_mod (g : Geometry) (pos : UInt64) : g.index pos = pos.toNat % g.capacity := by
  simpa using index_add g pos 0

-- Releasing a slot takes it off the front: within a lap no other position selects
-- it, and a lap later its word is one short of READY.
theorem readyFrom_released (g : Geometry) (s : Shared) (k n : Nat) (begun : 0 < k) (lap : k+n = g.capacity) :
    readyFrom g (released g s).seq (s.readPos+UInt64.ofNat k) (n+1) =
      readyFrom g s.seq (s.readPos+UInt64.ofNat k) n := by
  induction n generalizing k with
  | zero =>
    obtain rfl : k = g.capacity := by omega
    have same : g.index (s.readPos+UInt64.ofNat g.capacity) = g.index s.readPos := by
      rw [index_add,index_mod,Nat.add_mod_right]
    have short : isReady (s.readPos+UInt64.ofNat g.capacity) (s.readPos+UInt64.ofNat g.capacity) = false := by
      rw [Bool.eq_false_iff,ne_eq,isReady_iff]
      grind
    simp [readyFrom,released,same,short]
  | succ n ih =>
    have other : g.index (s.readPos+UInt64.ofNat k) ≠ g.index s.readPos := by
      rw [index_add,index_mod]
      intro same
      have equal := Wrapping.mod_inj_near (Nat.le_add_right _ _) (by omega) same.symm
      omega
    have word : (released g s).seq (g.index (s.readPos+UInt64.ofNat k)) =
        s.seq (g.index (s.readPos+UInt64.ofNat k)) := Function.update_of_ne other _ _
    have onward : s.readPos+UInt64.ofNat k+1 = s.readPos+UInt64.ofNat (k+1) := by
      rw [UInt64.add_assoc,Wrapping.ofNat_succ]
    rw [readyFrom,word,onward,ih (k+1) (by omega) (by omega),readyFrom,onward]

theorem waiting_cases (g : Geometry) (s : Shared) :
    (isReady (s.seq (g.index s.readPos)) s.readPos = false ∧ waiting g s = []) ∨
      (isReady (s.seq (g.index s.readPos)) s.readPos = true ∧
        waiting g s = g.index s.readPos :: waiting g (released g s)) := by
  obtain ⟨n,capacity⟩ : ∃ n, g.capacity = n+1 := ⟨g.capacity-1,by have := g.capacity_bound; omega⟩
  have rest : waiting g (released g s) = readyFrom g s.seq (s.readPos+1) n := by
    have taken := readyFrom_released g s 1 n (by omega) (by omega)
    rwa [waiting,capacity]
  rw [rest,waiting,capacity,readyFrom]
  cases ready : isReady (s.seq (g.index s.readPos)) s.readPos with
  | false => exact .inl ⟨rfl,rfl⟩
  | true => exact .inr ⟨rfl,rfl⟩

-- Induction over the slots that wait in front of the reader.
theorem waiting_induction {P : Shared → Prop} (s : Shared)
    (empty : ∀ s, isReady (s.seq (g.index s.readPos)) s.readPos = false → waiting g s = [] → P s)
    (frame : ∀ s, isReady (s.seq (g.index s.readPos)) s.readPos = true →
      waiting g s = g.index s.readPos :: waiting g (released g s) → P (released g s) → P s) : P s := by
  induction held : waiting g s generalizing s with
  | nil =>
    rcases waiting_cases g s with ⟨idle,none⟩ | ⟨_,more⟩
    · exact empty s idle none
    · simp [held] at more
  | cons idx rest ih =>
    rcases waiting_cases g s with ⟨_,none⟩ | ⟨ready,more⟩
    · simp [held] at none
    · exact frame s ready more (ih _ (List.cons.inj (held.symm.trans more)).2.symm)

section Calls
variable {g : Geometry} {s : Shared}

theorem nextReady_none (empty : isReady (s.seq (g.index s.readPos)) s.readPos = false) :
    s.run (nextReady g) = (none,s) := by simp [nextReady,loadReadPos,loadSeq,Shared.run,Shared.perform,empty]

theorem nextReady_some (ready : isReady (s.seq (g.index s.readPos)) s.readPos = true) :
    s.run (nextReady g) =
      (some ⟨s.readPos,g.index s.readPos,min (announced g s.data (g.index s.readPos)) g.maxPayload,
        (decodeHeader (headerAt g s.data (g.index s.readPos))).2⟩,s) := by
  simp [nextReady,loadReadPos,loadSeq,copyOut,Shared.run,Shared.perform,ready,announced,headerAt]

theorem peekFrame_none (empty : isReady (s.seq (g.index s.readPos)) s.readPos = false) :
    s.run (peekFrame g) = (none,s) := by simp [peekFrame,run_bind,nextReady_none empty]

section
variable (ready : isReady (s.seq (g.index s.readPos)) s.readPos = true)
include ready

theorem peekFrame_some : s.run (peekFrame g) = (some ⟨g.slot (g.index s.readPos),
        FRAME_HEADER_LEN+min (announced g s.data (g.index s.readPos)) g.maxPayload⟩,s) := by
  simp [peekFrame,run_bind,nextReady_some ready,borrow,Shared.run,Shared.perform]

theorem advance_ready : s.run (advance g) = ((),released g s) := by
  simp [advance,releaseSlot,loadReadPos,loadSeq,storeSeq,storeReadPos,Shared.run,Shared.perform,ready,released]

theorem tryPopInto_some : s.run (tryPopInto g) = (some (frameAt g s.data (g.index s.readPos)),released g s) := by
  simp [tryPopInto,run_bind,nextReady_some ready,copyOut,releaseSlot,storeSeq,storeReadPos,Shared.run,
    Shared.perform,released,frameAt,ByteMemory.readVector_toList]

end

theorem peekFrame_long (shown : (s.run (peekFrame g)).1 = some slice) : 0 < slice.len := by
  rcases waiting_cases g s with ⟨empty,_⟩ | ⟨ready,_⟩
  · simp [peekFrame_none empty] at shown
  · rw [peekFrame_some ready] at shown
    obtain rfl := Option.some.inj shown
    exact Nat.lt_of_lt_of_le (by decide) (Nat.le_add_right _ _)

end Calls

-- `coalesce_c2g_into` on the slot ring: the coalesced bytes and how many frames.
def coalesceC2gInto (g : Geometry) (framed : List UInt8) (n : Nat) (s : Shared) : List UInt8 × Nat × Shared :=
  if framed.length < RELAY_BUF_SIZE then
    match shown : s.run (peekFrame g) with
    | (none,s) => (framed,n,s)
    | (some frame,s) => coalesceC2gInto g (framed ++ s.view frame) (n+1) (s.run (advance g)).2
  else (framed,n,s)
termination_by RELAY_BUF_SIZE-framed.length
decreasing_by
  have long := peekFrame_long (congrArg Prod.fst shown)
  rw [List.length_append,view_length]
  omega

-- `write_all_nb_proxy`: the upstream takes the whole chunk, or the write fails.
abbrev Upstream := List (List UInt8) → List UInt8 → Bool

variable {tls : Upstream}

def writeAllNbProxy (tls : Upstream) (sent : List (List UInt8)) (chunk : List UInt8) : Option (List (List UInt8)) :=
  if tls sent chunk then some (sent ++ [chunk]) else none

def flush (tls : Upstream) (sent : List (List UInt8)) (framed : List UInt8) : Option (List (List UInt8)) :=
  if framed.isEmpty then some sent else writeAllNbProxy tls sent framed

def zerocopyLoop (g : Geometry) (tls : Upstream) (sent : List (List UInt8)) (framed : List UInt8) (direct : Nat)
    (s : Shared) : Option (List (List UInt8) × List UInt8 × Shared) :=
  match shown : s.run (peekFrame g) with
  | (none,s) => some (sent,framed,s)
  | (some slice,s) =>
    let frame := s.view slice
    if ZC_DIRECT_THRESHOLD ≤ frame.length then do
      let sent ← flush tls sent framed
      let sent ← writeAllNbProxy tls sent frame
      let s := (s.run (advance g)).2
      if last : ZC_MAX_DIRECT ≤ direct+1 then some (sent,[],s) else zerocopyLoop g tls sent [] (direct+1) s
    else if full : framed.length+frame.length > RELAY_BUF_SIZE then some (sent,framed,s)
    else zerocopyLoop g tls sent (framed ++ frame) direct (s.run (advance g)).2
termination_by (ZC_MAX_DIRECT-direct,RELAY_BUF_SIZE-framed.length)
decreasing_by
  · exact Prod.Lex.left _ _ (by omega)
  · apply Prod.Lex.right
    have long := peekFrame_long (congrArg Prod.fst shown)
    simp only [frame,view_length] at full
    rw [List.length_append,view_length]
    omega

def drainC2gRoutingZerocopy (g : Geometry) (tls : Upstream) (s : Shared) :
    Option (List (List UInt8) × Shared) := do
  let (sent,framed,s) ← zerocopyLoop g tls [] [] 0 s
  let sent ← flush tls sent framed
  return (sent,s)

def forwardC2g (g : Geometry) (isPlain : Bool) (tls : Upstream) (s : Shared) : Option (List (List UInt8) × Shared) :=
  if isPlain then drainC2gRoutingZerocopy g tls s
  else do
    let (framed,_,s) := coalesceC2gInto g [] 0 s
    let sent ← flush tls [] framed
    return (sent,s)

def coalesced (size : Nat → Nat) (used : Nat) : List Nat → List Nat
  | [] => []
  | idx :: rest => if used < RELAY_BUF_SIZE then idx :: coalesced size (used+size idx) rest else []

def zerocopied (size : Nat → Nat) (direct used : Nat) : List Nat → List Nat
  | [] => []
  | idx :: rest =>
    if ZC_DIRECT_THRESHOLD ≤ size idx then
      idx :: if ZC_MAX_DIRECT ≤ direct+1 then [] else zerocopied size (direct+1) 0 rest
    else if used+size idx > RELAY_BUF_SIZE then []
    else idx :: zerocopied size direct (used+size idx) rest

def slotsTaken (g : Geometry) (isPlain : Bool) (s : Shared) : List Nat :=
  let size := fun idx => (wireAt g s.data idx).length
  if isPlain then zerocopied size 0 0 (waiting g s) else coalesced size 0 (waiting g s)

def popFrames (g : Geometry) : Nat → Shared → Option (List Frame × Shared)
  | 0,s => some ([],s)
  | n+1,s =>
    match s.run (tryPopInto g) with
    | (none,_) => none
    | (some frame,s) => (popFrames g n s).map fun (later,s) => (frame :: later,s)

def WellFramed (bytes : List UInt8) : Prop :=
  ∃ frames : List Frame, (∀ frame ∈ frames, frame.payload.length < 2^32) ∧ bytes = frames.flatMap encodeInto

section Iterations
theorem coalesce_full (full : ¬ framed.length < RELAY_BUF_SIZE) : coalesceC2gInto g framed n s = (framed,n,s) := by
  rw [coalesceC2gInto,if_neg full]

theorem coalesce_empty (empty : isReady (s.seq (g.index s.readPos)) s.readPos = false) :
    coalesceC2gInto g framed n s = (framed,n,s) := by
  rw [coalesceC2gInto]
  split
  · split <;> rename_i shown <;> rw [peekFrame_none empty] at shown <;> cases shown
    rfl
  · rfl

theorem coalesce_frame (room : framed.length < RELAY_BUF_SIZE)
    (ready : isReady (s.seq (g.index s.readPos)) s.readPos = true) :
    coalesceC2gInto g framed n s =
      coalesceC2gInto g (framed ++ wireAt g s.data (g.index s.readPos)) (n+1) (released g s) := by
  rw [coalesceC2gInto,if_pos room]
  split <;> rename_i shown <;> rw [peekFrame_some ready] at shown <;> cases shown
  rw [view_slot,advance_ready ready]

theorem zerocopy_empty (empty : isReady (s.seq (g.index s.readPos)) s.readPos = false) :
    zerocopyLoop g tls sent framed direct s = some (sent,framed,s) := by
  rw [zerocopyLoop]
  split <;> rename_i shown <;> rw [peekFrame_none empty] at shown <;> cases shown
  rfl

theorem zerocopy_frame (ready : isReady (s.seq (g.index s.readPos)) s.readPos = true) :
    zerocopyLoop g tls sent framed direct s =
      if ZC_DIRECT_THRESHOLD ≤ (wireAt g s.data (g.index s.readPos)).length then do
        let sent ← flush tls sent framed
        let sent ← writeAllNbProxy tls sent (wireAt g s.data (g.index s.readPos))
        if ZC_MAX_DIRECT ≤ direct+1 then some (sent,[],released g s)
        else zerocopyLoop g tls sent [] (direct+1) (released g s)
      else if framed.length+(wireAt g s.data (g.index s.readPos)).length > RELAY_BUF_SIZE then some (sent,framed,s)
      else zerocopyLoop g tls sent (framed ++ wireAt g s.data (g.index s.readPos)) direct (released g s) := by
  rw [zerocopyLoop]
  split <;> rename_i shown <;> rw [peekFrame_some ready] at shown <;> cases shown
  simp only [view_slot,advance_ready ready,dite_eq_ite]

end Iterations

theorem coalesceC2gInto_eq (g : Geometry) (s : Shared) (framed : List UInt8) (n : Nat) :
    let slots := coalesced (fun idx => (wireAt g s.data idx).length) framed.length (waiting g s)
    coalesceC2gInto g framed n s =
      (framed ++ slots.flatMap (wireAt g s.data),n+slots.length,(released g)^[slots.length] s) := by
  induction s using waiting_induction (g := g) generalizing framed n with
  | empty s empty none => simp [coalesced,none,coalesce_empty empty]
  | frame s ready more ih =>
    by_cases room : framed.length < RELAY_BUF_SIZE
    · have onward := ih (framed ++ wireAt g s.data (g.index s.readPos)) (n+1)
      simp only [more,coalesced,if_pos room,coalesce_frame room ready,onward]
      simp [released,Nat.add_assoc,Nat.add_comm 1]
    · simp [more,coalesced,if_neg room,coalesce_full room]

theorem writeAllNbProxy_sent {sent after : List (List UInt8)}
    (wrote : writeAllNbProxy tls sent chunk = some after) : after.flatten = sent.flatten ++ chunk := by
  obtain ⟨_,wrote⟩ := ite_none_right_eq_some.mp wrote
  cases wrote
  simp

theorem flush_sent {sent after : List (List UInt8)}
    (wrote : flush tls sent framed = some after) : after.flatten = sent.flatten ++ framed := by
  unfold flush at wrote
  split at wrote
  · rename_i nothing
    cases wrote
    rw [List.isEmpty_iff.mp nothing,List.append_nil]
  · exact writeAllNbProxy_sent wrote

theorem zerocopyLoop_eq {s after : Shared}
    (completed : zerocopyLoop g tls sent framed direct s = some (sent',framed',after)) : let slots := zerocopied (fun idx => (wireAt g s.data idx).length) direct framed.length (waiting g s)
    sent'.flatten ++ framed' = sent.flatten ++ framed ++ slots.flatMap (wireAt g s.data) ∧
      after = (released g)^[slots.length] s := by
  induction s using waiting_induction (g := g) generalizing sent framed direct with
  | empty s empty none =>
    rw [zerocopy_empty empty] at completed
    cases completed
    simp [none,zerocopied]
  | frame s ready more ih =>
    rw [zerocopy_frame ready] at completed
    rw [more]
    split at completed
    · rename_i large
      obtain ⟨flushed,first,completed⟩ := bind_eq_some_iff.mp completed
      obtain ⟨wrote,second,completed⟩ := bind_eq_some_iff.mp completed
      have bytes := writeAllNbProxy_sent second
      rw [flush_sent first] at bytes
      split at completed
      · rename_i last
        cases completed
        simp [zerocopied,large,last,bytes]
      · rename_i last
        obtain ⟨onward,reached⟩ := ih completed
        rw [onward,bytes,reached]
        simp [zerocopied,large,last,released]
    · rename_i large
      split at completed
      · rename_i full
        cases completed
        simp [zerocopied,large,full]
      · rename_i full
        obtain ⟨onward,reached⟩ := ih completed
        rw [onward,reached]
        simp [zerocopied,large,full,released]

theorem forwardC2g_eq {s after : Shared} (completed : forwardC2g g isPlain tls s = some (sent,after)) :
    sent.flatten = (slotsTaken g isPlain s).flatMap (wireAt g s.data) ∧
      after = (released g)^[(slotsTaken g isPlain s).length] s := by
  cases isPlain with
  | true =>
    obtain ⟨⟨wrote,framed,reached⟩,loop,completed⟩ := bind_eq_some_iff.mp completed
    obtain ⟨flushed,last,completed⟩ := bind_eq_some_iff.mp completed
    cases completed
    obtain ⟨bytes,state⟩ := zerocopyLoop_eq loop
    refine ⟨?_,state⟩
    rw [flush_sent last,bytes]
    rfl
  | false =>
    have loop := coalesceC2gInto_eq g s [] 0
    simp only [forwardC2g,loop] at completed
    obtain ⟨flushed,last,completed⟩ := bind_eq_some_iff.mp completed
    cases completed
    refine ⟨?_,rfl⟩
    rw [flush_sent last]
    rfl

section
variable (accepts : ∀ sent chunk, tls sent chunk = true)
include accepts

theorem flush_accepted (sent : List (List UInt8))
    (framed : List UInt8) : ∃ after, flush tls sent framed = some after := by
  unfold flush writeAllNbProxy
  split
  · exact ⟨_,rfl⟩
  · exact ⟨_,if_pos (accepts _ _)⟩

theorem zerocopyLoop_completes (g : Geometry)
    (s : Shared) (sent : List (List UInt8)) (framed : List UInt8) (direct : Nat) :
    ∃ result, zerocopyLoop g tls sent framed direct s = some result := by
  induction s using waiting_induction (g := g) generalizing sent framed direct with
  | empty s empty => exact ⟨_,zerocopy_empty empty⟩
  | frame s ready _ ih =>
    obtain ⟨flushed,first⟩ := flush_accepted accepts sent framed
    rw [zerocopy_frame ready,first]
    simp only [bind_some,writeAllNbProxy,accepts,if_true]
    split
    all_goals
      split
      · exact ⟨_,rfl⟩
      · exact ih _ _ _

theorem forwardC2g_completes (g : Geometry)
    (isPlain : Bool) (s : Shared) : ∃ sent after, forwardC2g g isPlain tls s = some (sent,after) := by
  cases isPlain with
  | true =>
    obtain ⟨⟨sent,framed,after⟩,loop⟩ := zerocopyLoop_completes accepts g s [] [] 0
    obtain ⟨flushed,last⟩ := flush_accepted accepts sent framed
    exact ⟨flushed,after,by simp [forwardC2g,drainC2gRoutingZerocopy,loop,last]⟩
  | false =>
    obtain ⟨flushed,last⟩ := flush_accepted accepts [] (coalesceC2gInto g [] 0 s).1
    exact ⟨flushed,_,by simp [forwardC2g,last]; rfl⟩

end

theorem coalesced_taken (size : Nat → Nat) (used : Nat) (slots : List Nat) : coalesced size used slots <+: slots := by
  induction slots generalizing used with
  | nil => exact List.nil_prefix
  | cons idx rest ih =>
    unfold coalesced
    split
    · exact (List.prefix_cons_inj idx).mpr (ih _)
    · exact List.nil_prefix

theorem zerocopied_taken (size : Nat → Nat) (direct used : Nat) (slots : List Nat) :
    zerocopied size direct used slots <+: slots := by
  induction slots generalizing direct used with
  | nil => exact List.nil_prefix
  | cons idx rest ih =>
    unfold zerocopied
    split
    · refine (List.prefix_cons_inj idx).mpr ?_
      split
      · exact List.nil_prefix
      · exact ih _ _
    · split
      · exact List.nil_prefix
      · exact (List.prefix_cons_inj idx).mpr (ih _ _)

theorem slotsTaken_waiting (g : Geometry) (isPlain : Bool) (s : Shared) : slotsTaken g isPlain s <+: waiting g s := by
  unfold slotsTaken
  split
  · exact zerocopied_taken _ _ _ _
  · exact coalesced_taken _ _ _

theorem slotsTaken_ready (isPlain : Bool) (ready : isReady (s.seq (g.index s.readPos)) s.readPos = true) :
    ∃ rest, slotsTaken g isPlain s = g.index s.readPos :: rest := by
  rcases waiting_cases g s with ⟨empty,_⟩ | ⟨_,more⟩
  · rw [ready] at empty
    cases empty
  · unfold slotsTaken
    rw [more]
    cases isPlain with
    | true =>
      by_cases large : ZC_DIRECT_THRESHOLD ≤ (wireAt g s.data (g.index s.readPos)).length
      · simp only [zerocopied,large]
        exact ⟨_,rfl⟩
      · have fits : ¬ 0+(wireAt g s.data (g.index s.readPos)).length > RELAY_BUF_SIZE := by
          unfold ZC_DIRECT_THRESHOLD RELAY_BUF_SIZE at *
          omega
        simp only [zerocopied,large,fits]
        exact ⟨_,rfl⟩
    | false => exact ⟨_,rfl⟩

theorem popFrames_eq (front : slots <+: waiting g s) :
    popFrames g slots.length s = some (slots.map (frameAt g s.data),(released g)^[slots.length] s) := by
  induction slots generalizing s with
  | nil => rfl
  | cons idx rest ih =>
    rcases waiting_cases g s with ⟨_,none⟩ | ⟨ready,more⟩
    · rw [none] at front
      exact absurd front.length_le (by simp)
    · rw [more] at front
      obtain ⟨rfl,later⟩ := List.cons_prefix_cons.mp front
      rw [List.length_cons,popFrames,tryPopInto_some ready]
      dsimp only
      rw [ih later]
      rfl

theorem frameAt_length (g : Geometry) (data : Nat → UInt8) (idx : Nat) :
    (frameAt g data idx).payload.length = min (announced g data idx) g.maxPayload := by
  simp only [frameAt,ByteMemory.read_length]

-- The raw header goes out in front of the clamped payload, so the two ways to take a
-- frame agree when there was nothing to clamp.
theorem wireAt_encode (g : Geometry) (data : Nat → UInt8) (idx : Nat) :
    wireAt g data idx = encodeInto (frameAt g data idx) ↔ announced g data idx ≤ g.maxPayload := by
  have long := frameAt_length g data idx
  rw [wireAt_eq,encodeInto,List.append_left_inj,Vector.toList_inj]
  constructor
  · intro same
    have decoded := congrArg (fun hdr => (decodeHeader hdr).1.toNat) same
    simp only [decodeHeader_encodeHeader,long] at decoded
    change announced g data idx = min (announced g data idx) g.maxPayload % 2^32 at decoded
    omega
  · intro fits
    rw [long,Nat.min_eq_left fits,announced,UInt32.ofNat_toNat]
    exact (encodeHeader_decodeHeader _).symm

theorem flatMap_wire (g : Geometry) (data : Nat → UInt8) (slots : List Nat) :
    slots.flatMap (wireAt g data) = (slots.map (frameAt g data)).flatMap encodeInto ↔
      ∀ idx ∈ slots, announced g data idx ≤ g.maxPayload := by
  induction slots with
  | nil => simp
  | cons idx rest ih =>
    have sizes : (wireAt g data idx).length = (encodeInto (frameAt g data idx)).length := by
      rw [wireAt_eq]
      simp [encodeInto]
    rw [List.forall_mem_cons,← ih,← wireAt_encode]
    simp only [List.map_cons,List.flatMap_cons]
    constructor
    · intro same
      exact List.append_inj same sizes
    · rintro ⟨one,others⟩
      rw [one,others]

theorem frameAt_short (g : Geometry) (data : Nat → UInt8) (idx : Nat) :
    (frameAt g data idx).payload.length < 2^32 := by
  have long := frameAt_length g data idx
  have small : announced g data idx < 2^32 := (decodeHeader (headerAt g data idx)).1.toNat_lt
  omega

-- Taking the same slots with `try_pop` leaves the same ring, and the same bytes exactly
-- when no taken slot announces more than it can hold.
theorem upstream_well_framed (g : Geometry) (isPlain : Bool) (tls : Upstream) (s after : Shared)
    (sent : List (List UInt8)) (completed : forwardC2g g isPlain tls s = some (sent,after)) :
    ∃ frames, popFrames g (slotsTaken g isPlain s).length s = some (frames,after) ∧
      (WellFramed sent.flatten ∧ sent.flatten = frames.flatMap encodeInto ↔
        ∀ idx ∈ slotsTaken g isPlain s, announced g s.data idx ≤ g.maxPayload) := by
  obtain ⟨bytes,rfl⟩ := forwardC2g_eq completed
  refine ⟨_,popFrames_eq (slotsTaken_waiting g isPlain s),?_⟩
  rw [bytes,← flatMap_wire]
  constructor
  · exact And.right
  · intro same
    refine ⟨⟨_,?_,same⟩,same⟩
    intro frame present
    obtain ⟨idx,_,rfl⟩ := List.mem_map.mp present
    exact frameAt_short g s.data idx

def allAccepted : Upstream := fun _ _ => true

def oneReady (len : UInt32) : Shared :=
  {writePos := 1,readPos := 0,seq := fun i => if i = 0 then 1 else UInt64.ofNat i,
    data := ByteMemory.write (fun _ => 0) 0 (encodeHeader len 7).toList}

theorem oneReady_slotsTaken (len : UInt32) (isPlain : Bool) : slotsTaken smallest isPlain (oneReady len) = [0] := by
  have waits : waiting smallest (oneReady len) = [0] := by
    change readyFrom smallest (fun i => if i = 0 then 1 else UInt64.ofNat i) 0 2 = [0]
    decide
  have long := wireAt_length smallest (oneReady len).data 0
  have small : (wireAt smallest (oneReady len).data 0).length ≤ 64 := by
    have room : smallest.maxPayload = 56 := rfl
    simp only [FRAME_HEADER_LEN] at long
    omega
  cases isPlain with
  | true =>
    have staged : ¬ ZC_DIRECT_THRESHOLD ≤ (wireAt smallest (oneReady len).data 0).length := by
      simp only [ZC_DIRECT_THRESHOLD]
      omega
    have room : ¬ 0+(wireAt smallest (oneReady len).data 0).length > RELAY_BUF_SIZE := by
      simp only [RELAY_BUF_SIZE]
      omega
    simp only [slotsTaken,if_true,waits,zerocopied,if_neg staged,if_neg room]
  | false => simp [slotsTaken,waits,coalesced,RELAY_BUF_SIZE]

theorem oneReady_header (len : UInt32) : headerAt smallest (oneReady len).data 0 = encodeHeader len 7 := by
  have first : smallest.slot 0 = 0 := rfl
  rw [headerAt,first]
  simp only [oneReady,ByteMemory.readVector_write]

theorem oneReady_announced (len : UInt32) : announced smallest (oneReady len).data 0 = len.toNat := by
  rw [announced,oneReady_header,decodeHeader_encodeHeader]

theorem upstream_well_framed_one : ∃ sent after frames,
    forwardC2g smallest true allAccepted (oneReady 5) = some (sent,after) ∧
      popFrames smallest 1 (oneReady 5) = some (frames,after) ∧
      WellFramed sent.flatten ∧ sent.flatten = frames.flatMap encodeInto := by
  have accepts : ∀ sent chunk, allAccepted sent chunk = true := fun _ _ => rfl
  obtain ⟨sent,after,completed⟩ := forwardC2g_completes accepts smallest true (oneReady 5)
  obtain ⟨frames,popped,framed⟩ := upstream_well_framed _ _ _ _ _ _ completed
  rw [oneReady_slotsTaken] at popped framed
  refine ⟨sent,after,frames,completed,popped,framed.mpr ?_⟩
  simp only [List.forall_mem_singleton,oneReady_announced]
  decide

-- A header that announces one byte more than its payload cannot be parsed.
theorem not_wellFramed (len trafficId : UInt32) (payload : List UInt8)
    (shown : bytes = (encodeHeader len trafficId).toList ++ payload) (short : payload.length < len.toNat) :
    ¬ WellFramed bytes := by
  rintro ⟨frames,small,parsed⟩
  cases frames with
  | nil =>
    have long := congrArg List.length (parsed.symm.trans shown)
    simp only [List.flatMap_nil,List.length_nil,List.length_append,Vector.length_toList] at long
    unfold FRAME_HEADER_LEN at long
    omega
  | cons frame rest =>
    rw [List.flatMap_cons,encodeInto,shown,List.append_assoc] at parsed
    obtain ⟨header,behind⟩ := List.append_inj parsed (by simp)
    have decoded := congrArg decodeHeader (Vector.toList_inj.mp header)
    simp only [decodeHeader_encodeHeader,Prod.mk.injEq] at decoded
    have bound := small frame (List.mem_cons_self ..)
    have long := congrArg List.length behind
    rw [decoded.1,UInt32.toNat_ofNat'] at short
    rw [List.length_append] at long
    omega

-- 57 announced, 56 forwarded.
theorem forwarded_header_lies : ∃ sent after frames,
    forwardC2g smallest false allAccepted (oneReady 57) = some (sent,after) ∧
      popFrames smallest 1 (oneReady 57) = some (frames,after) ∧
      ¬ WellFramed sent.flatten ∧ sent.flatten ≠ frames.flatMap encodeInto := by
  have accepts : ∀ sent chunk, allAccepted sent chunk = true := fun _ _ => rfl
  obtain ⟨sent,after,completed⟩ := forwardC2g_completes accepts smallest false (oneReady 57)
  obtain ⟨bytes,rfl⟩ := forwardC2g_eq completed
  have popped := popFrames_eq (slotsTaken_waiting smallest false (oneReady 57))
  rw [oneReady_slotsTaken] at bytes completed popped
  refine ⟨sent,_,_,completed,popped,?_,?_⟩
  · refine not_wellFramed 57 7 (frameAt smallest (oneReady 57).data 0).payload ?_ ?_
    · rw [bytes,List.flatMap_singleton,wireAt_eq,oneReady_header]
    · have long : (frameAt smallest (oneReady 57).data 0).payload.length =
          min (announced smallest (oneReady 57).data 0) smallest.maxPayload := ByteMemory.read_length
      rw [long,oneReady_announced]
      decide
  · rw [bytes,ne_eq,flatMap_wire]
    simp only [List.forall_mem_singleton,oneReady_announced]
    decide

end Scg.SlotRing
