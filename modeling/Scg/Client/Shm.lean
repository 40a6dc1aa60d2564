import Scg.Ipc.SlotInPlace

namespace Scg.Client
open Ipc Interaction SlotRing

inductive ScgError where
  | management (message : String)
  | closed
  | frameTooLarge
  | badOffer (message : String)
  | io (message : String)
  deriving DecidableEq,Repr

-- What the client makes of the outcome of a ring call: every ring error is `FrameTooLarge`.
def reported : Except ShmError PushOutcome → Except ScgError Bool
  | .error _ => .error .frameTooLarge
  | .ok (.pushed _) => .ok true
  | .ok .full => .ok false

def lent : Except ShmError (Option ReservedSlot) → Except ScgError (Option ReservedSlot)
  | .error _ => .error .frameTooLarge
  | .ok slot => .ok slot

def slotTryPush (g : Geometry) (frame : Frame) : Call (Except ScgError Bool) := do
  let result ← tryPush g frame
  return reported result

def slotReserve (g : Geometry) : Call (Except ScgError (Option ReservedSlot)) := do
  let result ← reserve g
  return lent result

def reserveRaw (g : Geometry) : Call (Except ScgError (Option Slice)) := do
  let result ← slotReserve g
  match result with
  | .error e => return .error e
  | .ok none => return .ok none
  | .ok (some slot) =>
    payloadMut g slot
    return .ok (some ⟨payloadAt g slot,g.maxPayload⟩)

def commitRawNosignal (g : Geometry) (trafficId : UInt32) (len : Nat) : Call (Except ScgError Bool) := do
  let result ← slotReserve g
  match result with
  | .error e => return .error e
  | .ok none => return .ok false
  | .ok (some slot) =>
    let out ← commit g slot trafficId len
    return reported out

def flushed (signal : Except ScgError Unit) : Except ScgError Bool → Except ScgError Bool
  | .ok true =>
    match signal with
    | .ok () => .ok true
    | .error e => .error e
  | unpublished => unpublished

def commitRaw (g : Geometry) (signal : Except ScgError Unit) (trafficId : UInt32) (len : Nat) :
    Call (Except ScgError Bool) := do
  let published ← commitRawNosignal g trafficId len
  return flushed signal published

def reserveRawAndFill (g : Geometry) (fills : List (Nat × List UInt8)) : Call (Except ScgError (Option Slice)) := do
  let result ← reserveRaw g
  match result with
  | .ok (some view) =>
    fillEach view.off fills
    return .ok (some view)
  | refused => return refused

theorem reserveRawAndFill_lends (ran : Interleaved (beside g) m (reserveRawAndFill g fills) actions mid (.ok (some view))) :
    ∃ slot, view = ⟨payloadAt g slot,g.maxPayload⟩ ∧
      Interleaved (beside g) m (reserveAndFill g fills) actions mid (.ok (some slot)) := by
  obtain ⟨first,second,one,given,rfl,ran,rest⟩ := Interleaved.bind_iff.mp ran
  obtain ⟨early,late,two,found,rfl,ran,lends⟩ := Interleaved.bind_iff.mp ran
  obtain ⟨result,reserving,rfl⟩ := Interleaved.map_iff.mp ran
  match result with
  | .error e | .ok none =>
    obtain ⟨_,rfl⟩ := Interleaved.ret_iff.mp lends
    cases (Interleaved.ret_iff.mp rest).2
  | .ok (some slot) =>
    obtain ⟨look,wait,three,_,rfl,viewed,lends⟩ := Interleaved.bind_iff.mp lends
    obtain ⟨waited,rfl⟩ := Interleaved.ret_iff.mp lends
    obtain ⟨fill,final,four,_,rfl,filled,rest⟩ := Interleaved.bind_iff.mp rest
    obtain ⟨rested,same⟩ := Interleaved.ret_iff.mp rest
    cases same
    have whole : early ++ (look ++ wait) ++ (fill ++ final) = early ++ (look ++ (wait ++ fill ++ final)) := by
      simp only [List.append_assoc]
    rw [whole]
    refine ⟨slot,rfl,Interleaved.bind_iff.mpr ⟨early,_,two,.ok (some slot),rfl,reserving,?_⟩⟩
    refine Interleaved.bind_iff.mpr ⟨look,_,three,(),rfl,viewed,?_⟩
    exact Interleaved.bind_iff.mpr ⟨wait ++ fill,final,four,(),rfl,Interleaved.wait waited filled,
      Interleaved.ret_iff.mpr ⟨rested,rfl⟩⟩

theorem commitRawNosignal_commits (consuming : Consuming g m) (free : Free g slot m)
    (ran : Interleaved (beside g) m (commitRawNosignal g trafficId len) actions after result) :
    ∃ outcome, Interleaved (beside g) m (commit g slot trafficId len) actions after outcome ∧ result = reported outcome := by
  obtain ⟨first,second,one,found,rfl,ran,rest⟩ := Interleaved.bind_iff.mp ran
  obtain ⟨located,reserving,rfl⟩ := Interleaved.map_iff.mp ran
  obtain rfl := reserve_again consuming free reserving
  obtain ⟨outcome,committed,same⟩ := Interleaved.map_iff.mp rest
  exact ⟨outcome,Interleaved.wait (reserve_runs consuming reserving).1 committed,same⟩

theorem commitRawNosignal_unpublished (consuming : Consuming g m)
    (ran : Interleaved (beside g) m (commitRawNosignal g trafficId len) actions after result) (unpublished : result ≠ .ok true) :
    (beside g).peers m actions = some after := by
  obtain ⟨first,second,one,found,rfl,ran,rest⟩ := Interleaved.bind_iff.mp ran
  obtain ⟨located,reserving,rfl⟩ := Interleaved.map_iff.mp ran
  have waited := (reserve_runs consuming reserving).1
  match located with
  | .error e | .ok none => exact Setting.peers_trans waited (Interleaved.ret_iff.mp rest).1
  | .ok (some slot) =>
    obtain ⟨outcome,committed,rfl⟩ := Interleaved.map_iff.mp rest
    by_cases oversize : g.maxPayload < len
    · exact Setting.peers_trans waited (commit_oversize oversize committed).2
    · obtain ⟨wasEmpty,rfl⟩ := commit_publishes (Nat.le_of_not_lt oversize) committed
      exact absurd rfl unpublished

theorem in_place_equals_copying (g : Geometry) (m : Machine) (path : Transition.Reached (anywhere g) m) :
    (∀ fills payload trafficId before mid slot later after outcome, payload.length ≤ g.maxPayload → Writes fills payload →
      Interleaved (beside g) m (reserveAndFill g fills) before mid (.ok (some slot)) →
      Interleaved (beside g) mid (commit g slot trafficId payload.length) later after outcome →
      ∃ idle, (beside g).peers m before = some idle ∧
        Interleaved (beside g) idle (tryPush g ⟨trafficId,payload⟩) later after outcome) ∧
    (∀ fills payload trafficId signal before mid view later after result, payload.length ≤ g.maxPayload →
      Writes fills payload → Interleaved (beside g) m (reserveRawAndFill g fills) before mid (.ok (some view)) →
      Interleaved (beside g) mid (commitRaw g signal trafficId payload.length) later after result →
      ∃ idle pushed, (beside g).peers m before = some idle ∧
        Interleaved (beside g) idle (slotTryPush g ⟨trafficId,payload⟩) later after pushed ∧ result = flushed signal pushed) ∧
    (∀ frame before mid refused outcome, frame.payload.length ≤ g.maxPayload → refusal refused = some outcome →
      Interleaved (beside g) m (reserve g) before mid refused →
      (beside g).peers m before = some mid ∧ Interleaved (beside g) m (tryPush g frame) before mid outcome) ∧
    (∀ fills before mid slot, FillsWithin g.maxPayload fills →
      Interleaved (beside g) m (reserveAndFill g fills) before mid (.ok (some slot)) →
      Prepared g m before g.maxPayload slot mid ∧
      ∀ trafficId len later after outcome, g.maxPayload < len →
        Interleaved (beside g) mid (commit g slot trafficId len) later after outcome →
        outcome = .error .frameTooLarge ∧ (beside g).peers mid later = some after) ∧
    ∀ trafficId len actions after result, Interleaved (beside g) m (commitRawNosignal g trafficId len) actions after result →
      result ≠ .ok true → (beside g).peers m actions = some after := by
  have consuming := (reached_exclusive path).2
  refine ⟨?_,?_,?_,?_,?_⟩
  · intro fills payload trafficId before mid slot later after outcome fits writes filled committed
    obtain ⟨prepared,data,content⟩ := reserveAndFill_prepares consuming fits writes.within filled
    have there : ByteMemory.read mid.shared.data (payloadAt g slot) payload.length = payload := by
      rw [content]
      exact writes.content data _
    exact prepared.commit_copies fits there committed
  · intro fills payload trafficId signal before mid view later after result fits writes filled committed
    obtain ⟨slot,rfl,lends⟩ := reserveRawAndFill_lends filled
    obtain ⟨prepared,data,content⟩ := reserveAndFill_prepares consuming fits writes.within lends
    have there : ByteMemory.read mid.shared.data (payloadAt g slot) payload.length = payload := by
      rw [content]
      exact writes.content data _
    obtain ⟨published,raw,rfl⟩ := Interleaved.map_iff.mp committed
    obtain ⟨outcome,published,rfl⟩ := commitRawNosignal_commits prepared.consuming prepared.free raw
    obtain ⟨idle,waited,pushed⟩ := prepared.commit_copies fits there published
    exact ⟨idle,reported outcome,waited,Interleaved.map_iff.mpr ⟨outcome,pushed,rfl⟩,rfl⟩
  · intro frame before mid refused outcome fits refuses ran
    exact ⟨(reserve_runs consuming ran).1,reserve_refused fits refuses ran⟩
  · intro fills before mid slot within filled
    refine ⟨(reserveAndFill_prepares consuming (Nat.le_refl _) within filled).1,?_⟩
    intro trafficId len later after outcome oversize committed
    exact commit_oversize oversize committed
  · intro trafficId len actions after result ran unpublished
    exact commitRawNosignal_unpublished consuming ran unpublished

def empty : Machine := SlotRing.initial fun _ => 0

-- The consumer looks for a frame between the two calls of the producer.
theorem in_place_equals_copying_checked : Transition.Reached (anywhere smallest) empty ∧ Writes [(0,[7,8])] [7,8] ∧
    ∃ mid after, Interleaved (beside smallest) empty (reserveAndFill smallest [(0,[7,8])]) [Action.isEmpty] mid (.ok (some ⟨0,0⟩)) ∧
      Interleaved (beside smallest) mid (commit smallest ⟨0,0⟩ 5 2) [Action.consumer] after (.ok (.pushed true)) ∧
      ∃ idle, (beside smallest).peers empty [Action.isEmpty] = some idle ∧
        Interleaved (beside smallest) idle (tryPush smallest ⟨5,[7,8]⟩) [Action.consumer] after (.ok (.pushed true)) := by
  have path : Transition.Reached (anywhere smallest) empty := .initial ⟨rfl,rfl⟩
  have writes : Writes [(0,[7,8])] [7,8] := by
    refine ⟨by unfold FillsWithin; decide,fun data off => ?_⟩
    exact ByteMemory.read_write
  have runs : ∃ mid after,
      Interleaved (beside smallest) empty (reserveAndFill smallest [(0,[7,8])]) [Action.isEmpty] mid (.ok (some ⟨0,0⟩)) ∧
      Interleaved (beside smallest) mid (commit smallest ⟨0,0⟩ 5 2) [Action.consumer] after (.ok (.pushed true)) :=
    ⟨_,_,.peer rfl (.own (.own (.own (.own (.done _ _))))),.own (.own (.peer rfl (.own (.own (.done _ _)))))⟩
  obtain ⟨mid,after,filled,committed⟩ := runs
  have copied := (in_place_equals_copying smallest empty path).1 [(0,[7,8])] [7,8] 5 _ mid ⟨0,0⟩ _ after _ (by decide) writes
    filled committed
  exact ⟨path,writes,mid,after,filled,committed,copied⟩

end Scg.Client
