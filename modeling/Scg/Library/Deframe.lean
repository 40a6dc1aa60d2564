import Mathlib.Tactic.Common

namespace Deframe
open List

variable {α β : Type}

-- What stands at the front of a buffer: the beginning of an item, an item and what
-- follows it, or something no item begins with.
inductive Front (α β : Type) where
  | more
  | item (value : β) (rest : List α)
  | bad
  deriving DecidableEq

-- An item takes something from the buffer, and once the front is decided nothing that
-- comes behind it changes it.
structure Decoder (α β : Type) where
  front : List α → Front α β
  shrinks : ∀ xs value rest, front xs = .item value rest → rest.length < xs.length
  item_stays : ∀ xs value rest later, front xs = .item value rest → front (xs ++ later) = .item value (rest ++ later)
  bad_stays : ∀ xs later, front xs = .bad → front (xs ++ later) = .bad

structure Decoded (α β : Type) where
  items : List β
  rest : List α
  bad : Bool
  deriving DecidableEq

def decodeFuel (D : Decoder α β) : Nat → List α → Decoded α β
  | 0,xs => ⟨[],xs,false⟩
  | fuel+1,xs =>
    match D.front xs with
    | .more => ⟨[],xs,false⟩
    | .bad => ⟨[],xs,true⟩
    | .item value rest =>
      let later := decodeFuel D fuel rest
      {later with items := value :: later.items}

-- Every item takes something, so the length is enough fuel.
def decode (D : Decoder α β) (xs : List α) : Decoded α β := decodeFuel D (xs.length+1) xs

variable {D : Decoder α β}

theorem decodeFuel_enough (fuel : Nat) (enough : xs.length < fuel) : decodeFuel D fuel xs = decode D xs := by
  induction fuel using Nat.strongRecOn generalizing xs with
  | ind fuel ih =>
    cases fuel with
    | zero => omega
    | succ fuel =>
      unfold decode
      simp only [decodeFuel]
      split
      · rfl
      · rfl
      · rename_i value rest shown
        have shorter := D.shrinks xs value rest shown
        rw [ih fuel (Nat.lt_succ_self fuel) (by omega)]
        by_cases same : xs.length = fuel
        · rw [same,ih fuel (Nat.lt_succ_self fuel) (by omega)]
        · rw [ih xs.length (by omega) shorter]

theorem decode_more (shown : D.front xs = .more) : decode D xs = ⟨[],xs,false⟩ := by simp [decode,decodeFuel,shown]

theorem decode_bad (shown : D.front xs = .bad) : decode D xs = ⟨[],xs,true⟩ := by simp [decode,decodeFuel,shown]

theorem decode_item (shown : D.front xs = .item value rest) :
    decode D xs = ⟨value :: (decode D rest).items,(decode D rest).rest,(decode D rest).bad⟩ := by
  have shorter := D.shrinks xs value rest shown
  rw [← decodeFuel_enough xs.length shorter]
  simp [decode,decodeFuel,shown]

-- The rule the others come from: a property of buffers that each front passes on.
theorem decode_induction {P : List α → Prop} (more : ∀ xs, D.front xs = .more → P xs)
    (bad : ∀ xs, D.front xs = .bad → P xs)
    (item : ∀ xs value rest, D.front xs = .item value rest → P rest → P xs) (xs : List α) : P xs := by
  induction size : xs.length using Nat.strongRecOn generalizing xs with
  | ind n ih =>
    cases shown : D.front xs with
    | more => exact more xs shown
    | bad => exact bad xs shown
    | item value rest =>
      have shorter := D.shrinks xs value rest shown
      exact item xs value rest shown (ih rest.length (by omega) rest rfl)

theorem decode_rest_more (sound : (decode D xs).bad = false) : D.front (decode D xs).rest = .more := by
  induction xs using decode_induction (D := D) with
  | more xs shown => rwa [decode_more shown]
  | bad xs shown => simp [decode_bad shown] at sound
  | item xs value rest shown ih =>
    rw [decode_item shown] at sound ⊢
    exact ih sound

theorem decode_append_bad (later : List α) (spoilt : (decode D xs).bad = true) :
    decode D (xs ++ later) = ⟨(decode D xs).items,(decode D xs).rest ++ later,true⟩ := by
  induction xs using decode_induction (D := D) with
  | more xs shown => simp [decode_more shown] at spoilt
  | bad xs shown => rw [decode_bad shown,decode_bad (D.bad_stays xs later shown)]
  | item xs value rest shown ih =>
    rw [decode_item shown] at spoilt ⊢
    rw [decode_item (D.item_stays xs value rest later shown),ih spoilt]

theorem decode_append (later : List α) (sound : (decode D xs).bad = false) :
    decode D (xs ++ later) =
      {decode D ((decode D xs).rest ++ later) with
        items := (decode D xs).items ++ (decode D ((decode D xs).rest ++ later)).items} := by
  induction xs using decode_induction (D := D) with
  | more xs shown => simp [decode_more shown]
  | bad xs shown => simp [decode_bad shown] at sound
  | item xs value rest shown ih =>
    rw [decode_item shown] at sound ⊢
    rw [decode_item (D.item_stays xs value rest later shown),ih sound]
    rfl

section Encoding
variable {encode : β → List α}

theorem decode_canonical (canonical : ∀ xs value rest, D.front xs = .item value rest → xs = encode value ++ rest)
    (xs : List α) : xs = (decode D xs).items.flatMap encode ++ (decode D xs).rest := by
  induction xs using decode_induction (D := D) with
  | more xs shown => simp [decode_more shown]
  | bad xs shown => simp [decode_bad shown]
  | item xs value rest shown ih =>
    rw [decode_item shown,flatMap_cons,append_assoc,← ih]
    exact canonical xs value rest shown

theorem decode_encoded (values : List β) (round : ∀ value ∈ values, ∀ rest, D.front (encode value ++ rest) = .item value rest)
    (tail : List α) :
    decode D (values.flatMap encode ++ tail) = {decode D tail with items := values ++ (decode D tail).items} := by
  induction values with
  | nil => rfl
  | cons value values ih =>
    have here := round value mem_cons_self (values.flatMap encode ++ tail)
    rw [flatMap_cons,append_assoc,decode_item here,ih (fun next found => round next (mem_cons_of_mem _ found))]
    rfl

end Encoding

section Faults
variable {P : List α → List α → Prop}

-- What holds where a piece spoils a stream, of the stream before it and of that piece;
-- `sofar` came before the pieces.
def AtFault (D : Decoder α β) (P : List α → List α → Prop) (sofar : List α) (pieces : List (List α)) : Prop :=
  ∀ before piece later, pieces = before ++ piece :: later →
    (decode D (sofar ++ before.flatten)).bad = false → (decode D (sofar ++ before.flatten ++ piece)).bad = true →
    P (sofar ++ before.flatten) piece

theorem atFault_nil : AtFault D P sofar [] := by
  intro before piece later cut
  simp at cut

theorem atFault_goes (sound : (decode D (sofar ++ piece)).bad = false) :
    AtFault D P sofar (piece :: later) ↔ AtFault D P (sofar ++ piece) later := by
  constructor
  · intro holds before next rest cut
    have here := holds (piece :: before) next rest (by rw [cut]; rfl)
    simpa only [flatten_cons,append_assoc] using here
  · intro holds before next rest cut
    cases before with
    | nil =>
      cases cut
      intro _ spoilt
      rw [flatten_nil,append_nil,sound] at spoilt
      cases spoilt
    | cons first before =>
      cases cut
      have here := holds before next rest rfl
      simpa only [flatten_cons,append_assoc] using here

theorem atFault_stops (sound : (decode D sofar).bad = false) (spoilt : (decode D (sofar ++ piece)).bad = true) :
    AtFault D P sofar (piece :: later) ↔ P sofar piece := by
  constructor
  · intro holds
    have here := holds [] piece later rfl
    rw [flatten_nil,append_nil] at here
    exact here sound spoilt
  · intro here before next rest cut good
    cases before with
    | nil =>
      cases cut
      intro _
      rwa [flatten_nil,append_nil]
    | cons first before =>
      cases cut
      rw [flatten_cons,← append_assoc,decode_append_bad _ spoilt] at good
      cases good

theorem atFault_sound (sound : (decode D (sofar ++ pieces.flatten)).bad = false) : AtFault D P sofar pieces := by
  intro before piece later cut _ spoilt
  rw [cut,flatten_append,flatten_cons,← append_assoc,← append_assoc,decode_append_bad _ spoilt] at sound
  cases sound

end Faults

section Pieces
variable {S T : Type}

-- What is fed piece by piece, up to the piece it stops at: the items and the number of
-- that piece.
def untilStop (step : S → List α → List β × Bool × S) : S → List (List α) → List β × Option Nat
  | _,[] => ([],none)
  | s,piece :: later =>
    match step s piece with
    | (items,true,_) => (items,some 0)
    | (items,false,next) =>
      let (more,stop) := untilStop step next later
      (items ++ more,stop.map (·+1))

section Equations
variable {step : S → List α → List β × Bool × S}

theorem untilStop_stops {next : S} (taken : step s piece = (items,true,next)) : untilStop step s (piece :: later) = (items,some 0) := by
  rw [untilStop,taken]

theorem untilStop_goes {next : S} (taken : step s piece = (items,false,next)) :
    untilStop step s (piece :: later) =
      (items ++ (untilStop step next later).1,(untilStop step next later).2.map (·+1)) := by rw [untilStop,taken]

end Equations

theorem untilStop_follow {step : S → List α → List β × Bool × S} {other : T → List α → List β × Bool × T}
    (related : S → T → Prop)
    (same : ∀ s t piece, related s t → (step s piece).1 = (other t piece).1 ∧ (step s piece).2.1 = (other t piece).2.1 ∧
      ((step s piece).2.1 = false → related (step s piece).2.2 (other t piece).2.2))
    (begun : related s t) (pieces : List (List α)) : untilStop step s pieces = untilStop other t pieces := by
  induction pieces generalizing s t with
  | nil => rfl
  | cons piece later ih =>
    obtain ⟨items,stops,next⟩ := same s t piece begun
    rcases left : step s piece with ⟨one,stop,s'⟩
    rcases right : other t piece with ⟨two,halt,t'⟩
    rw [left,right] at items stops next
    subst items stops
    cases stop with
    | true => rw [untilStop_stops left,untilStop_stops right]
    | false => rw [untilStop_goes left,untilStop_goes right,ih (next rfl)]

def Decoder.step (D : Decoder α β) (pending piece : List α) : List β × Bool × List α :=
  ((decode D (pending ++ piece)).items,(decode D (pending ++ piece)).bad,(decode D (pending ++ piece)).rest)

-- However the stream is cut, the items are those of the whole, and one piece is found
-- bad exactly if the whole is.
theorem untilStop_decode (pieces : List (List α)) (pending : List α) (drained : D.front pending = .more) :
    (untilStop D.step pending pieces).1 = (decode D (pending ++ pieces.flatten)).items ∧
    (untilStop D.step pending pieces).2.isSome = (decode D (pending ++ pieces.flatten)).bad := by
  induction pieces generalizing pending with
  | nil =>
    rw [flatten_nil,append_nil,decode_more drained]
    exact ⟨rfl,rfl⟩
  | cons piece later ih =>
    rw [flatten_cons,← append_assoc]
    cases spoilt : (decode D (pending ++ piece)).bad with
    | true =>
      have taken : D.step pending piece = (_,true,_) := congrArg (fun bad => (_,bad,_)) spoilt
      rw [decode_append_bad later.flatten spoilt,untilStop_stops taken]
      exact ⟨rfl,rfl⟩
    | false =>
      obtain ⟨items,stop⟩ := ih (decode D (pending ++ piece)).rest (decode_rest_more spoilt)
      have taken : D.step pending piece = (_,false,_) := congrArg (fun bad => (_,bad,_)) spoilt
      rw [decode_append later.flatten spoilt,untilStop_goes taken,items,Option.isSome_map,stop]
      exact ⟨rfl,rfl⟩

end Pieces

end Deframe
