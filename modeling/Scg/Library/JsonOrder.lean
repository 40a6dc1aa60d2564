import Scg.Library.Json

-- Documents as a sorted map builds them. The keys of every object increase, so two
-- objects that answer every lookup alike are equal.
namespace Json
open List

def Increasing (fields : Fields) : Prop := fields.Pairwise (·.1 < ·.1)

instance (fields : Fields) : Decidable (Increasing fields) := inferInstanceAs (Decidable (fields.Pairwise (·.1 < ·.1)))

def isPlain : Json → Bool
  | .arr _ | .obj _ => false
  | _ => true

inductive Ordered : Json → Prop
  | plain (value : Json) (leaf : value.isPlain = true) : Ordered value
  | arr (items : List Json) (inner : ∀ item ∈ items, Ordered item) : Ordered (.arr items)
  | obj (fields : Fields) (increasing : Increasing fields) (inner : ∀ field ∈ fields, Ordered field.2) :
      Ordered (.obj fields)

structure Document where
  json : Json
  ordered : json.Ordered

section Fields
theorem ordered_obj : Ordered (.obj fields) ↔ Increasing fields ∧ ∀ field ∈ fields, Ordered field.2 := by
  constructor
  · intro ordered
    cases ordered with
    | plain _ leaf => cases leaf
    | obj _ increasing inner => exact ⟨increasing,inner⟩
  · exact fun ⟨increasing,inner⟩ => .obj fields increasing inner

theorem ordered_arr {items : List Json} : Ordered (.arr items) ↔ ∀ item ∈ items, Ordered item := by
  constructor
  · intro ordered
    cases ordered with
    | plain _ leaf => cases leaf
    | arr _ inner => exact inner
  · exact .arr items

theorem lookup_mem (found : lookup key fields = some value) : (key,value) ∈ fields := by
  induction fields with
  | nil => cases found
  | cons field rest ih =>
    obtain ⟨name,held⟩ := field
    unfold lookup at found
    split at found
    · rename_i same
      cases Option.some.inj found
      rw [same]
      exact mem_cons_self
    · exact mem_cons_of_mem _ (ih found)

theorem lookup_ordered (ordered : Ordered (.obj fields)) (found : lookup key fields = some value) : Ordered value :=
  (ordered_obj.mp ordered).2 _ (lookup_mem found)

theorem lookup_below (below : ∀ field ∈ fields, key < field.1) : lookup key fields = none := by
  cases found : lookup key fields with
  | none => rfl
  | some value => exact absurd (below _ (lookup_mem found)) (String.lt_irrefl key)

theorem Increasing.above (increasing : Increasing (field :: fields)) :
    ∀ later ∈ fields, field.1 < later.1 := (pairwise_cons.mp increasing).1

theorem Increasing.tail (increasing : Increasing (field :: fields)) : Increasing fields :=
  (pairwise_cons.mp increasing).2

theorem Increasing.head_none (increasing : Increasing (field :: fields)) :
    lookup field.1 fields = none := lookup_below increasing.above

theorem lookup_cons_ne (different : field.1 ≠ key) :
    lookup key (field :: fields) = lookup key fields := if_neg different

theorem lookup_cons_self : lookup field.1 (field :: fields) = some field.2 := if_pos rfl

theorem fields_ext (first : Increasing one) (second : Increasing two)
    (alike : ∀ key, lookup key one = lookup key two) : one = two := by
  induction one generalizing two with
  | nil =>
    cases two with
    | nil => rfl
    | cons field rest => exact absurd ((alike field.1).trans lookup_cons_self) (by simp [lookup])
  | cons field rest ih =>
    cases two with
    | nil => exact absurd ((alike field.1).symm.trans lookup_cons_self) (by simp [lookup])
    | cons other others =>
      have least {x y : String × Json} {xs ys : Fields} (inc : Increasing (y :: ys))
          (agree : lookup x.1 (y :: ys) = lookup x.1 (x :: xs)) : ¬ x.1 < y.1 := by
        intro below
        have none : lookup x.1 (y :: ys) = none := lookup_below fun later present => by
          rcases mem_cons.mp present with rfl | present
          · exact below
          · exact String.lt_trans below (inc.above later present)
        rw [none,lookup_cons_self] at agree
        cases agree
      have keys : field.1 = other.1 :=
        String.le_antisymm (String.not_lt.mp (least first (alike other.1)))
          (String.not_lt.mp (least second (alike field.1).symm))
      have values : field.2 = other.2 := by
        have agree := alike field.1
        rw [lookup_cons_self,keys,lookup_cons_self] at agree
        exact Option.some.inj agree
      have rests : rest = others := ih first.tail second.tail fun key => by
        by_cases same : field.1 = key
        · rw [← same,first.head_none,keys,second.head_none]
        · have agree := alike key
          rwa [lookup_cons_ne same,lookup_cons_ne (keys ▸ same)] at agree
      rw [rests,Prod.ext keys values]

theorem mem_insert (present : field ∈ insert key value fields) :
    field = (key,value) ∨ field ∈ fields := by
  induction fields with
  | nil => exact .inl (mem_singleton.mp present)
  | cons first rest ih =>
    unfold insert at present
    split at present
    · rcases mem_cons.mp present with new | later
      · exact .inl new
      · exact .inr (mem_cons_of_mem _ later)
    · split at present
      · exact (mem_cons.mp present)
      · rcases mem_cons.mp present with rfl | later
        · exact .inr mem_cons_self
        · exact (ih later).imp_right (mem_cons_of_mem _)

theorem insert_increasing (increasing : Increasing fields) : Increasing (insert key value fields) := by
  induction fields with
  | nil => exact pairwise_singleton _ _
  | cons first rest ih =>
    obtain ⟨name,old⟩ := first
    have above := increasing.above
    unfold insert
    split
    · rename_i same
      exact pairwise_cons.mpr ⟨same ▸ above,increasing.tail⟩
    · rename_i different
      split
      · rename_i below
        refine pairwise_cons.mpr ⟨?_,increasing⟩
        intro later present
        rcases mem_cons.mp present with rfl | present
        · exact below
        · exact String.lt_trans below (above later present)
      · rename_i notBelow
        have beyond : name < key := by
          by_contra notLess
          exact different (String.le_antisymm (String.not_lt.mp notBelow) (String.not_lt.mp notLess))
        refine pairwise_cons.mpr ⟨?_,ih increasing.tail⟩
        intro later present
        rcases mem_insert present with rfl | present
        · exact beyond
        · exact above later present

theorem insert_ordered (object : Ordered (.obj fields)) (ordered : Ordered value) :
    Ordered (.obj (insert key value fields)) := by
  obtain ⟨increasing,inner⟩ := ordered_obj.mp object
  refine .obj _ (insert_increasing increasing) fun field present => ?_
  rcases mem_insert present with rfl | present
  · exact ordered
  · exact inner field present

theorem insert_present (increasing : Increasing fields) (found : lookup key fields = some value) :
    insert key value fields = fields := by
  refine fields_ext (insert_increasing increasing) increasing fun other => ?_
  by_cases same : key = other
  · rw [← same,lookup_insert,found]
  · exact lookup_insert_ne same

end Fields

inductive Step where
  | key (name : String)
  | index (i : Nat)

def child : Step → Json → Option Json
  | .key name,doc => doc.get name
  | .index i,.arr items => items[i]?
  | .index _,_ => none

def valueAt : List Step → Json → Option Json
  | [],doc => some doc
  | step :: path,doc => (child step doc).bind (valueAt path)

@[simp] theorem valueAt_cons (step : Step) (path : List Step) (doc : Json) :
    valueAt (step :: path) doc = (child step doc).bind (valueAt path) := rfl

end Json
