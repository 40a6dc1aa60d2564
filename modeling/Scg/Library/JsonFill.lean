import Scg.Library.JsonOrder

-- Completing objects member by member: what was there stays, and once every member is
-- settled a second round changes nothing.
namespace Json
open List Option

inductive Extended : Json → Json → Prop
  | same (value : Json) : Extended value value
  | arr {items later : List Json} (length : items.length = later.length)
      (inner : ∀ (i : Nat) old new, items[i]? = some old → later[i]? = some new → Extended old new) :
      Extended (.arr items) (.arr later)
  | obj {fields later : Fields} (present : ∀ key, lookup key fields ≠ none → lookup key later ≠ none)
      (inner : ∀ key old new, lookup key fields = some old → lookup key later = some new → Extended old new) :
      Extended (.obj fields) (.obj later)

namespace Extended

theorem trans (first : Extended one two) : ∀ {three}, Extended two three → Extended one three := by
  induction first with
  | same value => exact id
  | arr length inner ih =>
    intro three second
    cases second with
    | same => exact .arr length inner
    | arr further beyond =>
      refine .arr (length.trans further) fun i old new before after => ?_
      have bound := (List.getElem?_eq_some_iff.mp before).1
      have there := getElem?_eq_getElem (length ▸ bound)
      exact ih i old _ before there (beyond i _ new there after)
  | obj present inner ih =>
    intro three second
    cases second with
    | same => exact .obj present inner
    | obj further beyond =>
      refine .obj (fun key held => further key (present key held)) fun key old new before after => ?_
      obtain ⟨mid,there⟩ := ne_none_iff_exists'.mp (present key (by simp [before]))
      exact ih key old mid before there (beyond key mid new there after)

theorem insert (kept : ∀ old, lookup key fields = some old → Extended old value) :
    Extended (.obj fields) (.obj (Json.insert key value fields)) := by
  refine .obj (fun other held => ?_) fun other old new before after => ?_
  · by_cases same : key = other
    · rw [same]
      simp
    · rwa [lookup_insert_ne same]
  · by_cases same : key = other
    · subst same
      rw [lookup_insert] at after
      cases Option.some.inj after
      exact kept old before
    · rw [lookup_insert_ne same,before] at after
      cases Option.some.inj after
      exact .same old

theorem plain (grown : Extended one two) (leaf : one.isPlain = true) : two = one := by
  cases grown with
  | same => rfl
  | arr | obj => cases leaf

theorem child (grown : Extended one two) (found : child step one = some old) :
    ∃ new, Json.child step two = some new ∧ Extended old new := by
  cases grown with
  | same => exact ⟨old,found,.same old⟩
  | arr length inner =>
    cases step with
    | key name => cases found
    | index i =>
      have bound := (List.getElem?_eq_some_iff.mp found).1
      have there := getElem?_eq_getElem (length ▸ bound)
      exact ⟨_,there,inner i old _ found there⟩
  | obj present inner =>
    cases step with
    | index i => cases found
    | key name =>
      have held : lookup name _ = some old := found
      obtain ⟨new,there⟩ := ne_none_iff_exists'.mp (present name (by simp [held]))
      exact ⟨new,there,inner name old new held there⟩

theorem valueAt (grown : Extended one two) (found : one.valueAt path = some old) :
    ∃ new, two.valueAt path = some new ∧ Extended old new := by
  induction path generalizing one two with
  | nil =>
    cases Option.some.inj found
    exact ⟨two,rfl,grown⟩
  | cons step rest ih =>
    obtain ⟨inner,first,later⟩ := bind_eq_some_iff.mp found
    obtain ⟨next,there,further⟩ := grown.child first
    obtain ⟨new,reached,extended⟩ := ih further later
    exact ⟨new,bind_eq_some_iff.mpr ⟨next,there,reached⟩,extended⟩

theorem added (grown : Extended one two) (found : two.valueAt path = some new) (absent : one.valueAt path = none) :
    ∃ start key rest fields, path = start ++ Step.key key :: rest ∧
      one.valueAt start = some (.obj fields) ∧ lookup key fields = none := by
  induction path generalizing one two with
  | nil => cases absent
  | cons step rest ih =>
    cases before : Json.child step one with
    | some inner =>
      obtain ⟨next,there,further⟩ := grown.child before
      have reached : next.valueAt rest = some new := by rwa [valueAt_cons,there] at found
      have missing : inner.valueAt rest = none := by rwa [valueAt_cons,before] at absent
      obtain ⟨start,key,tail,fields,split,object,none⟩ := ih further reached missing
      refine ⟨step :: start,key,tail,fields,by rw [split]; rfl,?_,none⟩
      exact bind_eq_some_iff.mpr ⟨inner,before,object⟩
    | none =>
      obtain ⟨inner,first,_⟩ := bind_eq_some_iff.mp found
      cases grown with
      | same =>
        rw [before] at first
        cases first
      | arr length inner =>
        cases step with
        | key name => cases first
        | index i =>
          have bound := (List.getElem?_eq_some_iff.mp first).1
          have missing := getElem?_eq_none_iff.mp before
          omega
      | @obj fields later present inner =>
        cases step with
        | index i => cases first
        | key name => exact ⟨[],name,rest,fields,rfl,rfl,before⟩

end Extended

-- One member, given a value that depends on itself and on the members it reads. Asked
-- again after its own value was put, it has nothing or the same to put.
structure Filler where
  key : String
  reads : List String
  next : Fields → Option Json
  depends : ∀ one two, (∀ name ∈ key :: reads, lookup name one = lookup name two) → next one = next two
  keeps : ∀ fields value, next fields = some value → ∀ old, lookup key fields = some old → Extended old value
  ordered : ∀ fields value, Ordered (.obj fields) → next fields = some value → Ordered value
  stable : ∀ fields value, Ordered (.obj fields) → next fields = some value →
    ∀ later, next (insert key value fields) = some later → later = value

namespace Filler

variable {filler other : Filler}

def fill (filler : Filler) (fields : Fields) : Fields := insertSome filler.key (filler.next fields) fields

def fillAll (fillers : List Filler) (fields : Fields) : Fields := fillers.foldl (fun fields filler => filler.fill fields) fields

def Independent (fillers : List Filler) : Prop :=
  fillers.Pairwise fun earlier later => later.key ∉ earlier.key :: earlier.reads

theorem fill_ordered (filler : Filler) (object : Ordered (.obj fields)) : Ordered (.obj (filler.fill fields)) := by
  unfold fill
  cases next : filler.next fields with
  | none => exact object
  | some value => exact insert_ordered object (filler.ordered fields value object next)

theorem fill_extends (filler : Filler) (fields : Fields) : Extended (.obj fields) (.obj (filler.fill fields)) := by
  unfold fill
  cases next : filler.next fields with
  | none => exact .same _
  | some value => exact .insert (filler.keeps fields value next)

theorem fill_again (filler : Filler) (object : Ordered (.obj fields)) :
    filler.fill (filler.fill fields) = filler.fill fields := by
  cases value : filler.next fields with
  | none =>
    have idle : filler.fill fields = fields := by rw [fill,value]; rfl
    rw [idle,idle]
  | some given =>
    have put : filler.fill fields = insert filler.key given fields := by rw [fill,value]; rfl
    rw [put,fill]
    cases later : filler.next (insert filler.key given fields) with
    | none => rfl
    | some again =>
      rw [filler.stable fields given object value again later]
      exact insert_present (insert_increasing (ordered_obj.mp object).1) lookup_insert

theorem fill_undisturbed (settled : filler.fill fields = fields) (object : Ordered (.obj fields))
    (apart : other.key ∉ filler.key :: filler.reads) : filler.fill (other.fill fields) = other.fill fields := by
  have alike : ∀ name ∈ filler.key :: filler.reads, lookup name (other.fill fields) = lookup name fields :=
    fun name read => lookup_insertSome_ne fun same => apart (same ▸ read)
  have next := filler.depends _ _ alike
  rw [fill,next]
  cases value : filler.next fields with
  | none => rfl
  | some given =>
    have held : lookup filler.key fields = some given := by
      rw [← settled,fill,value]
      exact lookup_insert
    refine insert_present (ordered_obj.mp (other.fill_ordered object)).1 ?_
    rw [alike _ mem_cons_self,held]

theorem fillAll_ordered (object : Ordered (.obj fields)) : Ordered (.obj (fillAll fillers fields)) := by
  induction fillers generalizing fields with
  | nil => exact object
  | cons filler rest ih => exact ih (filler.fill_ordered object)

theorem fillAll_extends : Extended (.obj fields) (.obj (fillAll fillers fields)) := by
  induction fillers generalizing fields with
  | nil => exact .same _
  | cons filler rest ih => exact (filler.fill_extends fields).trans ih

theorem fillAll_undisturbed (settled : filler.fill fields = fields) (object : Ordered (.obj fields))
    (apart : ∀ other ∈ fillers, other.key ∉ filler.key :: filler.reads) :
    filler.fill (fillAll fillers fields) = fillAll fillers fields := by
  induction fillers generalizing fields with
  | nil => exact settled
  | cons other rest ih =>
    refine ih (fill_undisturbed settled object (apart other mem_cons_self)) (other.fill_ordered object) ?_
    exact fun later present => apart later (mem_cons_of_mem _ present)

theorem fillAll_settles (independent : Independent fillers) (object : Ordered (.obj fields)) :
    ∀ filler ∈ fillers, filler.fill (fillAll fillers fields) = fillAll fillers fields := by
  induction fillers generalizing fields with
  | nil => exact fun _ absent => absurd absent not_mem_nil
  | cons first rest ih =>
    obtain ⟨apart,independent⟩ := pairwise_cons.mp independent
    intro filler present
    rcases mem_cons.mp present with rfl | present
    · change filler.fill (fillAll rest (filler.fill fields)) = fillAll rest (filler.fill fields)
      exact fillAll_undisturbed (filler.fill_again object) (filler.fill_ordered object) apart
    · exact ih independent (first.fill_ordered object) filler present

theorem fillAll_settled (settled : ∀ filler ∈ fillers, filler.fill fields = fields) : fillAll fillers fields = fields := by
  induction fillers with
  | nil => rfl
  | cons filler rest ih =>
    have first := settled filler mem_cons_self
    change fillAll rest (filler.fill fields) = fields
    rw [first]
    exact ih fun later present => settled later (mem_cons_of_mem _ present)

theorem fillAll_again (independent : Independent fillers) (object : Ordered (.obj fields)) :
    fillAll fillers (fillAll fillers fields) = fillAll fillers fields :=
  fillAll_settled (fillAll_settles independent object)

def missing (key : String) (reads : List String) (choose : Fields → Option Json)
    (depends : ∀ one two, (∀ name ∈ reads, lookup name one = lookup name two) → choose one = choose two)
    (ordered : ∀ fields value, Ordered (.obj fields) → choose fields = some value → Ordered value) : Filler where
  key := key
  reads := reads
  next fields := if lookup key fields = none then choose fields else none
  depends one two alike := by
    rw [alike key List.mem_cons_self,depends one two fun name read => alike name (List.mem_cons_of_mem _ read)]
  keeps fields value next old held := by simp [held] at next
  ordered fields value object next := by
    split at next
    · exact ordered fields value object next
    · cases next
  stable fields value _ _ later next := by simp at next

def fixed (key : String) (value : Json) (ordered : Ordered value) : Filler :=
  missing key [] (fun _ => some value) (fun _ _ _ => rfl) fun _ _ _ same => Option.some.inj same ▸ ordered

section Missing
variable {key : String} {reads : List String} {choose : Fields → Option Json}
  {depends : ∀ one two, (∀ name ∈ reads, lookup name one = lookup name two) → choose one = choose two}
  {ordered : ∀ fields value, Ordered (.obj fields) → choose fields = some value → Ordered value}

theorem missing_fill_present (found : lookup key fields = some value) :
    (missing key reads choose depends ordered).fill fields = fields := by simp [fill,missing,found,insertSome]

theorem missing_fill_absent (absent : lookup key fields = none) :
    (missing key reads choose depends ordered).fill fields = insertSome key (choose fields) fields := by
  simp [fill,missing,absent]

end Missing

def member (key : String) (change : Json → Option Json)
    (keeps : ∀ old value, change old = some value → Extended old value)
    (ordered : ∀ old value, Ordered old → change old = some value → Ordered value)
    (stable : ∀ old value, Ordered old → change old = some value → ∀ later, change value = some later → later = value) :
    Filler where
  key := key
  reads := []
  next fields := (lookup key fields).bind change
  depends one two alike := by rw [alike key List.mem_cons_self]
  keeps fields value next old held := by
    rw [held] at next
    exact keeps old value next
  ordered fields value object next := by
    obtain ⟨old,held,changed⟩ := Option.bind_eq_some_iff.mp next
    exact ordered old value (lookup_ordered object held) changed
  stable fields value object next later again := by
    obtain ⟨old,held,changed⟩ := Option.bind_eq_some_iff.mp next
    rw [lookup_insert] at again
    exact stable old value (lookup_ordered object held) changed later again

def complete (fillers : List Filler) : Json → Json
  | .obj fields => .obj (fillAll fillers fields)
  | other => other

theorem complete_extends (value : Json) : Extended value (complete fillers value) := by
  cases value with
  | obj fields => exact fillAll_extends
  | _ => exact .same _

theorem complete_ordered (ordered : Ordered value) : Ordered (complete fillers value) := by
  cases value with
  | obj fields => exact fillAll_ordered ordered
  | _ => exact ordered

theorem complete_again (independent : Independent fillers) (ordered : Ordered value) :
    complete fillers (complete fillers value) = complete fillers value := by
  cases value with
  | obj fields => exact congrArg Json.obj (fillAll_again independent ordered)
  | _ => rfl

def objectChange (fillers : List Filler) : Json → Option Json
  | .obj inner => some (.obj (fillAll fillers inner))
  | _ => none

theorem objectChange_some (changed : objectChange fillers old = some value) : value = complete fillers old := by
  cases old with
  | obj inner => exact (Option.some.inj changed).symm
  | _ => cases changed

def object (key : String) (fillers : List Filler) (independent : Independent fillers) : Filler :=
  member key (objectChange fillers)
    (fun old value changed => objectChange_some changed ▸ complete_extends old)
    (fun old value ordered changed => objectChange_some changed ▸ complete_ordered ordered)
    (fun old value ordered changed later again => by
      rw [objectChange_some again,objectChange_some changed]
      exact complete_again independent ordered)

def itemsChange (fillers : Nat → List Filler) : Json → Option Json
  | .arr items => some (.arr (items.map (complete (fillers items.length))))
  | _ => none

theorem itemsChange_some {fillers : Nat → List Filler} (changed : itemsChange fillers old = some value) :
    ∃ items, old = .arr items ∧ value = .arr (items.map (complete (fillers items.length))) := by
  cases old with
  | arr items => exact ⟨items,rfl,(Option.some.inj changed).symm⟩
  | _ => cases changed

theorem items_extends (items : List Json) : Extended (.arr items) (.arr (items.map (complete fillers))) := by
  refine .arr (by rw [length_map]) fun i old new before after => ?_
  rw [getElem?_map,before] at after
  cases Option.some.inj after
  exact complete_extends old

def items (key : String) (fillers : Nat → List Filler) (independent : ∀ count, Independent (fillers count)) : Filler :=
  member key (itemsChange fillers)
    (fun old value changed => by
      obtain ⟨items,rfl,rfl⟩ := itemsChange_some changed
      exact items_extends items)
    (fun old value ordered changed => by
      obtain ⟨items,rfl,rfl⟩ := itemsChange_some changed
      refine .arr _ fun item present => ?_
      obtain ⟨given,there,rfl⟩ := List.mem_map.mp present
      exact complete_ordered (ordered_arr.mp ordered given there))
    (fun old value ordered changed later again => by
      obtain ⟨items,rfl,rfl⟩ := itemsChange_some changed
      obtain ⟨completed,same,rfl⟩ := itemsChange_some again
      cases same
      rw [List.length_map,List.map_map]
      refine congrArg Json.arr (List.map_congr_left fun item present => ?_)
      exact complete_again (independent _) (ordered_arr.mp ordered item present))

end Filler

end Json
