import Scg.Lite.Merge
import Scg.Library.JsonOrder

namespace Scg.Lite
open Json Option

def joined : Option Json → Option Json → Option Json
  | some below,some above => some (deepMerge below above)
  | below,none => below
  | none,above => above

theorem deepMerge_null (b : Json) : deepMerge .null b = b := by cases b <;> rfl

variable (below : Option Json)

theorem joined_none : joined below none = below := by cases below <;> rfl

theorem joined_some (above : Json) :
    joined below (some above) = some (deepMerge (below.getD .null) above) := by
  cases below with
  | none => exact congrArg some (deepMerge_null above).symm
  | some held => rfl

theorem lookup_mergeField_self : lookup key (mergeField own (key,value)) = joined (lookup key own) (some value) := by
  unfold mergeField
  split
  · rename_i existing found
    rw [lookup_insert,found]
    rfl
  · rename_i absent
    rw [lookup_insert,absent]
    rfl

theorem lookup_mergeField_ne (different : field.1 ≠ key) : lookup key (mergeField own field) = lookup key own := by
  unfold mergeField
  split <;> exact lookup_insert_ne different

theorem lookup_mergeFields (increasing : Increasing fields) (key : String) :
    lookup key (mergeFields own fields) = joined (lookup key own) (lookup key fields) := by
  induction fields generalizing own with
  | nil => exact (joined_none _).symm
  | cons field rest ih =>
    rw [mergeFields,ih increasing.tail]
    by_cases same : field.1 = key
    · subst same
      rw [increasing.head_none,joined_none,lookup_cons_self,lookup_mergeField_self]
    · rw [lookup_mergeField_ne same,lookup_cons_ne same]

theorem get_deepMerge (increasing : Increasing fields) (key : String) :
    (deepMerge a (.obj fields)).get key = joined (a.get key) (lookup key fields) := by
  cases a with
  | obj own => exact lookup_mergeFields increasing key
  | _ =>
    change lookup key fields = joined none (lookup key fields)
    cases lookup key fields <;> rfl

theorem mergeFields_ordered (above : ∀ field ∈ fields, ∀ below, Ordered below → Ordered (deepMerge below field.2))
    (ordered : Ordered (.obj own)) : Ordered (.obj (mergeFields own fields)) := by
  induction fields generalizing own with
  | nil => exact ordered
  | cons field rest ih =>
    refine ih (fun later present => above later (List.mem_cons_of_mem _ present)) ?_
    have merges := above field List.mem_cons_self
    unfold mergeField
    split
    · rename_i existing found
      exact insert_ordered ordered (merges existing (lookup_ordered ordered found))
    · have plain : Ordered field.2 := by
        have merged := merges .null (.plain .null rfl)
        rwa [deepMerge_null] at merged
      exact insert_ordered ordered plain

theorem deepMerge_ordered (upper : Ordered b) : ∀ a, Ordered a → Ordered (deepMerge a b) := by
  induction upper with
  | plain value leaf =>
    intro a _
    cases value <;> first | exact .plain _ rfl | cases leaf
  | arr items inner => exact fun _ _ => .arr items inner
  | obj fields increasing inner ih =>
    intro a lower
    cases a with
    | obj own => exact mergeFields_ordered ih lower
    | _ => exact .obj fields increasing inner

theorem deepMerge_again (upper : Ordered b) : ∀ a, Ordered a → deepMerge (deepMerge a b) b = deepMerge a b := by
  induction upper with
  | plain value leaf =>
    intro a _
    cases value <;> first | rfl | cases leaf
  | arr items inner => exact fun _ _ => rfl
  | obj fields increasing inner ih =>
    intro a lower
    have merged := deepMerge_ordered (.obj fields increasing inner) a lower
    obtain ⟨top,shape⟩ : ∃ top, deepMerge a (.obj fields) = .obj top := by cases a <;> exact ⟨_,rfl⟩
    have held (key : String) : lookup key top = joined (a.get key) (lookup key fields) := by
      rw [← get_deepMerge increasing,shape]
      rfl
    rw [shape] at merged ⊢
    have topped := (ordered_obj.mp merged).1
    have twice := deepMerge_ordered (.obj fields increasing inner) _ merged
    refine congrArg Json.obj (fields_ext (ordered_obj.mp twice).1 topped fun key => ?_)
    rw [lookup_mergeFields increasing,held]
    cases found : lookup key fields with
    | none => rw [joined_none]
    | some above =>
      have belowOrdered : Ordered ((a.get key).getD .null) := by
        cases below : a.get key with
        | none => exact .plain .null rfl
        | some held =>
          cases a with
          | obj own => exact lookup_ordered lower below
          | _ => cases below
      rw [joined_some,joined_some,getD_some,ih _ (lookup_mem found) _ belowOrdered]

def keys (path : List String) : List Step := path.map .key

def IsObject (value : Json) : Prop := ∃ fields, value = .obj fields

theorem get_isObject (found : b.get key = some value) : IsObject b := by
  cases b with
  | obj fields => exact ⟨fields,rfl⟩
  | _ => cases found

theorem get_deepMerge_some (ordered : Ordered b) (found : b.get key = some value) :
    (deepMerge a b).get key = some (deepMerge ((a.get key).getD .null) value) := by
  obtain ⟨fields,rfl⟩ := get_isObject found
  have present : lookup key fields = some value := found
  rw [get_deepMerge (ordered_obj.mp ordered).1,present,joined_some]

theorem get_ordered (ordered : Ordered b) (found : b.get key = some value) : Ordered value := by
  obtain ⟨fields,rfl⟩ := get_isObject found
  exact lookup_ordered ordered found

theorem deepMerge_closed (closed : ¬ IsObject b) : deepMerge a b = b := by
  cases b with
  | obj fields => exact absurd ⟨fields,rfl⟩ closed
  | _ => rfl

theorem deepMerge_at_value (ordered : Ordered b) (found : b.valueAt (keys path) = some value)
    (closed : ¬ IsObject value) : (deepMerge a b).valueAt (keys path) = some value := by
  induction path generalizing a b with
  | nil =>
    cases Option.some.inj found
    exact congrArg some (deepMerge_closed closed)
  | cons key rest ih =>
    obtain ⟨inner,first,later⟩ := bind_eq_some_iff.mp found
    refine bind_eq_some_iff.mpr ⟨_,get_deepMerge_some ordered first,?_⟩
    exact ih (get_ordered ordered first) later

theorem deepMerge_at_absent (ordered : Ordered b) (absent : b.valueAt (keys path) = none)
    (along : ∀ start, start <+: path → ∀ value, b.valueAt (keys start) = some value → IsObject value) :
    (deepMerge a b).valueAt (keys path) = a.valueAt (keys path) := by
  induction path generalizing a b with
  | nil => cases absent
  | cons key rest ih =>
    obtain ⟨fields,rfl⟩ := along [] List.nil_prefix b rfl
    have merged : (deepMerge a (.obj fields)).get key = joined (a.get key) (lookup key fields) :=
      get_deepMerge (ordered_obj.mp ordered).1 key
    change ((deepMerge a (.obj fields)).get key).bind (valueAt (keys rest)) =
      (a.get key).bind (valueAt (keys rest))
    rw [merged]
    cases above : lookup key fields with
    | none => rw [joined_none]
    | some inner =>
      have later : inner.valueAt (keys rest) = none := by
        have whole : (lookup key fields).bind (valueAt (keys rest)) = none := absent
        rwa [above] at whole
      cases a.get key with
      | none => exact later
      | some below =>
        refine ih (lookup_ordered ordered above) later fun start initial value found => ?_
        refine along (key :: start) ((List.prefix_cons_inj key).mpr initial) value ?_
        exact bind_eq_some_iff.mpr ⟨inner,above,found⟩

theorem deepMerge_at_objects (ordered : Ordered b) (below : a.valueAt (keys path) = some (.obj own))
    (above : b.valueAt (keys path) = some (.obj fields)) :
    ∃ merged, (deepMerge a b).valueAt (keys path) = some (.obj merged) ∧
      ∀ key, lookup key merged = joined (lookup key own) (lookup key fields) := by
  induction path generalizing a b with
  | nil =>
    cases Option.some.inj below
    cases Option.some.inj above
    exact ⟨mergeFields own fields,rfl,lookup_mergeFields (ordered_obj.mp ordered).1⟩
  | cons key rest ih =>
    obtain ⟨lower,first,later⟩ := bind_eq_some_iff.mp below
    obtain ⟨upper,there,further⟩ := bind_eq_some_iff.mp above
    obtain ⟨merged,reached,union⟩ := ih (get_ordered ordered there) later further
    refine ⟨merged,bind_eq_some_iff.mpr ⟨deepMerge lower upper,?_,reached⟩,union⟩
    have stacked := get_deepMerge_some (a := a) ordered there
    have held : a.get key = some lower := first
    rwa [held] at stacked

theorem deepMerge_pathwise (a b : Document) :
    (∀ path value, b.json.valueAt (keys path) = some value → ¬ IsObject value →
      (deepMerge a.json b.json).valueAt (keys path) = some value) ∧
    (∀ path, b.json.valueAt (keys path) = none →
      (∀ start, start <+: path → ∀ value, b.json.valueAt (keys start) = some value → IsObject value) →
      (deepMerge a.json b.json).valueAt (keys path) = a.json.valueAt (keys path)) ∧
    (∀ path own fields, a.json.valueAt (keys path) = some (.obj own) → b.json.valueAt (keys path) = some (.obj fields) →
      ∃ merged, (deepMerge a.json b.json).valueAt (keys path) = some (.obj merged) ∧
        ∀ key, lookup key merged = joined (lookup key own) (lookup key fields)) ∧
    deepMerge (deepMerge a.json b.json) b.json = deepMerge a.json b.json :=
  ⟨fun _ _ found closed => deepMerge_at_value b.ordered found closed,
    fun _ absent along => deepMerge_at_absent b.ordered absent along,
    fun _ _ _ below above => deepMerge_at_objects b.ordered below above,
    deepMerge_again b.ordered a.json a.ordered⟩

end Scg.Lite
