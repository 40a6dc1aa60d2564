import Mathlib.Data.List.Forall2
import Scg.Library.Json

-- Typed values read from a document. A reader answers nothing where the types differ.
namespace Json

abbrev Reader (α : Type) := Json → Option α

def required (read : Reader α) (key : String) (fields : Fields) : Option α := (lookup key fields).bind read

def defaulted (read : Reader α) (absent : α) (key : String) (fields : Fields) : Option α :=
  match lookup key fields with
  | none => some absent
  | some value => read value

def nullable (read : Reader α) : Reader (Option α)
  | .null => some none
  | value => (read value).map some

def optional (read : Reader α) (key : String) (fields : Fields) : Option (Option α) :=
  defaulted (nullable read) none key fields

def integerIn (lo hi : Int) (value : Json) : Option Int :=
  let n :=
    match value with
    | .uint n => some (n.toNat : Int)
    | .int n => some n.toInt
    | _ => none
  n.filter fun n => lo ≤ n && n < hi

def natBelow (bound : Nat) (value : Json) : Option Nat := (integerIn 0 bound value).map Int.toNat

def variant (names : List (String × α)) : Reader α
  | .str s => names.lookup s
  | .obj [(s,.null)] => names.lookup s
  | _ => none

def items (read : Reader α) : Reader (List α)
  | .arr values => values.mapM read
  | _ => none

-- A record is an object, or an array of its members in their order.
def record (members : List String) : Json → Option Fields
  | .obj fields => some fields
  | .arr values => if values.length ≤ members.length then some (members.zip values) else none
  | _ => none

def remaining (members : List String) (fields : Fields) : Fields :=
  fields.filter fun field => !members.contains field.1

theorem lookup_remaining (other : key ∉ members) (fields : Fields) :
    lookup key (remaining members fields) = lookup key fields := by
  induction fields with
  | nil => rfl
  | cons field rest ih =>
    unfold remaining at ih ⊢
    by_cases member : field.1 ∈ members
    · have different : field.1 ≠ key := fun same => other (same ▸ member)
      rw [List.filter_cons_of_neg (by simpa using member),ih]
      simp only [lookup,different,if_false]
    · rw [List.filter_cons_of_pos (by simpa using member)]
      simp only [lookup,ih]

theorem items_each {read : Reader α} (all : items read (.arr values) = some made) :
    List.Forall₂ (fun value a => read value = some a) values made := by
  change values.mapM read = some made at all
  induction values generalizing made with
  | nil =>
    cases all
    exact .nil
  | cons value rest ih =>
    rw [List.mapM_cons] at all
    obtain ⟨a,one,all⟩ := Option.bind_eq_some_iff.mp all
    obtain ⟨others,later,all⟩ := Option.bind_eq_some_iff.mp all
    cases all
    exact .cons one (ih later)

end Json
