import Mathlib.Algebra.Order.Ring.Nat
import Mathlib.Tactic.Common

-- A parsed document. An object is a map: its fields stand in the order of their keys,
-- and a key is looked up from the front.
inductive Json where
  | null
  | bool (b : Bool)
  | uint (n : UInt64)
  | int (n : Int64)
  | float (text : String)
  | str (s : String)
  | arr (items : List Json)
  | obj (fields : List (String × Json))

namespace Json

abbrev Fields := List (String × Json)

def lookup (key : String) : Fields → Option Json
  | [] => none
  | (other,value) :: rest => if other = key then some value else lookup key rest

def insert (key : String) (value : Json) : Fields → Fields
  | [] => [(key,value)]
  | (other,old) :: rest =>
    if other = key then (key,value) :: rest
    else if key < other then (key,value) :: (other,old) :: rest
    else (other,old) :: insert key value rest

def insertSome (key : String) : Option Json → Fields → Fields
  | none,fields => fields
  | some value,fields => insert key value fields

def get (key : String) : Json → Option Json
  | .obj fields => lookup key fields
  | _ => none

def asStr : Json → Option String
  | .str s => some s
  | _ => none

def asBool : Json → Option Bool
  | .bool b => some b
  | _ => none

def asU64 : Json → Option UInt64
  | .uint n => some n
  | _ => none

def asI64 : Json → Option Int
  | .uint n => if n.toNat < 2^63 then some n.toNat else none
  | .int n => some n.toInt
  | _ => none

def asArr : Json → Option (List Json)
  | .arr items => some items
  | _ => none

def strAt (key : String) (doc : Json) : Option String := (doc.get key).bind asStr
def boolAt (key : String) (doc : Json) : Option Bool := (doc.get key).bind asBool
def u64At (key : String) (doc : Json) : Option UInt64 := (doc.get key).bind asU64
def arrAt (key : String) (doc : Json) : Option (List Json) := (doc.get key).bind asArr

def pointer (outer inner : String) (doc : Json) : Option Json := (doc.get outer).bind (get inner)

mutual

def same : Json → Json → Bool
  | .null,.null => true
  | .bool one,.bool two => one == two
  | .uint one,.uint two => one == two
  | .int one,.int two => one == two
  | .float one,.float two => one == two
  | .str one,.str two => one == two
  | .arr one,.arr two => sameItems one two
  | .obj one,.obj two => sameFields one two
  | _,_ => false

def sameItems : List Json → List Json → Bool
  | [],[] => true
  | one :: rest,two :: others => same one two && sameItems rest others
  | _,_ => false

def sameFields : Fields → Fields → Bool
  | [],[] => true
  | one :: rest,two :: others => sameField one two && sameFields rest others
  | _,_ => false

def sameField : String × Json → String × Json → Bool
  | (one,value),(two,other) => one == two && same value other

end

section Lookup
@[simp] theorem insertSome_some : insertSome key (some value) fields = insert key value fields := rfl

@[simp] theorem lookup_insert : lookup key (insert key value fields) = some value := by
  induction fields with
  | nil => simp [insert,lookup]
  | cons field rest ih =>
    unfold insert
    split
    · simp [lookup]
    · rename_i different
      split
      · simp [lookup]
      · simp [lookup,different,ih]

theorem lookup_insert_ne (different : other ≠ key) : lookup key (insert other value fields) = lookup key fields := by
  induction fields with
  | nil => simp [insert,lookup,different]
  | cons field rest ih =>
    unfold insert
    split
    · rename_i same
      simp [lookup,different,same]
    · split
      · simp [lookup,different]
      · simp only [lookup,ih]

theorem lookup_insertSome_ne (different : other ≠ key) :
    lookup key (insertSome other entry fields) = lookup key fields := by
  cases entry with
  | none => rfl
  | some value => exact lookup_insert_ne different

theorem lookup_insertSome (absent : lookup key fields = none) : lookup key (insertSome key entry fields) = entry := by
  cases entry with
  | none => exact absent
  | some value => exact lookup_insert

end Lookup

end Json
