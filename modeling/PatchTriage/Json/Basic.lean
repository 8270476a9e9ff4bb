import PatchTriage.Binary64.Text
import PatchTriage.Table

/-!
# JSON values

Integers and binary64 numbers are kept apart, as their texts differ, and an object keeps the order
of its names. Fields of log records and of error contexts, language signals and raw settings are
values of this type.
-/

namespace PatchTriage

/-- A JSON value. -/
inductive Json where
  | null
  | bool (b : Bool)
  | int (n : Int)
  | real (x : Binary64)
  | text (s : String)
  | array (items : List Json)
  | object (fields : List (String × Json))
deriving Repr, Inhabited

/-- The fields of an object. -/
abbrev Fields := Table String Json

namespace Json

/-- An item is smaller than its list. -/
theorem sizeOf_item_lt {v : Json} {items : List Json} (h : v ∈ items) :
    sizeOf v < sizeOf (array items) := by
  have := List.sizeOf_lt_of_mem h
  simp only [array.sizeOf_spec]
  omega

/-- The value of a field is smaller than its object. -/
theorem sizeOf_field_lt {e : String × Json} {fields : List (String × Json)} (h : e ∈ fields) :
    sizeOf e.2 < sizeOf (object fields) := by
  have := List.sizeOf_lt_of_mem h
  obtain ⟨name, v⟩ := e
  simp only [Prod.mk.sizeOf_spec, object.sizeOf_spec] at this ⊢
  omega

/-- The field of an object under a name; nothing for any other value. -/
def get? (name : String) : Json → Option Json
  | object fields => Table.get? fields name
  | _ => none

/-- Whether a value counts as absent: null, false, zero and everything empty. -/
def isBlank : Json → Bool
  | null => true
  | bool b => !b
  | int n => n == 0
  | real x => x.magnitude == 0
  | text s => s.isEmpty
  | array items => items.isEmpty
  | object fields => fields.isEmpty

/-- Whether a value is made of others. -/
def isCompound : Json → Bool
  | array _ | object _ => true
  | _ => false

/-- The name of the kind of a value in error texts. -/
def kindName : Json → String
  | null => "NoneType"
  | bool _ => "bool"
  | int _ => "int"
  | real _ => "float"
  | text _ => "str"
  | array _ => "list"
  | object _ => "dict"

/-- The number that a value stands for in a comparison, in units of the least positive point of the
binary64 grid; the truth values count as one and zero. -/
def units? : Json → Option Int
  | bool b => some (if b then Binary64.unitsPerOne else 0)
  | int n => some (n * Binary64.unitsPerOne)
  | real x => some x.units
  | _ => none

mutual

/-- Whether two values are equal: numbers by what they stand for, and objects without regard to
the order of their fields. -/
def same : Json → Json → Bool
  | null, null => true
  | text s, text t => s == t
  | array l, array r => sameItems l r
  | object l, object r => l.length == r.length && sameFields l r
  | v, w => v.units?.isSome && v.units? == w.units?

/-- Whether the items of two lists are equal, one by one. -/
def sameItems : List Json → List Json → Bool
  | [], [] => true
  | v :: l, w :: r => same v w && sameItems l r
  | _, _ => false

/-- Whether each field has an equal one among other fields. -/
def sameFields : List (String × Json) → List (String × Json) → Bool
  | [], _ => true
  | (name, v) :: l, r => (Table.get? r name).any (same v) && sameFields l r

end

instance : BEq Json := ⟨same⟩

/-- A text, or null. -/
def ofText? : Option String → Json
  | some s => text s
  | none => null

/-- A natural number. -/
def nat (n : Nat) : Json := int n

/-- A list of texts. -/
def texts (l : List String) : Json := array (l.map text)

end Json

end PatchTriage
