import Bindery.Decimal.Shortest

/-!
# Bindery — Json — Value

JSON values.  The fields of an object are a list; `Json.canonical` puts them into the order of
their keys, each key once with its last value, at every depth, and `Json.IsCanonical` says that
they are so already.  `insertField` keeps a list of fields in that order
(`lookup_insertField_self`, `lookup_insertField_other`).
-/

namespace Bindery

open Decimal (Binary64)

/-- A number: a whole one where it fits 64 bits, a floating-point one otherwise. -/
inductive Json.Number where
  | int (n : Int)
  | float (x : Binary64)
deriving DecidableEq, Inhabited

/-- A JSON value. -/
inductive Json where
  | null
  | bool (b : Bool)
  | number (n : Json.Number)
  | string (s : String)
  | array (items : List Json)
  | object (fields : List (String × Json))
deriving Inhabited, BEq

namespace Json

/-- The value of the first field with a key. -/
def lookup (key : String) : List (String × Json) → Option Json
  | [] => none
  | (k, v) :: rest => if k = key then some v else lookup key rest

/-- Fields with one more field, in the place of its key. -/
def insertField (key : String) (value : Json) : List (String × Json) → List (String × Json)
  | [] => [(key, value)]
  | (k, v) :: rest =>
    if key = k then (key, value) :: rest
    else if key < k then (key, value) :: (k, v) :: rest
    else (k, v) :: insertField key value rest

theorem lookup_insertField_self (key : String) (value : Json) (fields : List (String × Json)) :
    lookup key (insertField key value fields) = some value := by
  induction fields with
  | nil => simp [insertField, lookup]
  | cons f rest ih =>
    obtain ⟨k, v⟩ := f
    by_cases h : key = k
    · simp [insertField, lookup, h]
    · by_cases hlt : key < k
      · simp [insertField, lookup, h, hlt]
      · simp [insertField, lookup, h, hlt, Ne.symm h, ih]

theorem lookup_insertField_other {key other : String} (h : other ≠ key) (value : Json)
    (fields : List (String × Json)) :
    lookup other (insertField key value fields) = lookup other fields := by
  induction fields with
  | nil => simp [insertField, lookup, Ne.symm h]
  | cons f rest ih =>
    obtain ⟨k, v⟩ := f
    by_cases hk : key = k
    · subst hk; simp [insertField, lookup, Ne.symm h]
    · by_cases hlt : key < k
      · simp [insertField, lookup, hk, hlt, Ne.symm h]
      · simp [insertField, lookup, hk, hlt, ih]

/-- The fields of an object; none for another value. -/
def fields? : Json → Option (List (String × Json))
  | .object fields => some fields
  | _ => none

mutual
/-- The value with the fields of every object in the order of their keys, each key once with
its last value. -/
def canonical : Json → Json
  | .array items => .array (canonicalItems items)
  | .object fields => .object (canonicalFields [] fields)
  | v => v

/-- Every item made canonical. -/
def canonicalItems : List Json → List Json
  | [] => []
  | v :: rest => v.canonical :: canonicalItems rest

/-- Fields put one by one into fields that are in order. -/
def canonicalFields (done : List (String × Json)) :
    List (String × Json) → List (String × Json)
  | [] => done
  | (k, v) :: rest => canonicalFields (insertField k v.canonical done) rest
end

mutual
/-- Whether the fields of every object are in the order of their keys, each key once. -/
def IsCanonical : Json → Prop
  | .array items => AreCanonical items
  | .object fields => (fields.map Prod.fst).Pairwise (· < ·) ∧ FieldsCanonical fields
  | _ => True

/-- Every item is canonical. -/
def AreCanonical : List Json → Prop
  | [] => True
  | v :: rest => v.IsCanonical ∧ AreCanonical rest

/-- The value of every field is canonical. -/
def FieldsCanonical : List (String × Json) → Prop
  | [] => True
  | (_, v) :: rest => v.IsCanonical ∧ FieldsCanonical rest
end

end Json

end Bindery
