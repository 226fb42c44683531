/-
# The data in records

The `Serialize` implementations of the field types in `serde`.

The types that the fields of a sample record may have, the data of these types, and how data are
written as JSON.  A mood is written as a boolean, but a grumpy mood refuses to be written.
-/

import Boilerplate.Json.Value

namespace Boilerplate

/-- An integer type of fixed width. -/
structure IntegerType where
  bits : Nat
  signed : Bool := false
deriving DecidableEq, Repr, Inhabited

namespace IntegerType

/-- The name of the type. -/
def name (t : IntegerType) : String := (if t.signed then "i" else "u") ++ Nat.repr t.bits

/-- Whether the number is of the type. -/
def holds (t : IntegerType) (n : Int) : Bool :=
  let bound : Int := Nat.pow 2 (if t.signed then t.bits - 1 else t.bits)
  (if t.signed then -bound else 0) ≤ n && n < bound

end IntegerType

/-- The types of fields, where a record type is known by its name. -/
inductive FieldType
  | string
  | bool
  | integer (t : IntegerType)
  | option (t : FieldType)
  | list (t : FieldType)
  /-- A record type, by its name. -/
  | record (title : String)
  | mood
deriving DecidableEq, Repr, Inhabited

/-- A datum of one of these types. -/
inductive Datum
  | text (s : String)
  | flag (b : Bool)
  | integer (n : Int)
  | absent
  | present (d : Datum)
  | list (ds : List Datum)
  | record (stored : List (String × Datum)) (transient : List Datum)
  | mood (grumpy : Bool)
deriving Repr, Inhabited

/-- What cannot be written. -/
inductive Unwritable
  | grumpy
deriving DecidableEq, Repr, Inhabited

/-- What is said of a datum that refuses to be written. -/
def Unwritable.message : Unwritable → String
  | grumpy => "grumpy"

/-- The datum that a field of the type starts with; of a record type, it has no fields. -/
def FieldType.initial : FieldType → Datum
  | .string => .text ""
  | .bool => .flag false
  | .integer _ => .integer 0
  | .option _ => .absent
  | .list _ => .list []
  | .record _ => .record [] []
  | .mood => .mood false

namespace Datum

open Json

mutual

/-- The datum as JSON; transient fields are left out. -/
def toJson : Datum → Except Unwritable Value
  | .text s => .ok (.string s)
  | .flag b => .ok (.bool b)
  | .integer n => .ok (.number (.integer n))
  | .absent => .ok .null
  | .present d => toJson d
  | .list ds => (itemsToJson ds).map .array
  | .record stored _ => (entriesToJson stored).map .object
  | .mood grumpy => if grumpy then .error .grumpy else .ok (.bool false)

/-- The elements of a list as they are written, if none refuses. -/
def itemsToJson : List Datum → Except Unwritable (List Value)
  | [] => .ok []
  | d :: ds => do return (← toJson d) :: (← itemsToJson ds)

/-- The fields of a record as they are written, if none refuses. -/
def entriesToJson : List (String × Datum) → Except Unwritable (List (String × Value))
  | [] => .ok []
  | (k, d) :: ds => do return (k, ← toJson d) :: (← entriesToJson ds)

end

end Datum
end Boilerplate
