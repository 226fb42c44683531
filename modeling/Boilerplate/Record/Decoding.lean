/-
# Reading and making records

The code that `src/persist` generates (`constructor`, `decode`), as it runs: `new`, the setters,
`visit_map` and `visit_seq`; `SPEC_FULL.md` §4.4, items 2 and 4.

What the code of a record does, for any notion of types, values and written values.  A record is
read from entries in any order (`readMap`) or from elements in the order of its fields
(`readSequence`), and it is made from the values of its required fields (`construct?`).

An entry fills the slot of its key.  A second entry for the slot is refused before it is decoded.
An alias that comes behind the key of its own field is skipped.
-/

import Boilerplate.Record.Plan

namespace Boilerplate

/-- How the parts of a record are understood: types from `τ`, defaults from `δ`, written values from
`E`, values from `V`, failures from `ε`. -/
structure Meaning (τ δ E V ε : Type) where
  decode : τ → E → Except ε V
  /-- Passes over what is not decoded. -/
  skip : E → Except ε Unit
  value : δ → V
  /-- The value of an optional field that is absent. -/
  empty : V
  /-- The value of a transient field without a default. -/
  initial : Ident → V

/-- The values of a record's fields, in the order of the fields. -/
structure RecordValue (V : Type) where
  stored : List V
  transient : List V := []
deriving DecidableEq, Repr, Inhabited

/-- Why a record cannot be read. -/
inductive ReadFailure (ε : Type)
  /-- A second entry for a slot. -/
  | duplicate (key : String)
  /-- Nothing stands in for the field with the key. -/
  | missing (key : String)
  /-- Nothing stands in for the field behind so many elements. -/
  | tooShort (count : Nat)
  | value (e : ε)
deriving DecidableEq, Repr, Inhabited

/-- The values that the slots hold so far. -/
abbrev Slots (V : Type) := Slot → Option V

namespace Slots

variable {V : Type}

/-- No slot is filled. -/
def empty : Slots V := fun _ => none

/-- Puts a value into a slot. -/
def fill (filled : Slots V) (s : Slot) (v : V) : Slots V :=
  fun t => if t = s then some v else filled t

end Slots

namespace RecordShape

variable {τ δ E V ε : Type}

/-- The value that stands in for a field that is absent. -/
def absentValue? (m : Meaning τ δ E V ε) (f : StoredField τ δ) : Option V :=
  match f.absent with
  | .default d => some (m.value d)
  | .empty => some m.empty
  | .missing => none

/-- The values that the transient fields start with. -/
def transientValues (m : Meaning τ δ E V ε) (r : RecordShape τ δ) : List V :=
  r.transient.map fun t =>
    match t.default? with
    | some d => m.value d
    | none => m.initial t.name

/-! ### Entries -/

/-- Reads an entry. -/
def readEntry (m : Meaning τ δ E V ε) (r : RecordShape τ δ) (filled : Slots V) (key : String)
    (e : E) : Except (ReadFailure ε) (Slots V) :=
  let skipped := ((m.skip e).mapError .value).map fun _ => filled
  match r.slot? key with
  | none => skipped
  | some s =>
    if (filled s).isSome then .error (.duplicate key)
    else if s.alias?.isSome && (filled s.current).isSome then skipped
    else
      match r.fields[s.field]? with
      | none => .ok filled
      | some f => ((m.decode f.type e).mapError .value).map (filled.fill s)

/-- Reads entries one after the other. -/
def readEntries (m : Meaning τ δ E V ε) (r : RecordShape τ δ) (entries : List (String × E)) :
    Except (ReadFailure ε) (Slots V) :=
  entries.foldlM (fun filled (key, e) => readEntry m r filled key e) Slots.empty

/-- The value of field `i`, once all entries are read: that of the first slot that is filled. -/
def finishField (m : Meaning τ δ E V ε) (filled : Slots V) (f : StoredField τ δ) (i : Nat) :
    Except (ReadFailure ε) V :=
  match (f.slots i).findSome? filled with
  | some v => .ok v
  | none =>
    match absentValue? m f with
    | some v => .ok v
    | none => .error (.missing f.key)

/-- The record, once all entries are read. -/
def finish (m : Meaning τ δ E V ε) (r : RecordShape τ δ) (filled : Slots V) :
    Except (ReadFailure ε) (RecordValue V) := do
  let stored ← r.fields.zipIdx.mapM fun (f, i) => finishField m filled f i
  return ⟨stored, r.transientValues m⟩

/-- Reads a record from entries; `behind` is what is met behind the last of them. -/
def readMap (m : Meaning τ δ E V ε) (r : RecordShape τ δ) (entries : List (String × E))
    (behind : Except ε Unit := .ok ()) : Except (ReadFailure ε) (RecordValue V) := do
  let filled ← readEntries m r entries
  behind.mapError .value
  finish m r filled

/-! ### Elements -/

/-- Reads the fields from the `i`-th on from elements, and gives back those that are left. -/
def readElements (m : Meaning τ δ E V ε) :
    Nat → List (StoredField τ δ) → List E → Except (ReadFailure ε) (List V × List E)
  | _, [], es => .ok ([], es)
  | i, f :: fs, e :: es => do
    let v ← (m.decode f.type e).mapError .value
    let (vs, rest) ← readElements m (i + 1) fs es
    return (v :: vs, rest)
  | i, f :: fs, [] =>
    match absentValue? m f with
    | some v => do
      let (vs, rest) ← readElements m (i + 1) fs []
      return (v :: vs, rest)
    | none => .error (.tooShort i)

/-- Reads a record from elements, and gives back those that are left. -/
def readSequence (m : Meaning τ δ E V ε) (r : RecordShape τ δ) (es : List E) :
    Except (ReadFailure ε) (RecordValue V × List E) := do
  let (stored, rest) ← readElements m 0 r.fields es
  return (⟨stored, r.transientValues m⟩, rest)

/-! ### Values -/

/-- The values of the fields, if there is one argument for each field that is required. -/
def constructFields? (m : Meaning τ δ E V ε) :
    List (StoredField τ δ) → List V → Option (List V)
  | [], [] => some []
  | [], _ :: _ => none
  | f :: fs, args =>
    match absentValue? m f, args with
    | some v, args => (constructFields? m fs args).map (v :: ·)
    | none, a :: args => (constructFields? m fs args).map (a :: ·)
    | none, [] => none

/-- Makes a record from the values of its required fields. -/
def construct? (m : Meaning τ δ E V ε) (r : RecordShape τ δ) (args : List V) :
    Option (RecordValue V) :=
  (constructFields? m r.fields args).map fun stored => ⟨stored, r.transientValues m⟩

/-- The entries that a record is written as. -/
def written (r : RecordShape τ δ) (x : RecordValue V) : List (String × V) := r.keys.zip x.stored

/-- The number of the stored field with the name, if it can be set in a new record. -/
def setter? (r : RecordShape τ δ) (name : String) : Option Nat :=
  r.fields.findIdx? fun f => f.name.text == name && !f.isRequired

end RecordShape

namespace RecordValue

variable {V : Type}

/-- The record with another value in stored field `i`. -/
def set (x : RecordValue V) (i : Nat) (v : V) : RecordValue V :=
  { x with stored := x.stored.set i v }

/-- The record with another value in transient field `i`. -/
def setTransient (x : RecordValue V) (i : Nat) (v : V) : RecordValue V :=
  { x with transient := x.transient.set i v }

end RecordValue
end Boilerplate
