/-
# How a record is read

`src/persist` (`key_table`, `slot`, `legacy_slot`) and `SPEC_FULL.md` §4.4, items 1 and 2.

While a record is read, each of its keys has a slot: one for the key of each field and one for each
alias.  The key table says which key fills which slot.  Once all entries are read, a field takes its
value from the first of its slots that is filled.
-/

import Boilerplate.RecordShape

namespace Boilerplate

/-- The place of a value that was stored under the key of a field, or under one of its aliases. -/
structure Slot where
  field : Nat
  alias? : Option Nat := none
deriving DecidableEq, Repr, Inhabited

namespace Slot

/-- What tells an alias from the key of its field. -/
def suffix (s : Slot) : String :=
  match s.alias? with
  | none => ""
  | some a => "_legacy" ++ Nat.repr a

/-- The variable that holds the value. -/
def variableName (s : Slot) : String := "__field" ++ Nat.repr s.field ++ s.suffix

/-- The name of the key's kind. -/
def keyName (s : Slot) : String := "__k" ++ Nat.repr s.field ++ s.suffix

/-- The slot for the key of the same field. -/
def current (s : Slot) : Slot := { field := s.field }

end Slot

/-- A key and the slot that it fills. -/
structure KeyedSlot where
  key : String
  slot : Slot
deriving DecidableEq, Repr, Inhabited

namespace StoredField

variable {τ δ : Type}

/-- The slots for the aliases of field `i`, in the order in which they are consulted. -/
def aliasSlots (f : StoredField τ δ) (i : Nat) : List Slot :=
  (List.range f.legacy.length).map fun a => { field := i, alias? := some a }

/-- All slots of field `i`. -/
def slots (f : StoredField τ δ) (i : Nat) : List Slot := { field := i } :: f.aliasSlots i

end StoredField

namespace RecordShape

variable {τ δ : Type}

/-- The keys of the fields with their slots. -/
def currentKeyedSlots (r : RecordShape τ δ) : List KeyedSlot :=
  r.fields.zipIdx.map fun (f, i) => ⟨f.key, { field := i }⟩

/-- The aliases of the fields with their slots. -/
def aliasKeyedSlots (r : RecordShape τ δ) : List KeyedSlot :=
  r.fields.zipIdx.flatMap fun (f, i) =>
    f.aliases.zipIdx.map fun (key, a) => ⟨key, { field := i, alias? := some a }⟩

/-- All keys that are read, with their slots. -/
def keyedSlots (r : RecordShape τ δ) : List KeyedSlot := r.currentKeyedSlots ++ r.aliasKeyedSlots

/-- The slot that a key fills, if it is one of the record's. -/
def slot? (r : RecordShape τ δ) (key : String) : Option Slot :=
  (r.keyedSlots.find? (·.key == key)).map (·.slot)

end RecordShape
end Boilerplate
