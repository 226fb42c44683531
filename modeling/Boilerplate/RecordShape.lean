/-
# Records

`src/decl/mod` (`Field`, `LegacyKey`, `Transient`, `FieldListModel`) and `SPEC_FULL.md` §3.

What is known of a record that can be stored, for any notion of types and of default values.  A
field is stored under its key and is also read under the keys that it had in the past, its aliases;
a transient field is never stored.  A field is required if nothing stands in for it when it is
absent.
-/

import Boilerplate.Token

namespace Boilerplate

/-- A key that a field was stored under in the past. -/
structure FormerKey where
  key : String
  span : Span := .none
deriving DecidableEq, Repr, Inhabited

/-- A field that is stored, with a type from `τ` and a default from `δ`. -/
structure StoredField (τ δ : Type) where
  name : Ident
  type : τ
  isOptional : Bool := false
  default? : Option δ := none
  legacy : List FormerKey := []
deriving Repr, Inhabited

/-- What stands in for a field that is absent. -/
inductive Absent (δ : Type)
  | default (d : δ)
  | empty
  | missing
deriving Repr, Inhabited

namespace StoredField

variable {τ δ : Type}

/-- The key that the field is stored under: its name without `r#`. -/
def key (f : StoredField τ δ) : String := f.name.name

/-- The keys that the field is also read under. -/
def aliases (f : StoredField τ δ) : List String := f.legacy.map (·.key)

/-- A default comes before emptiness. -/
def absent (f : StoredField τ δ) : Absent δ :=
  match f.default?, f.isOptional with
  | some d, _ => .default d
  | none, true => .empty
  | none, false => .missing

/-- Whether nothing stands in for the field. -/
def isRequired (f : StoredField τ δ) : Bool := !f.isOptional && f.default?.isNone

end StoredField

/-- A field that is never stored. -/
structure TransientField (δ : Type) where
  name : Ident
  default? : Option δ := none
deriving Repr, Inhabited

/-- A record declaration. -/
structure RecordShape (τ δ : Type) where
  typeName : Ident
  /-- The record is written without braces. -/
  isUnit : Bool := false
  fields : List (StoredField τ δ)
  transient : List (TransientField δ) := []
deriving Repr, Inhabited

namespace RecordShape

variable {τ δ : Type}

/-- The keys that the fields are stored under. -/
def keys (r : RecordShape τ δ) : List String := r.fields.map (·.key)

/-- All keys that are read: first those of the fields, then the aliases. -/
def allKeys (r : RecordShape τ δ) : List String := r.keys ++ r.fields.flatMap (·.aliases)

/-- The fields that a new record is made from. -/
def required (r : RecordShape τ δ) : List (StoredField τ δ) := r.fields.filter (·.isRequired)

/-- The fields that a new record has already. -/
def settable (r : RecordShape τ δ) : List (StoredField τ δ) := r.fields.filter (!·.isRequired)

end RecordShape
end Boilerplate
