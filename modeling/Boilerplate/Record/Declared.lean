/-
# Record types

A record type lists its fields as they are declared, the transient ones among the others.
-/

import Boilerplate.Record.Datum
import Boilerplate.Record.Decoding

namespace Boilerplate

/-- A field of a record type. -/
inductive DeclaredField
  | stored (field : StoredField FieldType Datum)
  | transient (type : FieldType) (field : TransientField Datum)
deriving Repr, Inhabited

namespace DeclaredField

/-- The name of the field. -/
def name : DeclaredField → Ident
  | stored f => f.name
  | transient _ t => t.name

/-- The type of the field. -/
def type : DeclaredField → FieldType
  | stored f => f.type
  | transient t _ => t

/-- The field, if it is stored. -/
def stored? : DeclaredField → Option (StoredField FieldType Datum)
  | stored f => some f
  | transient _ _ => none

/-- The field, if it is transient. -/
def transient? : DeclaredField → Option (TransientField Datum)
  | stored _ => none
  | transient _ t => some t

end DeclaredField

/-- A record type with its fields, stored and transient ones as they are declared. -/
structure RecordType where
  title : String
  /-- The record is declared without braces. -/
  isUnit : Bool := false
  fields : List DeclaredField := []
deriving Repr, Inhabited

/-- Record types by their titles. -/
abbrev Schema := String → Option RecordType

namespace RecordType

/-- What is stored and what is not. -/
def shape (t : RecordType) : RecordShape FieldType Datum where
  typeName := { name := t.title }
  isUnit := t.isUnit
  fields := t.fields.filterMap (·.stored?)
  transient := t.fields.filterMap (·.transient?)

/-- The field with the name, as it is written. -/
def field? (t : RecordType) (name : String) : Option DeclaredField :=
  t.fields.find? (·.name.text == name)

/-- The datum that the transient field with the name starts with. -/
def initial (t : RecordType) (name : Ident) : Datum :=
  match t.fields.find? (·.name == name) with
  | some f => f.type.initial
  | none => .absent

/-- The values of all fields in the order in which these are declared. -/
def merge : List DeclaredField → RecordValue Datum → List (Ident × Datum)
  | .stored f :: fs, ⟨d :: ds, ts⟩ => (f.name, d) :: merge fs ⟨ds, ts⟩
  | .transient _ t :: fs, ⟨ds, d :: ts⟩ => (t.name, d) :: merge fs ⟨ds, ts⟩
  | _, _ => []

/-- The fields of a record with their values. -/
def state (t : RecordType) (x : RecordValue Datum) : List (Ident × Datum) := merge t.fields x

/-- The record with another value in the field with the name. -/
def assign? (t : RecordType) (x : RecordValue Datum) (name : String) (d : Datum) :
    Option (RecordValue Datum) :=
  ((t.shape.fields.findIdx? (·.name.text == name)).map (x.set · d)) <|>
    ((t.shape.transient.findIdx? (·.name.text == name)).map (x.setTransient · d))

/-- A record as a datum. -/
def datum (t : RecordType) (x : RecordValue Datum) : Datum :=
  .record (t.shape.written x) x.transient

end RecordType
end Boilerplate
