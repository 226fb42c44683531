/-
# Running a record

The members and traits of `src/persist` (`constructor`, `raw_value_members`, `string_round_trip`),
as they run.

A variable that may hold a record goes through a sequence of commands.  Some give it a record; all
others answer that there is none as long as it is empty.
-/

import Boilerplate.Record.Reader

namespace Boilerplate
namespace RecordType

/-- A command on a variable for records. -/
inductive Command
  | fieldKeys
  | construct (args : List Json.Value)
  | parse (text : String)
  | fromRaw (text : String)
  | fromValue (v : Json.Value)
  | fromSequence (vs : List Json.Value)
  | set (name : String) (v : Json.Value)
  | assign (name : String) (v : Json.Value)
  | rawValue
  | display
  | toValue
  | roundTrip
  | unknown
deriving Repr, Inhabited

/-- What a command on a variable for records answers. -/
inductive Reply
  | nothing
  | unknown
  | noValue
  | noSetter
  | noField
  | flag (b : Option Bool)
  | text (s : String)
  | texts (ss : List String)
  | value (v : Json.Value)
  | failed (e : DecodeError)
  | unwritable (u : Unwritable)
  /-- The text cannot be shown. -/
  | unshown
deriving Repr, Inhabited

variable (schema : Schema) (t : RecordType)

/-- The record as JSON. -/
def toJson (x : RecordValue Datum) : Except Unwritable Json.Value := (t.datum x).toJson

/-- The record as one text; that of no fields, if it cannot be written. -/
def rawValue (x : RecordValue Datum) : String :=
  match t.toJson x with
  | .ok v => v.print
  | .error _ => "\x7b\x7d"

/-- Whether the record's text is read back as a record with the same text, if it is read back. -/
def roundTrip (x : RecordValue Datum) : Option Bool :=
  match t.ofText schema (t.rawValue x) with
  | .ok y => some (t.rawValue y == t.rawValue x)
  | .error _ => none

/-- Data of the types, as far as there are values and types. -/
def readArguments : List FieldType → List Json.Value → Except DecodeError (List Datum)
  | type :: types, v :: vs => do
    return (← Datum.ofValue schema type v) :: (← readArguments types vs)
  | _, _ => .ok []

/-- A record made from values of its required fields. -/
def construct (args : List Json.Value) : Except DecodeError (Option (RecordValue Datum)) := do
  let data ← readArguments schema (t.shape.required.map (·.type)) args
  return t.shape.construct? (t.meaning refuse) data

/-- The variable with what was read, or as it was. -/
def replace (me : Option (RecordValue Datum)) :
    Except DecodeError (RecordValue Datum) → Option (RecordValue Datum) × Reply
  | .ok x => (some x, .flag (some true))
  | .error e => (me, .failed e)

/-- Changes the field with the name, if `change?` finds it. -/
def change (x : RecordValue Datum) (name : String) (v : Json.Value) (absent : Reply)
    (change? : Datum → Option (RecordValue Datum)) : Option (RecordValue Datum) × Reply :=
  match t.field? name with
  | none => (some x, absent)
  | some f =>
    match Datum.ofValue schema f.type v with
    | .error e => (some x, if (change? f.type.initial).isSome then .failed e else absent)
    | .ok d =>
      match change? d with
      | some y => (some y, .nothing)
      | none => (some x, absent)

/-- Runs a command on a record. -/
def stepRecord (x : RecordValue Datum) : Command → Option (RecordValue Datum) × Reply
  | .set name v =>
    t.change schema x name v .noSetter fun d => (t.shape.setter? name).map (x.set · d)
  | .assign name v => t.change schema x name v .noField (t.assign? x name)
  | .rawValue => (some x, .text (t.rawValue x))
  | .display =>
    (some x, match t.toJson x with
      | .ok v => .text v.print
      | .error _ => .unshown)
  | .toValue =>
    (some x, match t.toJson x with
      | .ok v => .value v
      | .error u => .unwritable u)
  | .roundTrip => (some x, .flag (t.roundTrip schema x))
  | _ => (some x, .unknown)

/-- Runs a command: the variable after it, and the answer. -/
def step (me : Option (RecordValue Datum)) : Command → Option (RecordValue Datum) × Reply
  | .fieldKeys => (me, .texts t.shape.keys)
  | .construct args =>
    match t.construct schema args with
    | .ok x => (x <|> me, .nothing)
    | .error e => (me, .failed e)
  | .parse text => replace me (t.ofText schema text)
  | .fromRaw text =>
    match t.ofText schema text with
    | .ok x => (some x, .flag (some true))
    | .error _ => (me, .flag (some false))
  | .fromValue v => replace me (t.ofValue schema v)
  | .fromSequence vs => replace me (t.ofSequence schema vs)
  | c =>
    match me with
    | none => (none, .noValue)
    | some x => t.stepRecord schema x c

end RecordType
end Boilerplate
