/-
# Record types to run

Record types with fields of every kind: required, optional and with a default, with aliases,
transient, nested, and one that may refuse to be written.
-/

import Boilerplate.Record.Declared

namespace Boilerplate
namespace RecordSample

/-! ### Types -/

/-- Unsigned bytes. -/
def u8 : FieldType := .integer { bits := 8 }

/-- Signed bytes. -/
def i8 : FieldType := .integer { bits := 8, signed := true }

/-- Unsigned words of 32 bits. -/
def u32 : FieldType := .integer { bits := 32 }

/-- Unsigned words of 64 bits. -/
def u64 : FieldType := .integer { bits := 64 }

/-- Signed words of 64 bits. -/
def i64 : FieldType := .integer { bits := 64, signed := true }

/-! ### Fields -/

/-- The keys as former keys, with no place in any source. -/
def aliases (keys : List String) : List FormerKey := keys.map fun key => { key }

/-- A field without which a record cannot be read. -/
def required (name : String) (type : FieldType) (legacy : List String := []) : DeclaredField :=
  .stored { name := { name }, type, legacy := aliases legacy }

/-- A field that is absent unless something is stored for it. -/
def optional (name : String) (type : FieldType) (legacy : List String := []) : DeclaredField :=
  .stored { name := { name }, type := .option type, isOptional := true, legacy := aliases legacy }

/-- A field with a default. -/
def defaulted (name : String) (type : FieldType) (d : Datum) (legacy : List String := []) :
    DeclaredField :=
  .stored { name := { name }, type, default? := some d, legacy := aliases legacy }

/-- The field with its name written with `r#`. -/
def raw : DeclaredField → DeclaredField
  | .stored f => .stored { f with name := { f.name with raw := true } }
  | .transient type t => .transient type { t with name := { t.name with raw := true } }

/-- A field that is never stored. -/
def skipped (name : String) (type : FieldType) (default? : Option Datum := none) : DeclaredField :=
  .transient type { name := { name }, default? }

/-! ### Records -/

/-- Two required fields, one of them with an alias. -/
def record : RecordType where
  title := "Record"
  fields := [required "id" .string, required "name" .string ["label"]]

/-- Fields of every kind: required with aliases, with a default, optional, and transient. -/
def settings : RecordType where
  title := "Settings"
  fields := [
    required "color" .string ["colour", "color_name"],
    defaulted "retries" u32 (.integer 3),
    optional "proxy" .string,
    skipped "dirty" .bool,
    skipped "origin" .string (some (.text "memory"))]

/-- A record with braces and no fields. -/
def empty : RecordType where
  title := "Empty"

/-- A record without braces. -/
def marker : RecordType where
  title := "Marker"
  isUnit := true

/-- Fields whose names are keywords, and go without `r#` as keys. -/
def rawNames : RecordType where
  title := "Raw"
  fields := [raw (required "type" .string), raw (optional "ref" u32 ["kind"])]

/-- Integers of several widths, a transient one among them. -/
def numbers : RecordType where
  title := "Numbers"
  fields := [
    defaulted "a" i8 (.integer (-1)) ["first"],
    required "b" u64,
    skipped "hidden" u8 (some (.integer 10)),
    required "c" i64 ["c_old", "c_older"],
    required "flag" .bool,
    required "list" (.list u8)]

/-- The type of the last field has a value for absence, but the field is required. -/
def options : RecordType where
  title := "Options"
  fields := [
    optional "email" .string ["mail", ""],
    .stored { name := { name := "level" }, type := .option u8, isOptional := true,
              default? := some (.present (.integer 5)) },
    optional "nested" (.option u32),
    required "maybe" (.option u8)]

/-- Keys that are not in ASCII or have to be escaped, and a record inside itself. -/
def tree : RecordType where
  title := "Tree"
  fields := [
    required "größe" u32 ["ключ", "a\"b\\c\n"],
    defaulted "kids" (.list (.record "Tree")) (.list []),
    optional "record" (.record "Record")]

/-- A record with a field that may refuse to be written. -/
def refuses : RecordType where
  title := "Refuses"
  fields := [required "id" u8, required "mood" .mood]

/-- Aliases on fields of every kind. -/
def allLegacy : RecordType where
  title := "AllLegacy"
  fields := [
    required "x" u8 ["x2", "x1", "x0"],
    defaulted "y" u8 (.integer 9) ["y2", "y1"],
    optional "z" u8 ["z1"]]

/-- All sample types, in the order in which they are looked up. -/
def all : List RecordType :=
  [record, settings, empty, marker, rawNames, numbers, options, tree, refuses, allLegacy]

/-- The sample with the title. -/
def find? : Schema := fun title => all.find? (·.title == title)

end RecordSample
end Boilerplate
