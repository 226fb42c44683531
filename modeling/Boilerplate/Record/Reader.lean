/-
# Reading records from JSON

`from_str` and `from_value` of `serde_json`, and `SeqDeserializer` of `serde`, as the code of
`src/persist` meets them.

A record is read from a text, from a value or from a sequence of values.  All three go through a
document and differ in what they make of elements for which an array of fields has no use: a text is
malformed, a value has the wrong length.

A text may nest 127 arrays and objects that are decoded; what is skipped may nest any number.
-/

import Boilerplate.Json.Reader
import Boilerplate.Record.Declared
import Boilerplate.Text.Quoted

namespace Boilerplate

open Json (Doc Fault)

/-- What is found where something else is expected. -/
inductive Found
  | null
  | bool (b : Bool)
  | number (n : Json.Number)
  | string (s : String)
  | map
  | sequence
deriving Repr, Inhabited

/-- How an error calls what it found. -/
def Found.text : Found → String
  | null => "null"
  | bool b => if b then "boolean `true`" else "boolean `false`"
  | number (.integer n) => "integer `" ++ toString n ++ "`"
  | number (.float x) => "floating point `" ++ Json.printFloat x ++ "`"
  | string s => "string " ++ Quoted.debug s
  | map => "map"
  | sequence => "sequence"

/-- What a document starts with, unless it has a fault there. -/
def Found.ofDoc : Doc → Except Fault Found
  | .null => .ok .null
  | .bool b => .ok (.bool b)
  | .number n => .ok (.number n)
  | .string s => .ok (.string s)
  | .array _ _ => .ok .sequence
  | .object _ _ => .ok .map
  | .faulty f _ => .error f

/-- What is expected where a datum of the type has to be. -/
def FieldType.expected : FieldType → String
  | .string => "a string"
  | .bool | .mood => "a boolean"
  | .integer t => t.name
  | .option t => t.expected
  | .list _ => "a sequence"
  | .record title => "struct " ++ title

/-- Why a document without faults cannot be decoded. -/
inductive Refusal
  | wrongType (found : Found) (expected : FieldType)
  | outOfRange (n : Int) (expected : FieldType)
  | duplicate (key : String)
  | missing (key : String)
  | tooShort (count : Nat) (title : String)
  /-- An array of so many elements has more than the record has fields. -/
  | surplus (count : Nat)
  /-- A sequence of `count` elements of which only some are read. -/
  | unread (count read : Nat)
deriving Repr, Inhabited

namespace Refusal

/-- How many elements were read, in words. -/
def readElements (n : Nat) : String := if n = 1 then "1 element" else Nat.repr n ++ " elements"

/-- The wording of the refusal. -/
def message : Refusal → String
  | wrongType found expected => "invalid type: " ++ found.text ++ ", expected " ++ expected.expected
  | outOfRange n expected => "invalid value: integer `" ++ toString n ++ "`, expected " ++
      expected.expected
  | duplicate key => "duplicate field `" ++ key ++ "`"
  | missing key => "missing field `" ++ key ++ "`"
  | tooShort count title => "invalid length " ++ Nat.repr count ++ ", expected struct " ++ title
  | surplus count => "invalid length " ++ Nat.repr count ++ ", expected fewer elements in array"
  | unread count read => "invalid length " ++ Nat.repr count ++ ", expected " ++
      readElements read ++ " in sequence"

end Refusal

/-- Why no record is read: the text has a fault, or what it says is refused. -/
inductive DecodeError
  | fault (f : Fault)
  | refused (r : Refusal)
deriving Repr, Inhabited

/-- A decoder for every type. -/
abbrev Decode := FieldType → Doc → Except DecodeError Datum

/-- Where a document comes from. -/
inductive Json.Origin
  | text
  | value
deriving DecidableEq, Repr, Inhabited

namespace Json

/-- The fault that is met behind the last element. -/
def ArrayEnd.check : ArrayEnd → Except DecodeError Unit
  | closed => .ok ()
  | faulty _ f => .error (.fault f)

/-- The elements of an array as they are asked for: one more where the array does not end. -/
def ArrayEnd.demanded : ArrayEnd → List Doc
  | closed => []
  | faulty _ f => [.faulty f none]

/-- The entries up to the first key that cannot be decoded, and the fault that is met then. -/
def readableEntries :
    List (Option String × Doc) → ObjectEnd → List (String × Doc) × Except DecodeError Unit
  | [], .closed => ([], .ok ())
  | [], .faulty decoded _ => ([], .error (.fault decoded))
  | (none, _) :: _, _ => ([], .error (.fault .malformed))
  | (some k, d) :: es, finish =>
    let (entries, behind) := readableEntries es finish
    ((k, d) :: entries, behind)

end Json

/-- The failure of a record of the type. -/
def ReadFailure.decodeError (title : String) : ReadFailure DecodeError → DecodeError
  | duplicate key => .refused (.duplicate key)
  | missing key => .refused (.missing key)
  | tooShort count => .refused (.tooShort count title)
  | value e => e

/-- Refuses a document of the wrong type. -/
def refuse {α : Type} (expected : FieldType) (d : Doc) : Except DecodeError α :=
  match Found.ofDoc d with
  | .ok found => .error (.refused (.wrongType found expected))
  | .error f => .error (.fault f)

namespace RecordType

/-- How the fields of a record type are understood. -/
def meaning (t : RecordType) (decode : Decode) :
    Meaning FieldType Datum Doc Datum DecodeError where
  decode := decode
  skip d :=
    match d.skip with
    | some f => .error (.fault f)
    | none => .ok ()
  value d := d
  empty := .absent
  initial := t.initial

/-- What is made of elements that are left behind the last field. -/
def checkSurplus (origin : Json.Origin) (items : List Doc) (finish : Json.ArrayEnd)
    (rest : List Doc) : Except DecodeError Unit :=
  if rest.isEmpty then .ok ()
  else
    match origin, finish with
    | .value, _ => .error (.refused (.surplus items.length))
    | .text, .closed | .text, .faulty true _ => .error (.fault .malformed)
    | .text, .faulty false f =>
      .error (.fault (if rest.length ≤ finish.demanded.length then f else .malformed))

/-- Reads a record from a document, with `decode` for its fields; without it, the document is nested
too deeply. -/
def read (origin : Json.Origin) (t : RecordType) (decode : Option Decode) (d : Doc) :
    Except DecodeError (RecordValue Datum) :=
  match d, decode with
  | .object entries finish, some decode =>
    let (entries, behind) := Json.readableEntries entries finish
    (t.shape.readMap (t.meaning decode) entries behind).mapError (·.decodeError t.title)
  | .array items finish, some decode => do
    let (x, rest) ← (t.shape.readSequence (t.meaning decode) (items ++ finish.demanded)).mapError
      (·.decodeError t.title)
    checkSurplus origin items finish rest
    return x
  | .object _ _, none | .array _ _, none => .error (.fault .malformed)
  | d, _ => refuse (.record t.title) d

end RecordType

namespace Datum

/-- Decodes a document, with `inner` for what is in arrays and objects. -/
def decodeWith (origin : Json.Origin) (schema : Schema) (inner : Option Decode) : Decode
  | .option _, .null => .ok .absent
  | .option t, d => (decodeWith origin schema inner t d).map .present
  | .string, .string s => .ok (.text s)
  | .bool, .bool b => .ok (.flag b)
  | .mood, .bool b => .ok (.mood b)
  | .integer t, .number (.integer n) =>
    if t.holds n then .ok (.integer n) else .error (.refused (.outOfRange n (.integer t)))
  | .list t, .array items finish =>
    match inner with
    | none => .error (.fault .malformed)
    | some decode => do
      let ds ← items.mapM (decode t)
      finish.check
      return .list ds
  | .record title, d =>
    match schema title with
    | some t => (t.read origin inner d).map t.datum
    | none => refuse (.record title) d
  | t, d => refuse t d

/-- Decodes a document that nests at most `limit` arrays and objects. -/
def decode (origin : Json.Origin) (schema : Schema) : Nat → Decode
  | 0 => decodeWith origin schema none
  | limit + 1 => decodeWith origin schema (some (decode origin schema limit))

/-- A value as a datum of the type. -/
def ofValue (schema : Schema) (t : FieldType) (v : Json.Value) : Except DecodeError Datum :=
  let d := Doc.ofValue v
  decode .value schema d.depth t d

end Datum

namespace RecordType

/-- The greatest number of nested arrays and objects in a text. -/
def nestingLimit : Nat := 127

/-- Reads a record from a text that is nothing but the record. -/
def ofText (schema : Schema) (t : RecordType) (text : String) :
    Except DecodeError (RecordValue Datum) := do
  let d := Json.Document.ofText text
  let x ← t.read .text (some (Datum.decode .text schema (nestingLimit - 1))) d.doc
  if d.hasMore then .error (.fault .malformed) else return x

/-- Reads a record from a value. -/
def ofValue (schema : Schema) (t : RecordType) (v : Json.Value) :
    Except DecodeError (RecordValue Datum) :=
  let d := Doc.ofValue v
  t.read .value (some (Datum.decode .value schema d.depth)) d

/-- Reads a record from the values of its fields. -/
def ofSequence (schema : Schema) (t : RecordType) (vs : List Json.Value) :
    Except DecodeError (RecordValue Datum) := do
  let ds := vs.map Doc.ofValue
  let m := t.meaning (Datum.decode .value schema (Doc.depthItems ds))
  let (x, rest) ← (t.shape.readSequence m ds).mapError (·.decodeError t.title)
  if rest.isEmpty then return x
  else .error (.refused (.unread ds.length (ds.length - rest.length)))

end RecordType
end Boilerplate
