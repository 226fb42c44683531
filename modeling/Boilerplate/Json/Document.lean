/-
# JSON texts, read as far as they go

`serde_json`, with `IgnoredAny` for what is skipped.

A text is read into a tree in which its faults stand where they were met, so that whoever goes
through the tree meets them in the order of the text.  Skipping a part is more lenient than decoding
it: a string may hold half of a surrogate pair, and a number may be too large for a double.
-/

import Boilerplate.Json.Value

namespace Boilerplate
namespace Json

/-- What is wrong with a text. -/
inductive Fault
  /-- It ends early. -/
  | ended
  | malformed
deriving DecidableEq, Repr, Inhabited

/-- How the elements of an array end. -/
inductive ArrayEnd
  | closed
  /-- Neither a comma nor the bracket follows, or, behind a comma, no element. -/
  | faulty (behindComma : Bool) (fault : Fault)
deriving DecidableEq, Repr, Inhabited

/-- How the entries of an object end. -/
inductive ObjectEnd
  | closed
  /-- No further key can be decoded, or skipped. -/
  | faulty (decoded skipped : Fault)
deriving DecidableEq, Repr, Inhabited

/-- A part of a text. -/
inductive Doc
  | null
  | bool (b : Bool)
  | number (n : Number)
  | string (s : String)
  | array (items : List Doc) (finish : ArrayEnd)
  /-- A key that cannot be decoded, though skipped, is none. -/
  | object (entries : List (Option String × Doc)) (finish : ObjectEnd)
  /-- What cannot be decoded and perhaps not even be skipped. -/
  | faulty (decoded : Fault) (skipped : Option Fault)
deriving Repr, Inhabited

namespace Doc

mutual

/-- The fault that is met when the part is skipped. -/
def skip : Doc → Option Fault
  | .faulty _ skipped => skipped
  | .array items finish =>
    skipItems items <|> (match finish with
      | .closed => none
      | .faulty _ f => some f)
  | .object entries finish =>
    skipEntries entries <|> (match finish with
      | .closed => none
      | .faulty _ f => some f)
  | _ => none

/-- The first fault in the elements that are skipped. -/
def skipItems : List Doc → Option Fault
  | [] => none
  | d :: ds => skip d <|> skipItems ds

/-- The first fault in the values of the entries that are skipped. -/
def skipEntries : List (Option String × Doc) → Option Fault
  | [] => none
  | (_, d) :: ds => skip d <|> skipEntries ds

end

/-- Puts an entry before entries with greater keys, unless they have its key already. -/
def insertEntry (key : String) (d : Doc) : List (String × Doc) → List (String × Doc)
  | [] => [(key, d)]
  | (k, e) :: rest =>
    if key < k then (key, d) :: (k, e) :: rest
    else if key = k then (k, e) :: rest
    else (k, e) :: insertEntry key d rest

mutual

/-- A value as a document without faults.  The entries of an object are in the order of their keys;
of several with one key, only the last is there. -/
def ofValue : Value → Doc
  | .null => .null
  | .bool b => .bool b
  | .number n => .number n
  | .string s => .string s
  | .array items => .array (ofItems items) .closed
  | .object entries => .object ((ofEntries entries).map fun (k, d) => (some k, d)) .closed

/-- The documents of the elements of an array. -/
def ofItems : List Value → List Doc
  | [] => []
  | v :: vs => ofValue v :: ofItems vs

/-- The documents of the entries of an object, the last of a key where it first stood. -/
def ofEntries : List (String × Value) → List (String × Doc)
  | [] => []
  | (k, v) :: rest => insertEntry k (ofValue v) (ofEntries rest)

end

mutual

/-- The document as a value, if nothing is wrong with it. -/
def value? : Doc → Option Value
  | .null => some .null
  | .bool b => some (.bool b)
  | .number n => some (.number n)
  | .string s => some (.string s)
  | .array items .closed => return .array (← values? items)
  | .object entries .closed => return .object (← entryValues? entries)
  | _ => none

/-- The values that all the elements are. -/
def values? : List Doc → Option (List Value)
  | [] => some []
  | d :: ds => return (← value? d) :: (← values? ds)

/-- The entries with the values that they all have. -/
def entryValues? : List (Option String × Doc) → Option (List (String × Value))
  | [] => some []
  | (some k, d) :: ds => return (k, ← value? d) :: (← entryValues? ds)
  | (none, _) :: _ => none

end

mutual

/-- How deeply arrays and objects are nested. -/
def depth : Doc → Nat
  | .array items _ => depthItems items + 1
  | .object entries _ => depthEntries entries + 1
  | _ => 0

/-- How deeply the deepest of the elements nests. -/
def depthItems : List Doc → Nat
  | [] => 0
  | d :: ds => max (depth d) (depthItems ds)

/-- How deeply the deepest of the entries nests. -/
def depthEntries : List (Option String × Doc) → Nat
  | [] => 0
  | (_, d) :: ds => max (depth d) (depthEntries ds)

end

end Doc
end Json
end Boilerplate
