/-
# Reading JSON texts

`serde_json::from_str`.

`Document.ofText` reads a text into a document, up to the fault behind which it cannot even be
skipped, and tells whether anything but blanks follows.
-/

import Boilerplate.Json.Number

namespace Boilerplate
namespace Json

/-- The blanks that may stand between the parts of a JSON text. -/
def isBlank (c : Char) : Bool := c = ' ' || c = '\n' || c = '\t' || c = '\r'

/-- The text behind its first blanks. -/
def skipBlanks (s : List Char) : List Char := s.dropWhile isBlank

/-! ### Strings -/

/-- The value of a hexadecimal digit, in either case. -/
def hexValue? (c : Char) : Option Nat :=
  if '0' ≤ c && c ≤ '9' then some (c.toNat - '0'.toNat)
  else if 'a' ≤ c && c ≤ 'f' then some (c.toNat - 'a'.toNat + 10)
  else if 'A' ≤ c && c ≤ 'F' then some (c.toNat - 'A'.toNat + 10)
  else none

/-- Four hexadecimal digits.  They are missing if fewer than four bytes are left. -/
def hexUnit (s : List Char) : Except Fault (Nat × List Char) :=
  let value := fun (a b c d : Char) => do
    let high := (← hexValue? a) * 16 + (← hexValue? b)
    return (high * 16 + (← hexValue? c)) * 16 + (← hexValue? d)
  let found := match s with
    | a :: b :: c :: d :: rest => (value a b c d).map (·, rest)
    | _ => none
  match found with
  | some r => .ok r
  | none => .error (if (String.ofList (s.take 4)).utf8ByteSize < 4 then .ended else .malformed)

/-- The character that stands for itself behind a backslash, or has a letter of its own. -/
def simpleEscape? (c : Char) : Option Char :=
  if c = '"' || c = '\\' || c = '/' then some c
  else if c = 'b' then some (Char.ofNat 8)
  else if c = 'f' then some (Char.ofNat 12)
  else if c = 'n' then some '\n'
  else if c = 'r' then some '\r'
  else if c = 't' then some '\t'
  else none

/-- Whether the code unit is the first half of a surrogate pair. -/
def isHighSurrogate (n : Nat) : Bool := 0xD800 ≤ n && n ≤ 0xDBFF

/-- Whether the code unit is the second half of a surrogate pair. -/
def isLowSurrogate (n : Nat) : Bool := 0xDC00 ≤ n && n ≤ 0xDFFF

/-- The inside of a string. -/
structure StringRest where
  /-- The characters read so far, the last one first; none once half of a surrogate pair was met. -/
  text : Option (List Char)
  /-- What follows the string, or why it does not end. -/
  rest : Except Fault (List Char)

/-- The inside of a string behind its opening quote, up to `n` characters.  `pending` is a high
surrogate that the next escape completes. -/
def readString : Nat → Option (List Char) → Option Nat → List Char → StringRest
  | 0, text, _, _ => ⟨text, .error .ended⟩
  | n + 1, text, pending, s =>
    -- a high surrogate that nothing completes
    let alone := if pending.isSome then none else text
    match s with
    | [] => ⟨text, .error .ended⟩
    | '"' :: rest => ⟨alone, .ok rest⟩
    | '\\' :: [] => ⟨text, .error .ended⟩
    | '\\' :: 'u' :: rest =>
      match hexUnit rest with
      | .error f => ⟨text, .error f⟩
      | .ok (unit, rest) =>
        match pending with
        | some high =>
          if isLowSurrogate unit then
            let c := Char.ofNat (0x10000 + (high - 0xD800) * 0x400 + (unit - 0xDC00))
            readString n (text.map (c :: ·)) none rest
          else readString n none none rest
        | none =>
          if isHighSurrogate unit then readString n text (some unit) rest
          else if isLowSurrogate unit then readString n none none rest
          else readString n (text.map (Char.ofNat unit :: ·)) none rest
    | '\\' :: c :: rest =>
      match simpleEscape? c with
      | some d => readString n (alone.map (d :: ·)) none rest
      | none => ⟨alone, .error .malformed⟩
    | c :: rest =>
      if c.toNat < 32 then ⟨alone, .error .malformed⟩
      else readString n (alone.map (c :: ·)) none rest

namespace StringRest

/-- The text, if it can be decoded. -/
def decoded (r : StringRest) : Option String := r.text.map fun cs => String.ofList cs.reverse

/-- The fault that decoding meets in a string that does not end. -/
def fault (r : StringRest) (f : Fault) : Fault := if r.text.isNone then .malformed else f

end StringRest

/-- A string behind its opening quote. -/
def string (s : List Char) : StringRest := readString (s.length + 1) (some []) none s

/-! ### Values -/

/-- A word in which each letter is compared as long as the text goes on. -/
def readWord (value : Doc) : List Char → List Char → Doc × Option (List Char)
  | [], s => (value, some s)
  | _ :: _, [] => (.faulty .ended (some .ended), none)
  | w :: ws, c :: s =>
    if w = c then readWord value ws s else (.faulty .malformed (some .malformed), none)

/-- What is found where something else has to stand. -/
def unexpected (s : List Char) : Fault := if s.isEmpty then .ended else .malformed

mutual

/-- A value, in at most `n` steps, and what follows; nothing follows a fault that stops skipping. -/
def readValue : Nat → List Char → Doc × Option (List Char)
  | 0, _ => (.faulty .ended (some .ended), none)
  | n + 1, s =>
    match skipBlanks s with
    | 'n' :: rest => readWord .null "ull".toList rest
    | 't' :: rest => readWord (.bool true) "rue".toList rest
    | 'f' :: rest => readWord (.bool false) "alse".toList rest
    | '-' :: rest => readNumber true rest
    | '"' :: rest =>
      let r := string rest
      match r.rest, r.decoded with
      | .ok rest, some text => (.string text, some rest)
      | .ok rest, none => (.faulty .malformed none, some rest)
      | .error f, _ => (.faulty (r.fault f) (some f), none)
    | '[' :: rest =>
      let (items, finish, rest) := readItems n true rest
      (.array items finish, rest)
    | '\x7b' :: rest =>
      let (entries, finish, rest) := readEntries n true rest
      (.object entries finish, rest)
    | c :: rest =>
      if c.isDigit then readNumber false (c :: rest)
      else (.faulty .malformed (some .malformed), none)
    | [] => (.faulty .ended (some .ended), none)

/-- The elements of an array from the `first` one on, or from the comma before the next. -/
def readItems : Nat → Bool → List Char → List Doc × ArrayEnd × Option (List Char)
  | 0, _, _ => ([], .faulty false .ended, none)
  | n + 1, first, s =>
    match skipBlanks s with
    | ']' :: rest => ([], .closed, some rest)
    | [] => ([], .faulty false .ended, none)
    | c :: rest =>
      if first then readItem n (c :: rest)
      else if c = ',' then
        match skipBlanks rest with
        | [] => ([], .faulty true .ended, none)
        | ']' :: _ => ([], .faulty true .malformed, none)
        | rest => readItem n rest
      else ([], .faulty false .malformed, none)

/-- An element and those behind it. -/
def readItem : Nat → List Char → List Doc × ArrayEnd × Option (List Char)
  | 0, _ => ([], .faulty false .ended, none)
  | n + 1, s =>
    match readValue n s with
    | (d, none) => ([d], .faulty false .malformed, none)
    | (d, some rest) =>
      let (items, finish, rest) := readItems n false rest
      (d :: items, finish, rest)

/-- The entries of an object from the `first` one on, or from the comma before the next. -/
def readEntries : Nat → Bool → List Char →
    List (Option String × Doc) × ObjectEnd × Option (List Char)
  | 0, _, _ => ([], .faulty .ended .ended, none)
  | n + 1, first, s =>
    let stop := fun (f : Fault) => ([], ObjectEnd.faulty f f, none)
    match skipBlanks s with
    | '\x7d' :: rest => ([], .closed, some rest)
    | '"' :: rest => if first then readEntry n rest else stop .malformed
    | ',' :: rest =>
      if first then stop .malformed
      else match skipBlanks rest with
        | '"' :: rest => readEntry n rest
        | rest => stop (unexpected rest)
    | rest => stop (unexpected rest)

/-- An entry behind the opening quote of its key, and the entries behind it. -/
def readEntry : Nat → List Char → List (Option String × Doc) × ObjectEnd × Option (List Char)
  | 0, _ => ([], .faulty .ended .ended, none)
  | n + 1, s =>
    let key := string s
    match key.rest with
    | .error f => ([], .faulty (key.fault f) f, none)
    | .ok rest =>
      match skipBlanks rest with
      | ':' :: rest =>
        match readValue n rest with
        | (d, none) => ([(key.decoded, d)], .faulty .malformed .malformed, none)
        | (d, some rest) =>
          let (entries, finish, rest) := readEntries n false rest
          ((key.decoded, d) :: entries, finish, rest)
      | rest =>
        let f := unexpected rest
        ([(key.decoded, .faulty f (some f))], .faulty f f, none)

end

/-- A document and whether anything but blanks follows it. -/
structure Document where
  doc : Doc
  hasMore : Bool
deriving Repr, Inhabited

/-- The document in a text.  Three steps for each character are enough to read it. -/
def Document.ofText (text : String) : Document :=
  let s := text.toList
  let (doc, rest) := readValue (3 * s.length + 3) s
  ⟨doc, rest.any fun rest => !(skipBlanks rest).isEmpty⟩

/-- The value of a text that is nothing but that. -/
def Value.ofText? (text : String) : Option Value :=
  let d := Document.ofText text
  if d.hasMore then none else d.doc.value?

end Json
end Boilerplate
