/-
# Lexemes of literals and identifiers

The lexer of `proc_macro2`, literals and identifiers.

Each reader takes a text that may start with a lexeme of its class and gives what follows the
lexeme, or nothing.  The readers of quoted literals also give the characters that the literal
stands for, so that reading a literal and evaluating it are one definition (`Literal.value?`).
-/

import Boilerplate.Token
import Boilerplate.Unicode.Identifier

namespace Boilerplate
namespace Scan

/-- A first character of an identifier. -/
def startsIdent (c : Char) : Bool := c == '_' || Unicode.isStart c

/-- A later character of an identifier. -/
def continuesIdent (c : Char) : Bool := Unicode.isContinue c

/-- What follows an identifier without `r#`. -/
def word? : List Char → Option (List Char)
  | c :: rest => if startsIdent c then some (rest.dropWhile continuesIdent) else none
  | [] => none

/-- What follows a suffix, which a literal may have or not. -/
def suffix (s : List Char) : List Char := (word? s).getD s

/-- The value of a hexadecimal digit. -/
def hexDigit? (c : Char) : Option Nat :=
  if '0' ≤ c && c ≤ '9' then some (c.toNat - 48)
  else if 'a' ≤ c && c ≤ 'f' then some (c.toNat - 87)
  else if 'A' ≤ c && c ≤ 'F' then some (c.toNat - 55)
  else none

/-- The character of a code point, surrogates excluded. -/
def scalar? (n : Nat) : Option Char := if n.isValidChar then some (Char.ofNat n) else none

/-- The character of a one-letter escape. -/
def simpleEscape? : Char → Option Char
  | 'n' => some '\n'
  | 'r' => some '\r'
  | 't' => some '\t'
  | '\\' => some '\\'
  | '\'' => some '\''
  | '"' => some '"'
  | '0' => some (Char.ofNat 0)
  | _ => none

/-- The character of an escape of two hexadecimal digits, as far as the kind allows it: a text
holds ASCII only, a C string no zero. -/
def hexEscape? (kind : LiteralKind) (a b : Char) : Option Char := do
  let high ← hexDigit? a
  let low ← hexDigit? b
  let n := 16 * high + low
  match kind with
  | .byteString | .byte => some (Char.ofNat n)
  | .cString => if n = 0 then none else some (Char.ofNat n)
  | _ => if high < 8 then some (Char.ofNat n) else none

/-- Whether a character may stand unescaped in a quoted text of the kind. -/
def allowed (kind : LiteralKind) (c : Char) : Bool :=
  match kind with
  | .byteString => c.toNat < 128
  | .cString => c.toNat != 0
  | _ => true

/-- What a reader of quoted text is in the middle of. -/
inductive Inside
  | text
  /-- A code point in braces, of which some digits are read. -/
  | codePoint (digits value : Nat)
  /-- The blanks behind a backslash at a line's end; the last one may be a carriage return. -/
  | lineBreak (afterReturn : Bool)

/-- The content of a quoted literal and what follows its closing quote. -/
def quoted (kind : LiteralKind) : Inside → List Char → Option (List Char × List Char)
  | _, [] => none
  | .codePoint digits value, c :: rest =>
    if c = '_' && 0 < digits then quoted kind (.codePoint digits value) rest
    else if c = '\x7d' && 0 < digits then do
      let ch ← scalar? value
      if kind = .cString && value = 0 then none
      else
        let (content, after) ← quoted kind .text rest
        some (ch :: content, after)
    else do
      let d ← hexDigit? c
      if digits = 6 then none
      else quoted kind (.codePoint (digits + 1) (16 * value + d)) rest
  | .lineBreak true, c :: rest => if c = '\n' then quoted kind (.lineBreak false) rest else none
  | inside, c :: rest =>
    match inside, c, rest with
    | .lineBreak _, ' ', rest => quoted kind (.lineBreak false) rest
    | .lineBreak _, '\t', rest => quoted kind (.lineBreak false) rest
    | .lineBreak _, '\n', rest => quoted kind (.lineBreak false) rest
    | .lineBreak _, '\r', rest => quoted kind (.lineBreak true) rest
    | _, '"', rest => some ([], rest)
    | _, '\r', '\n' :: rest => do
      let (content, after) ← quoted kind .text rest
      some ('\n' :: content, after)
    | _, '\r', _ => none
    | _, '\\', '\n' :: rest => quoted kind (.lineBreak false) rest
    | _, '\\', '\r' :: rest => quoted kind (.lineBreak true) rest
    | _, '\\', 'x' :: a :: b :: rest => do
      let ch ← hexEscape? kind a b
      let (content, after) ← quoted kind .text rest
      some (ch :: content, after)
    | _, '\\', 'u' :: '\x7b' :: rest =>
      if kind = .byteString then none else quoted kind (.codePoint 0 0) rest
    | _, '\\', e :: rest => do
      let ch ← simpleEscape? e
      if kind = .cString && e = '0' then none
      else
        let (content, after) ← quoted kind .text rest
        some (ch :: content, after)
    | _, '\\', [] => none
    | _, c, rest =>
      if allowed kind c then do
        let (content, after) ← quoted kind .text rest
        some (c :: content, after)
      else none

/-- The content of a raw literal that closes with `hashes` hash marks behind its quote, and what
follows.  A carriage return stands only before a line feed. -/
def rawQuoted (kind : LiteralKind) (hashes : Nat) : List Char → Option (List Char × List Char)
  | [] => none
  | c :: rest =>
    if c = '"' && (rest.take hashes) == List.replicate hashes '#' then
      some ([], rest.drop hashes)
    else if c = '\r' && rest.head? != some '\n' then none
    else if allowed kind c then
      (rawQuoted kind hashes rest).map fun (content, after) => (c :: content, after)
    else none

/-- The opening of a raw literal behind its letter, and what follows it. -/
def raw (kind : LiteralKind) (s : List Char) : Option (List Char × List Char) :=
  let hashes := (s.takeWhile (· == '#')).length
  match s.drop hashes with
  | '"' :: rest => if hashes ≤ 255 then rawQuoted kind hashes rest else none
  | _ => none

/-- A literal in double quotes: its kind, its content and what follows its suffix. -/
def string? (s : List Char) : Option (LiteralKind × List Char × List Char) :=
  let read (kind : LiteralKind) (r : Option (List Char × List Char)) :=
    r.map fun (content, after) => (kind, content, suffix after)
  match s with
  | '"' :: rest => read .string (quoted .string .text rest)
  | 'b' :: '"' :: rest => read .byteString (quoted .byteString .text rest)
  | 'c' :: '"' :: rest => read .cString (quoted .cString .text rest)
  | 'b' :: 'r' :: rest => read .byteString (raw .byteString rest)
  | 'c' :: 'r' :: rest => read .cString (raw .cString rest)
  | 'r' :: rest => read .string (raw .string rest)
  | _ => none

/-- What follows the digits and the closing brace of a code point. -/
def codePoint? : Nat → Nat → List Char → Option (List Char)
  | _, _, [] => none
  | digits, value, c :: rest =>
    if c = '_' && 0 < digits then codePoint? digits value rest
    else if c = '\x7d' && 0 < digits then (scalar? value).map fun _ => rest
    else do
      let d ← hexDigit? c
      if digits = 6 then none else codePoint? (digits + 1) (16 * value + d) rest

/-- What follows one character, escaped or not, in single quotes. -/
def oneCharacter? (kind : LiteralKind) : List Char → Option (List Char)
  | '\\' :: 'x' :: a :: b :: rest => (hexEscape? kind a b).map fun _ => rest
  | '\\' :: 'u' :: '\x7b' :: rest => if kind = .byte then none else codePoint? 0 0 rest
  | '\\' :: e :: rest => (simpleEscape? e).map fun _ => rest
  | c :: rest => if kind = .byte && 128 ≤ c.toNat then none else some rest
  | [] => none

/-- A literal in single quotes: its kind and what follows its suffix. -/
def character? (s : List Char) : Option (LiteralKind × List Char) :=
  let read (kind : LiteralKind) (rest : List Char) :=
    match oneCharacter? kind rest with
    | some ('\'' :: after) => some (kind, suffix after)
    | _ => none
  match s with
  | 'b' :: '\'' :: rest => read .byte rest
  | '\'' :: rest => read .character rest
  | _ => none

/-- The decimal digits. -/
def isDecimal (c : Char) : Bool := '0' ≤ c && c ≤ '9'

/-- A number ends where no identifier goes on; a suffix belongs to it. -/
def endNumber? (s : List Char) : Option (List Char) :=
  let after := suffix s
  match after with
  | c :: _ => if continuesIdent c then none else some after
  | [] => some after

/-- What follows the digits of an exponent, if there is one: a sign, then digits and underscores
among which there is a digit. -/
def exponent? (s : List Char) : Option (List Char) :=
  let signed := match s.dropWhile (· == '_') with
    | '+' :: rest => rest
    | '-' :: rest => rest
    | rest => rest
  let digits := signed.takeWhile fun c => isDecimal c || c == '_'
  if digits.any isDecimal then some (signed.dropWhile fun c => isDecimal c || c == '_') else none

/-- What follows a number with a fraction or an exponent.  No fraction starts with a letter, so that
`1.max` is a call, and `1..2` a range. -/
def float? (s : List Char) : Option (List Char) :=
  let goesOn := fun c => isDecimal c || c == '_'
  let exponentOr (plain : List Char → Option (List Char)) : List Char → Option (List Char)
    | e :: more =>
      if e = 'e' || e = 'E' then
        match exponent? more with
        | some after => endNumber? after
        | none => plain (e :: more)
      else plain (e :: more)
    | [] => plain []
  match s with
  | [] => none
  | c :: _ =>
    if !isDecimal c then none
    else match s.dropWhile goesOn with
      | '.' :: d :: rest =>
        if d = '.' || startsIdent d then none
        else exponentOr endNumber? ((d :: rest).dropWhile goesOn)
      | ['.'] => some []
      | after => exponentOr (fun _ => none) after

/-- What follows the digits of an integer, of which `empty` says whether none is read yet.  A
decimal digit that the base does not have spoils the number; a letter ends it. -/
def integerDigits? (base : Nat) : Bool → List Char → Option (List Char)
  | empty, [] => if empty then none else some []
  | empty, c :: rest =>
    if c = '_' then if empty && base = 10 then none else integerDigits? base empty rest
    else match hexDigit? c with
      | some d =>
        if d < base then integerDigits? base false rest
        else if isDecimal c then none
        else if empty then none else some (c :: rest)
      | none => if empty then none else some (c :: rest)

/-- What follows an integer. -/
def integer? (s : List Char) : Option (List Char) :=
  let digits := match s with
    | '0' :: 'x' :: rest => integerDigits? 16 true rest
    | '0' :: 'o' :: rest => integerDigits? 8 true rest
    | '0' :: 'b' :: rest => integerDigits? 2 true rest
    | _ => integerDigits? 10 true s
  digits.bind endNumber?

/-- A literal: its kind and what follows. -/
def literal? (s : List Char) : Option (LiteralKind × List Char) :=
  ((string? s).map fun (k, _, rest) => (k, rest)) <|>
  character? s <|>
  ((float? s).map fun rest => (.number, rest)) <|>
  ((integer? s).map fun rest => (.number, rest))

/-- Words that name a place and so have no raw form. -/
def neverRaw : List String := ["_", "super", "self", "Self", "crate"]

/-- An identifier: whether it is raw, and what follows. -/
def identifier? : List Char → Option (Bool × List Char)
  | 'r' :: '#' :: rest => do
    let after ← word? rest
    let name := String.ofList (rest.take (rest.length - after.length))
    if neverRaw.contains name then none else some (true, after)
  | s => (word? s).map fun after => (false, after)

end Scan

/-- The characters that a string literal stands for. -/
def Literal.value? (l : Literal) : Option String :=
  match l.kind, Scan.string? l.text.toList with
  | .string, some (_, content, _) => some (String.ofList content)
  | _, _ => none

end Boilerplate
