/-
# JSON values

`serde_json::Value` and `serde_json::to_string`.

Values and their compact text.  Whole numbers that fit 64 bits, signed or unsigned, are integers;
all others are doubles.
-/

import Boilerplate.Decimal.Shortest

namespace Boilerplate
namespace Json

/-- A whole number, or a double. -/
inductive Number
  | integer (n : Int)
  | float (x : Float)
deriving Repr, Inhabited

/-- What a JSON text says. -/
inductive Value
  | null
  | bool (b : Bool)
  | number (n : Number)
  | string (s : String)
  | array (items : List Value)
  | object (entries : List (String × Value))
deriving Repr, Inhabited

/-- The least and the greatest exponent of the first digit with which a double is written without an
exponent. -/
def positionalExponents : Int × Int := (-5, 15)

/-- The positive double with the given bits: its shortest decimal, with a point and at least one
digit behind it, or, if it is very large or small, with an exponent of at least two digits. -/
def printPositive (bits : Nat) : List Char :=
  let d := (Dyadic.ofBits bits).shortest
  let digits := d.significant
  let k := d.leading
  if positionalExponents.1 ≤ k && k ≤ positionalExponents.2 then
    if k < 0 then
      ['0', '.'] ++ List.replicate ((-k).toNat - 1) '0' ++ digits
    else
      let whole := digits.take (k.toNat + 1)
      let fraction := digits.drop (k.toNat + 1)
      whole ++ List.replicate (k.toNat + 1 - whole.length) '0' ++ ['.'] ++
        (if fraction.isEmpty then ['0'] else fraction)
  else
    let fraction := digits.drop 1
    let size := Nat.toDigits 10 k.natAbs
    digits.take 1 ++ (if fraction.isEmpty then [] else '.' :: fraction) ++
      ['e', if k < 0 then '-' else '+'] ++ (if size.length < 2 then ['0'] else []) ++ size

/-- A double as text. -/
def printFloat (x : Float) : String :=
  let bits := x.toBits.toNat
  let magnitude := bits % Nat.pow 2 63
  let digits := if magnitude = 0 then ['0', '.', '0'] else printPositive magnitude
  String.ofList (if bits = magnitude then digits else '-' :: digits)

/-- The number as text. -/
def Number.print : Number → String
  | integer n => toString n
  | float x => printFloat x

/-- Two hexadecimal digits. -/
def hexByte (n : Nat) : List Char := [Nat.digitChar (n / 16), Nat.digitChar (n % 16)]

/-- One character of a string: quotes, backslashes and control characters are escaped. -/
def escape (c : Char) : List Char :=
  if c = '"' then ['\\', '"']
  else if c = '\\' then ['\\', '\\']
  else if c = '\n' then ['\\', 'n']
  else if c = '\r' then ['\\', 'r']
  else if c = '\t' then ['\\', 't']
  else if c.toNat = 8 then ['\\', 'b']
  else if c.toNat = 12 then ['\\', 'f']
  else if c.toNat < 32 then ['\\', 'u', '0', '0'] ++ hexByte c.toNat
  else [c]

/-- A text as a string. -/
def quote (s : String) : String := String.ofList ('"' :: s.toList.flatMap escape ++ ['"'])

mutual

/-- The value as text without blanks. -/
def Value.print : Value → String
  | .null => "null"
  | .bool b => if b then "true" else "false"
  | .number n => n.print
  | .string s => quote s
  | .array items => "[" ++ Value.printItems items ++ "]"
  | .object entries => "\x7b" ++ Value.printEntries entries ++ "\x7d"

/-- The elements of an array, with commas between them. -/
def Value.printItems : List Value → String
  | [] => ""
  | [v] => v.print
  | v :: w :: rest => v.print ++ "," ++ Value.printItems (w :: rest)

/-- The entries of an object, with commas between them. -/
def Value.printEntries : List (String × Value) → String
  | [] => ""
  | [(k, v)] => quote k ++ ":" ++ v.print
  | (k, v) :: e :: rest => quote k ++ ":" ++ v.print ++ "," ++ Value.printEntries (e :: rest)

end

end Json
end Boilerplate
