/-
# Quoted texts

`proc_macro2::Literal::string`, and texts as they are debugged.

A text in quotes shows printable characters as they are and escapes the others: `\t`, `\r`, `\n`,
`\"`, `\\`, `\0`, and `\u` with the code point in braces for what Unicode does not print
(`Unicode.isShown`).  Two forms differ in the zero character: a literal writes it in two
hexadecimal digits before an octal digit (`literal`), a message never does (`debug`).
-/

import Boilerplate.Unicode.Printable

namespace Boilerplate
namespace Quoted

/-- The code point as it is escaped: hexadecimal digits without leading zeros, in braces. -/
def codePoint (c : Char) : List Char :=
  ['\\', 'u', '\x7b'] ++ Nat.toDigits 16 c.toNat ++ ['\x7d']

/-- One character inside the quotes, the zero character apart. -/
def escape (c : Char) : List Char :=
  if c = '\t' then ['\\', 't']
  else if c = '\r' then ['\\', 'r']
  else if c = '\n' then ['\\', 'n']
  else if c = '"' then ['\\', '"']
  else if c = '\\' then ['\\', '\\']
  else if c.toNat = 0 then ['\\', '0']
  else if Unicode.isShown c then [c]
  else codePoint c

/-- Whether a text starts with an octal digit. -/
def startsOctal : List Char → Bool
  | c :: _ => '0' ≤ c && c ≤ '7'
  | [] => false

/-- The inside of a literal. -/
def literalBody : List Char → List Char
  | [] => []
  | c :: rest =>
    (if c.toNat = 0 && startsOctal rest then ['\\', 'x', '0', '0'] else escape c)
      ++ literalBody rest

/-- The text as a string literal. -/
def literal (s : String) : String := String.ofList ('"' :: literalBody s.toList ++ ['"'])

/-- The text as a message shows it. -/
def debug (s : String) : String := String.ofList ('"' :: s.toList.flatMap escape ++ ['"'])

end Quoted
end Boilerplate
