/-
# Why a text is not what it was to be

`syn::Error`, as it is made by parsing.

A reader of tokens stops at the first token that it has no use for.  The complaint names what could
have stood there, and its place is that token, only the opening bracket of a group, or the end of
the tokens: the closing bracket around them, or nowhere (`Span.none`).
-/

import Boilerplate.Token

namespace Boilerplate

/-- What is said of a token that does not fit. -/
inductive Complaint
  /-- None of these could be read; `atEnd` says that no token was left. -/
  | expected (choices : List String) (atEnd : Bool)
  /-- A keyword stands where a name belongs. -/
  | keyword (word : String)
  /-- All is read and tokens are left, in brackets or at the end of the text. -/
  | leftover (inside : Option Delimiter)
  | other (text : String)
deriving DecidableEq, Repr, Inhabited

/-- A word or operator as messages show it. -/
def inBackquotes (s : String) : String := "\x60" ++ s ++ "\x60"

namespace Complaint

/-- What could have stood there, in words. -/
def choice : List String → String
  | [] => "unexpected token"
  | [a] => "expected " ++ a
  | [a, b] => "expected " ++ a ++ " or " ++ b
  | many => "expected one of: " ++ ", ".intercalate many

/-- The wording of the complaint. -/
def message : Complaint → String
  | expected [] true => "unexpected end of input"
  | expected choices true => "unexpected end of input, " ++ choice choices
  | expected choices false => choice choices
  | keyword w => "expected identifier, found keyword " ++ inBackquotes w
  | leftover none => "unexpected token"
  | leftover (some d) => "unexpected token, expected " ++ inBackquotes (String.singleton d.closing)
  | other text => text

end Complaint

/-- A complaint and its place. -/
structure SyntaxError where
  complaint : Complaint
  span : Span
deriving DecidableEq, Repr, Inhabited

/-- The wording of the complaint, without its place. -/
def SyntaxError.message (e : SyntaxError) : String := e.complaint.message

end Boilerplate
