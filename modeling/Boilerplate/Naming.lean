/-
# Computed names

`Ident::new` of `proc_macro2`, where `src/bitmask`, `src/persist` and `src/assemble` call it.

Generated code names things by computed texts.  A text that no identifier is written as cannot be a
name, and then nothing at all is generated: the `BadName` stops the whole expansion.
-/

import Boilerplate.Text.Quoted
import Boilerplate.Token
import Boilerplate.Unicode.Identifier

namespace Boilerplate

/-- Why a text is no identifier. -/
inductive BadName
  | empty
  | number
  | invalid (text : String)
deriving DecidableEq, Repr, Inhabited

/-- What is said where the expansion stops. -/
def BadName.message : BadName → String
  | empty => "Ident is not allowed to be empty; use Option<Ident>"
  | number => "Ident cannot be a number; use Literal instead"
  | invalid text => Quoted.debug text ++ " is not a valid Ident"

/-- Whether the characters form an identifier. -/
def isIdentifier : List Char → Bool
  | [] => false
  | c :: cs => (c = '_' || Unicode.isStart c) && cs.all Unicode.isContinue

/-- The identifier that is written as the text. -/
def Ident.ofString (s : String) (span : Span := .none) : Except BadName Ident :=
  let cs := s.toList
  if cs.isEmpty then .error .empty
  else if cs.all Char.isDigit then .error .number
  else if isIdentifier cs then .ok { name := s, span }
  else .error (.invalid s)

end Boilerplate
