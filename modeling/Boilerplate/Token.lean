/-
# Tokens

`proc_macro2::TokenTree`.

Source text is read as token trees: identifiers, punctuation characters, literals, and groups in one
of three kinds of brackets.  An operator of several characters is a row of punctuation tokens, all
but the last of which are `joint`.
-/

import Boilerplate.Text.Position

namespace Boilerplate

/-- An identifier or keyword.  A raw one is written behind `r#` and is never a keyword. -/
structure Ident where
  name : String
  raw : Bool := false
  span : Span := .none
deriving DecidableEq, Repr, Inhabited

/-- The identifier as it is written. -/
def Ident.text (i : Ident) : String := if i.raw then "r#" ++ i.name else i.name

/-- Whether the next token belongs to the same operator. -/
inductive Spacing
  | alone
  | joint
deriving DecidableEq, Repr, Inhabited

/-- The three kinds of brackets. -/
inductive Delimiter
  | parenthesis
  | bracket
  | brace
deriving DecidableEq, Repr, Inhabited

namespace Delimiter

/-- The bracket that opens a group. -/
def opening : Delimiter → Char
  | parenthesis => '('
  | bracket => '['
  | brace => '\x7b'

/-- The bracket that closes a group. -/
def closing : Delimiter → Char
  | parenthesis => ')'
  | bracket => ']'
  | brace => '\x7d'

end Delimiter

/-- The kinds of literals. -/
inductive LiteralKind
  | string
  | byteString
  | cString
  | character
  | byte
  | number
deriving DecidableEq, Repr, Inhabited

/-- A literal as it is written, quotes and suffix included. -/
structure Literal where
  kind : LiteralKind
  text : String
  span : Span := .none
deriving DecidableEq, Repr, Inhabited

/-- A token tree. -/
inductive Token
  | ident (i : Ident)
  | punct (c : Char) (spacing : Spacing) (span : Span)
  | literal (l : Literal)
  | group (d : Delimiter) (body : List Token) (opening closing : Span)
deriving Repr, Inhabited

/-- A piece of source or of generated code. -/
abbrev Tokens := List Token

namespace Token

/-- Where the token stands; a group reaches from bracket to bracket. -/
def span : Token → Span
  | ident i => i.span
  | punct _ _ s => s
  | literal l => l.span
  | group _ _ o c => o.through c

/-- Where a complaint about the token points: at the opening bracket of a group. -/
def headSpan : Token → Span
  | group _ _ o _ => o
  | t => t.span

end Token

/-- From the first token to the last; `Span.none` if there is none. -/
def Tokens.span (ts : Tokens) : Span :=
  match ts.head?, ts.getLast? with
  | some a, some b => a.span.through b.span
  | _, _ => .none

end Boilerplate
