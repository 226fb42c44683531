/-
# Tokens as text

`proc_macro2::TokenStream`, as it is displayed.

Tokens stand one space apart, except after a joint punctuation character.  Parentheses and square
brackets enclose their content closely, braces with a space on each side.
-/

import Boilerplate.Token

namespace Boilerplate

/-- The space behind a token that another one follows. -/
def Token.gap : Token → String
  | .punct _ .joint _ => ""
  | _ => " "

/-- A group around a printed content. -/
def Delimiter.enclose (d : Delimiter) (content : String) : String :=
  match d with
  | parenthesis => "(" ++ content ++ ")"
  | bracket => "[" ++ content ++ "]"
  | brace => if content.isEmpty then "\x7b \x7d" else "\x7b " ++ content ++ " \x7d"

mutual

/-- One token as text. -/
def Token.print : Token → String
  | .ident i => i.text
  | .punct c _ _ => String.singleton c
  | .literal l => l.text
  | .group d body _ _ => d.enclose (Tokens.print body)

/-- Tokens as text. -/
def Tokens.print : Tokens → String
  | [] => ""
  | [t] => t.print
  | t :: u :: rest => t.print ++ t.gap ++ Tokens.print (u :: rest)

end

end Boilerplate
