/-
# Generated code

What `quote!` makes in `src/bitmask` and `src/persist`.

Generated code is put together from fixed text, written the way tokens print (`code`), from groups,
and from names, texts and numbers.  What nobody wrote stands nowhere: its tokens have no span.
-/

import Boilerplate.Text.Quoted
import Boilerplate.Token.Lexer

namespace Boilerplate

mutual

/-- The token with no span. -/
def Token.unplaced : Token → Token
  | .ident i => .ident { i with span := .none }
  | .punct c s _ => .punct c s .none
  | .literal l => .literal { l with span := .none }
  | .group d body _ _ => .group d (Tokens.unplaced body) .none .none

/-- The tokens without their places, in every group as well. -/
def Tokens.unplaced : List Token → Tokens
  | [] => []
  | t :: ts => t.unplaced :: Tokens.unplaced ts

end

/-- The tokens of a fixed text; none if it is not well formed. -/
def code (text : String) : Tokens := Tokens.unplaced ((Tokens.ofText? text).getD [])

/-- The tokens in parentheses. -/
def parens (body : Tokens) : Tokens := [.group .parenthesis body .none .none]

/-- The tokens in square brackets. -/
def brackets (body : Tokens) : Tokens := [.group .bracket body .none .none]

/-- The tokens in braces. -/
def braces (body : Tokens) : Tokens := [.group .brace body .none .none]

/-- A text as a string literal. -/
def quoted (text : String) : Tokens := [.literal { kind := .string, text := Quoted.literal text }]

/-- A number in decimal. -/
def numeral (n : Nat) : Tokens := [.literal { kind := .number, text := Nat.repr n }]

/-- An identifier that is written as the text. -/
def named (text : String) : Tokens := [.ident { name := text }]

/-- A value that there is. -/
def optionSome (value : Tokens) : Tokens :=
  code ":: core :: option :: Option :: Some" ++ parens value

/-- No value. -/
def optionNone : Tokens := code ":: core :: option :: Option :: None"

/-- Pieces of code with a comma between them. -/
def commaSeparated (pieces : List Tokens) : Tokens :=
  [Token.punct ',' .alone .none].intercalate pieces

/-- Pieces of code with a comma behind each. -/
def commaTerminated (pieces : List Tokens) : Tokens :=
  pieces.flatMap (· ++ [Token.punct ',' .alone .none])

/-- An attribute. -/
def marked (content : Tokens) : Tokens := .punct '#' .alone .none :: brackets content

/-- A line of documentation, as a raw string that may hold quotes. -/
def docLine (line : String) : Tokens :=
  let fence := if line.contains '"' then "#" else ""
  marked (code "doc =" ++
    [.literal { kind := .string, text := "r" ++ fence ++ "\"" ++ line ++ "\"" ++ fence }])

end Boilerplate
