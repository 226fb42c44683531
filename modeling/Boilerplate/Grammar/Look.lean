/-
# Looking ahead

The `peek` functions of `syn`.

Tests of what the next tokens are.  An operator is recognised by its characters, all but the last of
which are joint to the next; the last may be joint to more, so that `=` is also seen in `==`.
-/

import Boilerplate.Token

namespace Boilerplate

/-- Words that are no names unless written behind `r#`. -/
def keywords : List String :=
  ["_", "abstract", "as", "async", "await", "become", "box", "break", "const", "continue", "crate",
   "do", "dyn", "else", "enum", "extern", "false", "final", "fn", "for", "if", "impl", "in", "let",
   "loop", "macro", "match", "mod", "move", "mut", "override", "priv", "pub", "ref", "return",
   "Self", "self", "static", "struct", "super", "trait", "true", "try", "type", "typeof", "unsafe",
   "unsized", "use", "virtual", "where", "while", "yield"]

/-- Whether the identifier may name something. -/
def Ident.isName (i : Ident) : Bool := i.raw || !keywords.contains i.name

namespace Look

/-- The tokens behind the first one; a lifetime counts as one. -/
def skip : Tokens → Tokens
  | .punct '\'' _ _ :: .ident _ :: rest => rest
  | _ :: rest => rest
  | [] => []

/-- The tokens start with these characters as one operator. -/
def chars : List Char → Tokens → Bool
  | [c], .punct d _ _ :: _ => c == d
  | c :: cs, .punct d .joint _ :: rest => c == d && chars cs rest
  | _, _ => false

/-- Whether the operator with these characters is next. -/
def op (s : String) (ts : Tokens) : Bool := chars s.toList ts

/-- The next token is this keyword or unreserved word. -/
def word (w : String) : Tokens → Bool
  | .ident i :: _ => !i.raw && i.name == w
  | _ => false

/-- Whether one of the words is next. -/
def anyWord (ws : List String) (ts : Tokens) : Bool := ws.any (word · ts)

/-- Whether an identifier is next that is no keyword. -/
def name : Tokens → Bool
  | .ident i :: _ => i.isName
  | _ => false

/-- The next token is an identifier or any keyword. -/
def anyIdent : Tokens → Bool
  | .ident _ :: _ => true
  | _ => false

/-- Whether a lifetime is next: a quote and an identifier. -/
def lifetime : Tokens → Bool
  | .punct '\'' _ _ :: .ident _ :: _ => true
  | _ => false

/-- A literal, a truth value, or a negated number. -/
def literal : Tokens → Bool
  | .literal _ :: _ => true
  | .punct '-' _ _ :: .literal l :: _ => l.kind = .number
  | ts => anyWord ["true", "false"] ts

/-- Whether a literal of this kind is next. -/
def literalOf (kind : LiteralKind) : Tokens → Bool
  | .literal l :: _ => l.kind = kind
  | _ => false

/-- Whether a group in these brackets is next. -/
def group (d : Delimiter) : Tokens → Bool
  | .group e _ _ _ :: _ => d = e
  | _ => false

/-- Whether a group in parentheses is next. -/
def paren : Tokens → Bool := group .parenthesis

/-- Whether a group in square brackets is next. -/
def bracket : Tokens → Bool := group .bracket

/-- Whether a group in braces is next. -/
def brace : Tokens → Bool := group .brace

/-- Whether the test holds of what is behind the next token. -/
def second (test : Tokens → Bool) (ts : Tokens) : Bool := test (skip ts)

/-- Whether the test holds of what is behind the next two tokens. -/
def third (test : Tokens → Bool) (ts : Tokens) : Bool := test (skip (skip ts))

end Look
end Boilerplate
