/-
# From text to tokens

The lexer of `proc_macro2`.

A text is cut into lexemes (`Lexeme.first?`), each with its place, and the lexemes are nested by
their brackets (`nest`).  Blanks and comments are dropped, except that a documentation comment
becomes an attribute whose tokens all stand where the comment stands.  Reading fails as a whole:
on an unbalanced bracket, an open quote or comment, or a character that starts no token.
-/

import Boilerplate.Text.Quoted
import Boilerplate.Token.Scan

namespace Boilerplate

/-- What a text is cut into, before its brackets are matched. -/
inductive Lexeme
  | blank
  /-- A documentation comment; an inner one describes what it stands in. -/
  | doc (inner : Bool) (text : String)
  | opening (d : Delimiter)
  | closing (d : Delimiter)
  | literal (kind : LiteralKind)
  | punct (c : Char) (spacing : Spacing)
  | ident (raw : Bool)

namespace Lexeme

/-- The property `White_Space` and the two direction marks. -/
def isBlank (c : Char) : Bool :=
  let n := c.toNat
  (9 ≤ n && n ≤ 13) || n = 0x20 || n = 0x85 || n = 0xA0 || n = 0x1680 ||
    (0x2000 ≤ n && n ≤ 0x200A) || n = 0x200E || n = 0x200F || n = 0x2028 || n = 0x2029 ||
    n = 0x202F || n = 0x205F || n = 0x3000

/-- A line up to its end, and what follows from there on. -/
def line : List Char → List Char × List Char
  | [] => ([], [])
  | '\n' :: rest => ([], '\n' :: rest)
  | '\r' :: '\n' :: rest => ([], '\n' :: rest)
  | c :: rest => let (text, after) := line rest; (c :: text, after)

/-- The inside of a block comment behind its first mark, and what follows its last.  Block comments
nest; `depth` counts the open ones around. -/
def block : Nat → List Char → Option (List Char × List Char)
  | depth, '/' :: '*' :: rest =>
    (block (depth + 1) rest).map fun (text, after) => ('/' :: '*' :: text, after)
  | 0, '*' :: '/' :: rest => some ([], rest)
  | depth + 1, '*' :: '/' :: rest =>
    (block depth rest).map fun (text, after) => ('*' :: '/' :: text, after)
  | depth, c :: rest => (block depth rest).map fun (text, after) => (c :: text, after)
  | _, [] => none

/-- Whether each carriage return stands before a line feed. -/
def returnsPaired : List Char → Bool
  | '\r' :: '\n' :: rest => returnsPaired rest
  | '\r' :: _ => false
  | _ :: rest => returnsPaired rest
  | [] => true

/-- A documentation comment with the given text. -/
def ofDoc? (inner : Bool) (text rest : List Char) : Option (Lexeme × List Char) :=
  if returnsPaired text then some (doc inner (String.ofList text), rest) else none

/-- A comment and what follows it. -/
def comment? : List Char → Option (Lexeme × List Char)
  | '/' :: '/' :: '!' :: rest => let (text, after) := line rest; ofDoc? true text after
  | '/' :: '/' :: '/' :: '/' :: rest => some (blank, (line rest).2)
  | '/' :: '/' :: '/' :: rest => let (text, after) := line rest; ofDoc? false text after
  | '/' :: '/' :: rest => some (blank, (line rest).2)
  | '/' :: '*' :: '!' :: rest => do let (text, after) ← block 0 rest; ofDoc? true text after
  | '/' :: '*' :: '*' :: '/' :: rest => some (blank, rest)
  | '/' :: '*' :: '*' :: '*' :: rest => (block 0 ('*' :: '*' :: rest)).map fun r => (blank, r.2)
  | '/' :: '*' :: '*' :: rest => do let (text, after) ← block 0 rest; ofDoc? false text after
  | '/' :: '*' :: rest => (block 0 rest).map fun r => (blank, r.2)
  | _ => none

/-- Whether a comment is next. -/
def isComment : List Char → Bool
  | '/' :: '/' :: _ => true
  | '/' :: '*' :: _ => true
  | _ => false

/-- The characters that are tokens by themselves. -/
def punctuation : List Char := "~!@#$%^&*-=+|;:,<.>/?'".toList

/-- A punctuation character at the start of a text. -/
def startsPunct : List Char → Bool
  | c :: rest => punctuation.contains c && !isComment (c :: rest)
  | [] => false

/-- A punctuation character and what follows it.  An apostrophe is one only before the name of a
lifetime, which no second apostrophe and no hash mark follows. -/
def punct? : List Char → Option (Lexeme × List Char)
  | '\'' :: rest => do
    let (raw, after) ← Scan.identifier? rest
    match after with
    | '\'' :: _ => none
    | '#' :: _ => if raw then some (punct '\'' .joint, rest) else none
    | _ => some (punct '\'' .joint, rest)
  | c :: rest =>
    if startsPunct (c :: rest) then
      some (punct c (if startsPunct rest then .joint else .alone), rest)
    else none
  | [] => none

/-- The beginnings of broken literals, which no identifier shares. -/
def quotePrefixes : List (List Char) :=
  ["r\"", "r#\"", "r##", "b\"", "b'", "br\"", "br#", "c\"", "cr\"", "cr#"].map String.toList

/-- An identifier, unless a quoted literal starts with it. -/
def ident? (s : List Char) : Option (Lexeme × List Char) :=
  if quotePrefixes.any (·.isPrefixOf s) then none
  else (Scan.identifier? s).map fun (raw, rest) => (ident raw, rest)

/-- The lexeme at the start of a text, and what follows it. -/
def first? : List Char → Option (Lexeme × List Char)
  | '(' :: rest => some (opening .parenthesis, rest)
  | '[' :: rest => some (opening .bracket, rest)
  | '\x7b' :: rest => some (opening .brace, rest)
  | ')' :: rest => some (closing .parenthesis, rest)
  | ']' :: rest => some (closing .bracket, rest)
  | '\x7d' :: rest => some (closing .brace, rest)
  | s =>
    if isComment s then comment? s
    else if s.head?.any isBlank then some (blank, s.dropWhile isBlank)
    else
      ((Scan.literal? s).map fun (kind, rest) => (literal kind, rest)) <|> punct? s <|> ident? s

end Lexeme

/-- A lexeme with its text and its place. -/
structure PlacedLexeme where
  lexeme : Lexeme
  text : String
  span : Span

/-- The lexemes of a text that starts at a place. -/
def lexemes? (start : Position) : List Char → Option (List PlacedLexeme)
  | [] => some []
  | c :: rest => do
    let (lexeme, after) ← Lexeme.first? (c :: rest)
    let others := rest.length - after.length
    let text := c :: rest.take others
    let finish := text.foldl Position.after start
    let later ← lexemes? finish (rest.drop others)
    some (⟨lexeme, String.ofList text, ⟨start, finish⟩⟩ :: later)
termination_by s => s.length
decreasing_by simp only [List.length_drop, List.length_cons]; omega

/-- The attribute that a documentation comment stands for. -/
def docTokens (inner : Bool) (text : String) (span : Span) : Tokens :=
  let mark (c : Char) := Token.punct c .alone span
  let body := [.ident { name := "doc", span }, mark '=',
    .literal { kind := .string, text := Quoted.literal text, span }]
  mark '#' :: (if inner then [mark '!'] else []) ++
    [.group .bracket body ⟨span.first, ⟨span.first.line, span.first.column + 1⟩⟩
      ⟨span.last, span.last⟩]

/-- The tokens of one lexeme other than a bracket. -/
def PlacedLexeme.tokens (l : PlacedLexeme) : Tokens :=
  match l.lexeme with
  | .blank | .opening _ | .closing _ => []
  | .doc inner text => docTokens inner text l.span
  | .literal kind => [.literal { kind, text := l.text, span := l.span }]
  | .punct c spacing => [.punct c spacing l.span]
  | .ident raw =>
    [.ident { name := if raw then String.ofList (l.text.toList.drop 2) else l.text, raw,
              span := l.span }]

/-- An open bracket with the tokens before it, the last one first. -/
structure OpenGroup where
  delimiter : Delimiter
  opening : Span
  before : Tokens

/-- Nests lexemes by their brackets.  `inside` holds the tokens behind the innermost open bracket,
the last one first. -/
def nest : List OpenGroup → Tokens → List PlacedLexeme → Option Tokens
  | [], inside, [] => some inside.reverse
  | _ :: _, _, [] => none
  | outer, inside, l :: rest =>
    match l.lexeme with
    | .opening d => nest (⟨d, l.span, inside⟩ :: outer) [] rest
    | .closing d =>
      match outer with
      | o :: outer =>
        if o.delimiter = d then
          nest outer (.group d inside.reverse o.opening l.span :: o.before) rest
        else none
      | [] => none
    | _ => nest outer (l.tokens.reverse ++ inside) rest

/-- The tokens of a text, a byte order mark in front of it apart. -/
def Tokens.ofText? (s : String) : Option Tokens := do
  let text := match s.toList with
    | '\uFEFF' :: rest => rest
    | text => text
  nest [] [] (← lexemes? .start text)

end Boilerplate
