/-
# Readers of tokens

`syn::parse`.

A `Parser` reads a beginning of the tokens it is given and complains at the first one that does not
fit.  It decides by the next few tokens and never takes a decision back, so that the complaint is
about the place where the text first goes wrong.  Most readers give back the tokens they read in
printed form: within an operator all characters but the last are joint, and the last is alone,
whatever followed it in the text.

Tokens that a group holds behind its content are noted and complained about only when all the rest
has been read (`Input.leftover`).
-/

import Boilerplate.Grammar.Failure
import Boilerplate.Grammar.Look

namespace Boilerplate

/-- What is still to be read. -/
structure Input where
  rest : Tokens
  /-- Where the tokens end. -/
  finish : Span := .none
  /-- The first complaint about tokens left over in a group. -/
  leftover : Option SyntaxError := none

/-- A reader of tokens: it reads some of the input and goes on behind them, or complains. -/
abbrev Parser := StateT Input (Except SyntaxError)

namespace Parser

variable {α : Type}

/-- Where a complaint about the next token points. -/
def here (inp : Input) : Span :=
  match inp.rest with
  | t :: _ => t.headSpan
  | [] => inp.finish

/-- Complains at the next token, and mentions the end of the tokens if there is none. -/
def expected (choices : List String) : Parser α := fun inp =>
  .error ⟨.expected choices inp.rest.isEmpty, here inp⟩

/-- Complains at the next token in the same words whether there is one or not. -/
def complain (c : Complaint) : Parser α := fun inp => .error ⟨c, here inp⟩

/-- The reader that reads nothing and complains about a place. -/
def complainAt (c : Complaint) (span : Span) : Parser α := fun _ => .error ⟨c, span⟩

/-- The reader that looks ahead and reads nothing. -/
def sees (test : Tokens → Bool) : Parser Bool := fun inp => .ok (test inp.rest, inp)

/-- Whether all tokens are read. -/
def atEnd : Parser Bool := sees List.isEmpty

/-- The place of the next token. -/
def place : Parser Span := fun inp => .ok (here inp, inp)

/-- The characters of an operator in printed form. -/
def spaced : Tokens → Tokens
  | [.punct c _ s] => [.punct c .alone s]
  | .punct c _ s :: rest => .punct c .joint s :: spaced rest
  | ts => ts

/-- An operator. -/
def op (s : String) : Parser Tokens := fun inp =>
  if Look.op s inp.rest then
    .ok (spaced (inp.rest.take s.length), { inp with rest := inp.rest.drop s.length })
  else .error ⟨.expected [inBackquotes s] false, here inp⟩

/-- An operator that may be missing. -/
def op? (s : String) : Parser Tokens := do
  if ← sees (Look.op s) then op s else return []

/-- The next token as it is. -/
def token : Parser Tokens := fun inp =>
  match inp.rest with
  | t :: rest => .ok ([t], { inp with rest })
  | [] => .ok ([], inp)

/-- A keyword or an unreserved word with a meaning of its own. -/
def word (w : String) : Parser Tokens := do
  if ← sees (Look.word w) then token else expected [inBackquotes w]

/-- A word that may be missing. -/
def word? (w : String) : Parser Tokens := do
  if ← sees (Look.word w) then token else return []

/-- A name: an identifier that is no keyword. -/
def name : Parser Ident := fun inp =>
  match inp.rest with
  | .ident i :: rest =>
    if i.isName then .ok (i, { inp with rest }) else .error ⟨.keyword i.text, i.span⟩
  | _ => expected ["identifier"] inp

/-- An identifier or any keyword. -/
def anyIdent : Parser Ident := fun inp =>
  match inp.rest with
  | .ident i :: rest => .ok (i, { inp with rest })
  | _ => expected ["identifier"] inp

/-- A name, as it prints. -/
def nameTokens : Parser Tokens := do return [.ident (← name)]

/-- A lifetime; its quote prints joint to its name, whatever stood between them. -/
def lifetime : Parser Tokens := fun inp =>
  match inp.rest with
  | .punct '\'' _ s :: .ident i :: rest =>
    .ok ([.punct '\'' .joint s, .ident i], { inp with rest })
  | _ => expected ["lifetime"] inp

/-- A literal, a truth value, or a negated number, which becomes one literal. -/
def literal : Parser Tokens := fun inp =>
  match inp.rest with
  | .literal l :: rest => .ok ([.literal l], { inp with rest })
  | .punct '-' s a :: .literal l :: rest =>
    if l.kind = .number then
      .ok ([.literal { l with text := "-" ++ l.text, span := a.through l.span }], { inp with rest })
    else expected ["literal"] { inp with rest := .punct '-' s a :: .literal l :: rest }
  | .ident i :: rest =>
    if Look.literal inp.rest then .ok ([.ident i], { inp with rest }) else expected ["literal"] inp
  | _ => expected ["literal"] inp

/-- Runs a reader and leaves the tokens unread. -/
def ahead (p : Parser α) : Parser α := fun inp => (p inp).map fun (a, _) => (a, inp)

/-- Runs a reader that may fail without consequences. -/
def attempt? (p : Parser α) : Parser (Option α) := fun inp =>
  match p inp with
  | .ok (a, rest) => .ok (some a, rest)
  | .error _ => .ok (none, inp)

/-- How complaints call the missing brackets. -/
def Delimiter.called : Delimiter → String
  | .parenthesis => "parentheses"
  | .bracket => "square brackets"
  | .brace => "curly braces"

/-- Notes the tokens left over in a group. -/
def noteLeftover (d : Delimiter) (inner : Input) : Option SyntaxError :=
  inner.leftover <|> inner.rest.head?.map fun t => ⟨.leftover (some d), t.headSpan⟩

/-- A group whose content the given reader reads; with the spans of the brackets. -/
def enclosed (d : Delimiter) (p : Parser α) : Parser (α × Span × Span) := fun inp =>
  match inp.rest with
  | .group e body o c :: rest =>
    if d = e then do
      let (a, inner) ← p { rest := body, finish := c, leftover := inp.leftover }
      .ok ((a, o, c), { inp with rest, leftover := noteLeftover d inner })
    else expected [Delimiter.called d] inp
  | _ => expected [Delimiter.called d] inp

/-- A group as one token. -/
def groupOf (d : Delimiter) (p : Parser Tokens) : Parser Tokens := do
  let (body, o, c) ← enclosed d p
  return [.group d body o c]

/-- Repeats a reader up to `n` times until it gives nothing. -/
def upTo : Nat → Parser (Option α) → Parser (List α)
  | 0, _ => pure []
  | n + 1, p => do
    match ← p with
    | some a => return a :: (← upTo n p)
    | none => return []

/-- Repeats a reader, which takes at least one token each time, until it gives nothing. -/
def many (p : Parser (Option α)) : Parser (List α) := fun inp => upTo (inp.rest.length + 1) p inp

/-- Repeats a reader as long as the next tokens call for it. -/
def whileSees (test : Tokens → Bool) (p : Parser α) : Parser (List α) :=
  many do if ← sees test then return some (← p) else return none

/-- Entries with a separator between them and perhaps behind the last one, up to where `stop` holds.
Each entry comes with its separator. -/
def separated (stop : Tokens → Bool) (sep : String) (p : Parser α) : Parser (List (α × Tokens)) :=
  many do
    if ← sees stop then return none
    let a ← p
    if ← sees stop then return some (a, [])
    return some (a, ← op sep)

/-- The tokens of separated entries. -/
def separatedTokens (stop : Tokens → Bool) (sep : String) (p : Parser Tokens) : Parser Tokens := do
  return (← separated stop sep p).flatMap fun (a, s) => a ++ s

/-- Entries that end where no separator follows, or where `stop` holds. -/
def chained (stop : Tokens → Bool) (sep : String) (p : Parser Tokens) : Parser Tokens := do
  if ← sees stop then return []
  let first ← p
  let more ← whileSees (Look.op sep) do
    let s ← op sep
    if ← sees stop then return s else return s ++ (← p)
  return first ++ more.flatten

/-- All of some tokens.  `inside` tells which brackets enclosed them and `finish` where they end. -/
def all (p : Parser α) (ts : Tokens) (finish : Span := .none) : Except SyntaxError α := do
  let (a, inp) ← p { rest := ts, finish }
  match inp.leftover, inp.rest with
  | some e, _ => .error e
  | none, t :: _ => .error ⟨.leftover none, t.headSpan⟩
  | none, [] => .ok a

end Parser
end Boilerplate
