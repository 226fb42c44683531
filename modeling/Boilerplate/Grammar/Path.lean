/-
# Paths

`syn::Path`.

A path is a row of names with `::` between them, each of which may have arguments: `< … >` for
types, `( … ) -> T` for the parameters of a function.  In expressions the angle brackets need a `::`
before them.  Lifetimes print before the other arguments, whatever their order in the text.
-/

import Boilerplate.Grammar.Basic

namespace Boilerplate

/-- An entry of a list in angle brackets with its separator. -/
structure AngleEntry where
  isLifetime : Bool
  tokens : Tokens
  separator : Tokens

/-- Entries in printed order: the lifetimes first, and a separator behind them. -/
def AngleEntry.arrange (entries : List AngleEntry) : Tokens :=
  let lifetimes := entries.filter (·.isLifetime)
  let others := entries.filter (!·.isLifetime)
  let print := fun (es : List AngleEntry) => es.flatMap fun e => e.tokens ++ e.separator
  let gap := !others.isEmpty && lifetimes.getLast?.any (·.separator.isEmpty)
  print lifetimes ++ (if gap then [.punct ',' .alone .none] else []) ++ print others

namespace Grammar

open Boilerplate.Parser

/-- Whether a path may go on with this word, of those that name a place. -/
def placeWords : List String := ["super", "self", "Self", "crate"]

/-- Whether a segment of a path is next, without arguments: a name or one of `placeWords`. -/
def seesPlainSegment (ts : Tokens) : Bool := Look.name ts || Look.anyWord placeWords ts

/-- A path of names without arguments. -/
def plainPath : Parser Path := do
  let root ← op? "::"
  if !(← sees seesPlainSegment) then
    let _ ← name
  let first ← anyIdent
  let more ← whileSees (Look.op "::") do
    let sep ← op "::"
    if ← sees seesPlainSegment then return (sep, ← anyIdent)
    else expected ["path segment after " ++ inBackquotes "::"]
  return ⟨!root.isEmpty, { name := first } :: more.map fun (_, i) => { name := i },
    root ++ [.ident first] ++ more.flatMap fun (s, i) => s ++ [.ident i]⟩

variable (g : Grammar)

/-- A constant in the place of a type: a literal or a block. -/
def constArgument : Parser Tokens := do
  if ← sees Look.literal then literal
  else if ← sees Look.name then nameTokens
  else if ← sees Look.brace then groupOf .brace g.statements
  else expected []

/-- Names of lifetimes for what follows: `for<'a>`. -/
def boundLifetimes : Parser Tokens := do
  if !(← sees (Look.word "for")) then return []
  let keyword ← token
  let left ← op "<"
  let names ← separatedTokens (Look.op ">") "," lifetime
  return keyword ++ left ++ names ++ (← op ">")

/-- The result type of a function, with or without bounds behind a `+`. -/
def returnType (plus : Bool) : Parser Tokens := do
  if ← sees (Look.op "->") then return (← op "->") ++ (← g.type plus).tokens else return []

/-- Parameters and result in the place of path arguments. -/
def parenthesized : Parser Tokens := do
  let params ← groupOf .parenthesis <|
    separatedTokens List.isEmpty "," do return (← g.type true).tokens
  return params ++ (← g.returnType false)

/-- Whether a parenthesis follows, behind `::` or not. -/
def seesParameters (ts : Tokens) : Bool :=
  Look.paren ts || (Look.op "::" ts && Look.third Look.paren ts)

/-- An argument in angle brackets: a lifetime, a constant, a type, or a name with a value or bounds
for it. -/
def angleArgument : Parser (Bool × Tokens) := do
  if ← sees fun ts => Look.lifetime ts && !Look.second (Look.op "+") ts then
    return (true, ← lifetime)
  if ← sees fun ts => Look.literal ts || Look.brace ts then
    return (false, ← g.constArgument)
  let t ← g.type true
  let isName := match t.shape with
    | .path p => !p.rooted && p.segments.length == 1 &&
        p.segments.all (·.arguments != .parenthesized)
    | _ => false
  if !isName then return (false, t.tokens)
  if ← sees (Look.op "=") then
    let equals ← op "="
    if ← sees fun ts => Look.literal ts || Look.brace ts then
      return (false, t.tokens ++ equals ++ (← g.constArgument))
    return (false, t.tokens ++ equals ++ (← g.type true).tokens)
  if ← sees (Look.op ":") then
    let colon ← op ":"
    let bounds ← chained (fun ts => Look.op "," ts || Look.op ">" ts) "+" g.bound
    return (false, t.tokens ++ colon ++ bounds)
  return (false, t.tokens)

/-- Arguments in angle brackets. -/
def angled : Parser Tokens := do
  let left ← op "<"
  let args ← separated (Look.op ">") "," g.angleArgument
  let right ← op ">"
  return left ++ AngleEntry.arrange (args.map fun ((l, ts), s) => ⟨l, ts, s⟩) ++ right

/-- A segment of a path; `inExpr` if a `<` could be an operator. -/
def segment (inExpr : Bool) : Parser (PathSegment × Tokens) := do
  if ← sees (Look.anyWord ["super", "self", "crate", "try"]) then
    let i ← anyIdent
    return ({ name := i }, [.ident i])
  let i ← if ← sees (Look.word "Self") then anyIdent else name
  let bare := fun ts => !inExpr && Look.op "<" ts && !Look.op "<=" ts
  if ← sees fun ts => bare ts || (Look.op "::" ts && Look.third (Look.op "<") ts) then
    let colons ← op? "::"
    return (⟨i, .angled⟩, [.ident i] ++ colons ++ (← g.angled))
  return ({ name := i }, [.ident i])

/-- The segments behind the first one. -/
def moreSegments (inExpr : Bool) : Parser (List (PathSegment × Tokens)) :=
  whileSees (fun ts => Look.op "::" ts && !Look.third Look.paren ts) do
    let sep ← op "::"
    let (s, ts) ← g.segment inExpr
    return (s, sep ++ ts)

/-- A path without parameters of a function. -/
def path (inExpr : Bool) : Parser Path := do
  let root ← op? "::"
  let first ← g.segment inExpr
  let all := first :: (← g.moreSegments inExpr)
  return ⟨!root.isEmpty, all.map (·.1), root ++ all.flatMap (·.2)⟩

/-- A path, or a path that starts with a type in angle brackets, which the result tells. -/
def qualifiedPath (inExpr : Bool) : Parser (Bool × Path) := do
  if !(← sees (Look.op "<")) then return (false, ← g.path inExpr)
  let left ← op "<"
  let self ← g.type true
  let role ← if ← sees (Look.word "as") then
      let keyword ← token
      pure (keyword ++ (← g.path false).tokens)
    else pure []
  let right ← op ">"
  let colons ← op "::"
  let first ← g.segment inExpr
  let more ← whileSees (Look.op "::") do
    let sep ← op "::"
    let (s, ts) ← g.segment inExpr
    return (s, sep ++ ts)
  let all := first :: more
  return (true, ⟨false, all.map (·.1),
    left ++ self.tokens ++ role ++ right ++ colons ++ all.flatMap (·.2)⟩)

/-- The parameters and the result of a function behind a path, and the segments behind these. -/
def withParameters (p : Path) : Parser Path := do
  if p.segments.getLast?.any (·.arguments != .none) then return p
  if !(← sees seesParameters) then return p
  let _ ← op? "::"
  let params ← g.parenthesized
  let more ← g.moreSegments false
  let last := p.segments.getLast?.toList.map fun s => { s with arguments := .parenthesized }
  return ⟨p.rooted, p.segments.dropLast ++ last ++ more.map (·.1),
    p.tokens ++ params ++ more.flatMap (·.2)⟩

/-- A bound: a lifetime, or a trait with or without parentheses around it. -/
def anyBound : Parser Tokens := do
  if ← sees Look.lifetime then lifetime
  else if ← sees (Look.word "use") then
    let keyword ← token
    let left ← op "<"
    let names ← separatedTokens (Look.op ">") "," do
      if ← sees Look.lifetime then lifetime else return [.ident (← anyIdent)]
    return keyword ++ left ++ names ++ (← op ">")
  else if ← sees Look.paren then groupOf .parenthesis traitBound
  else traitBound
where
  traitBound : Parser Tokens := do
    let before ← boundLifetimes
    let condition ← op? "~"
    let constness ← word? "const"
    let maybe ← op? "?"
    let after ← if before.isEmpty && !maybe.isEmpty then boundLifetimes else pure []
    let p ← g.withParameters (← g.path false)
    return before ++ condition ++ constness ++ maybe ++ after ++ p.tokens

end Grammar
end Boilerplate
