/-
# Types

`syn::Type`.

The type at the start of the tokens.  Behind a path a `+` starts further bounds where these are
allowed, which makes the path a bound itself; what is known of the type is then that it is bounds,
and no path.
-/

import Boilerplate.Grammar.Path

namespace Boilerplate
namespace Grammar

open Boilerplate.Parser

variable (g : Grammar)

/-- What complaints list where a type belongs. -/
def typeChoices : List String :=
  [inBackquotes "for", "parentheses", inBackquotes "fn", inBackquotes "unsafe",
   inBackquotes "extern", "identifier", inBackquotes "::", inBackquotes "<", inBackquotes "dyn",
   "square brackets", inBackquotes "*", inBackquotes "&", inBackquotes "!", inBackquotes "impl",
   inBackquotes "_", "lifetime"]

/-- Whether a bound may start here. -/
def startsBound (ts : Tokens) : Bool :=
  Look.anyIdent ts || Look.op "::" ts || Look.op "?" ts || Look.lifetime ts || Look.paren ts

/-- The bounds behind a first one, and how many there are. -/
def moreBounds : Parser (Nat × Tokens) := do
  let more ← whileSees (Look.op "+") do
    let plus ← op "+"
    if ← sees startsBound then return (plus, ← g.anyBound) else return (plus, [])
  return (more.length, more.flatMap fun (p, b) => p ++ b)

/-- Bounds with a `+` between them, of which one at least is no lifetime, and how many follow the
first.  The complaint about their lack starts at `start`. -/
def bounds (plus : Bool) (missing : String) (start : Span) : Parser (Nat × Tokens) := do
  let isTrait := fun ts => !Look.lifetime ts && !Look.word "use" ts
  let firstTrait ← sees isTrait
  let first ← g.anyBound
  let more ← if plus then
      whileSees (Look.op "+") do
        let sign ← op "+"
        if ← sees startsBound then
          let isTrait ← sees isTrait
          return (sign ++ (← g.anyBound), isTrait)
        else return (sign, false)
    else pure []
  let tokens := first ++ more.flatMap (·.1)
  if firstTrait || more.any (·.2) then return (more.length, tokens)
  else complainAt (.other missing) (start.through tokens.span)

/-- Bounds without `dyn`, starting with a lifetime. -/
def bareBounds : Parser TypeExpr := do
  let start ← place
  let (more, ts) ← g.bounds true "at least one trait is required for an object type" start
  return ⟨.bounds (more == 0), ts⟩

/-- A tuple, or a type or bounds in parentheses. -/
def parenthesizedType (plus : Bool) : Parser TypeExpr := do
  let inner : Parser (Tokens × Option TypeExpr) := do
    if ← atEnd then return ([], none)
    if ← sees Look.lifetime then return ((← g.bareBounds).tokens, none)
    if ← sees (Look.op "?") then
      let b ← g.anyBound
      return (b, some ⟨.bounds true, b⟩)
    let first ← g.type true
    if ← sees (Look.op ",") then
      let comma ← op ","
      let more ← separatedTokens List.isEmpty "," do return (← g.type true).tokens
      return (first.tokens ++ comma ++ more, none)
    return (first.tokens, some first)
  let ((body, single), o, c) ← enclosed .parenthesis inner
  let group := [Token.group .parenthesis body o c]
  let isBound := match single with
    | some ⟨.path _, _⟩ => true
    | some ⟨.bounds one, _⟩ => one
    | _ => false
  if isBound && plus && (← sees (Look.op "+")) then
    let (_, more) ← g.moreBounds
    return ⟨.bounds false, group ++ more⟩
  return ⟨.other, group⟩

/-- The parameters of a function type, of which the last may be `...`. -/
def functionTypeParameters (attributes : Parser Tokens) : Parser Tokens :=
  separatedTokens List.isEmpty "," do
    let before ← attributes
    let named := fun ts => (Look.name ts || Look.anyWord ["_", "self"] ts) &&
      Look.second (Look.op ":") ts && !Look.second (Look.op "::") ts
    let label ← if ← sees named then
        let i ← anyIdent
        pure ([.ident i] ++ (← op ":"))
      else pure []
    if ← sees (Look.op "...") then return before ++ label ++ (← op "...")
    return before ++ label ++ (← g.type true).tokens

/-- The calling convention: `extern` with or without a name. -/
def callingConvention : Parser Tokens := do
  if !(← sees (Look.word "extern")) then return []
  let keyword ← token
  if ← sees (Look.literalOf .string) then return keyword ++ (← token) else return keyword

/-- The type of a function, from `fn` or the words before it. -/
def functionType (attributes : Parser Tokens) : Parser Tokens := do
  let unsafety ← word? "unsafe"
  let convention ← callingConvention
  let keyword ← word "fn"
  let params ← groupOf .parenthesis (g.functionTypeParameters attributes)
  return unsafety ++ convention ++ keyword ++ params ++ (← g.returnType false)

/-- A path, a macro call, or bounds that start with a path.  Parentheses behind a path belong to it
if they hold types. -/
def pathType (plus : Bool) (lifetimes : Tokens) : Parser TypeExpr := do
  let (qualified, plain) ← g.qualifiedPath false
  let p := (← attempt? (g.withParameters plain)).getD plain
  if qualified then return ⟨.other, p.tokens⟩
  if p.isPlain && (← sees fun ts => Look.op "!" ts && !Look.op "!=" ts) then
    let bang ← op "!"
    if !(← sees fun ts => Look.paren ts || Look.bracket ts || Look.brace ts) then
      expected ["delimiter"]
    return ⟨.other, p.tokens ++ bang ++ (← token)⟩
  if !lifetimes.isEmpty || (plus && (← sees (Look.op "+"))) then
    if !plus then return ⟨.bounds true, lifetimes ++ p.tokens⟩
    let (more, ts) ← g.moreBounds
    return ⟨.bounds (more == 0), lifetimes ++ p.tokens ++ ts⟩
  return ⟨.path p, p.tokens⟩

/-- A type; with further bounds behind a `+` if these are allowed. -/
def anyType (attributes : Parser Tokens) (plus : Bool) : Parser TypeExpr := do
  let startsPath := fun ts => Look.name ts || Look.anyWord placeWords ts || Look.op "::" ts ||
    Look.op "<" ts
  let startsFunction := Look.anyWord ["fn", "unsafe", "extern"]
  if ← sees (Look.word "for") then
    let lifetimes ← boundLifetimes
    if ← sees startsFunction then
      return ⟨.other, lifetimes ++ (← g.functionType attributes)⟩
    if ← sees fun ts => Look.name ts || Look.anyWord placeWords ts then
      g.pathType plus lifetimes
    else
      expected ["identifier", inBackquotes "fn", inBackquotes "unsafe", inBackquotes "extern",
        inBackquotes "super", inBackquotes "self", inBackquotes "Self", inBackquotes "crate"]
  else if ← sees Look.paren then g.parenthesizedType plus
  else if ← sees startsFunction then return ⟨.other, ← g.functionType attributes⟩
  else if ← sees startsPath then g.pathType plus []
  else if ← sees (Look.word "dyn") then
    let keyword ← token
    let star ← op? "*"
    let (_, bs) ← g.bounds plus "at least one trait is required for an object type" keyword.span
    return ⟨.other, keyword ++ star ++ bs⟩
  else if ← sees Look.bracket then
    let group ← groupOf .bracket do
      let element ← g.type true
      if ← sees (Look.op ";") then
        let semicolon ← op ";"
        return element.tokens ++ semicolon ++ (← g.expr true).tokens
      return element.tokens
    return ⟨.other, group⟩
  else if ← sees (Look.op "*") then
    let star ← op "*"
    if !(← sees (Look.anyWord ["const", "mut"])) then
      expected [inBackquotes "const", inBackquotes "mut"]
    let keyword ← token
    return ⟨.other, star ++ keyword ++ (← g.type false).tokens⟩
  else if ← sees (Look.op "&") then
    let mark ← op "&"
    let lifetimeName ← if ← sees Look.lifetime then lifetime else pure []
    let mutability ← word? "mut"
    return ⟨.other, mark ++ lifetimeName ++ mutability ++ (← g.type false).tokens⟩
  else if ← sees fun ts => Look.op "!" ts && !Look.op "!=" ts then return ⟨.other, ← op "!"⟩
  else if ← sees (Look.word "impl") then
    let keyword ← token
    let (_, bs) ← g.bounds plus "at least one trait must be specified" keyword.span
    return ⟨.other, keyword ++ bs⟩
  else if ← sees (Look.word "_") then return ⟨.other, ← token⟩
  else if ← sees Look.lifetime then g.bareBounds
  else expected typeChoices

end Grammar
end Boilerplate
