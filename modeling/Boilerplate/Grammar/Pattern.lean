/-
# Patterns

`syn::Pat`.

Patterns of `match` arms, `let`, closures and parameters.
-/

import Boilerplate.Grammar.Attribute

namespace Boilerplate
namespace Grammar

open Boilerplate.Parser

variable (g : Grammar)

/-- Patterns with `|` between them, and perhaps one before the first. -/
def alternatives : Parser Tokens := do
  let before ← if ← sees fun ts => Look.op "|" ts && !Look.op "||" ts then op "|" else pure []
  let first ← g.pattern
  let goesOn := fun ts => Look.op "|" ts && !Look.op "||" ts && !Look.op "|=" ts
  let more ← whileSees goesOn do return (← op "|") ++ (← g.pattern)
  return before ++ first ++ more.flatten

/-- What complaints list where a pattern belongs. -/
def patternChoices : List String :=
  ["identifier", inBackquotes "::", inBackquotes "<", inBackquotes "_", "literal",
   inBackquotes "const", inBackquotes "ref", inBackquotes "mut", inBackquotes "&", "parentheses",
   "square brackets", inBackquotes "..", inBackquotes "const"]

/-- The end of a range that is open or not. -/
def rangeMark : Parser Tokens := do
  if ← sees (Look.op "..=") then op "..="
  else if ← sees (Look.op "...") then op "..."
  else op ".."

/-- Whether one of the operators of ranges is next. -/
def seesRange (ts : Tokens) : Bool := Look.op ".." ts

/-- Whether a bound of a range may stand here. -/
def startsRangeBound (ts : Tokens) : Bool :=
  Look.literal ts || Look.name ts || Look.op "::" ts || Look.op "<" ts ||
    Look.anyWord (placeWords ++ ["const"]) ts

/-- A literal, a path, or a constant block. -/
def rangeBound : Parser Tokens := do
  if ← sees Look.literal then literal
  else if ← sees (Look.word "const") then
    return (← token) ++ (← groupOf .brace g.statements)
  else if ← sees startsRangeBound then return (← g.qualifiedPath true).2.tokens
  else
    expected ["literal", "identifier", inBackquotes "::", inBackquotes "<", inBackquotes "self",
      inBackquotes "Self", inBackquotes "super", inBackquotes "crate", inBackquotes "const"]

/-- A range behind its start, or the start alone. -/
def rangeFrom (start : Tokens) : Parser Tokens := do
  if !(← sees seesRange) then return start
  let mark ← rangeMark
  if ← sees startsRangeBound then return start ++ mark ++ (← g.rangeBound)
  return start ++ mark

/-- A field in the pattern of a struct. -/
def fieldPattern : Parser Tokens := do
  let attributes ← g.outerTokens
  if ← sees (Look.op "..") then return attributes ++ (← op "..")
  let boxed ← word? "box"
  let byRef ← word? "ref"
  let mutability ← word? "mut"
  let before := boxed ++ byRef ++ mutability
  if !before.isEmpty then return attributes ++ before ++ (← nameTokens)
  let isIndex := Look.literalOf .number
  if ← sees isIndex then
    return attributes ++ (← token) ++ (← op ":") ++ (← g.alternatives)
  let label ← if ← sees Look.name then nameTokens else expected ["identifier or integer"]
  if ← sees (Look.op ":") then
    return attributes ++ label ++ (← op ":") ++ (← g.alternatives)
  return attributes ++ label

/-- A path, a macro call, a struct or tuple pattern, or a range that starts with a path. -/
def pathPattern : Parser Tokens := do
  let (qualified, p) ← g.qualifiedPath true
  if !qualified && p.isPlain && (← sees fun ts => Look.op "!" ts && !Look.op "!=" ts) then
    let bang ← op "!"
    if !(← sees fun ts => Look.paren ts || Look.bracket ts || Look.brace ts) then
      expected ["delimiter"]
    return p.tokens ++ bang ++ (← token)
  if ← sees Look.brace then
    return p.tokens ++ (← groupOf .brace (separatedTokens List.isEmpty "," g.fieldPattern))
  if ← sees Look.paren then
    return p.tokens ++
      (← groupOf .parenthesis (separatedTokens List.isEmpty "," g.alternatives))
  g.rangeFrom p.tokens

/-- A pattern without alternatives. -/
def anyPattern : Parser Tokens := do
  let startsPath := fun ts =>
    (Look.name ts &&
      (Look.second (Look.op "::") ts || Look.second (Look.op "!") ts ||
        Look.second Look.brace ts || Look.second Look.paren ts || Look.second seesRange ts)) ||
    (Look.word "self" ts && Look.second (Look.op "::") ts) ||
    Look.op "::" ts || Look.op "<" ts || Look.anyWord ["Self", "super", "crate"] ts
  if ← sees startsPath then g.pathPattern
  else if ← sees (Look.word "_") then token
  else if ← sees (Look.word "box") then return (← token) ++ (← g.pattern)
  else if ← sees fun ts => Look.op "-" ts || Look.literal ts then
    g.rangeFrom (← literal)
  else if ← sees (Look.word "const") then
    return (← token) ++ (← groupOf .brace g.statements)
  else if ← sees fun ts => Look.anyWord ["ref", "mut", "self"] ts || Look.name ts then
    let byRef ← word? "ref"
    let mutability ← word? "mut"
    let i ← if ← sees (Look.word "self") then anyIdent else name
    let label := byRef ++ mutability ++ [.ident i]
    if ← sees (Look.op "@") then return label ++ (← op "@") ++ (← g.pattern)
    return label
  else if ← sees (Look.op "&") then
    return (← op "&") ++ (← word? "mut") ++ (← g.pattern)
  else if ← sees Look.paren then
    groupOf .parenthesis (separatedTokens List.isEmpty "," g.alternatives)
  else if ← sees Look.bracket then
    groupOf .bracket (separatedTokens List.isEmpty "," g.alternatives)
  else if ← sees fun ts => Look.op ".." ts && !Look.op "..." ts then
    g.rangeFrom []
  else expected patternChoices

end Grammar
end Boilerplate
