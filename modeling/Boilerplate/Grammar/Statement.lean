/-
# Statements

`syn::Stmt` and `syn::Block`.

The content of a block: `let` statements, items, macro calls with braces, and expressions.  An
expression needs a semicolon behind it unless it is the last one, or a block or control structure.
-/

import Boilerplate.Grammar.Item

namespace Boilerplate
namespace Grammar

open Boilerplate.Parser

variable (g : Grammar)

/-- What comes behind a path of names at the start of the tokens, if there is one. -/
def behindPath (ts : Tokens) : Tokens :=
  match plainPath { rest := ts } with
  | .ok (_, inp) => inp.rest
  | .error _ => []

/-- A macro call with braces that no field access or `?` follows. -/
def startsBracedCall (ts : Tokens) : Bool :=
  let ts := behindPath ts
  let follows := fun ts => (Look.op "." ts && !Look.op ".." ts) || Look.op "?" ts
  Look.op "!" ts && Look.second Look.brace ts && !Look.third follows ts

/-- Whether an item starts here, and no expression. -/
def startsItem (ts : Tokens) : Bool :=
  let word := fun (w : String) => Look.word w ts
  let next := fun (ws : List String) => Look.second (Look.anyWord ws) ts
  let afterNext := fun (ws : List String) => Look.third (Look.anyWord ws) ts
  let named := behindPath ts
  word "pub" || (word "crate" && !Look.second (Look.op "::") ts) || word "extern" || word "use" ||
    (word "static" && (next ["mut"] || (Look.second Look.name ts &&
      !(next ["async"] && (afterNext ["move"] || Look.third (Look.op "|") ts))))) ||
    (word "const" && !(Look.second Look.brace ts || next ["static"] ||
      (next ["async"] && !afterNext ["unsafe", "extern", "fn"]) || next ["move"] ||
      Look.second (Look.op "|") ts)) ||
    (word "unsafe" && !Look.second Look.brace ts) ||
    (word "async" && next ["unsafe", "extern", "fn"]) ||
    Look.anyWord ["fn", "mod", "type", "struct", "enum", "trait", "impl", "macro"] ts ||
    (word "union" && Look.second Look.name ts) || (word "auto" && next ["trait"]) ||
    (word "default" && next ["unsafe", "impl"]) ||
    (Look.op "!" named && (Look.second Look.name named || Look.second (Look.word "try") named))

/-- A `let` statement behind its attributes. -/
def letStatement : Parser Tokens := do
  let keyword ← word "let"
  let p ← g.pattern
  let annotation ← if ← sees (Look.op ":") then
      let colon ← op ":"
      pure (colon ++ (← g.type true).tokens)
    else pure []
  let value ← g.initializer
  let isBraced := match value.getLast? with
    | some (.group .brace ..) => true
    | _ => false
  let otherwise ← if !value.isEmpty && !isBraced && (← sees (Look.word "else")) then
      let keyword ← token
      pure (keyword ++ (← g.block))
    else pure []
  return keyword ++ p ++ annotation ++ value ++ otherwise ++ (← op ";")

/-- A statement, and whether it must be the last one. -/
def statement : Parser (Tokens × Bool) := do
  let attributes ← ahead g.outerTokens
  let behind ← ahead do
    let _ ← g.outerTokens
    return (← get).rest
  if startsBracedCall behind then
    let _ ← g.outerTokens
    let p ← plainPath
    let bang ← op "!"
    let group ← token
    return (attributes ++ p.tokens ++ bang ++ group ++ (← op? ";"), false)
  else if Look.word "let" behind then
    let _ ← g.outerTokens
    return (attributes ++ (← g.letStatement), false)
  else if startsItem behind then return ((← g.item).tokens, false)
  else
    let e ← g.leading
    let semicolon ← op? ";"
    let standsAlone := match e.shape with
      | .block | .bracedCall => true
      | _ => !semicolon.isEmpty
    return (e.tokens ++ semicolon, !standsAlone)

/-- The statements of a block. -/
def anyStatements : Parser Tokens := do
  let found ← many do
    if ← atEnd then return none
    if ← sees (Look.op ";") then return some (← op ";")
    let (ts, isLast) ← g.statement
    if isLast && !(← atEnd) then
      complain (.other ("unexpected token, expected " ++ inBackquotes ";"))
    return some ts
  return found.flatten

end Grammar
end Boilerplate
