/-
# Constants, type names and imports

`syn::ItemConst`, `syn::ItemStatic`, `syn::ItemType`, `syn::ItemUse` and `syn::ItemExternCrate`.

Items that give a name to a value, a type or a name from elsewhere.  A form that stands for nothing
where an item belongs, such as a constant without a value, is kept as it was written.
-/

import Boilerplate.Grammar.Function

namespace Boilerplate
namespace Grammar

open Boilerplate.Parser

variable (g : Grammar)

/-- The name of a constant. -/
def constantName : Parser Ident := do
  if ← sees fun ts => Look.name ts || Look.word "_" ts then anyIdent
  else expected ["identifier", inBackquotes "_"]

/-- `=` and an expression, which may be missing. -/
def initializer : Parser Tokens := do
  if ← sees (Look.op "=") then return (← op "=") ++ (← g.exprTokens) else return []

/-- `=` and a type, which may be missing. -/
def definition : Parser Tokens := do
  if ← sees (Look.op "=") then return (← op "=") ++ (← g.type true).tokens else return []

/-- A constant behind the words before `const`.  The result tells whether it has no more than a
name, a type and perhaps a value. -/
def constantRest : Parser (Bool × Bool × Tokens) := do
  let keyword ← word "const"
  let label ← constantName
  let angled ← sees (Look.op "<")
  let _ ← g.generics
  let colon ← op ":"
  let t ← g.type true
  let value ← g.initializer
  let conditions ← g.whereClause?
  let semicolon ← op ";"
  return (!angled && conditions.isNone, !value.isEmpty,
    keyword ++ [.ident label] ++ colon ++ t.tokens ++ value ++ semicolon)

/-- A constant behind its attributes. -/
def constant (start attributes : Tokens) : Parser Item := do
  let visibility ← visibility
  let (isPlain, hasValue, ts) ← g.constantRest
  if isPlain && hasValue then
    return .other .constant none (attributes ++ visibility ++ ts)
  return .other .other none (← asWritten start)

/-- A static variable; one without a type or without a value is kept as it was written. -/
def static (start attributes : Tokens) : Parser Item := do
  let visibility ← visibility
  let keyword ← word "static"
  let mutability ← word? "mut"
  let label ← name
  if ← sees (Look.op "=") then
    let _ ← g.initializer
    let _ ← op ";"
    return .other .other none (← asWritten start)
  let colon ← op ":"
  let t ← g.type true
  if ← sees (Look.op ";") then
    let _ ← op ";"
    return .other .other none (← asWritten start)
  let equals ← op "="
  let value ← g.exprTokens
  return .other .other none
    (attributes ++ visibility ++ keyword ++ mutability ++ [.ident label] ++ colon ++ t.tokens ++
      equals ++ value ++ (← op ";"))

/-- A colon and bounds, which may be missing, and whether there is a colon. -/
def boundsAfterColon (stop : Tokens → Bool) : Parser (Bool × Tokens) := do
  if !(← sees (Look.op ":")) then return (false, [])
  let colon ← op ":"
  let bounds ← separatedTokens stop "+" g.anyBound
  return (true, if bounds.isEmpty then [] else colon ++ bounds)

/-- Whether a type's bounds have ended. -/
def endsTypeBounds (ts : Tokens) : Bool :=
  Look.word "where" ts || Look.op "=" ts || Look.op ";" ts

/-- A name for a type. -/
def typeAlias (start attributes : Tokens) : Parser Item := do
  let visibility ← visibility
  let keyword ← word "type"
  let label ← name
  let params ← g.generics
  let (bounded, _) ← g.boundsAfterColon endsTypeBounds
  let whereClause ← g.whereClause
  let value ← g.definition
  let semicolon ← op ";"
  if bounded || value.isEmpty then return .other .other none (← asWritten start)
  return .other .other (some label)
    (attributes ++ visibility ++ keyword ++ [.ident label] ++ params.tokens ++ whereClause ++
      value ++ semicolon)

/-- A tree of imported names. -/
def importTree : Parser Tokens := do
  let startsName := fun ts =>
    Look.name ts || Look.anyWord ["self", "super", "crate", "try"] ts
  if ← sees startsName then
    let i ← anyIdent
    if ← sees (Look.op "::") then return [.ident i] ++ (← op "::") ++ (← g.imports)
    if ← sees (Look.word "as") then
      let keyword ← token
      if ← sees fun ts => Look.name ts || Look.word "_" ts then
        return [.ident i] ++ keyword ++ [.ident (← anyIdent)]
      else expected ["identifier or underscore"]
    return [.ident i]
  else if ← sees (Look.op "*") then op "*"
  else if ← sees Look.brace then
    groupOf .brace <| separatedTokens List.isEmpty "," do return (← op? "::") ++ (← g.imports)
  else
    expected ["identifier", inBackquotes "self", inBackquotes "super", inBackquotes "crate",
      inBackquotes "try", inBackquotes "*", "curly braces"]

/-- A `use` item with its tree of names. -/
def importItem (attributes : Tokens) : Parser Item := do
  let visibility ← visibility
  let keyword ← word "use"
  let root ← op? "::"
  let tree ← g.imports
  return .other .other none
    (attributes ++ visibility ++ keyword ++ root ++ tree ++ (← op ";"))

/-- An `extern crate` item, which may give the crate another name. -/
def externCrate (attributes : Tokens) : Parser Item := do
  let visibility ← visibility
  let keyword ← word "extern"
  let crate ← word "crate"
  let label ← if ← sees (Look.word "self") then anyIdent else name
  let rename ← if ← sees (Look.word "as") then
      let keyword ← token
      let i ← if ← sees (Look.word "_") then anyIdent else name
      pure (keyword ++ [.ident i])
    else pure []
  return .other .other none
    (attributes ++ visibility ++ keyword ++ crate ++ [.ident label] ++ rename ++ (← op ";"))

end Grammar
end Boilerplate
