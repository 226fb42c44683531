/-
# Items

`syn::Item`.

What may stand at the top of a text: functions, constants, imports, type declarations, modules,
implementations, traits, and macro definitions and calls.  Every item begins with attributes; most
may have a visibility, which is looked through to tell which item it is.
-/

import Boilerplate.Grammar.Member

namespace Boilerplate
namespace Grammar

open Boilerplate.Parser

variable (g : Grammar)

/-- Members up to the end of the tokens, behind attributes of what they belong to. -/
def members (p : Parser Tokens) : Parser Tokens := do
  let attributes ← g.innerAttributes
  return attributes ++ (← whileSees (fun ts => !ts.isEmpty) p).flatten

/-- A module, with its items or in a file of its own. -/
def module (attributes : Tokens) : Parser Item := do
  let visibility ← visibility
  let unsafety ← word? "unsafe"
  let keyword ← word "mod"
  let label ← if ← sees (Look.word "try") then anyIdent else name
  let content ←
    if ← sees (Look.op ";") then op ";"
    else if ← sees Look.brace then groupOf .brace (g.members do return (← g.item).tokens)
    else expected [inBackquotes ";", "curly braces"]
  return .other .other (some label)
    (attributes ++ visibility ++ unsafety ++ keyword ++ [.ident label] ++ content)

/-- A block of foreign items, which has no visibility. -/
def foreignBlock (attributes : Tokens) : Parser Item := do
  let unsafety ← word? "unsafe"
  if !(← sees (Look.word "extern")) then expected [inBackquotes "extern"]
  let convention ← callingConvention
  let content ← groupOf .brace (g.members g.foreignMember)
  return .other .other none (attributes ++ unsafety ++ convention ++ content)

/-- Whether `<` starts parameters, and no type that an associated type is taken from. -/
def startsGenerics (ts : Tokens) : Bool :=
  Look.op "<" ts &&
    (Look.second (Look.op ">") ts || Look.second (Look.op "#") ts ||
      Look.second (Look.word "const") ts ||
      ((Look.second Look.lifetime ts || Look.second Look.name ts) &&
        ((Look.third (Look.op ":") ts && !Look.third (Look.op "::") ts) ||
          Look.third (Look.op ",") ts || Look.third (Look.op ">") ts ||
          Look.third (Look.op "=") ts)))

/-- An implementation of a trait or of functions of a type. -/
def implementation (start attributes : Tokens) : Parser Item := do
  let visibility ← visibility
  let default ← word? "default"
  let unsafety ← word? "unsafe"
  let keyword ← word "impl"
  let params ← if ← sees startsGenerics then g.generics else pure {}
  let isConst := fun ts => Look.word "const" ts ||
    (Look.op "?" ts && Look.second (Look.word "const") ts)
  let constness ← if ← sees isConst then
      let mark ← op? "?"
      pure (mark ++ (← token))
    else pure []
  let negative ← if ← sees fun ts => Look.op "!" ts && !Look.second Look.brace ts then op "!"
    else pure []
  let first ← g.type true
  let isTrait := match first.shape with
    | .path _ => true
    | _ => false
  let forType ← if ← sees (Look.word "for") then
      let keyword ← token
      pure (some (keyword ++ (← g.type true).tokens))
    else pure none
  let conditions ← g.whereClause
  let content ← groupOf .brace (g.members g.implMember)
  if !visibility.isEmpty || !constness.isEmpty || (forType.isSome && !isTrait) then
    return .other .other none (← asWritten start)
  return .other .other none
    (attributes ++ default ++ unsafety ++ keyword ++ params.tokens ++ negative ++ first.tokens ++
      forType.getD [] ++ conditions ++ content)

/-- A trait, or another name for traits. -/
def trait (attributes : Tokens) : Parser Item := do
  let visibility ← visibility
  let unsafety ← word? "unsafe"
  let auto ← word? "auto"
  let keyword ← word "trait"
  let label ← name
  let params ← g.generics
  let head := attributes ++ visibility ++ unsafety ++ auto ++ keyword ++ [.ident label] ++
    params.tokens
  let isAlias ← sees (Look.op "=")
  let mayBeAlias := unsafety.isEmpty && auto.isEmpty
  if mayBeAlias && isAlias then
    let equals ← op "="
    let bounds ← separatedTokens (fun ts => Look.word "where" ts || Look.op ";" ts) "+" g.anyBound
    let conditions ← g.whereClause
    return .other .other none (head ++ equals ++ bounds ++ conditions ++ (← op ";"))
  let goesOn := fun ts => Look.brace ts || Look.op ":" ts || Look.word "where" ts
  if mayBeAlias && !(← sees goesOn) then
    expected ["curly braces", inBackquotes ":", inBackquotes "where", inBackquotes "="]
  let (_, bounds) ← g.boundsAfterColon fun ts => Look.word "where" ts || Look.brace ts
  let conditions ← g.whereClause
  let content ← groupOf .brace (g.members g.traitMember)
  return .other .other (some label) (head ++ bounds ++ conditions ++ content)

/-- A union of fields in braces. -/
def union (attributes : Tokens) : Parser Item := do
  let visibility ← visibility
  let keyword ← word "union"
  let label ← name
  let params ← g.generics
  let conditions ← g.whereClause
  let fields ← g.namedFields
  return .other .other (some label)
    (attributes ++ visibility ++ keyword ++ [.ident label] ++ params.tokens ++ conditions ++
      fields.tokens)

/-- A macro definition by name, which is kept as it was written. -/
def macroDefinition (start : Tokens) : Parser Item := do
  let _ ← visibility
  let _ ← word "macro"
  let _ ← name
  let hasParameters ← sees Look.paren
  if hasParameters then
    let _ ← token
  if ← sees Look.brace then
    let _ ← token
    return .other .other none (← asWritten start)
  expected (if hasParameters then ["curly braces"] else ["parentheses", "curly braces"])

/-- What complaints list where an item belongs; a macro call has no visibility. -/
def itemChoices (visible : Bool) : List String :=
  memberChoices ["fn", "extern", "use", "static", "const", "unsafe", "mod", "type", "struct",
    "enum", "union", "trait", "auto", "impl", "default", "macro"] (!visible)

/-- Complains about what follows the visibility and perhaps some words. -/
def complainBehind (words : Nat) (choices : List String) : Parser Item := do
  let _ ← visibility
  modify fun inp => { inp with rest := inp.rest.drop words }
  expected choices

/-- An item. -/
def anyItem : Parser Item := do
  let start := (← get).rest
  let attributes ← g.outerAttributes
  let before := attributeTokens attributes
  let ahead ← ahead do
    let _ ← visibility
    return (← get).rest
  let visible ← sees (Look.word "pub")
  let behind := Look.skip ahead
  let isTrait := fun ts =>
    Look.word "trait" ts || (Look.word "auto" ts && Look.second (Look.word "trait") ts)
  if seesFunction ahead then g.function start before
  else if Look.word "extern" ahead then
    if Look.word "crate" behind then externCrate before
    else if Look.brace behind then g.foreignBlock before
    else if Look.literalOf .string behind then
      if Look.second Look.brace behind then g.foreignBlock before
      else complainBehind 2 ["curly braces"]
    else complainBehind 1 [inBackquotes "crate", "curly braces", "string literal"]
  else if Look.word "use" ahead then g.importItem before
  else if Look.word "static" ahead then g.static start before
  else if Look.word "const" ahead then g.constant start before
  else if Look.word "unsafe" ahead then
    if isTrait behind then g.trait before
    else if Look.word "impl" behind then g.implementation start before
    else if Look.word "extern" behind then g.foreignBlock before
    else if Look.word "mod" behind then g.module before
    else complainBehind 1 (["trait", "auto", "impl", "extern", "mod"].map inBackquotes)
  else if Look.word "mod" ahead then g.module before
  else if Look.word "type" ahead then g.typeAlias start before
  else if Look.word "struct" ahead then return .struct (← g.struct attributes)
  else if Look.word "enum" ahead then return .enum (← g.enum attributes)
  else if Look.word "union" ahead && Look.name behind then g.union before
  else if isTrait ahead then g.trait before
  else if Look.word "impl" ahead || seesDefault ahead then g.implementation start before
  else if Look.word "macro" ahead then macroDefinition start
  else if !visible && startsMacro ahead then return .other .other none (← macroCall before)
  else complainBehind 0 (itemChoices visible)

end Grammar
end Boilerplate
