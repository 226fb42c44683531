/-
# Members

`syn::TraitItem`, `syn::ImplItem`, `syn::ForeignItem` and `syn::ItemMacro`.

What stands in the braces of a trait, of an implementation and of a block of foreign items, and
macro calls in the place of items.  A member that is meaningless where it stands is kept as written.
-/

import Boilerplate.Grammar.Naming

namespace Boilerplate
namespace Grammar

open Boilerplate.Parser

variable (g : Grammar)

/-- A call of a macro in the place of an item. -/
def macroCall (attributes : Tokens) : Parser Tokens := do
  let p ← plainPath
  let bang ← op "!"
  let label ← if ← sees fun ts => Look.name ts || Look.word "try" ts then
      pure [Token.ident (← anyIdent)]
    else pure []
  if !(← sees fun ts => Look.paren ts || Look.bracket ts || Look.brace ts) then
    expected ["delimiter"]
  let braced ← sees Look.brace
  let group ← token
  let semicolon ← if braced then pure [] else op ";"
  return attributes ++ p.tokens ++ bang ++ label ++ group ++ semicolon

/-- Whether the path of a macro may start here. -/
def startsMacro (ts : Tokens) : Bool :=
  Look.name ts || Look.anyWord ["self", "super", "crate"] ts || Look.op "::" ts

/-- What complaints list where a member belongs; a macro call has nothing before it. -/
def memberChoices (words : List String) (bare : Bool) : List String :=
  words.map inBackquotes ++
    (if bare then ["identifier", inBackquotes "self", inBackquotes "super", inBackquotes "crate",
      inBackquotes "::"] else [])

/-- The word `default`, unless it is the name of a macro. -/
def seesDefault (ts : Tokens) : Bool := Look.word "default" ts && !Look.second (Look.op "!") ts

/-- A member of an implementation. -/
def implMember : Parser Tokens := do
  let start := (← get).rest
  let attributes ← g.outerTokens
  let visibility ← visibility
  let default ← if ← sees seesDefault then token else pure []
  let before := attributes ++ visibility ++ default
  let bare := visibility.isEmpty && default.isEmpty
  if ← sees seesFunction then
    let (_, head) ← g.signature
    if ← sees (Look.op ";") then
      let _ ← op ";"
      asWritten start
    else return before ++ head ++ (← g.body)
  else if ← sees (Look.word "const") then
    let (isPlain, hasValue, ts) ← g.constantRest
    if isPlain && hasValue then return before ++ ts else asWritten start
  else if ← sees (Look.word "type") then
    let keyword ← token
    let label ← name
    let params ← g.generics
    let (bounded, _) ← g.boundsAfterColon endsTypeBounds
    let value ← g.definition
    let whereClause ← g.whereClause
    let semicolon ← op ";"
    if bounded || value.isEmpty then asWritten start
    else
      return before ++ keyword ++ [.ident label] ++ params.tokens ++ value ++ whereClause ++
        semicolon
  else if bare && (← sees startsMacro) then macroCall before
  else
    let words := ["fn", "const", "type"]
    expected (memberChoices (if default.isEmpty then "default" :: words else words) bare)

/-- A member of a trait. -/
def traitMember : Parser Tokens := do
  let start := (← get).rest
  let attributes ← g.outerTokens
  let visibility ← visibility
  let default ← word? "default"
  let bare := visibility.isEmpty && default.isEmpty
  let keep := fun (ts : Tokens) => if bare then pure (attributes ++ ts) else asWritten start
  if ← sees seesFunction then
    let (_, head) ← g.signature
    if ← sees Look.brace then keep (head ++ (← g.body))
    else if ← sees (Look.op ";") then keep (head ++ (← op ";"))
    else expected ["curly braces", inBackquotes ";"]
  else if ← sees (Look.word "const") then
    let (isPlain, _, ts) ← g.constantRest
    if isPlain then keep ts else asWritten start
  else if ← sees (Look.word "type") then
    let keyword ← token
    let label ← name
    let params ← g.generics
    let (_, bounds) ← g.boundsAfterColon endsTypeBounds
    let value ← g.definition
    let whereClause ← g.whereClause
    let semicolon ← op ";"
    keep (keyword ++ [.ident label] ++ params.tokens ++ bounds ++ value ++ whereClause ++ semicolon)
  else if bare && (← sees startsMacro) then macroCall attributes
  else expected (memberChoices ["fn", "const", "type"] bare)

/-- A member of a block of foreign items. -/
def foreignMember : Parser Tokens := do
  let start := (← get).rest
  let attributes ← g.outerTokens
  let visibility ← visibility
  let before := attributes ++ visibility
  let safety : Parser Tokens := do
    if ← sees (Look.anyWord ["unsafe", "safe"]) then token else return []
  let seesStatic := fun ts => Look.word "static" ts ||
    (Look.anyWord ["unsafe", "safe"] ts && Look.second (Look.word "static") ts)
  if ← sees (seesFunctionAfter ["unsafe", "safe"]) then
    let (_, head) ← g.signatureAfter safety
    let isSafe := head.any fun
      | .ident i => i.text == "safe"
      | _ => false
    if ← sees Look.brace then
      let _ ← g.body
      asWritten start
    else
      let semicolon ← op ";"
      if isSafe then asWritten start else return before ++ head ++ semicolon
  else if ← sees seesStatic then
    let word ← safety
    let keyword ← token
    let mutability ← word? "mut"
    let label ← name
    let colon ← op ":"
    let t ← g.type true
    let value ← g.initializer
    let semicolon ← op ";"
    if !word.isEmpty || !value.isEmpty then asWritten start
    else
      return before ++ keyword ++ mutability ++ [.ident label] ++ colon ++ t.tokens ++ semicolon
  else if ← sees (Look.word "type") then
    let keyword ← token
    let label ← name
    let params ← g.generics
    let (bounded, _) ← g.boundsAfterColon endsTypeBounds
    let early ← g.whereClause?
    let value ← g.definition
    let late ← if early.isSome then pure none else g.whereClause?
    let conditions := ((early <|> late).getD [])
    let semicolon ← op ";"
    if bounded || !value.isEmpty then asWritten start
    else
      return before ++ keyword ++ [.ident label] ++ params.tokens ++ conditions ++ semicolon
  else if visibility.isEmpty && (← sees startsMacro) then macroCall attributes
  else expected (memberChoices ["fn", "static", "type"] visibility.isEmpty)

end Grammar
end Boilerplate
