/-
# Attributes and visibilities

`syn::Attribute` and `syn::Visibility`.

An attribute is `#[ … ]` with a path of names and, behind it, unparsed arguments in brackets, a
value after `=`, or nothing.
-/

import Boilerplate.Grammar.Path

namespace Boilerplate
namespace Grammar

open Boilerplate.Parser

variable (g : Grammar)

/-- The path of an attribute, which may be the word `unsafe` before arguments. -/
def attributePath : Parser Path := do
  if ← sees (Look.word "unsafe") then
    let i ← anyIdent
    return ⟨false, [{ name := i }], [.ident i]⟩
  plainPath

/-- A value that is one literal up to the end, or else any expression. -/
def attributeValue : Parser Expr := do
  let alone := fun ts => match ts with
    | [.punct '-' _ _, .literal l] => l.kind = .number
    | [_] => Look.literal ts
    | _ => false
  if ← sees alone then
    let ts ← literal
    match ts with
    | [.literal l] => return ⟨.literal l, ts⟩
    | _ => return ⟨.other, ts⟩
  else if ← sees fun ts => Look.op "#" ts && Look.second Look.bracket ts then
    complain (.other "unexpected attribute inside of attribute")
  else g.expr true

/-- What stands in the square brackets of an attribute. -/
def attributeContent : Parser (Path × AttributeArgs) := do
  let p ← attributePath
  if ← sees fun ts => Look.paren ts || Look.bracket ts || Look.brace ts then
    match ← token with
    | [.group d args o c] => return (p, .list d args o c)
    | _ => return (p, .none)
  if ← sees (Look.op "=") then
    let equals ← op "="
    return (p, .value equals (← g.attributeValue))
  return (p, .none)

/-- One attribute with the given mark before its brackets. -/
def oneAttribute (mark : Parser Tokens) : Parser Attribute := do
  let m ← mark
  let ((p, args), o, c) ← enclosed .bracket g.attributeContent
  return ⟨m, p, args, o, c⟩

/-- The attributes before what they belong to. -/
def outerAttributes : Parser (List Attribute) := whileSees (Look.op "#") (g.oneAttribute (op "#"))

/-- The attributes inside of what they belong to. -/
def innerAttributes : Parser Tokens := do
  let marked := fun ts => Look.op "#" ts && Look.second (Look.op "!") ts &&
    !Look.second (Look.op "!=") ts
  return attributeTokens (← whileSees marked (g.oneAttribute do return (← op "#") ++ (← op "!")))

/-- The attributes in front of something, as they print. -/
def outerTokens : Parser Tokens := do return attributeTokens (← g.outerAttributes)

/-- `pub`, with or without a place in parentheses, or nothing.  Parentheses that hold anything else
are not part of it. -/
def visibility : Parser Tokens := do
  if !(← sees (Look.word "pub")) then return []
  let keyword ← token
  let isPlace : Tokens → Bool
    | .group .parenthesis [.ident i] _ _ :: _ =>
      !i.raw && ["crate", "self", "super"].contains i.name
    | _ => false
  let isPath : Tokens → Bool
    | .group .parenthesis body _ _ :: _ => Look.word "in" body
    | _ => false
  if ← sees isPlace then return keyword ++ (← token)
  if ← sees isPath then
    return keyword ++ (← groupOf .parenthesis do
      return (← token) ++ (← plainPath).tokens)
  return keyword

end Grammar
end Boilerplate
