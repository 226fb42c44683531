/-
# Structs and enums

`syn::Generics`, `syn::WhereClause`, `syn::Field` and `syn::Variant`.

Parameters in angle brackets, conditions on them, and the fields and variants of type declarations.
Empty angle brackets and a `where` without conditions are read and do not print; neither does the
visibility that a variant may be written with.
-/

import Boilerplate.Grammar.Expression

namespace Boilerplate
namespace Grammar

open Boilerplate.Parser

variable (g : Grammar)

/-- A lifetime, a type or a constant between the angle brackets of a declaration. -/
def genericParameter : Parser (Bool × Tokens) := do
  let attributes ← g.outerTokens
  let endsBounds := fun ts => Look.op "," ts || Look.op ">" ts || Look.op "=" ts
  if ← sees Look.lifetime then
    let label ← lifetime
    if ← sees (Look.op ":") then
      let colon ← op ":"
      let bounds ← chained (fun ts => Look.op "," ts || Look.op ">" ts) "+" lifetime
      return (true, attributes ++ label ++ (if bounds.isEmpty then [] else colon ++ bounds))
    return (true, attributes ++ label)
  else if ← sees fun ts => Look.name ts || Look.word "_" ts then
    let label ← anyIdent
    let bounds ← if ← sees (Look.op ":") then
        let colon ← op ":"
        let bounds ← chained endsBounds "+" g.anyBound
        pure (if bounds.isEmpty then [] else colon ++ bounds)
      else pure []
    let default ← if ← sees (Look.op "=") then
        let equals ← op "="
        pure (equals ++ (← g.type true).tokens)
      else pure []
    return (false, attributes ++ [.ident label] ++ bounds ++ default)
  else if ← sees (Look.word "const") then
    let keyword ← token
    let label ← name
    let colon ← op ":"
    let t ← g.type true
    let default ← if ← sees (Look.op "=") then
        let equals ← op "="
        pure (equals ++ (← g.constArgument))
      else pure []
    return (false, attributes ++ keyword ++ [.ident label] ++ colon ++ t.tokens ++ default)
  else expected ["lifetime", "identifier", inBackquotes "const"]

/-- The parameters of a declaration in angle brackets, or none. -/
def generics : Parser Generics := do
  if !(← sees (Look.op "<")) then return {}
  let left ← op "<"
  let params ← separated (Look.op ">") "," g.genericParameter
  let right ← op ">"
  if params.isEmpty then return {}
  return ⟨false,
    left ++ AngleEntry.arrange (params.map fun ((l, ts), s) => ⟨l, ts, s⟩) ++ right⟩

/-- Whether the conditions of a `where` end here. -/
def endsConditions (ts : Tokens) : Bool :=
  ts.isEmpty || Look.brace ts || Look.op "," ts || Look.op ";" ts ||
    (Look.op ":" ts && !Look.op "::" ts) || Look.op "=" ts

/-- A condition on a lifetime or a type. -/
def condition : Parser Tokens := do
  if ← sees fun ts => Look.lifetime ts && Look.second (Look.op ":") ts then
    return (← lifetime) ++ (← op ":") ++ (← chained endsConditions "+" lifetime)
  let lifetimes ← boundLifetimes
  let t ← g.type true
  return lifetimes ++ t.tokens ++ (← op ":") ++ (← chained endsConditions "+" g.anyBound)

/-- The `where` behind a declaration, if there is one. -/
def whereClause? : Parser (Option Tokens) := do
  if !(← sees (Look.word "where")) then return none
  let keyword ← token
  let conditions ← chained endsConditions "," g.condition
  return some (if conditions.isEmpty then [] else keyword ++ conditions)

/-- The conditions behind `where`, or nothing. -/
def whereClause : Parser Tokens := do return (← g.whereClause?).getD []

/-- A field with a name. -/
def namedField : Parser Field := do
  let attributes ← g.outerAttributes
  let visibility ← visibility
  let label ← if ← sees (Look.word "_") then anyIdent else name
  let colon ← op ":"
  return { attributes, visibility, name := some label, colon, type := ← g.type true,
           separator := [] }

/-- A field of a tuple. -/
def tupleField : Parser Field := do
  let attributes ← g.outerAttributes
  let visibility ← visibility
  return { attributes, visibility, name := none, colon := [], type := ← g.type true,
           separator := [] }

/-- Fields with commas between them, each with the comma behind it. -/
def fieldList (p : Parser Field) : Parser (List Field) := do
  return (← separated List.isEmpty "," p).map fun (f, s) => { f with separator := s }

/-- Fields in braces. -/
def namedFields : Parser Fields := do
  let (fields, o, c) ← enclosed .brace (fieldList g.namedField)
  return .named fields o c

/-- Fields in parentheses, which have no names. -/
def tupleFields : Parser Fields := do
  let (fields, o, c) ← enclosed .parenthesis (fieldList g.tupleField)
  return .tuple fields o c

/-- A struct behind its attributes. -/
def struct (attributes : List Attribute) : Parser StructItem := do
  let visibility ← visibility
  let keyword ← word "struct"
  let label ← name
  let params ← g.generics
  let item := fun (whereClause : Tokens) (fields : Fields) (semicolon : Tokens) =>
    ({ attributes, visibility, keyword, name := label, generics := params, whereClause, fields,
       semicolon } : StructItem)
  let conditions? ← g.whereClause?
  let conditions := conditions?.getD []
  if conditions?.isNone && (← sees Look.paren) then
    let fields ← g.tupleFields
    let later? ← g.whereClause?
    if ← sees (Look.op ";") then return item (later?.getD []) fields (← op ";")
    else if later?.isSome then expected [inBackquotes ";"]
    else expected [inBackquotes "where", inBackquotes ";"]
  else if ← sees Look.brace then return item conditions (← g.namedFields) []
  else if ← sees (Look.op ";") then return item conditions .unit (← op ";")
  else if conditions?.isSome then expected ["curly braces", inBackquotes ";"]
  else expected [inBackquotes "where", "parentheses", "curly braces", inBackquotes ";"]

/-- A case of an enum. -/
def variant : Parser Variant := do
  let attributes ← g.outerAttributes
  let _ ← visibility
  let label ← name
  let fields ←
    if ← sees Look.brace then g.namedFields
    else if ← sees Look.paren then g.tupleFields
    else pure Fields.unit
  let discriminant ← if ← sees (Look.op "=") then
      let equals ← op "="
      pure (some (equals, ← g.expr true))
    else pure none
  return { attributes, name := label, fields, discriminant, separator := [] }

/-- An enum behind its attributes. -/
def enum (attributes : List Attribute) : Parser EnumItem := do
  let visibility ← visibility
  let keyword ← word "enum"
  let label ← name
  let params ← g.generics
  let whereClause ← g.whereClause
  let (variants, opening, closing) ← enclosed .brace (separated List.isEmpty "," g.variant)
  return { attributes, visibility, keyword, name := label, generics := params, whereClause,
           variants := variants.map fun (v, s) => { v with separator := s }, opening, closing }

end Grammar
end Boilerplate
