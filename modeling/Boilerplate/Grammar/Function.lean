/-
# Functions

`syn::Signature` and `syn::ItemFn`.

A function up to its body (`signature`), with the forms that its parameters take.  A function
without a body stands for nothing where an item belongs and is kept as it was written, spacing
included (`asWritten`).
-/

import Boilerplate.Grammar.Declaration

namespace Boilerplate
namespace Grammar

open Boilerplate.Parser

variable (g : Grammar)

/-- What was read since the given tokens, as it was written. -/
def asWritten (start : Tokens) : Parser Tokens := do
  return start.take (start.length - (← get).rest.length)

/-- Whether words that may stand before `fn` lead to it. -/
def seesFunctionAfter (unsafety : List String) (ts : Tokens) : Bool :=
  let drop := fun (words : List String) (ts : Tokens) =>
    if Look.anyWord words ts then Look.skip ts else ts
  let ts := drop unsafety (drop ["async"] (drop ["const"] ts))
  let ts := if Look.word "extern" ts then
      let rest := Look.skip ts
      if Look.literalOf .string rest then Look.skip rest else rest
    else ts
  Look.word "fn" ts

/-- Whether a function is next, `unsafe` or not. -/
def seesFunction : Tokens → Bool := seesFunctionAfter ["unsafe"]

/-- The parameter `self`. -/
def receiver : Parser Tokens := do
  let reference ← if ← sees (Look.op "&") then
      let mark ← op "&"
      let label ← if ← sees Look.lifetime then lifetime else pure []
      pure (mark ++ label)
    else pure []
  let mutability ← word? "mut"
  let self ← word "self"
  if reference.isEmpty && (← sees (Look.op ":")) then
    return mutability ++ self ++ (← op ":") ++ (← g.type true).tokens
  return reference ++ mutability ++ self

/-- A parameter of a function, and the place of its `self` if it is one; `...` stands for any number
of parameters. -/
def parameter : Parser (Option Span × Tokens) := do
  let attributes ← g.outerTokens
  if ← sees (Look.op "...") then return (none, attributes ++ (← op "..."))
  match ← attempt? g.receiver with
  | some r =>
    let place := r.findSome? fun
      | .ident i => if i.text == "self" then some i.span else none
      | _ => none
    return (place, attributes ++ r)
  | none =>
    let p ← g.pattern
    let colon ← op ":"
    if ← sees (Look.op "...") then return (none, attributes ++ p ++ colon ++ (← op "..."))
    return (none, attributes ++ p ++ colon ++ (← g.type true).tokens)

/-- The parameters of a function, of which only the first may be `self`. -/
def parameters : Parser Tokens := do
  if ← atEnd then return []
  let (self, first) ← g.parameter
  let comma ← if ← atEnd then pure [] else op ","
  let more ← separatedTokens List.isEmpty "," do
    match ← g.parameter with
    | (some again, _) =>
      complainAt (.other (if self.isSome then "unexpected second method receiver"
        else "unexpected method receiver")) again
    | (none, ts) => return ts
  return first ++ comma ++ more

/-- A function up to its body, behind what may stand before `fn`: its name and its tokens. -/
def signatureAfter (unsafety : Parser Tokens) : Parser (Ident × Tokens) := do
  let constness ← word? "const"
  let asyncness ← word? "async"
  let unsafety ← unsafety
  let convention ← callingConvention
  let keyword ← word "fn"
  let label ← name
  let params ← g.generics
  let arguments ← groupOf .parenthesis g.parameters
  let result ← g.returnType true
  let whereClause ← g.whereClause
  return (label, constness ++ asyncness ++ unsafety ++ convention ++ keyword ++ [.ident label] ++
    params.tokens ++ arguments ++ result ++ whereClause)

/-- A function up to its body, `unsafe` or not. -/
def signature : Parser (Ident × Tokens) := g.signatureAfter (word? "unsafe")

/-- A function behind its attributes; `start` is where these begin. -/
def function (start attributes : Tokens) : Parser Item := do
  let visibility ← visibility
  let (label, head) ← g.signature
  if ← sees (Look.op ";") then
    let _ ← op ";"
    return .other .other none (← asWritten start)
  return .other .function (some label) (attributes ++ visibility ++ head ++ (← g.body))

end Grammar
end Boilerplate
