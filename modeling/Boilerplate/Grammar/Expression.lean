/-
# Expressions

`syn::Expr`.

An expression is an operand with prefix operators and trailers (calls, fields, indices, `?`),
followed by operators that bind at least as tightly as the context asks.  Where a brace would start
the body of a control structure, a path is not followed by fields in braces.
-/

import Boilerplate.Grammar.Pattern
import Boilerplate.Grammar.Type

namespace Boilerplate
namespace Grammar

open Boilerplate.Parser

variable (g : Grammar)

/-- A plain expression. -/
def exprTokens : Parser Tokens := do return (← g.expr true).tokens

/-- Expressions with commas, up to the end of the tokens. -/
def exprList : Parser Tokens := separatedTokens List.isEmpty "," g.exprTokens

/-- Statements in braces. -/
def block : Parser Tokens := groupOf .brace g.statements

/-- Statements in braces, behind attributes of what the block belongs to. -/
def body : Parser Tokens := groupOf .brace do return (← g.innerAttributes) ++ (← g.statements)

/-! ### Operators -/

/-- The operators between two operands.  Longer ones stand before their beginnings. -/
def binaryOperators : List (String × Binding) :=
  [("+=", .assign), ("-=", .assign), ("*=", .assign), ("/=", .assign), ("%=", .assign),
   ("^=", .assign), ("&=", .assign), ("|=", .assign), ("<<=", .assign), (">>=", .assign),
   ("&&", .and), ("||", .or), ("<<", .shift), (">>", .shift), ("==", .compare), ("<=", .compare),
   ("!=", .compare), (">=", .compare), ("+", .sum), ("-", .sum), ("*", .product), ("/", .product),
   ("%", .product), ("^", .bitXor), ("&", .bitAnd), ("|", .bitOr), ("<", .compare),
   (">", .compare)]

/-- The operator between two operands that the tokens start with. -/
def binaryOperator? (ts : Tokens) : Option (String × Binding) :=
  binaryOperators.find? fun o => Look.op o.1 ts

/-- Whether `=` is next, and not the arrow of a `match` arm. -/
def seesAssignment (ts : Tokens) : Bool := Look.op "=" ts && !Look.op "=>" ts

/-- How tightly the operator at the start of the tokens binds. -/
def nextBinding (ts : Tokens) : Binding :=
  match binaryOperator? ts with
  | some (_, b) => b
  | none =>
    if seesAssignment ts then .assign
    else if Look.op ".." ts then .range
    else if Look.word "as" ts then .cast
    else .jump

/-- The right operand of an operator with all that binds more tightly; an assignment also takes
another assignment. -/
def rightOperand (struct : Bool) (b : Binding) : Parser Expr := fun inp => do
  let (first, inp) ← g.operand struct inp
  go (inp.rest.length + 1) first inp
where
  go : Nat → Expr → Parser Expr
    | 0, e => pure e
    | n + 1, e => fun inp => do
      let next := nextBinding inp.rest
      if b.strength < next.strength || (next = b && b = .assign) then
        let (e', inp') ← g.operators struct next e inp
        if inp'.rest.length < inp.rest.length then go n e' inp' else .ok (e', inp')
      else .ok (e, inp)

/-- Whether a range has no end, seen from what follows its dots. -/
def endsRange (struct : Bool) (ts : Tokens) : Bool :=
  ts.isEmpty || ["," , ";", "?", "=>", "=", "+", "/", "%", "^", ">", "<=", "!=", "-=", "*=", "&=",
    "|=", "<<="].any (Look.op · ts) || (Look.op "." ts && !Look.op ".." ts) ||
    (!struct && Look.brace ts) || Look.word "as" ts

/-- The dots of a range and its end. -/
def rangeEnd (struct : Bool) : Parser Tokens := do
  if ← sees (Look.op "..=") then
    return (← op "..=") ++ (← g.rightOperand struct .range).tokens
  if ← sees (Look.op "...") then
    expected [inBackquotes "..", inBackquotes "..="]
  let dots ← op ".."
  if ← sees (endsRange struct) then return dots
  return dots ++ (← g.rightOperand struct .range).tokens

/-- What may not follow a cast to a type. -/
def castTrailer? (ts : Tokens) : Option String :=
  if Look.op "." ts && !Look.op ".." ts then
    if Look.second (Look.word "await") ts then some (inBackquotes ".await")
    else if Look.second Look.name ts &&
        (Look.third Look.paren ts || Look.third (Look.op "::") ts) then some "a method call"
    else some "a field access"
  else if Look.op "?" ts then some (inBackquotes "?")
  else if Look.bracket ts then some "indexing"
  else if Look.paren ts then some "a function call"
  else none

/-- The operators behind an operand that bind at least as tightly as `base`. -/
def anyOperators (struct : Bool) (base : Binding) (left : Expr) : Parser Expr := fun inp => do
  let goOn (e : Expr) : Parser Expr := g.operators struct base e
  let isRange := match left.shape with
    | .range => true
    | _ => false
  if isRange then return (left, inp)
  match binaryOperator? inp.rest with
  | some (o, b) =>
    if b.strength < base.strength then return (left, inp)
    let chained := match left.shape with
      | .comparison => b == Binding.compare
      | _ => false
    if chained then complain (.other "comparison operators cannot be chained") inp
    else (do
      let sign ← op o
      let right ← g.rightOperand struct b
      goOn ⟨if b = Binding.compare then .comparison else .other,
        left.tokens ++ sign ++ right.tokens⟩ : Parser Expr) inp
  | none => (do
    if base.strength ≤ Binding.assign.strength && (← sees seesAssignment) then
      let sign ← op "="
      let right ← g.rightOperand struct .assign
      goOn ⟨.other, left.tokens ++ sign ++ right.tokens⟩
    else if base.strength ≤ Binding.range.strength && (← sees (Look.op "..")) then
      goOn ⟨.range, left.tokens ++ (← g.rangeEnd struct)⟩
    else if ← sees (Look.word "as") then
      let keyword ← token
      let t ← g.type false
      match castTrailer? (← get).rest with
      | some what => complain (.other ("casts cannot be followed by " ++ what))
      | none => goOn ⟨.other, left.tokens ++ keyword ++ t.tokens⟩
    else return left : Parser Expr) inp

/-! ### Operands -/

/-- Whether an expression may start here. -/
def startsExpr (ts : Tokens) : Bool :=
  let without := fun (o : String) (longer : List String) =>
    Look.op o ts && !longer.any (Look.op · ts)
  Look.anyIdent ts || Look.paren ts || Look.bracket ts || Look.brace ts || Look.literal ts ||
    without "!" ["!="] || without "-" ["-=", "->"] || without "*" ["*="] || without "|" ["|="] ||
    without "&" ["&="] || Look.op ".." ts || without "<" ["<=", "<<="] || Look.op "::" ts ||
    Look.lifetime ts || Look.op "#" ts

/-- The value behind `return`, `break` or `yield`, if there is one. -/
def optionalValue (struct : Bool) : Parser Tokens := do
  if ← sees fun ts => startsExpr ts && (struct || !Look.brace ts) then
    return (← g.expr struct).tokens
  return []

/-- A field of a struct expression: a name or an index, with a value or, for a name, without. -/
def fieldValue : Parser Tokens := do
  let attributes ← g.outerTokens
  if ← sees (Look.literalOf .number) then
    return attributes ++ (← token) ++ (← op ":") ++ (← g.exprTokens)
  let label ← if ← sees Look.name then nameTokens else expected ["identifier or integer"]
  if ← sees (Look.op ":") then return attributes ++ label ++ (← op ":") ++ (← g.exprTokens)
  return attributes ++ label

/-- The fields of a struct expression, and what the others come from. -/
def structFields : Parser Tokens := do
  let atBase := fun ts => List.isEmpty ts || Look.op ".." ts
  let fields ← many do
    if ← sees atBase then return none
    let field ← g.fieldValue
    if ← atEnd then return some field
    return some (field ++ (← op ","))
  if ← atEnd then return fields.flatten
  let dots ← op ".."
  if ← atEnd then return fields.flatten ++ dots
  return fields.flatten ++ dots ++ (← g.exprTokens)

/-- A path, a macro call, or a struct expression. -/
def pathOperand (struct : Bool) : Parser Expr := do
  let (qualified, p) ← g.qualifiedPath true
  if !qualified && p.isPlain && (← sees fun ts => Look.op "!" ts && !Look.op "!=" ts) then
    let bang ← op "!"
    if !(← sees fun ts => Look.paren ts || Look.bracket ts || Look.brace ts) then
      expected ["delimiter"]
    let shape := if ← sees Look.brace then .bracedCall else .other
    return ⟨shape, p.tokens ++ bang ++ (← token)⟩
  if struct && (← sees Look.brace) then
    return ⟨.other, p.tokens ++ (← groupOf .brace g.structFields)⟩
  return ⟨.other, p.tokens⟩

/-- A parameter of a closure. -/
def closureParameter : Parser Tokens := do
  let attributes ← g.outerTokens
  let p ← g.pattern
  if ← sees (Look.op ":") then
    return attributes ++ p ++ (← op ":") ++ (← g.type true).tokens
  return attributes ++ p

/-- A closure, with the words that may stand before its parameters. -/
def closure (struct : Bool) : Parser Expr := do
  let lifetimes ← boundLifetimes
  let constness ← word? "const"
  let staticness ← word? "static"
  let asyncness ← word? "async"
  let capture ← word? "move"
  let left ← op "|"
  let params ← separatedTokens (Look.op "|") "," g.closureParameter
  let right ← op "|"
  let before := lifetimes ++ constness ++ staticness ++ asyncness ++ capture ++ left ++ params ++
    right
  if ← sees (Look.op "->") then
    let result ← g.returnType true
    return ⟨.other, before ++ result ++ (← g.block)⟩
  return ⟨.other, before ++ (← g.expr struct).tokens⟩

/-- Conditions with their blocks, and perhaps a last block. -/
def conditional : Parser Tokens := do
  let clause : Parser Tokens := do
    let keyword ← word "if"
    let condition ← g.expr false
    return keyword ++ condition.tokens ++ (← g.block)
  let first ← clause
  let more ← whileSees (fun ts => Look.word "else" ts && Look.second (Look.word "if") ts) do
    return (← word "else") ++ (← clause)
  if ← sees (Look.word "else") then
    let keyword ← token
    if ← sees Look.brace then return first ++ more.flatten ++ keyword ++ (← g.block)
    else expected [inBackquotes "if", "curly braces"]
  return first ++ more.flatten

/-- An arm of a `match`.  A comma ends it unless its value is a block or it is the last. -/
def arm : Parser Tokens := do
  let attributes ← g.outerTokens
  let p ← g.alternatives
  let guard ← if ← sees (Look.word "if") then
      let keyword ← token
      pure (keyword ++ (← g.exprTokens))
    else pure []
  let arrow ← op "=>"
  let v ← g.leading
  let before := attributes ++ p ++ guard ++ arrow ++ v.tokens
  let isBlock := match v.shape with
    | .block => true
    | _ => false
  if isBlock || (← atEnd) then return before ++ (← op? ",") else return before ++ (← op ",")

/-- Loops without their label. -/
def loopOperand : Parser Tokens := do
  if ← sees (Look.word "while") then
    let keyword ← token
    return keyword ++ (← g.expr false).tokens ++ (← g.body)
  else if ← sees (Look.word "for") then
    let keyword ← token
    let p ← g.alternatives
    let between ← word "in"
    return keyword ++ p ++ between ++ (← g.expr false).tokens ++ (← g.body)
  else return (← word "loop") ++ (← g.body)

/-- A loop or block behind a label. -/
def labelled : Parser Tokens := do
  let label ← lifetime
  let colon ← op ":"
  if ← sees (Look.anyWord ["while", "for", "loop"]) then
    return label ++ colon ++ (← g.loopOperand)
  else if ← sees Look.brace then return label ++ colon ++ (← g.body)
  else expected ["loop or block expression"]

/-- What separates a closure, which may have words before its bars, from other expressions. -/
def startsClosure (ts : Tokens) : Bool :=
  Look.op "|" ts || Look.word "move" ts ||
    (Look.word "for" ts && Look.second (Look.op "<") ts &&
      (Look.third Look.lifetime ts || Look.third (Look.op ">") ts)) ||
    (Look.anyWord ["const", "static"] ts && !Look.second Look.brace ts) ||
    (Look.word "async" ts && (Look.second (Look.op "|") ts || Look.second (Look.word "move") ts))

/-- A control structure or block, which ends a statement without a semicolon. -/
def startsBlock (ts : Tokens) : Bool :=
  Look.anyWord ["if", "while", "for", "loop", "match"] ts || Look.brace ts ||
    (Look.anyWord ["try", "unsafe", "const"] ts && Look.second Look.brace ts) ||
    Look.lifetime ts

/-- A control structure or block. -/
def blockOperand : Parser Expr := do
  let tokens ←
    if ← sees (Look.word "if") then g.conditional
    else if ← sees (Look.anyWord ["while", "for", "loop"]) then g.loopOperand
    else if ← sees (Look.word "match") then
      let keyword ← token
      let scrutinee ← g.expr false
      let arms ← groupOf .brace do
        let attributes ← g.innerAttributes
        let arms ← whileSees (fun ts => !ts.isEmpty) (g.arm)
        return attributes ++ arms.flatten
      pure (keyword ++ scrutinee.tokens ++ arms)
    else if ← sees (Look.anyWord ["try", "unsafe", "const"]) then
      let keyword ← token
      pure (keyword ++ (← g.body))
    else if ← sees Look.lifetime then g.labelled
    else g.body
  return ⟨.block, tokens⟩

/-- A tuple or an expression in parentheses. -/
def parenthesizedOperand : Parser Tokens :=
  groupOf .parenthesis do
    if ← atEnd then return []
    let first ← g.exprTokens
    if ← atEnd then return first
    let comma ← op ","
    return first ++ comma ++ (← g.exprList)

/-- A list of elements, or one element and how often it stands. -/
def arrayOperand : Parser Tokens :=
  groupOf .bracket do
    if ← atEnd then return []
    let first ← g.exprTokens
    if ← atEnd then return first
    if ← sees (Look.op ",") then
      let comma ← op ","
      return first ++ comma ++ (← g.exprList)
    if ← sees (Look.op ";") then return first ++ (← op ";") ++ (← g.exprTokens)
    expected ["`,` or `;`"]

/-- An operand without trailers. -/
def atom (struct : Bool) : Parser Expr := do
  let startsAsync := fun ts => Look.word "async" ts &&
    (Look.second Look.brace ts || (Look.second (Look.word "move") ts && Look.third Look.brace ts))
  let startsPath := fun ts => Look.name ts || Look.op "::" ts || Look.op "<" ts ||
    Look.anyWord placeWords ts ||
    (Look.word "try" ts && (Look.second (Look.op "!") ts || Look.second (Look.op "::") ts))
  if ← sees Look.literal then
    let ts ← literal
    match ts with
    | [.literal l] => return ⟨.literal l, ts⟩
    | _ => return ⟨.other, ts⟩
  else if ← sees startsAsync then
    let keyword ← token
    let capture ← word? "move"
    return ⟨.other, keyword ++ capture ++ (← g.block)⟩
  else if ← sees startsClosure then g.closure struct
  else if ← sees startsPath then g.pathOperand struct
  else if ← sees Look.paren then return ⟨.other, ← g.parenthesizedOperand⟩
  else if ← sees (Look.word "break") then
    let keyword ← token
    let label ← if ← sees Look.lifetime then lifetime else pure []
    return ⟨.other, keyword ++ label ++ (← g.optionalValue struct)⟩
  else if ← sees (Look.word "continue") then
    let keyword ← token
    let label ← if ← sees Look.lifetime then lifetime else pure []
    return ⟨.other, keyword ++ label⟩
  else if ← sees (Look.anyWord ["return", "yield"]) then
    let keyword ← token
    return ⟨.other, keyword ++ (← g.optionalValue struct)⟩
  else if ← sees (Look.word "become") then
    let keyword ← token
    return ⟨.other, keyword ++ (← g.exprTokens)⟩
  else if ← sees Look.bracket then return ⟨.other, ← g.arrayOperand⟩
  else if ← sees (Look.word "let") then
    let keyword ← token
    let p ← g.alternatives
    let equals ← op "="
    let first ← g.operand struct
    let scrutinee ← g.operators struct .compare first
    return ⟨.other, keyword ++ p ++ equals ++ scrutinee.tokens⟩
  else if ← sees startsBlock then g.blockOperand
  else if ← sees (Look.op "..") then return ⟨.range, ← g.rangeEnd struct⟩
  else if ← sees (Look.word "_") then return ⟨.other, ← token⟩
  else expected ["an expression"]

/-- The parts of an index into nested tuples, which reads as a number with a fraction. -/
def indexParts (l : Literal) : Tokens :=
  let parts := l.text.splitOn "."
  let numbers := parts.filter (· != "")
  let dot := Token.punct '.' .alone l.span
  let tokens := numbers.map fun n => [Token.literal { l with text := n }]
  [dot].intercalate tokens ++ (if parts.getLast? == some "" then [dot] else [])

/-- A field, a method call or `.await`. -/
def member : Parser Tokens := do
  let dot ← op "."
  let isFloat : Tokens → Bool
    | .literal l :: _ => l.kind = .number && l.text.contains '.'
    | _ => false
  let before ← if ← sees isFloat then
      match ← token with
      | [.literal l] => pure (dot ++ indexParts l)
      | ts => pure (dot ++ ts)
    else pure dot
  let complete := match before.getLast? with
    | some (.literal _) => true
    | _ => false
  if complete then return before
  if ← sees (Look.word "await") then return before ++ (← token)
  if ← sees (Look.literalOf .number) then return before ++ (← token)
  let label ← if ← sees Look.name then nameTokens else expected ["identifier or integer"]
  let generics ← if ← sees (Look.op "::") then
      let colons ← op "::"
      pure (colons ++ (← g.angled))
    else pure []
  if !generics.isEmpty || (← sees Look.paren) then
    return before ++ label ++ generics ++ (← groupOf .parenthesis g.exprList)
  return before ++ label

/-- The trailers behind an operand. -/
def trailers (e : Expr) : Parser Expr := do
  let isRange := match e.shape with
    | .range => true
    | _ => false
  let found ← many do
    if ← sees Look.paren then return some (← groupOf .parenthesis g.exprList)
    else if ← sees fun ts => !isRange && Look.op "." ts && !Look.op ".." ts then
      return some (← g.member)
    else if ← sees Look.bracket then return some (← groupOf .bracket g.exprTokens)
    else if ← sees fun ts => !isRange && Look.op "?" ts then return some (← op "?")
    else return none
  if found.isEmpty then return e else return ⟨.other, e.tokens ++ found.flatten⟩

/-- The value of a statement or of a `match` arm.  A block at its start is all of it, unless a field
access or a `?` follows. -/
def leadingExpr : Parser Expr := do
  let attributes ← g.outerTokens
  let startsLoopOverTypes := fun ts => Look.word "for" ts && startsClosure ts
  if ← sees fun ts => startsBlock ts && !startsLoopOverTypes ts then
    let e ← g.blockOperand
    let goesOn := fun ts => (Look.op "." ts && !Look.op ".." ts) || Look.op "?" ts
    if ← sees goesOn then
      let e ← g.trailers e
      g.operators true .jump ⟨e.shape, attributes ++ e.tokens⟩
    else return ⟨e.shape, attributes ++ e.tokens⟩
  else
    let e ← g.operand true
    g.operators true .jump ⟨e.shape, attributes ++ e.tokens⟩

/-- An operand with its prefix operators. -/
def anyOperand (struct : Bool) : Parser Expr := do
  let attributes ← g.outerTokens
  if ← sees (Look.op "&") then
    let mark ← op "&"
    let isRaw := fun ts => Look.word "raw" ts && Look.second (Look.anyWord ["mut", "const"]) ts
    let modifier ← if ← sees isRaw then
        let raw ← token
        pure (raw ++ (← token))
      else word? "mut"
    return ⟨.other, attributes ++ mark ++ modifier ++ (← g.operand struct).tokens⟩
  else if ← sees fun ts => Look.op "*" ts || Look.op "!" ts || Look.op "-" ts then
    let sign ← if ← sees (Look.op "*") then op "*"
      else if ← sees (Look.op "!") then op "!"
      else op "-"
    return ⟨.other, attributes ++ sign ++ (← g.operand struct).tokens⟩
  else
    let e ← g.trailers (← g.atom struct)
    return ⟨e.shape, attributes ++ e.tokens⟩

/-- An expression. -/
def anyExpr (struct : Bool) : Parser Expr := do
  g.operators struct .jump (← g.operand struct)

end Grammar
end Boilerplate
