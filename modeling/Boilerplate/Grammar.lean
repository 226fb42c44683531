/-
# The grammar

`syn` 2, as far as `src/decl` reaches it.

The readers of types, expressions, patterns, statements and items, tied together.  A reader that
reads a part of itself takes a token at least for every few steps from part to part, so that a
number of steps in proportion to the number of tokens is enough for any text (`Grammar.forTokens`).
-/

import Boilerplate.Grammar.Statement

namespace Boilerplate

mutual

/-- How many tokens a token is made of, itself included. -/
def Token.size : Token → Nat
  | .group _ body _ _ => 1 + Tokens.size body
  | _ => 1

/-- The number of tokens with those in all groups. -/
def Tokens.size : List Token → Nat
  | [] => 0
  | t :: ts => t.size + Tokens.size ts

end

namespace Grammar

open Boilerplate.Parser

/-- The readers that read their parts with the readers of `g`. -/
def step (g : Grammar) : Grammar where
  type := g.anyType g.outerTokens
  bound := g.anyBound
  expr := g.anyExpr
  operand := g.anyOperand
  leading := g.leadingExpr
  operators := g.anyOperators
  pattern := g.anyPattern
  statements := g.anyStatements
  imports := g.importTree
  item := g.anyItem

/-- The grammar for a text with these tokens. -/
def forTokens (ts : Tokens) : Grammar := Nat.repeat step (8 * (Tokens.size ts + 2)) exhausted

/-- Reads all of some tokens with a reader of the grammar. -/
def read {α : Type} (p : Grammar → Parser α) (ts : Tokens) (finish : Span := .none) :
    Except SyntaxError α :=
  Parser.all (p (forTokens ts)) ts finish

end Grammar

/-- The name that the tokens are. -/
def Ident.ofTokens : Tokens → Except SyntaxError Ident := Parser.all Parser.name

/-- The type that the tokens are; it may be a sum of bounds. -/
def TypeExpr.ofTokens : Tokens → Except SyntaxError TypeExpr := Grammar.read fun g => g.type true

/-- The expression that the tokens are; a path may have fields in braces behind it. -/
def Expr.ofTokens : Tokens → Except SyntaxError Expr := Grammar.read fun g => g.expr true

/-- The item that the tokens are. -/
def Item.ofTokens : Tokens → Except SyntaxError Item := Grammar.read (·.item)

/-- A struct with its attributes. -/
def StructItem.ofTokens : Tokens → Except SyntaxError StructItem :=
  Grammar.read fun g => do g.struct (← g.outerAttributes)

/-- The visibility of a declaration, which may be empty. -/
def visibilityOfTokens : Tokens → Except SyntaxError Tokens :=
  Parser.all Grammar.visibility

/-- Outer attributes. -/
def attributesOfTokens : Tokens → Except SyntaxError (List Attribute) :=
  Grammar.read (·.outerAttributes)

end Boilerplate
