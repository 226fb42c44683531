/-
# The grammar's recursion

Types, expressions, patterns, statements and items refer to each other.  The reader of each is
written with the readers of a `Grammar` for the parts inside it, so that no definition refers to
itself; `Boilerplate.Grammar` ties the knot.
-/

import Boilerplate.Grammar.Parser
import Boilerplate.Grammar.Tree

namespace Boilerplate

/-- How tightly an operator binds, the loosest first. -/
inductive Binding
  | jump
  | assign
  | range
  | or
  | and
  | letCondition
  | compare
  | bitOr
  | bitXor
  | bitAnd
  | shift
  | sum
  | product
  | cast
deriving DecidableEq, Repr

/-- The place in the order from loose to tight. -/
def Binding.strength : Binding → Nat
  | jump => 0
  | assign => 1
  | range => 2
  | or => 3
  | and => 4
  | letCondition => 5
  | compare => 6
  | bitOr => 7
  | bitXor => 8
  | bitAnd => 9
  | shift => 10
  | sum => 11
  | product => 12
  | cast => 13

/-- Readers for the parts of a node. -/
structure Grammar where
  /-- A type, with or without further bounds behind a `+`. -/
  type : (plus : Bool) → Parser TypeExpr
  /-- A bound on a type. -/
  bound : Parser Tokens
  /-- An expression; `struct` says whether a path may be followed by fields in braces. -/
  expr : (struct : Bool) → Parser Expr
  /-- An operand with its prefix operators. -/
  operand : (struct : Bool) → Parser Expr
  /-- The value of a statement or of a `match` arm. -/
  leading : Parser Expr
  /-- The operators behind an operand that bind at least so tightly. -/
  operators : (struct : Bool) → Binding → Expr → Parser Expr
  /-- A pattern without alternatives. -/
  pattern : Parser Tokens
  /-- The content of a block. -/
  statements : Parser Tokens
  /-- A tree of imported names. -/
  imports : Parser Tokens
  item : Parser Item

namespace Grammar

/-- The readers that read nothing. -/
def exhausted : Grammar where
  type _ := Parser.expected []
  bound := Parser.expected []
  expr _ := Parser.expected []
  operand _ := Parser.expected []
  leading := Parser.expected []
  operators _ _ _ := Parser.expected []
  pattern := Parser.expected []
  statements := Parser.expected []
  imports := Parser.expected []
  item := Parser.expected []

end Grammar

/-- A grammar that reads nothing. -/
instance : Inhabited Grammar := ⟨.exhausted⟩

end Boilerplate
