/-
# What declarations become

`src/expand` (`expand_one`, `expand_all`, `option_sets`, `persistable`) and `SPEC_FULL.md` §4.2, §5.

Declarations are expanded one by one.  The code of those that can be expanded stands first, in their
order, and behind it the diagnostics of the others, as calls of `compile_error`.  A struct that
cannot be expanded as a record is kept without the attributes that set its fields up, so that other
code can still name it.
-/

import Boilerplate.OptionSet.Code
import Boilerplate.Record.Code

namespace Boilerplate

/-- A declaration that is to be expanded. -/
inductive Request
  | optionSet (s : WrittenSet)
  | record (args : Tokens) (item : Item)
deriving Repr, Inhabited

namespace Request

/-- The code of a declaration, or all that is wrong with it. -/
def expanded : Request → Except BadName (Except (List Diagnostic) Tokens)
  | optionSet s => do
    match ← OptionSet.ofWritten s with
    | .ok m => return .ok (← m.expanded)
    | .error ds => return .error ds
  | record args item => do
    match RecordDeclaration.ofItem args item with
    | .ok m => return .ok (← m.expanded)
    | .error ds => return .error ds

/-- What is left of a declaration that cannot be expanded. -/
def remains : Request → Tokens
  | optionSet _ => []
  | record _ (.struct s) => s.stripped.tokens
  | record _ item => item.tokens

end Request

/-- Generated code, and what is wrong with the declarations that there is none for. -/
structure Output where
  generated : Tokens := []
  report : Report := {}
deriving Repr, Inhabited

namespace Output

/-- The output with that of one more declaration. -/
def add (o : Output) (r : Request) : Except BadName Output := do
  match ← r.expanded with
  | .ok ts => return { o with generated := o.generated ++ ts }
  | .error ds => return { generated := o.generated ++ r.remains, report := o.report.extend ds }

/-- The output of declarations in their order. -/
def ofRequests (rs : List Request) : Except BadName Output := rs.foldlM add {}

/-- All code, with the diagnostics behind it. -/
def tokens (o : Output) : Tokens := o.generated ++ o.report.compileErrors

/-- Expands a text that declares option sets.  A text that cannot be read is one call of
`compile_error`. -/
def ofOptionSets (ts : Tokens) : Except BadName Tokens :=
  match WrittenSet.listOfTokens ts with
  | .ok written => do return (← ofRequests (written.map .optionSet)).tokens
  | .error e => return compileError e.message

/-- Expands an item as a record. -/
def ofRecord (args : Tokens) (item : Item) : Except BadName Tokens := do
  return (← ofRequests [.record args item]).tokens

end Output
end Boilerplate
