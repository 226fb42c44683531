/-
# Option sets as they are written

`src/decl/extract` (`FlagHost`, `HostShape`, `FlagHosts`) and `SPEC_FULL.md` §4.1.

An option set is declared by a struct whose body holds items instead of fields: the enum that lists
the cases, and items that are carried along.  A declaration that is no struct is an item like any
other.
-/

import Boilerplate.Grammar

namespace Boilerplate

/-- A struct whose body holds items. -/
structure StructWithItems where
  attributes : List Attribute
  visibility : Tokens
  name : Ident
  generics : Generics
  /-- A `where` was written, with or without conditions. -/
  hasWhere : Bool
  items : List Item
deriving Repr, Inhabited

/-- A declaration of an option set, as it is written. -/
inductive WrittenSet
  | struct (s : StructWithItems)
  | other (i : Item)
deriving Repr, Inhabited

namespace WrittenSet

open Boilerplate.Parser

/-- Whether a struct follows the attributes and the visibility. -/
def isStruct (g : Grammar) : Parser Bool := ahead do
  let _ ← g.outerAttributes
  let _ ← Grammar.visibility
  sees (Look.word "struct")

/-- A struct; one with parentheses has no body. -/
def structParser (g : Grammar) : Parser StructWithItems := do
  let attributes ← g.outerAttributes
  let visibility ← Grammar.visibility
  let _ ← word "struct"
  let label ← name
  let params ← g.generics
  let isTuple ← sees Look.paren
  if isTuple then
    let _ ← token
  let hasWhere := (← g.whereClause?).isSome
  let items ← if !isTuple && (← sees Look.brace) then
      let (items, _, _) ← enclosed .brace (whileSees (fun ts => !ts.isEmpty) g.item)
      pure items
    else
      let _ ← op ";"
      pure []
  return { attributes, visibility, name := label, generics := params, hasWhere, items }

/-- A declaration under the directive: a struct with items, or else any item. -/
def parser (g : Grammar) : Parser WrittenSet := do
  if ← isStruct g then return .struct (← structParser g) else return .other (← g.item)

/-- All declarations of a text. -/
def listOfTokens (ts : Tokens) : Except SyntaxError (List WrittenSet) :=
  Grammar.read (fun g => whileSees (fun ts => !ts.isEmpty) (parser g)) ts

end WrittenSet
end Boilerplate
