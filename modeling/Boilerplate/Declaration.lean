/-
# Generated declarations

`src/assemble` (`GeneratedDeclaration`, `assemble`) and `SPEC_FULL.md` §4.6.

Generated code stands around the struct that it was generated for: members in one `impl` block of
the type, all else beside it.  What provides a trait beside the type is left out if the struct
derives that already; the traits to derive are added to the struct as one more attribute.
-/

import Boilerplate.Code
import Boilerplate.Naming
import Boilerplate.ProvidedTrait

namespace Boilerplate

/-- Where generated code goes. -/
inductive Placement
  | member
  | beside
deriving DecidableEq, Repr, Inhabited

/-- A piece of generated code and the traits that it provides. -/
structure Declaration where
  placement : Placement
  provides : List ProvidedTrait := []
  tokens : Tokens := []
deriving Repr, Inhabited

namespace Declaration

/-- An implementation of a trait. -/
def implementation (trait : String) (tokens : Tokens) : Declaration :=
  { placement := .beside, provides := [⟨trait, .impl⟩], tokens }

/-- A trait that is to be derived. -/
def derivation (trait : String) : Declaration :=
  { placement := .beside, provides := [⟨trait, .derive⟩] }

/-- Code that stands beside the type whatever that derives. -/
def always (tokens : Tokens) : Declaration := { placement := .beside, tokens }

/-- Whether the code is part of the result when these traits are missing. -/
def isWanted (missing : List ProvidedTrait) (d : Declaration) : Bool :=
  d.provides.isEmpty || d.provides.any fun t => t.means == .impl && missing.contains t

/-- An attribute that derives the traits. -/
def deriveAttribute (traits : List Ident) : Attribute where
  mark := [.punct '#' .alone .none]
  path := ⟨false, [{ name := { name := "derive" } }], named "derive"⟩
  args := .list .parenthesis (commaSeparated (traits.map fun i => [.ident i])) .none .none
  opening := .none
  closing := .none

/-- The attributes that give a struct the missing traits that can be derived. -/
def derivingAttributes (missing : List ProvidedTrait) : Except BadName (List Attribute) := do
  let traits ← (missing.filter (·.means == .derive)).mapM fun t => Ident.ofString t.name
  return if traits.isEmpty then [] else [deriveAttribute traits]

/-- The `impl` block with the members, if there are any. -/
def memberBlock (name : Ident) (ds : List Declaration) : Tokens :=
  let members := ds.filter (·.placement == .member)
  if members.isEmpty then []
  else code "impl" ++ [.ident name] ++ braces (members.flatMap (·.tokens))

end Declaration

/-- The struct with generated code around it. -/
def StructItem.withDeclarations (s : StructItem) (ds : List Declaration) :
    Except BadName Tokens := do
  let declared := ProvidedTrait.declared s.attributes
  let missing := ProvidedTrait.missing declared (ds.flatMap (·.provides))
  let more ← Declaration.derivingAttributes missing
  let others := (ds.filter (·.placement == .beside)).filter (·.isWanted missing)
  return { s with attributes := s.attributes ++ more }.tokens ++
    Declaration.memberBlock s.name ds ++ others.flatMap (·.tokens)

/-- A named member of a generated `impl` block. -/
structure Member where
  name : String
  tokens : Tokens
deriving Repr, Inhabited

/-- The member with documentation before it. -/
def Member.documented (lines : List String) (m : Member) : Member :=
  { m with tokens := lines.flatMap docLine ++ m.tokens }

/-- The member as a piece of generated code; it provides no trait. -/
def Member.declaration (m : Member) : Declaration := { placement := .member, tokens := m.tokens }

end Boilerplate
