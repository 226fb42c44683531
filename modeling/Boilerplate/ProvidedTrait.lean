/-
# Traits that a type is provided with

`src/conformance` (`Capability`, `declared_capabilities`, `merge`) and `SPEC_FULL.md` §4.5.

Generated code relies on traits of the type that it is generated for.  The type gets each of them by
a `derive` attribute or by an implementation; what its author derives already is not provided again.
-/

import Boilerplate.Grammar

namespace Boilerplate

/-- How a trait is provided. -/
inductive Means
  | derive
  | impl
deriving DecidableEq, Repr, Inhabited

/-- A trait and how it is provided. -/
structure ProvidedTrait where
  name : String
  means : Means
deriving DecidableEq, Repr, Inhabited

namespace ProvidedTrait

open Boilerplate.Parser

/-- The traits that a `derive` attribute lists, by the last names of their paths; none if the list
is malformed. -/
def derived (a : Attribute) : List String :=
  match a.args with
  | .list _ ts _ _ =>
    let paths := Grammar.read (fun g => separated List.isEmpty "," (g.path false)) ts
    match paths with
    | .ok ps => ps.filterMap fun (p, _) => p.segments.getLast?.map (·.name.text)
    | .error _ => []
  | _ => []

/-- The traits that the `derive` attributes among these list. -/
def declared (as : List Attribute) : List String :=
  (as.filter (·.path.isIdent "derive")).flatMap derived

/-- Those of the required traits that are not declared. -/
def missing (declared : List String) (required : List ProvidedTrait) : List ProvidedTrait :=
  required.filter fun t => !declared.contains t.name

end ProvidedTrait
end Boilerplate
