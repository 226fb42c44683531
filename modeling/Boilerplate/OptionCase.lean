/-
# The cases of an option set

`src/bitmask` (`FlagCase::new`, `cases`) and `SPEC_FULL.md` §4.3, items 1, 3 and 4.

A case is written as an identifier and goes by three names: its constant (`NEXT_DAY`), the name that
is shown (`NextDay`) and the name that is stored (`next_day`).  The shown name is the identifier
with its first letter in upper case; the two others are its words, joined by `_`.
-/

import Boilerplate.Naming
import Boilerplate.Words

namespace Boilerplate

/-- A case of an option set, with its names and its bit. -/
structure OptionCase where
  constant : Ident
  /-- The bit that the case owns. -/
  position : Nat
  display : String
  wire : String
deriving DecidableEq, Repr, Inhabited

namespace OptionCase

/-- The text with its first character in upper case. -/
def capitalized : List Char → List Char
  | [] => []
  | c :: cs => Unicode.upper c ++ cs

/-- The case that is written as the identifier; without `r#`, which names do not keep. -/
def ofIdent (i : Ident) (position : Nat) : Except BadName OptionCase := do
  let spelled := i.name.toList
  let constant ← Ident.ofString (String.ofList (Words.upperSnake spelled)) i.span
  return { constant, position, display := String.ofList (capitalized spelled),
           wire := String.ofList (Words.snake spelled) }

/-- The cases that are written as the identifiers, in their order. -/
def ofIdents (is : List Ident) : Except BadName (List OptionCase) :=
  is.zipIdx.mapM fun (i, position) => ofIdent i position

/-- The names that are shown, in the order of the cases. -/
def optionNames (cases : List OptionCase) : List String := cases.map (·.display)

end OptionCase
end Boilerplate
