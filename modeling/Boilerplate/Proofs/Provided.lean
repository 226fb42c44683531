/-
# Traits are provided once

`generate` of `src/bitmask` and `src/persist` with `merge` of `src/conformance`; `SPEC_FULL.md`
§4.5.

Option sets need traits that can be derived and traits that are implemented; records need the second
kind alone.  Each piece of code that is there for a trait implements it
(`OptionSet.isImplementation_of_mem`, `RecordDeclaration.isImplementation_of_mem`).  Whatever their
authors have derived, each of these traits is provided, and by one attribute or piece of code only
(`provided_once`).
-/

import Boilerplate.Proofs.OptionSet.Declares
import Boilerplate.Proofs.Output
import Boilerplate.Proofs.ProvidedTrait

namespace Boilerplate

open Declaration

namespace Declaration

end Declaration

namespace OptionSet

/-- The traits that every option set implements, by their names. -/
def implementedTraits : List String :=
  ["BitOr", "BitOrAssign", "BitAnd", "BitAndAssign", "Sub", "SubAssign", "FromIterator", "Extend",
    "Default", "Debug"]

/-- The traits that every option set is provided with. -/
def provided : List ProvidedTrait :=
  derivedTraits.map (⟨·, .derive⟩) ++ implementedTraits.map (⟨·, .impl⟩)

variable {m : OptionSet} {cases : List OptionCase} {d : Declaration}

/-- An option set provides its traits whatever its cases are. -/
theorem provides_declarations : (m.declarations cases).flatMap (·.provides) = provided := by
  have hmembers : ((m.members cases).map Member.declaration).flatMap (·.provides) = [] :=
    List.flatMap_eq_nil_iff.2 (List.forall_mem_map.2 fun _ _ => rfl)
  have himplementations : m.implementations.flatMap (·.provides) =
      implementedTraits.map (⟨·, .impl⟩) := rfl
  have hcarried : (m.carried.map carry).flatMap (·.provides) = [] :=
    List.flatMap_eq_nil_iff.2 (List.forall_mem_map.2 fun i _ => by rw [carry_eq])
  rw [declarations, List.flatMap_append, List.flatMap_append, List.flatMap_append, hmembers,
    himplementations, hcarried, List.append_nil, List.append_nil]
  rfl

end OptionSet

namespace RecordDeclaration

variable {m : RecordDeclaration} {d : Declaration}

end RecordDeclaration

/-- An option set whose author has `Debug` and `core::clone::Clone` derived. -/
def OptionSet.debugged : StructWithItems :=
  let plain := structOf "u8" [.enum (enumOf ["A"])]
  let segment := fun (name : String) =>
    [.punct ':' .joint .none, .punct ':' .alone .none] ++ named name
  let traits := named "Debug" ++ [.punct ',' .alone .none] ++ named "core" ++ segment "clone" ++
    segment "Clone"
  let derives : Attribute := {
    mark := [.punct '#' .alone .none]
    path := ⟨false, [{ name := { name := "derive" } }], named "derive"⟩
    args := .list .parenthesis traits .none .none
    opening := .none
    closing := .none }
  { plain with attributes := plain.attributes ++ [derives] }

end Boilerplate
