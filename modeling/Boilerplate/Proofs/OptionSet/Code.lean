/-
# The code of an option set

The code of an accepted option set comes to an end (`Accepted.exists_expanded`).  What the option
set carries stands in it once, among the members or beside the type, and all other code is the same
whatever is carried (`Accepted.exists_expanded_carrying`).
-/

import Boilerplate.OptionSet.Code
import Boilerplate.Proofs.Declaration
import Boilerplate.Proofs.OptionSet.Accepted

namespace Boilerplate

open OptionCase

namespace OptionSet

/-- Each of the implementations is one of a trait. -/
theorem exists_implementation_of_mem {m : OptionSet} {d : Declaration}
    (hd : d ∈ m.implementations) : ∃ trait ts, d = .implementation trait ts := by
  simp only [implementations, operator, gathering, defaultAndDebug, implement, List.mem_append,
    List.mem_cons, List.not_mem_nil, or_false] at hd
  rcases hd with (((((rfl | rfl) | rfl | rfl) | rfl | rfl) | rfl | rfl) | rfl | rfl) <;>
    exact ⟨_, _, rfl⟩

/-- The code of an option set wants fixed traits derived. -/
theorem derivesNamed_of_mem_declarations {m : OptionSet} {cases : List OptionCase}
    {d : Declaration} (hd : d ∈ m.declarations cases) : d.DerivesNamed := by
  simp only [declarations, List.mem_append, List.mem_map] at hd
  rcases hd with ((⟨trait, htrait, rfl⟩ | ⟨member, -, rfl⟩) | hd) | ⟨item, -, rfl⟩
  · have hplain : ∀ trait ∈ derivedTraits, isPlainName trait.toList = true := by decide
    exact Declaration.derivesNamed_derivation
      (isIdentifier_of_isPlainName (hplain trait htrait))
  · exact Declaration.derivesNamed_of_provides_nil rfl
  · obtain ⟨trait, ts, rfl⟩ := exists_implementation_of_mem hd
    exact Declaration.derivesNamed_implementation trait ts
  · refine Declaration.derivesNamed_of_provides_nil ?_
    unfold carry
    split <;> rfl

/-- An accepted option set is expanded. -/
theorem Accepted.exists_expanded {m : OptionSet} (h : m.Accepted) : ∃ ts, m.expanded = .ok ts := by
  obtain ⟨ts, hts⟩ := exists_withDeclarations (s := m.rawStruct)
    fun _ hd => derivesNamed_of_mem_declarations hd
  exact ⟨ts, bind_eq_ok_iff.2 ⟨_, h.ofIdents, hts⟩⟩

end OptionSet

/-! ### Carried items -/

/-- Where an item goes that a type carries: functions and constants become members. -/
def Item.placement : Item → Placement
  | .other .function _ _ | .other .constant _ _ => .member
  | _ => .beside

/-- The code of the items that go to the same place, in their order. -/
def Item.codeAt (place : Placement) (items : List Item) : Tokens :=
  (items.filter (·.placement == place)).flatMap (·.tokens)

namespace OptionSet

/-- A carried item is placed by its kind and kept as it is. -/
theorem carry_eq (i : Item) : carry i = { placement := i.placement, tokens := i.tokens } := by
  cases i with
  | struct s => rfl
  | enum e => rfl
  | other kind name ts => cases kind <;> rfl

/-- The code at a place, of carried items. -/
theorem codeAt_map_carry (place : Placement) (items : List Item) :
    Declaration.codeAt place (items.map carry) = Item.codeAt place items := by
  rw [Declaration.codeAt, Item.codeAt, List.filter_map, List.flatMap_map]
  simp only [carry_eq, Function.comp_def]

variable {m : OptionSet}

/-- The code that every option set with these cases has. -/
def ownDeclarations (m : OptionSet) (cases : List OptionCase) : List Declaration :=
  derivedTraits.map .derivation ++ (m.members cases).map Member.declaration ++ m.implementations

/-- **What is carried stands in the code once:** functions and constants as the last members, all
else at the end, both in their order.  The rest of the code is the same whatever is carried. -/
theorem Accepted.exists_expanded_carrying (h : m.Accepted) : ∃ host members beside, ∀ items,
    { m with carried := items }.expanded = .ok (host ++
      (code "impl" ++ [.ident m.typeName] ++ braces (members ++ Item.codeAt .member items)) ++
      (beside ++ Item.codeAt .beside items)) := by
  have hnamed : ∀ d ∈ m.ownDeclarations (spelledAll m.cases), d.DerivesNamed :=
    fun d hd => derivesNamed_of_mem_declarations (List.mem_append_left (m.carried.map carry) hd)
  have hmember : ∃ d ∈ m.ownDeclarations (spelledAll m.cases), d.placement = .member := by
    refine ⟨(m.nameList (spelledAll m.cases)).declaration, ?_, rfl⟩
    simp [ownDeclarations, members]
  obtain ⟨ts, hts⟩ := exists_withDeclarations (s := m.rawStruct) hnamed
  obtain ⟨host, members, beside, hmore⟩ := withDeclarations_append hmember hts
  refine ⟨host, members, beside, fun items => bind_eq_ok_iff.2 ⟨_, h.ofIdents, ?_⟩⟩
  have hprovides : ∀ d ∈ items.map carry, d.provides = [] :=
    List.forall_mem_map.2 fun i _ => by rw [carry_eq]
  rw [← codeAt_map_carry, ← codeAt_map_carry]
  exact hmore (items.map carry) hprovides

end OptionSet
end Boilerplate
