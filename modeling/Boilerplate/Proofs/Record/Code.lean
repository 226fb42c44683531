/-
# The code of a record

Beside its members a record has implementations of four traits (`mem_declarations_iff`,
`provides_declarations`), so that nothing is ever derived for it (`means_of_mem_provides`).  Where a
record has been decoded, each field is filled from the variable of its number
(`StoredField.tokens_slotInitializer`).
-/

import Boilerplate.Proofs.Code
import Boilerplate.Proofs.Declaration
import Boilerplate.Record.Code

namespace Boilerplate

/-! ### Filled fields -/

/-- The piece of a struct expression that fills stored field `i` from the variable of its number. -/
def StoredField.taken (f : StoredField TypeExpr Expr) (i : Nat) : Tokens :=
  [.ident f.name, .punct ':' .alone .none, .ident { name := "__field" ++ Nat.repr i }]

/-- The variable for the key of field `i` has its number. -/
theorem Slot.variableName_current (i : Nat) :
    ({ field := i } : Slot).variableName = "__field" ++ Nat.repr i := String.append_empty

/-- A decoder fills a stored field from the variable of its number. -/
theorem StoredField.tokens_slotInitializer (f : StoredField TypeExpr Expr) (i : Nat) :
    (RecordDeclaration.slotInitializer f i).tokens = f.taken i := by
  rw [RecordDeclaration.slotInitializer, Initializer.tokens, code_colon, RecordCode.holder,
    Slot.variableName_current]
  rfl

/-- The path of what an accepted result is wrapped in. -/
theorem RecordCode.code_ok : code ":: core :: result :: Result :: Ok" =
    RecordCode.rooted ["core", "result", "Result", "Ok"] := by
  decide +kernel

namespace RecordDeclaration

/-! ### Traits -/

variable {m : RecordDeclaration} {d : Declaration} {t : ProvidedTrait}

/-- The code that stands beside a record. -/
def implementations (m : RecordDeclaration) : List Declaration :=
  [m.encoding, m.decoding] ++ m.stringForms

/-- The traits that every record is provided with. -/
def provided : List ProvidedTrait :=
  ["Serialize", "Deserialize", "FromStr", "Display"].map (⟨·, .impl⟩)

/-- The traits of a record are all implemented, none is derived. -/
theorem exists_implementation_of_mem (hd : d ∈ m.implementations) :
    ∃ trait ts, d = .implementation trait ts := by
  simp only [implementations, stringForms, List.mem_append, List.mem_cons, List.not_mem_nil,
    or_false] at hd
  rcases hd with (rfl | rfl) | rfl | rfl <;> exact ⟨_, _, rfl⟩

/-- The code of a record is its members and its traits. -/
theorem mem_declarations_iff :
    d ∈ m.declarations ↔
      (∃ member ∈ m.members, member.declaration = d) ∨ d ∈ m.implementations := by
  rw [declarations, List.append_assoc, List.mem_append, List.mem_map, implementations]

/-- The traits that the code of a record provides. -/
theorem provides_declarations : m.declarations.flatMap (·.provides) = provided := by
  have hmembers : (m.members.map Member.declaration).flatMap (·.provides) = [] :=
    List.flatMap_eq_nil_iff.2 (List.forall_mem_map.2 fun _ _ => rfl)
  rw [declarations, List.append_assoc, List.flatMap_append, hmembers]
  rfl

/-- A record has nothing derived. -/
theorem means_of_mem_provides (ht : t ∈ m.declarations.flatMap (·.provides)) : t.means = .impl := by
  rw [provides_declarations] at ht
  obtain ⟨_, -, rfl⟩ := List.mem_map.1 ht
  rfl

/-- The code of a record asks for no derivation. -/
theorem derivesNamed_of_mem_declarations (hd : d ∈ m.declarations) : d.DerivesNamed := by
  intro t ht hderive
  rw [means_of_mem_provides (List.mem_flatMap_of_mem hd ht)] at hderive
  cases hderive

end RecordDeclaration
end Boilerplate
