/-
# Looking options up by name

`naming` of `src/bitmask`; `SPEC_FULL.md` §4.3 (`from_name`).

The lookup by name goes through the cases in their order and tries the names of each, one text if
the shown and the stored name are the same and two otherwise (`OptionCase.patterns`).  So it finds
an option exactly for the names of the cases, and of several cases with one name it finds the first
(`Bits.fromName_eq_some_iff`).  The code has an arm with these texts for each case
(`OptionSet.nameArm_eq`).  What is found has the name by which it was looked up
(`OptionSet.lookup_of_ofWritten`), because the constants of the cases are apart.
-/

import Boilerplate.OptionSet.Code
import Boilerplate.Proofs.OptionSet.Names

namespace Boilerplate

/-- The texts that are tried for a case. -/
def OptionCase.patterns (c : OptionCase) : List String :=
  if c.display == c.wire then [c.display] else [c.display, c.wire]

/-- The patterns of a case are its two names. -/
theorem OptionCase.mem_patterns {c : OptionCase} {s : String} :
    s ∈ c.patterns ↔ s = c.display ∨ s = c.wire := by
  unfold patterns
  split
  · rename_i heq
    rw [List.mem_singleton, ← eq_of_beq heq, or_self]
  · rw [List.mem_cons, List.mem_singleton]

/-- A case is tried by its patterns in the generated code. -/
theorem OptionSet.nameArm_eq (c : OptionCase) :
    nameArm c = (code "|").intercalate (c.patterns.map quoted) ++ code "=>" ++
      optionSome (constant c) ++ code "," := by
  unfold nameArm OptionCase.patterns
  split <;> simp [List.intercalate]

namespace Bits

variable {w : Nat} {cases : List OptionCase} {s : String}

/-- **The first case whose patterns have the text** is found. -/
theorem fromName_eq : fromName w cases s =
    (cases.find? fun c => decide (s ∈ c.patterns)).map (constant w) := by
  simp only [fromName, OptionCase.mem_patterns, Bool.decide_or, beq_eq_decide]

/-- **A name gives the first case that has it**, and a text that no case has for a name gives
nothing. -/
theorem fromName_eq_some_iff {f : BitVec w} :
    fromName w cases s = some f ↔ ∃ before c behind, cases = before ++ c :: behind ∧
      (s = c.display ∨ s = c.wire) ∧ (∀ b ∈ before, s ≠ b.display ∧ s ≠ b.wire) ∧
      f = constant w c := by
  rw [fromName_eq, Option.map_eq_some_iff]
  simp only [List.find?_eq_some_iff_append, decide_eq_true_iff, Bool.not_eq_true',
    decide_eq_false_iff_not, OptionCase.mem_patterns, not_or]
  constructor
  · rintro ⟨c, ⟨hc, before, behind, hcases, hbefore⟩, rfl⟩
    exact ⟨before, c, behind, hcases, hc, hbefore, rfl⟩
  · rintro ⟨before, c, behind, hcases, hc, hbefore, rfl⟩
    exact ⟨c, ⟨hc, before, behind, hcases, hbefore⟩, rfl⟩

/-- **The names of the cases** are what something is found by. -/
theorem isSome_fromName_iff :
    (fromName w cases s).isSome = true ↔ ∃ c ∈ cases, s = c.display ∨ s = c.wire := by
  rw [fromName_eq, Option.isSome_map, List.find?_isSome]
  simp only [decide_eq_true_iff, OptionCase.mem_patterns]

/-- **What is found by a name has it**, shown or stored. -/
theorem InOrder.name_of_fromName (h : InOrder w cases) {f : BitVec w}
    (hf : fromName w cases s = some f) :
    name cases f true = some s ∨ name cases f false = some s := by
  obtain ⟨before, c, behind, rfl, hs, -, rfl⟩ := fromName_eq_some_iff.1 hf
  have hname := h.name_constant (c := c) (by simp)
  rcases hs with rfl | rfl
  · left
    exact hname true
  · right
    exact hname false

end Bits

namespace OptionSet

variable {m : OptionSet}

/-- **Options are looked up by the names of their cases.**  In an accepted option set of fixed width
something is found by a text exactly if it is the shown or the stored name of a case.  What is found
is the constant of the first case in the order of the declaration that has the name, even if others
have it, too; and it has the name itself. -/
theorem lookup_of_ofWritten {written : WrittenSet} {bits : Nat}
    (accepted : ofWritten written = .ok (.ok m)) (fixed : m.storage.bits? = some bits) :
    ∃ cases, OptionCase.ofIdents m.cases = .ok cases ∧ ∀ s,
      ((Bits.fromName bits cases s).isSome = true ↔ ∃ c ∈ cases, s = c.display ∨ s = c.wire) ∧
      (∀ f, Bits.fromName bits cases s = some f ↔ ∃ before c behind,
        cases = before ++ c :: behind ∧ (s = c.display ∨ s = c.wire) ∧
        (∀ b ∈ before, s ≠ b.display ∧ s ≠ b.wire) ∧ f = Bits.constant bits c) ∧
      ∀ f, Bits.fromName bits cases s = some f →
        Bits.name cases f true = some s ∨ Bits.name cases f false = some s := by
  have h := accepted_of_ofWritten accepted
  refine ⟨_, h.ofIdents, fun s => ⟨Bits.isSome_fromName_iff, fun f => Bits.fromName_eq_some_iff,
    fun f hf => ?_⟩⟩
  exact (h.inOrder fixed).name_of_fromName hf

/-- By the name that the cases of `alike` share the first of them is found, and by a constant
nothing. -/
theorem lookup_of_alike : ∃ m cases, ofWritten alike = .ok (.ok m) ∧
    OptionCase.ofIdents m.cases = .ok cases ∧ Bits.fromName 8 cases "AB" = some 1#8 ∧
    (Bits.name cases 1#8 true = some "AB" ∨ Bits.name cases 1#8 false = some "AB") ∧
    Bits.fromName 8 cases "A_B" = none := by
  obtain ⟨m, accepted, fixed, hm⟩ : ∃ m, ofWritten alike = .ok (.ok m) ∧
      m.storage.bits? = some 8 ∧ m.cases = [{ name := "aB" }, { name := "AB" }] :=
    ⟨_, rfl, rfl, rfl⟩
  obtain ⟨cases, hnamed, hlookup⟩ := lookup_of_ofWritten accepted fixed
  have hcases : cases = [OptionCase.spelled { name := "aB" } 0,
      OptionCase.spelled { name := "AB" } 1] := by
    rw [(OptionCase.ofIdents_eq_ok_iff.1 hnamed).2, hm]
    rfl
  obtain ⟨-, hfirst, hname⟩ := hlookup "AB"
  obtain ⟨hsome, -, -⟩ := hlookup "A_B"
  have hfound : Bits.fromName 8 cases "AB" = some 1#8 :=
    (hfirst 1#8).2 ⟨[], _, _, hcases, Or.inl (by decide +kernel), nofun, by decide +kernel⟩
  refine ⟨m, cases, accepted, hnamed, hfound, hname _ hfound, ?_⟩
  rw [← Option.not_isSome_iff_eq_none, hsome, hcases]
  decide +kernel

end OptionSet
end Boilerplate
