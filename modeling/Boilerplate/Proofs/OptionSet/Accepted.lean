/-
# What an accepted option set is like

The cases of a declaration are judged one by one.  Each must name a constant, or else nothing at all
comes out (`exists_ofWritten_iff`).  Those that are kept have constants that are apart
(`CaseDraft.Apart`), and an option set is accepted only if each of its cases has a bit
(`Accepted`, `accepted_of_ofWritten`).
-/

import Boilerplate.OptionSet
import Boilerplate.Proofs.OptionSet.CaseName
import Mathlib.Data.List.Nodup

namespace Boilerplate

open OptionCase

namespace OptionSet
namespace CaseDraft

/-! ### One more case -/

/-- Judging a case comes to an end if its constant is an identifier. -/
theorem exists_add_iff {d : CaseDraft} {v : Variant} :
    (∃ d', d.add v = .ok d') ↔ isIdentifier (Words.upperSnake v.name.name.toList) = true := by
  rw [← exists_ofIdent_iff_isIdentifier]
  constructor
  · rintro ⟨d', hd'⟩
    obtain ⟨c, hc, -⟩ := bind_eq_ok_iff.1 hd'
    exact ⟨c, hc⟩
  · rintro ⟨c, hc⟩
    rw [add, hc]
    simp only [bind, Except.bind]
    split
    · exact ⟨_, rfl⟩
    · split <;> exact ⟨_, rfl⟩

/-- Every kept case has a constant of its own. -/
structure Apart (d : CaseDraft) : Prop where
  constants : d.constants = d.cases.map fun i => (spelled i 0).constant.text
  nodup : d.constants.Nodup
  named : ∀ i ∈ d.cases, isIdentifier (Words.upperSnake i.name.toList) = true

/-- Where no case is kept, none shares a constant. -/
theorem apart_of_diagnostics (ds : List Diagnostic) : ({ diagnostics := ds } : CaseDraft).Apart :=
  ⟨rfl, List.nodup_nil, fun _ hi => absurd hi List.not_mem_nil⟩

/-- One more case, if it is kept, has a constant of its own. -/
theorem Apart.add {d d' : CaseDraft} (h : d.Apart) {v : Variant} (hadd : d.add v = .ok d') :
    d'.Apart := by
  obtain ⟨c, hc, hrest⟩ := bind_eq_ok_iff.1 hadd
  obtain ⟨hid, rfl⟩ := ofIdent_eq_ok_iff.1 hc
  simp only at hrest
  split at hrest
  · cases hrest
    exact ⟨h.constants, h.nodup, h.named⟩
  · split at hrest
    · cases hrest
      exact ⟨h.constants, h.nodup, h.named⟩
    · rename_i hnew
      cases hrest
      refine ⟨?_, ?_, ?_⟩
      · simp only [List.map_append, List.map_cons, List.map_nil, h.constants]
        rfl
      · refine List.nodup_append.2 ⟨h.nodup, List.nodup_singleton _, ?_⟩
        intro k hk k' hk' heq
        rw [List.mem_singleton.1 hk'] at heq
        exact hnew (List.contains_iff_mem.2 (heq ▸ hk))
      · intro i hi
        rcases List.mem_append.1 hi with hi | hi
        · exact h.named i hi
        · exact List.mem_singleton.1 hi ▸ hid

/-! ### All cases -/

/-- **Judging the cases** comes to an end if each of them has a constant that is an identifier. -/
theorem exists_ofVariants_iff {vs : List Variant} :
    (∃ d, ofVariants vs = .ok d) ↔
      ∀ v ∈ vs, isIdentifier (Words.upperSnake v.name.name.toList) = true :=
  exists_foldlM_eq_ok_iff (f := CaseDraft.add) fun _ _ => exists_add_iff

/-- **The cases that are kept** have constants that are apart. -/
theorem apart_of_ofVariants {vs : List Variant} {d : CaseDraft} (h : ofVariants vs = .ok d) :
    d.Apart :=
  foldlM_invariant (f := CaseDraft.add) (fun _ _ _ hd hadd => hd.add hadd)
    (apart_of_diagnostics []) h

end CaseDraft
end OptionSet

/-! ### Declarations -/

/-- The cases that are judged: those of the enum that lists the cases. -/
def WrittenSet.judgedCases : WrittenSet → List Variant
  | .struct s =>
    let directive :=
      (Directive.ofAttribute? (s.attributes.find? OptionSet.isDirective) s.name.span).toOption
    let options := (directive.map (·.options)).getD Directive.defaultOptions
    ((s.items.findSome? (OptionSet.caseList? options)).map (·.variants)).getD []
  | .other _ => []

namespace OptionSet

/-- The cases can be judged exactly if the constants of all of them can be named. -/
theorem exists_judgeCases_iff {s : StructWithItems} {directive : Option Directive}
    {options : String} :
    (∃ d, judgeCases s directive options = .ok d) ↔
      ∀ v ∈ ((s.items.findSome? (caseList? options)).map (·.variants)).getD [],
        isIdentifier (Words.upperSnake v.name.name.toList) = true := by
  unfold judgeCases
  cases s.items.findSome? (caseList? options) with
  | none => exact iff_of_true ⟨_, rfl⟩ nofun
  | some e =>
    rw [Option.map_some, Option.getD_some, ← CaseDraft.exists_ofVariants_iff]
    simp only
    split
    · rename_i hempty
      rw [List.isEmpty_iff.1 hempty]
      exact iff_of_true ⟨_, rfl⟩ ⟨_, rfl⟩
    · exact Iff.rfl

/-- **Judging an option set** comes to an end if each of its cases has a constant. -/
theorem exists_ofWritten_iff {w : WrittenSet} :
    (∃ r, ofWritten w = .ok r) ↔
      ∀ v ∈ w.judgedCases, isIdentifier (Words.upperSnake v.name.name.toList) = true := by
  cases w with
  | other => exact iff_of_true ⟨_, rfl⟩ nofun
  | struct s =>
    simp only [ofWritten, ofStruct, bind_eq_ok_iff, WrittenSet.judgedCases]
    rw [← exists_judgeCases_iff]
    constructor
    · rintro ⟨r, d, hd, -⟩
      exact ⟨d, hd⟩
    · rintro ⟨d, hd⟩
      rw [exists_comm]
      refine ⟨d, ?_⟩
      rw [exists_and_left]
      refine ⟨hd, ?_⟩
      split <;> exact ⟨_, rfl⟩

/-- However the cases are judged, those that are kept have constants of their own. -/
theorem apart_of_judgeCases {s : StructWithItems} {directive : Option Directive} {options : String}
    {d : CaseDraft} (h : judgeCases s directive options = .ok d) : d.Apart := by
  unfold judgeCases at h
  split at h
  · cases h
    exact CaseDraft.apart_of_diagnostics _
  · split at h
    · cases h
      exact CaseDraft.apart_of_diagnostics _
    · exact CaseDraft.apart_of_ofVariants h

/-- What can be relied on in an option set that is accepted. -/
structure Accepted (m : OptionSet) : Prop where
  nodup : (m.cases.map fun i => (spelled i 0).constant.text).Nodup
  named : ∀ i ∈ m.cases, isIdentifier (Words.upperSnake i.name.toList) = true
  fits : ∀ bits, m.storage.bits? = some bits → m.cases.length ≤ bits

/-- **Accepted option sets** have named cases with constants that are apart, and a bit for each. -/
theorem accepted_of_ofWritten {w : WrittenSet} {m : OptionSet} (h : ofWritten w = .ok (.ok m)) :
    m.Accepted := by
  cases w with
  | other => cases h
  | struct s =>
    simp only [ofWritten, ofStruct, bind_eq_ok_iff] at h
    obtain ⟨draft, hdraft, h⟩ := h
    have hapart := apart_of_judgeCases hdraft
    split at h
    · rename_i directive hdirective hnone
      cases h
      refine ⟨hapart.constants ▸ hapart.nodup, hapart.named, fun bits hbits => ?_⟩
      simp only [hdirective, Option.map_some, Option.getD_some, List.append_eq_nil_iff, judgeWidth,
        hbits, ite_eq_right_iff, reduceCtorEq, imp_false] at hnone
      exact Nat.le_of_not_lt hnone.2
    · cases h

/-- The cases of an accepted option set have names. -/
theorem Accepted.ofIdents {m : OptionSet} (h : m.Accepted) :
    OptionCase.ofIdents m.cases = .ok (spelledAll m.cases) :=
  ofIdents_eq_ok_iff.2 ⟨h.named, rfl⟩

end OptionSet
end Boilerplate
