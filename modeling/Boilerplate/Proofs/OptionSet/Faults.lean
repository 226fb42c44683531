/-
# What is wrong with cases

`extract_flag_list` of `src/decl/extract`; `SPEC_FULL.md` §4.1.

Cases are judged one behind the other, and a draft remembers the constants that have been met.  What
is told of them can be said without that.  A case can be wrong in four ways (`CaseFault`), each of
which is a matter of the case and of the cases before it; what is told is all that holds, case by
case (`CaseDraft.allFindings_eq`).  A case needs a bit of the storage if its constant is not
reserved and no case before has it, so as many bits are needed as there are such constants
(`CaseDraft.length_kept`).

Nothing else that is told of a struct is about its cases (`OptionSet.faults_of_caseList`).
-/

import Boilerplate.Proofs.OptionSet.Configured
import Mathlib.Data.Finset.Card

namespace Boilerplate

/-- The ways in which a case can be wrong, in the order in which they are told. -/
inductive CaseFault
  | data
  | value
  | reserved
  | taken
deriving DecidableEq, Repr

namespace CaseFault

/-- All faults, in the order in which they are told of one case. -/
def all : List CaseFault := [data, value, reserved, taken]

/-- Whether a case behind others is wrong in this way.  A constant is taken even if the case that
has it is wrong in itself. -/
def Holds (before : List Variant) (v : Variant) : CaseFault → Prop
  | data => v.fields.isUnit = false
  | value => v.discriminant.isSome = true
  | reserved => v.constant = OptionSet.reservedConstant
  | taken => v.constant ≠ OptionSet.reservedConstant ∧ ∃ w ∈ before, w.constant = v.constant

/-- Whether a case has a fault is a matter of looking at it and at those before it. -/
instance (before : List Variant) (v : Variant) : DecidablePred (Holds before v)
  | data => inferInstanceAs (Decidable (_ = _))
  | value => inferInstanceAs (Decidable (_ = _))
  | reserved => inferInstanceAs (Decidable (_ = _))
  | taken => inferInstanceAs (Decidable (_ ∧ _))

/-- What is told of a case that is wrong in this way, and where. -/
def diagnostic (v : Variant) : CaseFault → Diagnostic
  | data => ⟨.optionCaseHasData v.name.text, v.fields.span⟩
  | value => ⟨.optionCaseHasDiscriminant v.name.text,
      (v.discriminant.map (·.2.tokens.span)).getD v.name.span⟩
  | reserved => ⟨.reservedOptionName v.name.text, v.name.span⟩
  | taken => ⟨.duplicateOption v.name.text, v.name.span⟩

/-- All that is told of a case behind others. -/
def told (before : List Variant) (v : Variant) : List Diagnostic :=
  (all.filter fun f => Holds before v f).map (diagnostic v)

end CaseFault

/-- Whether the problem is one of the cases: of their list, of one of them, or of their number. -/
def Problem.isOfCases : Problem → Bool
  | .requiresOptionsEnum _ | .emptyOptions _ | .optionCaseHasData _ | .optionCaseHasDiscriminant _
  | .reservedOptionName _ | .duplicateOption _ | .tooManyOptions .. => true
  | _ => false

namespace OptionSet
namespace CaseDraft

variable {before vs : List Variant} {v : Variant} {k : String}

/-! ### What is told of cases -/

/-- What is told of a case is the faults that it has. -/
theorem findings_eq_told : findings before v = CaseFault.told before v := by
  have hshape : shape v =
      ([CaseFault.data, .value].filter fun f => f.Holds before v).map (·.diagnostic v) := by
    simp only [shape, List.filter_cons, List.filter_nil, CaseFault.Holds]
    by_cases hunit : v.fields.isUnit = true <;>
      rcases Option.eq_none_or_eq_some v.discriminant with hvalue | ⟨value, hvalue⟩ <;>
      simp [CaseFault.diagnostic, hunit, hvalue]
  have hconstant : (if v.constant = reservedConstant then
        [(⟨.reservedOptionName v.name.text, v.name.span⟩ : Diagnostic)]
      else if v.constant ∈ before.map Variant.constant then
        [⟨.duplicateOption v.name.text, v.name.span⟩]
      else []) =
      ([CaseFault.reserved, .taken].filter fun f => f.Holds before v).map (·.diagnostic v) := by
    simp only [List.filter_cons, List.filter_nil, CaseFault.Holds, List.mem_map, ne_eq]
    by_cases hreserved : v.constant = reservedConstant
    · simp [hreserved, CaseFault.diagnostic]
    · by_cases htaken : ∃ w ∈ before, w.constant = v.constant <;>
        simp [hreserved, htaken, CaseFault.diagnostic]
  rw [findings, hshape, hconstant, ← List.map_append, ← List.filter_append]
  rfl

/-- **What is told of cases** is told of each behind those before it. -/
theorem allFindings_eq : allFindings before vs =
    vs.zipIdx.flatMap fun (v, i) => CaseFault.told (before ++ vs.take i) v := by
  induction vs generalizing before with
  | nil => rfl
  | cons v vs ih =>
    rw [allFindings, findings_eq_told, ih, List.zipIdx_cons, List.flatMap_cons,
      List.zipIdx_succ, List.flatMap_map]
    simp only [List.take_zero, List.append_nil, List.take_succ_cons, List.append_assoc,
      List.singleton_append]

/-! ### How many bits cases need -/

/-- The constants that cases need bits for: all but the reserved one. -/
def needed (vs : List Variant) : Finset String :=
  (vs.map Variant.constant).toFinset.erase reservedConstant

/-- The constants that are kept: those of the cases, without the reserved one and those that were
taken before. -/
theorem mem_map_constant_kept_iff : k ∈ (kept before vs).map Variant.constant ↔
    k ∈ vs.map Variant.constant ∧ k ≠ reservedConstant ∧ k ∉ before.map Variant.constant := by
  induction vs generalizing before with
  | nil => simp [kept]
  | cons v vs ih =>
    rw [kept, List.map_append, List.mem_append, ih, List.map_cons, List.mem_cons, List.map_append,
      List.mem_append, List.map_cons, List.map_nil, List.mem_singleton]
    by_cases hk : k = v.constant
    · subst hk
      by_cases hnew : IsNew before v
      · rw [if_pos hnew]
        exact iff_of_true (Or.inl (List.mem_singleton_self _)) ⟨Or.inl rfl, hnew⟩
      · rw [if_neg hnew]
        exact iff_of_false (by simp) fun h => hnew h.2
    · have hnot : k ∉ (if IsNew before v then [v] else []).map Variant.constant := by
        split <;> simp [hk]
      simp [hk, hnot]

/-- Cases that are kept have constants that are apart. -/
theorem nodup_map_constant_kept : ((kept before vs).map Variant.constant).Nodup := by
  induction vs generalizing before with
  | nil => exact List.nodup_nil
  | cons v vs ih =>
    rw [kept]
    split
    · rw [List.singleton_append, List.map_cons, List.nodup_cons, mem_map_constant_kept_iff]
      exact ⟨fun h => h.2.2 (by simp), ih⟩
    · exact ih

/-- **As many cases are kept** as there are constants that need a bit. -/
theorem length_kept : (kept [] vs).length = (needed vs).card := by
  have hconstants : ((kept [] vs).map Variant.constant).toFinset = needed vs := by
    ext k
    rw [List.mem_toFinset, mem_map_constant_kept_iff, needed, Finset.mem_erase,
      List.mem_toFinset, and_comm, List.map_nil, and_iff_left List.not_mem_nil]
  rw [← hconstants, List.toFinset_card_of_nodup nodup_map_constant_kept, List.length_map]

end CaseDraft

/-! ### What is told of a struct -/

variable {s : StructWithItems} {e : EnumItem}

/-- What is told of so many bits that the cases of a struct need, if they do not fit. -/
def excess? (s : StructWithItems) (count : Nat) : Option Diagnostic := do
  let directive ← (firstDirective s).toOption
  let bits ← directive.storage.bits?
  if bits < count then
    some ⟨.tooManyOptions count bits directive.storage.tokens.print, directive.storage.tokens.span⟩
  else none

/-- What is told of the width is the excess of cases. -/
theorem getD_judgeWidth_eq (count : Nat) :
    ((firstDirective s).toOption.map fun d => judgeWidth d.storage count).getD [] =
      (excess? s count).toList := by
  unfold excess? judgeWidth
  cases (firstDirective s).toOption with
  | none => rfl
  | some d =>
    cases hbits : d.storage.bits? with
    | none => simp [hbits]
    | some bits => by_cases hfits : bits < count <;> simp [hbits, hfits]

/-- What is told of the directive and of parameters is not about the cases. -/
theorem not_isOfCases_of_mem {d : Diagnostic}
    (h : d ∈ Diagnostic.ofResult (firstDirective s) ++ judgeGenerics s) :
    d.problem.isOfCases = false := by
  rcases List.mem_append.1 h with hdirective | hgenerics
  · have htold : d.problem ∈ Directive.told (firstDirective s) := by
      rw [Directive.told_eq]
      exact List.mem_map_of_mem hdirective
    have harguments := isOfArguments_of_mem_told htold
    cases hp : d.problem <;> first | rfl | (rw [hp] at harguments; cases harguments)
  · unfold judgeGenerics at hgenerics
    split at hgenerics
    · cases List.mem_singleton.1 hgenerics
      rfl
    · cases hgenerics

/-- **What is told of the cases of a struct.**  Let an enum list cases that can be named, at least
one.  Then judging the struct comes to an end, and what is told of the cases is this, behind what is
not about them: going through the cases in their order, that a case has data if it is no unit, that
it has a value if it has one, and that its constant is reserved or else taken by a case before, and
in the end, if the directive is accepted and gives a storage type of known width, that there are too
many if there are more constants than bits, the reserved one not counted. -/
theorem faults_of_caseList (listed : IsCaseList (lookedFor s) s.items e)
    (nonempty : e.variants ≠ [])
    (named : ∀ v ∈ e.variants, ∃ c, OptionCase.ofIdent v.name 0 = .ok c) :
    (∃ result others, ofWritten (.struct s) = .ok result ∧
      Diagnostic.ofResult result = others ++
        (e.variants.zipIdx.flatMap fun (v, i) =>
          (CaseFault.all.filter fun f => f.Holds (e.variants.take i) v).map (·.diagnostic v)) ++
        (excess? s (CaseDraft.needed e.variants).card).toList ∧
      ∀ d ∈ others, d.problem.isOfCases = false) ∧
    ∀ (v : Variant) position c, OptionCase.ofIdent v.name position = .ok c →
      c.constant.text = v.constant := by
  refine ⟨?_, fun v position c hc => ?_⟩
  · obtain ⟨draft, hdraft⟩ := CaseDraft.exists_ofVariants_iff.2 fun v hv =>
      (OptionCase.exists_ofIdent_iff_isIdentifier 0).1 (named v hv)
    have hjudged : judgeCases s (firstDirective s).toOption (lookedFor s) = .ok draft := by
      rw [judgeCases, isCaseList_iff.1 listed]
      exact (if_neg (mt List.isEmpty_iff.1 nonempty)).trans hdraft
    obtain ⟨hfindings, hcases⟩ := CaseDraft.ofVariants_spec hdraft
    have htold := map_ofResult_ofStruct (s := s)
    rw [hjudged] at htold
    obtain ⟨result, hresult, hdiagnostics⟩ := map_eq_ok_iff.1 htold
    refine ⟨result, Diagnostic.ofResult (firstDirective s) ++ judgeGenerics s, hresult, ?_,
      fun d => not_isOfCases_of_mem⟩
    rw [hdiagnostics, diagnostics, hfindings, hcases, List.length_map, CaseDraft.length_kept,
      getD_judgeWidth_eq, CaseDraft.allFindings_eq]
    rfl
  · obtain ⟨-, rfl⟩ := OptionCase.ofIdent_eq_ok_iff.1 hc
    rfl

/-- Cases that are wrong in all ways, among more than eight that are not. -/
def crowdedEnum : EnumItem :=
  let e := enumOf ["Red", "RED", "OptionNames", "A", "B", "C", "D", "E", "F", "G", "H"]
  let overloaded (v : Variant) : Variant :=
    { v with
      fields := .tuple [] .none .none
      discriminant := some ([.punct '=' .alone .none], ⟨.other, [.ident { name := "N" }]⟩) }
  { e with variants := (e.variants.take 2).map overloaded ++ e.variants.drop 2 }

/-- What is told of `crowdedEnum` in a struct with a byte of storage. -/
theorem faults_of_crowdedEnum : ∃ result,
    ofWritten (.struct (structOf "u8" [.enum crowdedEnum])) = .ok result ∧
      ((Diagnostic.ofResult result).filter (·.problem.isOfCases)).map (·.problem) =
        [.optionCaseHasData "Red", .optionCaseHasDiscriminant "Red", .optionCaseHasData "RED",
          .optionCaseHasDiscriminant "RED", .duplicateOption "RED",
          .reservedOptionName "OptionNames", .tooManyOptions 9 8 "u8"] := by
  have listed : IsCaseList (lookedFor (structOf "u8" [.enum crowdedEnum]))
      (structOf "u8" [.enum crowdedEnum]).items crowdedEnum :=
    ⟨[], [], rfl, by decide, fun _ => nofun⟩
  have named : ∀ v ∈ crowdedEnum.variants, ∃ c, OptionCase.ofIdent v.name 0 = .ok c := by
    have hplain : ∀ v ∈ crowdedEnum.variants,
        isPlainName (Words.upperSnake v.name.name.toList) = true := by decide
    exact fun v hv => (OptionCase.exists_ofIdent_iff_isIdentifier 0).2
      (isIdentifier_of_isPlainName (hplain v hv))
  obtain ⟨⟨result, others, hresult, htold, hothers⟩, -⟩ :=
    faults_of_caseList listed nofun named
  have hnone : others.filter (·.problem.isOfCases) = [] :=
    List.filter_eq_nil_iff.2 fun d hd => by simp [hothers d hd]
  refine ⟨result, hresult, ?_⟩
  rw [htold, List.append_assoc, List.filter_append, hnone, List.nil_append]
  decide +kernel

end OptionSet
end Boilerplate
