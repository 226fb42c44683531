/-
# Which structs declare option sets

`extract_flag_list` of `src/decl/extract`; `SPEC_FULL.md` §4.1.

A struct is judged part by part, and each part may add diagnostics.  `Declares` says what the parts
have to be like so that none is added, and a struct is accepted exactly then, as the option set that
it declares (`ofStruct_eq_ok_iff`, `ofWritten_eq_ok_iff`).

Of the cases, `CaseDraft.findings` is what is wrong with one behind others, and `CaseDraft.kept` are
those that are kept.  That is all that judging them does (`CaseDraft.ofVariants_spec`).
-/

import Boilerplate.Proofs.OptionSet.Accepted

namespace Boilerplate

open OptionCase

/-- The constant that a case maps to. -/
def Variant.constant (v : Variant) : String := (spelled v.name 0).constant.text

/-- Whether a case has neither data nor a value. -/
def Variant.IsPlain (v : Variant) : Prop := v.fields.isUnit = true ∧ v.discriminant = none

namespace OptionSet
namespace CaseDraft

/-! ### One more case -/

/-- Whether the constant of a case may be given to it behind others: it is not reserved, and none of
them has it. -/
def IsNew (before : List Variant) (v : Variant) : Prop :=
  v.constant ≠ reservedConstant ∧ v.constant ∉ before.map Variant.constant

/-- Whether a case is new among those before it is a matter of comparing constants. -/
instance (before : List Variant) (v : Variant) : Decidable (IsNew before v) :=
  inferInstanceAs (Decidable (_ ∧ _))

/-- What is wrong with a case behind others. -/
def findings (before : List Variant) (v : Variant) : List Diagnostic :=
  shape v ++
    if v.constant = reservedConstant then [⟨.reservedOptionName v.name.text, v.name.span⟩]
    else if v.constant ∈ before.map Variant.constant then
      [⟨.duplicateOption v.name.text, v.name.span⟩]
    else []

/-- Whether the constants of the draft are those of the cases before, without the reserved one. -/
def Behind (before : List Variant) (d : CaseDraft) : Prop :=
  ∀ k, k ∈ d.constants ↔ k ≠ reservedConstant ∧ k ∈ before.map Variant.constant

variable {before : List Variant} {d d' : CaseDraft} {v : Variant} {vs : List Variant}

/-- The draft that the cases start from. -/
theorem behind_nil : Behind [] {} := fun _ => iff_of_false List.not_mem_nil (by simp)

/-- **One more case** adds what is wrong with it, and is kept if its constant is new. -/
theorem add_spec (h : Behind before d) (hadd : d.add v = .ok d') :
    Behind (before ++ [v]) d' ∧ d'.diagnostics = d.diagnostics ++ findings before v ∧
      d'.cases = d.cases ++ if IsNew before v then [v.name] else [] := by
  obtain ⟨c, hc, hrest⟩ := bind_eq_ok_iff.1 hadd
  obtain ⟨-, rfl⟩ := ofIdent_eq_ok_iff.1 hc
  have hconstant : (spelled v.name d.cases.length).constant.text = v.constant := rfl
  simp only [hconstant, beq_iff_eq, List.contains_iff_mem] at hrest
  by_cases hreserved : v.constant = reservedConstant
  -- A reserved constant is not remembered.
  · rw [if_pos hreserved] at hrest
    cases hrest
    refine ⟨fun k => ?_, by simp [findings, hreserved], by simp [IsNew, hreserved]⟩
    rw [h k, List.map_append, List.mem_append]
    refine and_congr_right fun hk => (or_iff_left fun hmem => hk ?_).symm
    exact (List.mem_singleton.1 hmem).trans hreserved
  rw [if_neg hreserved] at hrest
  have hold : v.constant ∈ d.constants ↔ v.constant ∈ before.map Variant.constant := by
    rw [h, and_iff_right hreserved]
  by_cases htaken : v.constant ∈ before.map Variant.constant
  -- A constant that is taken is remembered already.
  · rw [if_pos (hold.2 htaken)] at hrest
    cases hrest
    refine ⟨fun k => ?_,
      by simp only [findings, if_neg hreserved, if_pos htaken, List.append_assoc],
      by simp only [IsNew, htaken, not_true, and_false, if_false, List.append_nil]⟩
    rw [h k, List.map_append, List.mem_append]
    refine and_congr_right fun _ => (or_iff_left_of_imp fun hmem => ?_).symm
    exact List.mem_singleton.1 hmem ▸ htaken
  · rw [if_neg (mt hold.1 htaken)] at hrest
    cases hrest
    refine ⟨fun k => ?_, by simp only [findings, if_neg hreserved, if_neg htaken, List.append_nil],
      by rw [if_pos ⟨hreserved, htaken⟩]⟩
    rw [List.mem_append, h k, List.map_append, List.mem_append, and_or_left]
    refine or_congr_right (and_iff_right_of_imp fun hmem => ?_).symm
    exact List.mem_singleton.1 hmem ▸ hreserved

/-! ### All cases -/

/-- What is wrong with cases behind others, in their order. -/
def allFindings (before : List Variant) : List Variant → List Diagnostic
  | [] => []
  | v :: vs => findings before v ++ allFindings (before ++ [v]) vs

/-- The cases with a new constant. -/
def kept (before : List Variant) : List Variant → List Variant
  | [] => []
  | v :: vs => (if IsNew before v then [v] else []) ++ kept (before ++ [v]) vs

/-- What a run over the cases tells and keeps, behind any cases that were met before. -/
theorem foldlM_add_spec (h : Behind before d) (hrun : vs.foldlM add d = .ok d') :
    d'.diagnostics = d.diagnostics ++ allFindings before vs ∧
      d'.cases = d.cases ++ (kept before vs).map (·.name) := by
  -- What one case hands to the next is `Behind`: the draft knows the constants, not the cases.
  induction vs generalizing before d with
  | nil =>
    cases hrun
    simp [allFindings, kept]
  | cons v vs ih =>
    rw [List.foldlM_cons, bind_eq_ok_iff] at hrun
    obtain ⟨d₁, hadd, hrest⟩ := hrun
    obtain ⟨hbehind, hdiagnostics, hcases⟩ := add_spec h hadd
    obtain ⟨hall, hkept⟩ := ih hbehind hrest
    refine ⟨?_, ?_⟩
    · rw [hall, hdiagnostics, allFindings, List.append_assoc]
    · rw [hkept, hcases, kept, List.map_append, List.append_assoc]
      split <;> rfl

/-- **Judging cases** finds what is wrong with each behind those before it, and keeps those with a
new constant. -/
theorem ofVariants_spec (h : ofVariants vs = .ok d) :
    d.diagnostics = allFindings [] vs ∧ d.cases = (kept [] vs).map (·.name) :=
  foldlM_add_spec behind_nil h

/-! ### Cases with which nothing is wrong -/

/-- Nothing is wrong with the shape of a case that is plain. -/
theorem shape_eq_nil_iff : shape v = [] ↔ v.IsPlain := by
  rw [shape, List.append_eq_nil_iff, Variant.IsPlain]
  refine and_congr ?_ ?_
  · split <;> simp_all
  · split <;> simp_all

/-- Nothing is wrong with a case that is plain and new. -/
theorem findings_eq_nil_iff : findings before v = [] ↔ v.IsPlain ∧ IsNew before v := by
  rw [findings, List.append_eq_nil_iff, shape_eq_nil_iff]
  refine and_congr_right fun _ => ?_
  unfold IsNew
  split
  · simp_all
  · split <;> simp_all

/-- A constant that is new behind one more case is new and not the constant of that case. -/
theorem isNew_concat_iff {w : Variant} :
    IsNew (before ++ [v]) w ↔ IsNew before w ∧ w.constant ≠ v.constant := by
  simp only [IsNew, List.map_append, List.map_cons, List.map_nil, List.mem_append,
    List.mem_singleton, not_or, and_assoc, ne_eq]

/-- **Nothing is wrong with cases** that are plain and have new constants that are apart. -/
theorem allFindings_eq_nil_iff :
    allFindings before vs = [] ↔
      (∀ v ∈ vs, v.IsPlain ∧ IsNew before v) ∧ (vs.map Variant.constant).Nodup := by
  induction vs generalizing before with
  | nil => simp [allFindings]
  | cons v vs ih =>
    rw [allFindings, List.append_eq_nil_iff, findings_eq_nil_iff, ih, List.forall_mem_cons,
      List.map_cons, List.nodup_cons]
    simp only [isNew_concat_iff, List.mem_map, not_exists, not_and]
    constructor
    · rintro ⟨hv, hvs, hnd⟩
      exact ⟨⟨hv, fun w hw => ⟨(hvs w hw).1, (hvs w hw).2.1⟩⟩, fun w hw => (hvs w hw).2.2, hnd⟩
    · rintro ⟨⟨hv, hvs⟩, hne, hnd⟩
      exact ⟨hv, fun w hw => ⟨(hvs w hw).1, (hvs w hw).2, hne w hw⟩, hnd⟩

/-- All cases are kept if nothing is wrong with them. -/
theorem kept_of_allFindings_eq_nil (h : allFindings before vs = []) : kept before vs = vs := by
  induction vs generalizing before with
  | nil => rfl
  | cons v vs ih =>
    obtain ⟨hv, hvs⟩ := List.append_eq_nil_iff.1 h
    rw [kept, if_pos (findings_eq_nil_iff.1 hv).2, ih hvs, List.singleton_append]

/-- If nothing is told of the cases, all of them are kept. -/
theorem cases_of_ofVariants (h : ofVariants vs = .ok d) (hsilent : d.diagnostics = []) :
    d.cases = vs.map (·.name) := by
  obtain ⟨hfindings, hcases⟩ := ofVariants_spec h
  rw [hcases, kept_of_allFindings_eq_nil (hfindings ▸ hsilent)]

/-- The constants of named cases. -/
theorem map_constant_of_ofIdents {cases : List OptionCase}
    (h : OptionCase.ofIdents (vs.map (·.name)) = .ok cases) :
    cases.map (·.constant.text) = vs.map Variant.constant := by
  rw [(ofIdents_eq_ok_iff.1 h).2, map_spelledAll _ fun _ _ => rfl, List.map_map]
  rfl

/-- **Cases are judged with no complaint** if they are plain and can be named, with constants that
are apart and not reserved. -/
theorem exists_ofVariants_silent_iff :
    (∃ d, ofVariants vs = .ok d ∧ d.diagnostics = []) ↔
      (∀ v ∈ vs, v.IsPlain) ∧ ∃ cases, OptionCase.ofIdents (vs.map (·.name)) = .ok cases ∧
        (cases.map (·.constant.text)).Nodup ∧ reservedConstant ∉ cases.map (·.constant.text) := by
  have hnew : ∀ v, IsNew [] v ↔ v.constant ≠ reservedConstant := fun v => by simp [IsNew]
  constructor
  · rintro ⟨d, hd, hsilent⟩
    obtain ⟨hall, hnodup⟩ := allFindings_eq_nil_iff.1 ((ofVariants_spec hd).1 ▸ hsilent)
    have hnamed := exists_ofVariants_iff.1 ⟨d, hd⟩
    have hcases : OptionCase.ofIdents (vs.map (·.name)) = .ok (spelledAll (vs.map (·.name))) :=
      ofIdents_eq_ok_iff.2 ⟨List.forall_mem_map.2 hnamed, rfl⟩
    refine ⟨fun v hv => (hall v hv).1, _, hcases, ?_, ?_⟩
    · rwa [map_constant_of_ofIdents hcases]
    · rw [map_constant_of_ofIdents hcases, List.mem_map]
      rintro ⟨v, hv, heq⟩
      exact (hnew v).1 (hall v hv).2 heq
  · rintro ⟨hplain, cases, hcases, hnodup, hfree⟩
    rw [map_constant_of_ofIdents hcases] at hnodup hfree
    obtain ⟨d, hd⟩ :=
      exists_ofVariants_iff.2 (List.forall_mem_map.1 (ofIdents_eq_ok_iff.1 hcases).1)
    refine ⟨d, hd, ?_⟩
    rw [(ofVariants_spec hd).1, allFindings_eq_nil_iff]
    refine ⟨fun v hv => ⟨hplain v hv, (hnew v).2 fun heq => ?_⟩, hnodup⟩
    exact hfree (List.mem_map.2 ⟨v, hv, heq⟩)

end CaseDraft

/-! ### The enum that lists the cases -/

/-- Whether the cases are listed in this enum: the first of the items that is an enum of the
expected name. -/
def IsCaseList (name : String) (items : List Item) (e : EnumItem) : Prop :=
  ∃ before behind, items = before ++ .enum e :: behind ∧ e.name.text = name ∧
    ∀ other, .enum other ∈ before → other.name.text ≠ name

variable {s : StructWithItems} {name : String} {i : Item} {e : EnumItem} {items : List Item}

/-- The list of cases is an enum with the right name. -/
theorem caseList?_eq_some_iff : caseList? name i = some e ↔ i = .enum e ∧ e.name.text = name := by
  cases i with
  | enum other =>
    rw [caseList?, Option.ite_none_right_eq_some, Option.some.injEq, beq_iff_eq, Item.enum.injEq]
    exact ⟨fun ⟨hname, heq⟩ => ⟨heq, heq ▸ hname⟩, fun ⟨heq, hname⟩ => ⟨heq ▸ hname, heq⟩⟩
  | _ => simp [caseList?]

/-- An item is not the list of cases if it is no enum with that name. -/
theorem caseList?_eq_none_iff :
    caseList? name i = none ↔ ∀ e, i = .enum e → e.name.text ≠ name := by
  cases i <;> simp [caseList?]

/-- The list of cases is what is found first. -/
theorem isCaseList_iff : IsCaseList name items e ↔ items.findSome? (caseList? name) = some e := by
  rw [List.findSome?_eq_some_iff, IsCaseList]
  constructor
  · rintro ⟨before, behind, rfl, hname, hbefore⟩
    refine ⟨before, _, behind, rfl, caseList?_eq_some_iff.2 ⟨rfl, hname⟩, fun i hi => ?_⟩
    exact caseList?_eq_none_iff.2 fun other hother => hbefore other (hother ▸ hi)
  · rintro ⟨before, i, behind, rfl, hi, hbefore⟩
    obtain ⟨rfl, hname⟩ := caseList?_eq_some_iff.1 hi
    exact ⟨before, behind, rfl, hname,
      fun other hother => caseList?_eq_none_iff.1 (hbefore _ hother) other rfl⟩

/-- **The cases are judged with no complaint** if there is an enum that lists them, and nothing is
wrong with those that it lists. -/
theorem judgeCases_eq_ok_iff {directive : Option Directive} {draft : CaseDraft} :
    (judgeCases s directive name = .ok draft ∧ draft.diagnostics = []) ↔
      ∃ e, IsCaseList name s.items e ∧ e.variants ≠ [] ∧
        CaseDraft.ofVariants e.variants = .ok draft ∧ draft.diagnostics = [] := by
  simp only [isCaseList_iff]
  unfold judgeCases
  cases s.items.findSome? (caseList? name) with
  | none =>
    refine iff_of_false ?_ (by simp)
    rintro ⟨hdraft, hnone⟩
    obtain rfl := Except.ok.inj hdraft
    cases hnone
  | some e =>
    simp only [Option.some.injEq, exists_eq_left']
    by_cases hempty : e.variants = []
    · rw [if_pos (List.isEmpty_iff.2 hempty)]
      refine iff_of_false ?_ fun h => h.1 hempty
      rintro ⟨hdraft, hnone⟩
      obtain rfl := Except.ok.inj hdraft
      cases hnone
    · rw [if_neg (mt List.isEmpty_iff.1 hempty), and_iff_right hempty]

end OptionSet

/-! ### Structs -/

/-- The arguments that an attribute is given, none of them if there are no brackets; a value behind
`=` is no argument. -/
def AttributeArgs.given? : AttributeArgs → Option Tokens
  | .none => some []
  | .list _ ts _ _ => some ts
  | .value .. => Option.none

/-- An attribute is a directive if its arguments are those of one. -/
theorem Directive.ofAttribute?_eq_ok_iff {attr : Option Attribute} {host : Span}
    {d : Directive} :
    Directive.ofAttribute? attr host = .ok d ↔
      ∃ a ts, attr = some a ∧ a.args.given? = some ts ∧ Directive.ofTokens ts a.span = .ok d := by
  cases attr with
  | none => simp [Directive.ofAttribute?]
  | some a =>
    simp only [Directive.ofAttribute?, Option.some.injEq, exists_and_left, exists_eq_left']
    cases a.args <;> simp [AttributeArgs.given?]

namespace OptionSet

/-- What a struct is like that declares an option set, of which its directive says so much, and with
the cases that an enum in it lists. -/
structure Declares (s : StructWithItems) (directive : Directive) (options : EnumItem) : Prop where
  /-- The first directive counts. -/
  directed : ∃ a ts, s.attributes.find? isDirective = some a ∧ a.args.given? = some ts ∧
    Directive.ofTokens ts a.span = .ok directive
  noParameters : s.generics.isEmpty = true
  noConditions : s.hasWhere = false
  listed : IsCaseList directive.options s.items options
  nonempty : options.variants ≠ []
  plain : ∀ v ∈ options.variants, v.IsPlain
  /-- The cases can be named, with constants that are apart and free. -/
  named : ∃ cases, OptionCase.ofIdents (options.variants.map (·.name)) = .ok cases ∧
    (cases.map (·.constant.text)).Nodup ∧ reservedConstant ∉ cases.map (·.constant.text)
  fits : ∀ bits, directive.storage.bits? = some bits → options.variants.length ≤ bits

/-- The option set that a struct declares with these cases. -/
def declared (s : StructWithItems) (directive : Directive) (cases : List Ident) : OptionSet where
  typeName := s.name
  visibility := s.visibility
  storage := directive.storage
  cases := cases
  attributes := s.attributes.filter (!isDirective ·)
  carried := s.items.filter fun i => (caseList? directive.options i).isNone

variable {m : OptionSet} {d : Directive}

/-- A struct is accepted if there is nothing to say against any of its parts. -/
theorem ofStruct_eq_ok_iff_judged :
    ofStruct s = .ok (.ok m) ↔ ∃ d draft,
      Directive.ofAttribute? (s.attributes.find? isDirective) s.name.span = .ok d ∧
      judgeGenerics s = [] ∧
      (judgeCases s (some d) d.options = .ok draft ∧ draft.diagnostics = []) ∧
      judgeWidth d.storage draft.cases.length = [] ∧ m = declared s d draft.cases := by
  rw [ofStruct, bind_eq_ok_iff]
  cases Directive.ofAttribute? (s.attributes.find? isDirective) s.name.span with
  | error ds =>
    refine iff_of_false ?_ (by simp)
    rintro ⟨draft, -, h⟩
    cases h
  | ok d =>
    simp only [Except.toOption, Option.map_some, Option.getD_some, List.nil_append,
      Except.ok.injEq, exists_and_left, exists_eq_left']
    rw [← exists_and_left]
    refine exists_congr fun draft => ?_
    constructor
    · rintro ⟨hdraft, h⟩
      split at h
      · rename_i hd hnone
        obtain rfl := Option.some.inj hd
        obtain ⟨hleft, hwidth⟩ := List.append_eq_nil_iff.1 hnone
        obtain ⟨hgenerics, hcases⟩ := List.append_eq_nil_iff.1 hleft
        exact ⟨hgenerics, ⟨hdraft, hcases⟩, hwidth, (Except.ok.inj (Except.ok.inj h)).symm⟩
      · cases h
    · rintro ⟨hgenerics, ⟨hdraft, hcases⟩, hwidth, rfl⟩
      refine ⟨hdraft, ?_⟩
      rw [hgenerics, hcases, hwidth]
      rfl

/-- Nothing is wrong with parameters if there are none. -/
theorem judgeGenerics_eq_nil_iff :
    judgeGenerics s = [] ↔ s.generics.isEmpty = true ∧ s.hasWhere = false := by
  simp [judgeGenerics]

/-- Nothing is wrong with the width if there are no more cases than bits. -/
theorem judgeWidth_eq_nil_iff {storage : TypeExpr} {count : Nat} :
    judgeWidth storage count = [] ↔ ∀ bits, storage.bits? = some bits → count ≤ bits := by
  unfold judgeWidth
  cases storage.bits? <;> simp

/-- **A struct is accepted** if it declares an option set, and as that. -/
theorem ofStruct_eq_ok_iff :
    ofStruct s = .ok (.ok m) ↔
      ∃ d e, Declares s d e ∧ m = declared s d (e.variants.map (·.name)) := by
  rw [ofStruct_eq_ok_iff_judged]
  constructor
  · rintro ⟨d, draft, hdirective, hgenerics, hcases, hwidth, rfl⟩
    obtain ⟨e, hlisted, hnonempty, hdraft, hsilent⟩ := judgeCases_eq_ok_iff.1 hcases
    obtain ⟨hplain, hnamed⟩ := CaseDraft.exists_ofVariants_silent_iff.1 ⟨draft, hdraft, hsilent⟩
    obtain ⟨hparameters, hconditions⟩ := judgeGenerics_eq_nil_iff.1 hgenerics
    rw [CaseDraft.cases_of_ofVariants hdraft hsilent] at hwidth ⊢
    rw [List.length_map] at hwidth
    exact ⟨d, e, {
      directed := Directive.ofAttribute?_eq_ok_iff.1 hdirective
      noParameters := hparameters
      noConditions := hconditions
      listed := hlisted
      nonempty := hnonempty
      plain := hplain
      named := hnamed
      fits := judgeWidth_eq_nil_iff.1 hwidth }, rfl⟩
  · rintro ⟨d, e, h, rfl⟩
    obtain ⟨draft, hdraft, hsilent⟩ := CaseDraft.exists_ofVariants_silent_iff.2 ⟨h.plain, h.named⟩
    have hcases := CaseDraft.cases_of_ofVariants hdraft hsilent
    refine ⟨d, draft, Directive.ofAttribute?_eq_ok_iff.2 h.directed,
      judgeGenerics_eq_nil_iff.2 ⟨h.noParameters, h.noConditions⟩,
      judgeCases_eq_ok_iff.2 ⟨e, h.listed, h.nonempty, hdraft, hsilent⟩, ?_, by rw [hcases]⟩
    rw [hcases, List.length_map]
    exact judgeWidth_eq_nil_iff.2 h.fits

/-- **Which declarations are accepted.**  Judging a declaration comes to an end exactly if each of
its cases can be named.  It is accepted exactly if it is a struct whose first directive, with or
without arguments, is understood, that has neither parameters nor conditions, and in which the first
enum of the expected name lists plain cases with constants of their own, at least one and no more
than there are bits in a storage type of known width.  The cases are then all of those in their
order, and the attributes are the struct's without the directives. -/
theorem ofWritten_eq_ok_iff (written : WrittenSet) :
    ((∃ r, ofWritten written = .ok r) ↔
      ∀ v ∈ written.judgedCases, ∃ c, OptionCase.ofIdent v.name 0 = .ok c) ∧
    ∀ m, ofWritten written = .ok (.ok m) ↔ ∃ s d e, written = .struct s ∧ Declares s d e ∧
      m = declared s d (e.variants.map (·.name)) := by
  refine ⟨?_, fun m => ?_⟩
  · simp only [exists_ofIdent_iff_isIdentifier]
    exact exists_ofWritten_iff
  · cases written with
    | other => exact iff_of_false nofun (by simp)
    | struct s =>
      simp only [WrittenSet.struct.injEq, exists_and_left, exists_eq_left']
      exact ofStruct_eq_ok_iff

/-- An enum of the name `Options` with cases of these names. -/
def enumOf (cases : List String) : EnumItem where
  attributes := []
  visibility := []
  keyword := [.ident { name := "enum" }]
  name := { name := "Options" }
  generics := {}
  whereClause := []
  variants := cases.map fun c => {
    attributes := []
    name := { name := c }
    fields := .unit
    discriminant := none
    separator := [] }
  opening := .none
  closing := .none

/-- A struct with these items and a directive for storage of this type. -/
def structOf (storage : String) (items : List Item) : StructWithItems where
  attributes := [{
    mark := [.punct '#' .alone .none]
    path := ⟨false, [{ name := { name := directiveName } }], [.ident { name := directiveName }]⟩
    args := .list .parenthesis [.ident { name := storage }] .none .none
    opening := .none
    closing := .none }]
  visibility := []
  name := { name := "Set" }
  generics := {}
  hasWhere := false
  items := items

end OptionSet
end Boilerplate
