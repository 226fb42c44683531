/-
# Cases that are spelled anew

`FlagCase::new` of `src/bitmask`, and the duplicates of `SPEC_FULL.md` §4.1.

A case that is spelled as its stored name or as its constant keeps both (`ofIdent_of_respells`),
because in ASCII conversion is stable.  So an option set with one case spelled anew is accepted as
before, with the same constants (`OptionSet.ofStruct_renamed`), and a case that spells an earlier
one anew is always one too many (`OptionSet.ofStruct_inserted`).
-/

import Boilerplate.Proofs.Ascii.Casing
import Boilerplate.Proofs.OptionSet.Declares

namespace Boilerplate

open OptionCase

namespace OptionCase

/-- Whether an identifier is spelled as the stored name or as the constant of a case. -/
def Respells (c : OptionCase) (j : Ident) : Prop := j.name = c.wire ∨ j.name = c.constant.text

variable {i j : Ident} {p : Nat} {c : OptionCase}

/-- A case that is spelled anew is converted as before. -/
theorem Respells.words (h : (spelled i p).Respells j) (ascii : IsAscii i.name.toList)
    (named : isIdentifier (Words.upperSnake i.name.toList) = true) :
    Words.upperSnake j.name.toList = Words.upperSnake i.name.toList ∧
      Words.snake j.name.toList = Words.snake i.name.toList := by
  -- Both names are the words of the identifier, brought into one case and joined.
  obtain ⟨f, hf, hj⟩ : ∃ f, Ascii.IsCasing f ∧
      j.name.toList = Words.join ((Words.split i.name.toList).map (List.map f)) := by
    rcases h with hwire | hconstant
    · refine ⟨Char.toLower, Ascii.isCasing_toLower, ?_⟩
      rw [hwire, spelled, String.toList_ofList, Ascii.snake_eq_join ascii]
    · refine ⟨Char.toUpper, Ascii.isCasing_toUpper, ?_⟩
      have htext : (spelled i p).constant.text.toList = Words.upperSnake i.name.toList :=
        String.toList_ofList
      rw [hconstant, htext, Ascii.upperSnake_eq_join ascii]
  rw [hj]
  exact ⟨hf.upperSnake_join ascii named, hf.snake_join ascii named⟩

/-- **A case that is spelled anew** has the same constant and the same stored name. -/
theorem ofIdent_of_respells (ascii : IsAscii i.name.toList) (h : ofIdent i p = .ok c)
    (hj : c.Respells j) (q : Nat) :
    ∃ c', ofIdent j q = .ok c' ∧ c'.constant.text = c.constant.text ∧ c'.wire = c.wire := by
  obtain ⟨named, rfl⟩ := ofIdent_eq_ok_iff.1 h
  obtain ⟨hupper, hlower⟩ := hj.words ascii named
  refine ⟨spelled j q, ofIdent_eq_ok_iff.2 ⟨hupper ▸ named, rfl⟩, ?_, ?_⟩
  · exact congrArg String.ofList hupper
  · exact congrArg String.ofList hlower

end OptionCase

namespace OptionSet

/-! ### One case more -/

namespace CaseDraft

variable {before before' : List Variant} {v : Variant} {vs ws : List Variant}

/-- What is told of cases behind others. -/
theorem allFindings_append : allFindings before (vs ++ ws) =
    allFindings before vs ++ allFindings (before ++ vs) ws := by
  induction vs generalizing before with
  | nil => simp [allFindings]
  | cons v vs ih => simp [allFindings, ih]

/-- What is kept of cases behind others. -/
theorem kept_append : kept before (vs ++ ws) = kept before vs ++ kept (before ++ vs) ws := by
  induction vs generalizing before with
  | nil => simp [kept]
  | cons v vs ih => simp [kept, ih]

/-- **Cases matter to those behind them** by their constants only. -/
theorem judged_congr
    (h : ∀ k, k ∈ before.map Variant.constant ↔ k ∈ before'.map Variant.constant) :
    allFindings before vs = allFindings before' vs ∧ kept before vs = kept before' vs := by
  induction vs generalizing before before' with
  | nil => exact ⟨rfl, rfl⟩
  | cons v vs ih =>
    have hnext : ∀ k, k ∈ (before ++ [v]).map Variant.constant ↔
        k ∈ (before' ++ [v]).map Variant.constant := by
      intro k
      rw [List.map_append, List.map_append, List.mem_append, List.mem_append, h k]
    -- The case itself is behind the same constants, and so are all others with it before them.
    obtain ⟨hfindings, hkept⟩ := ih hnext
    have hnew : IsNew before v ↔ IsNew before' v := by rw [IsNew, IsNew, h]
    constructor
    · rw [allFindings, allFindings, hfindings, findings, findings]
      simp only [h]
    · rw [kept, kept, hkept]
      simp only [hnew]

/-- A case whose constant is taken does not matter to those behind it. -/
theorem judged_concat (h : v.constant ∈ before.map Variant.constant) :
    allFindings (before ++ [v]) vs = allFindings before vs ∧
      kept (before ++ [v]) vs = kept before vs := by
  refine judged_congr fun k => ?_
  rw [List.map_append, List.mem_append]
  refine or_iff_left_of_imp fun hk => ?_
  exact List.mem_singleton.1 hk ▸ h

/-- **A case that has the constant of one before it**, among cases with which nothing is wrong. -/
theorem judged_inserted (hsilent : allFindings [] (vs ++ ws) = [])
    (h : v.constant ∈ vs.map Variant.constant) :
    allFindings [] (vs ++ v :: ws) = shape v ++ [⟨.duplicateOption v.name.text, v.name.span⟩] ∧
      kept [] (vs ++ v :: ws) = vs ++ ws := by
  have hkept := kept_of_allFindings_eq_nil hsilent
  obtain ⟨hvs, hws⟩ : allFindings [] vs = [] ∧ allFindings vs ws = [] := by
    rwa [allFindings_append, List.nil_append, List.append_eq_nil_iff] at hsilent
  have hfree : v.constant ≠ reservedConstant := by
    obtain ⟨w, hw, heq⟩ := List.mem_map.1 h
    exact heq ▸ ((allFindings_eq_nil_iff.1 hvs).1 w hw).2.1
  obtain ⟨hfindings, hrest⟩ : allFindings (vs ++ [v]) ws = allFindings vs ws ∧
      kept (vs ++ [v]) ws = kept vs ws := judged_concat h
  constructor
  · rw [allFindings_append, List.nil_append, hvs, allFindings, hfindings, hws, findings,
      if_neg hfree, if_pos h, List.nil_append, List.append_nil]
  · rw [kept_append, List.nil_append, kept, hrest, if_neg fun hnew => hnew.2 h, List.nil_append]
    rwa [kept_append, List.nil_append] at hkept

end CaseDraft

/-! ### Other cases in the place of those that are listed -/

/-- The items with other cases in the first enum of the name. -/
def relist (name : String) (vs : List Variant) : List Item → List Item
  | [] => []
  | i :: items =>
    match caseList? name i with
    | some e => .enum { e with variants := vs } :: items
    | none => i :: relist name vs items

/-- The struct with other cases in its list of cases. -/
def relisted (s : StructWithItems) (name : String) (vs : List Variant) : StructWithItems :=
  { s with items := relist name vs s.items }

section
variable {s : StructWithItems} {d : Directive} {e : EnumItem} {name : String} {items : List Item}
  {vs : List Variant}

/-- The list of cases is found where it was, with the new cases. -/
theorem findSome?_relist : (relist name vs items).findSome? (caseList? name) =
    (items.findSome? (caseList? name)).map fun e => { e with variants := vs } := by
  induction items with
  | nil => rfl
  | cons i items ih =>
    rw [relist]
    cases hi : caseList? name i with
    | none => simp [hi, ih]
    | some e =>
      obtain ⟨rfl, hname⟩ := caseList?_eq_some_iff.1 hi
      simp [caseList?, hname]

/-- No other item is changed. -/
theorem filter_relist : (relist name vs items).filter (fun i => (caseList? name i).isNone) =
    items.filter fun i => (caseList? name i).isNone := by
  induction items with
  | nil => rfl
  | cons i items ih =>
    rw [relist]
    cases hi : caseList? name i with
    | none => simp [hi, ih]
    | some e =>
      obtain ⟨rfl, hname⟩ := caseList?_eq_some_iff.1 hi
      simp [caseList?, hname]

/-- A set with other cases listed is declared alike but for these. -/
theorem declared_relisted (cases : List Ident) :
    declared (relisted s d.options vs) d cases = declared s d cases := by
  simp only [declared, relisted, filter_relist]

/-- What comes of a struct of which nothing can be wrong but its cases. -/
theorem ofStruct_of_judgeCases {draft : CaseDraft}
    (hdirective : Directive.ofAttribute? (s.attributes.find? isDirective) s.name.span = .ok d)
    (hgenerics : judgeGenerics s = []) (hcases : judgeCases s (some d) d.options = .ok draft)
    (hwidth : judgeWidth d.storage draft.cases.length = []) :
    ofStruct s = .ok (if draft.diagnostics = [] then .ok (declared s d draft.cases)
      else .error draft.diagnostics) := by
  rw [ofStruct, bind_eq_ok_iff, hdirective]
  refine ⟨draft, hcases, ?_⟩
  simp only [Except.toOption, Option.map_some, Option.getD_some, hgenerics, hwidth,
    List.nil_append, List.append_nil]
  cases draft.diagnostics <;> rfl

/-- **With other cases** a struct that declares an option set declares one if nothing is wrong with
them, and otherwise what is wrong with them is all that is wrong with the struct. -/
theorem ofStruct_relisted (h : Declares s d e) (hne : vs ≠ [])
    (hnamed : ∀ v ∈ vs, isIdentifier (Words.upperSnake v.name.name.toList) = true)
    (hfits : (CaseDraft.kept [] vs).length ≤ e.variants.length) :
    ofStruct (relisted s d.options vs) = .ok (if CaseDraft.allFindings [] vs = [] then
      .ok (declared s d ((CaseDraft.kept [] vs).map (·.name)))
      else .error (CaseDraft.allFindings [] vs)) := by
  obtain ⟨draft, hdraft⟩ := CaseDraft.exists_ofVariants_iff.2 hnamed
  obtain ⟨hfindings, hkept⟩ := CaseDraft.ofVariants_spec hdraft
  have hcases : judgeCases (relisted s d.options vs) (some d) d.options = .ok draft := by
    rw [judgeCases, relisted, findSome?_relist, isCaseList_iff.1 h.listed]
    simpa [hne] using hdraft
  have hwidth : judgeWidth d.storage draft.cases.length = [] := by
    rw [hkept, List.length_map]
    exact judgeWidth_eq_nil_iff.2 fun bits hbits => Nat.le_trans hfits (h.fits bits hbits)
  have hgenerics : judgeGenerics (relisted s d.options vs) = [] :=
    judgeGenerics_eq_nil_iff.2 ⟨h.noParameters, h.noConditions⟩
  have hdirective : Directive.ofAttribute? ((relisted s d.options vs).attributes.find? isDirective)
      (relisted s d.options vs).name.span = .ok d :=
    Directive.ofAttribute?_eq_ok_iff.2 h.directed
  rw [ofStruct_of_judgeCases hdirective hgenerics hcases hwidth, declared_relisted, hfindings,
    hkept]

end

variable {s : StructWithItems} {d : Directive} {e : EnumItem} {earlier later : List Variant}
  {v u : Variant} {j : Ident}

/-- Nothing is wrong with the cases of a struct that declares an option set. -/
theorem Declares.allFindings_eq_nil (h : Declares s d e) :
    CaseDraft.allFindings [] e.variants = [] := by
  obtain ⟨draft, hdraft, hsilent⟩ := CaseDraft.exists_ofVariants_silent_iff.2 ⟨h.plain, h.named⟩
  rw [← (CaseDraft.ofVariants_spec hdraft).1, hsilent]

/-- The constants of all cases of an accepted set can be named. -/
theorem Declares.named_variants (h : Declares s d e) :
    ∀ v ∈ e.variants, isIdentifier (Words.upperSnake v.name.name.toList) = true := by
  obtain ⟨cases, hcases, -⟩ := h.named
  exact List.forall_mem_map.1 (ofIdents_eq_ok_iff.1 hcases).1

/-- **A case may be spelled anew**: the option set stays what it is. -/
theorem ofStruct_renamed (h : Declares s d e) (he : e.variants = earlier ++ v :: later)
    (hsame : Words.upperSnake j.name.toList = Words.upperSnake v.name.name.toList) :
    ofStruct (relisted s d.options (earlier ++ { v with name := j } :: later)) =
      .ok (.ok (declared s d ((e.variants.map (·.name)).set earlier.length j))) := by
  have hconstant : Variant.constant { v with name := j } = v.constant :=
    congrArg String.ofList hsame
  have hnamed := h.named_variants
  have hsilent := h.allFindings_eq_nil
  rw [he] at hnamed hsilent
  have hnames : ∀ w ∈ earlier ++ { v with name := j } :: later,
      isIdentifier (Words.upperSnake w.name.name.toList) = true := by
    rw [List.forall_mem_append, List.forall_mem_cons] at hnamed ⊢
    exact ⟨hnamed.1, hsame ▸ hnamed.2.1, hnamed.2.2⟩
  have hnone : CaseDraft.allFindings [] (earlier ++ { v with name := j } :: later) = [] := by
    rw [CaseDraft.allFindings_eq_nil_iff] at hsilent ⊢
    obtain ⟨hall, hnodup⟩ := hsilent
    rw [List.forall_mem_append, List.forall_mem_cons] at hall ⊢
    obtain ⟨hearlier, ⟨hplain, hfree⟩, hlater⟩ := hall
    refine ⟨⟨hearlier, ⟨hplain, ?_⟩, hlater⟩, ?_⟩
    · rwa [CaseDraft.IsNew, hconstant]
    · rw [List.map_append, List.map_cons] at hnodup ⊢
      rwa [hconstant]
  have hkept := CaseDraft.kept_of_allFindings_eq_nil hnone
  rw [ofStruct_relisted h (by simp) hnames (by simp [hkept, he]), if_pos hnone, hkept, he]
  simp

/-- **A case that has the constant of one before it** is told, and nothing else is. -/
theorem ofStruct_inserted (h : Declares s d e) (he : e.variants = earlier ++ later)
    (hv : v ∈ earlier)
    (hsame : Words.upperSnake u.name.name.toList = Words.upperSnake v.name.name.toList) :
    ofStruct (relisted s d.options (earlier ++ u :: later)) =
      .ok (.error (CaseDraft.shape u ++ [⟨.duplicateOption u.name.text, u.name.span⟩])) := by
  have hnamed := h.named_variants
  have hsilent := h.allFindings_eq_nil
  rw [he] at hnamed hsilent
  have hnames : ∀ w ∈ earlier ++ u :: later,
      isIdentifier (Words.upperSnake w.name.name.toList) = true := by
    rw [List.forall_mem_append] at hnamed
    rw [List.forall_mem_append, List.forall_mem_cons]
    exact ⟨hnamed.1, hsame ▸ hnamed.1 v hv, hnamed.2⟩
  have htaken : u.constant ∈ earlier.map Variant.constant :=
    List.mem_map.2 ⟨v, hv, (congrArg String.ofList hsame).symm⟩
  obtain ⟨hfindings, hkept⟩ := CaseDraft.judged_inserted hsilent htaken
  rw [ofStruct_relisted h (by simp) hnames (by simp [hkept, he]), if_neg (by simp [hfindings]),
    hfindings]

/-- **Names are stable.**  A case in ASCII keeps its constant and its stored name if it is spelled
as one of them.  So an option set with the case spelled anew is accepted as before, with the same
constants; and if a case of that spelling is added anywhere behind, this is told of it as a
duplicate, after what is wrong with its shape, and nothing else is told. -/
theorem stable_of_ofIdent {i : Ident} {position : Nat} {c : OptionCase}
    (ascii : IsAscii i.name.toList) (named : ofIdent i position = .ok c) :
    (∀ j q, c.Respells j → ∃ c', ofIdent j q = .ok c' ∧
      c'.constant.text = c.constant.text ∧ c'.wire = c.wire) ∧
    ∀ s m, ofWritten (.struct s) = .ok (.ok m) →
      ∃ d e, Declares s d e ∧ m.cases = e.variants.map (·.name) ∧
        ∀ earlier v later j, e.variants = earlier ++ v :: later → v.name = i → c.Respells j →
          (∃ m' cases cases',
            ofWritten (.struct (relisted s d.options (earlier ++ { v with name := j } :: later))) =
              .ok (.ok m') ∧ m' = { m with cases := m.cases.set earlier.length j } ∧
            OptionCase.ofIdents m.cases = .ok cases ∧ OptionCase.ofIdents m'.cases = .ok cases' ∧
            cases'.map (·.constant.text) = cases.map (·.constant.text)) ∧
          ∀ between u rest, later = between ++ rest → u.name = j →
            ofWritten (.struct (relisted s d.options (earlier ++ v :: between ++ u :: rest))) =
              .ok (.error (CaseDraft.shape u ++
                [⟨.duplicateOption u.name.text, u.name.span⟩])) := by
  obtain ⟨hid, rfl⟩ := ofIdent_eq_ok_iff.1 named
  refine ⟨fun j q hj => ofIdent_of_respells ascii named hj q, fun s m accepted => ?_⟩
  obtain ⟨d, e, h, rfl⟩ := ofStruct_eq_ok_iff.1 accepted
  refine ⟨d, e, h, rfl, ?_⟩
  rintro earlier v later j he rfl hj
  have hsame := (hj.words ascii hid).1
  constructor
  · have hrenamed := ofStruct_renamed h he hsame
    refine ⟨_, _, _, hrenamed, rfl, (accepted_of_ofWritten accepted).ofIdents,
      (accepted_of_ofWritten (w := .struct _) hrenamed).ofIdents, ?_⟩
    have hconstant : (spelled j 0).constant.text = (spelled v.name 0).constant.text :=
      congrArg String.ofList hsame
    rw [map_spelledAll _ fun _ _ => rfl, map_spelledAll _ fun _ _ => rfl]
    simp [declared, he, hconstant]
  · rintro between u rest rfl rfl
    have hlist : e.variants = (earlier ++ v :: between) ++ rest := by simp [he]
    exact ofStruct_inserted h hlist (by simp) hsame

/-- The case `IOPort2` may be spelled `io_port_2`, but there can be no `IO_PORT_2` behind it. -/
theorem stable_of_ioPort :
    (∃ m, ofWritten (.struct (relisted (structOf "u8" [.enum (enumOf ["IOPort2"])]) "Options"
      (enumOf ["io_port_2"]).variants)) = .ok (.ok m)) ∧
    ofWritten (.struct (relisted (structOf "u8" [.enum (enumOf ["IOPort2"])]) "Options"
      (enumOf ["IOPort2", "IO_PORT_2"]).variants)) =
        .ok (.error [⟨.duplicateOption "IO_PORT_2", .none⟩]) := by
  obtain ⟨c, hc, hwire, hconstant⟩ : ∃ c, ofIdent { name := "IOPort2" } 0 = .ok c ∧
      "io_port_2" = c.wire ∧ "IO_PORT_2" = c.constant.text := ⟨_, rfl, rfl, rfl⟩
  obtain ⟨m, accepted⟩ : ∃ m,
      ofWritten (.struct (structOf "u8" [.enum (enumOf ["IOPort2"])])) = .ok (.ok m) := ⟨_, rfl⟩
  obtain ⟨-, hstable⟩ := stable_of_ofIdent (by decide) hc
  obtain ⟨d, e, h, -, hcases⟩ := hstable _ m accepted
  obtain ⟨rfl, hname⟩ : e = enumOf ["IOPort2"] ∧ d.options = "Options" := by
    obtain ⟨before, behind, hitems, hname, -⟩ := h.listed
    cases before with
    | nil =>
      cases hitems
      exact ⟨rfl, hname.symm⟩
    | cons i before =>
      have hlength := congrArg List.length hitems
      simp [structOf] at hlength
  rw [hname] at hcases
  have hfirst := fun j => hcases [] _ _ j (by rfl) (by rfl)
  constructor
  · obtain ⟨⟨m', -, -, hrenamed, -⟩, -⟩ := hfirst { name := "io_port_2" } (Or.inl hwire)
    exact ⟨m', hrenamed⟩
  · obtain ⟨-, hinserted⟩ := hfirst { name := "IO_PORT_2" } (Or.inr hconstant)
    exact hinserted [] ((enumOf ["IO_PORT_2"]).variants.head (List.cons_ne_nil _ _)) [] rfl rfl

end OptionSet
end Boilerplate
