/-
# When expansion comes to an end

`src/expand` and `Ident::new`; `SPEC_FULL.md` §10 (no panics on user input).

Names that are put together may be no identifiers, and then nothing comes out at all, not even what
was expanded before.  Setters, slots, kinds of keys and derived traits always have proper names, so
records come to an end (`RecordDeclaration.exists_expanded_of_ofItem`, `Output.exists_ofRecord`).
An option set does exactly if each of its cases has a constant
(`Request.exists_expanded_optionSet_iff`), and a text exactly if all of its option sets do
(`Output.exists_ofOptionSets_iff`).
-/

import Boilerplate.Output
import Boilerplate.Proofs.OptionSet.Code
import Boilerplate.Proofs.Record.Code
import Boilerplate.Proofs.Record.Declares

namespace Boilerplate

/-! ### Records -/

/-- The names of an item's fields. -/
def Item.fieldNames : Item → List Ident
  | .struct s =>
    match s.fields with
    | .named fields _ _ => fields.filterMap (·.name)
    | _ => []
  | _ => []

/-- The names of a struct's fields are the names that can be seen. -/
theorem Item.fieldNames_struct {s : StructItem} {fields : List Field}
    (h : s.fields.ofRecord? = some fields) :
    (Item.struct s).fieldNames = fields.filterMap (·.name) := by
  unfold Fields.ofRecord? at h
  unfold Item.fieldNames
  cases hs : s.fields <;> simp_all

namespace RecordDeclaration

/-- A declared record has no other fields than its item. -/
theorem name_mem_of_ofItem {args : Tokens} {item : Item} {d : RecordDeclaration}
    (h : ofItem args item = .ok d) : ∀ f ∈ d.fields, f.name ∈ item.fieldNames := by
  cases item with
  | struct s =>
    obtain ⟨-, fields, hdeclares, rfl⟩ := ofItem_struct_eq_ok_iff_declares.1 h
    intro f hf
    obtain ⟨field, hfield, hstored⟩ := List.mem_filterMap.1 hf
    rw [Item.fieldNames_struct hdeclares.shape]
    exact List.mem_filterMap.2 ⟨field, hfield, Field.name_of_stored? hstored⟩
  | _ => cases h

/-- Numbers and what tells an alias go on with an identifier. -/
theorem isContinue_of_mem_slot {s : Slot} :
    ∀ c ∈ (Nat.repr s.field ++ s.suffix).toList, Unicode.isContinue c = true := by
  intro c hc
  rw [String.toList_append, List.mem_append] at hc
  rcases hc with hc | hc
  · exact isContinue_of_mem_repr hc
  · unfold Slot.suffix at hc
    split at hc
    · exact absurd hc List.not_mem_nil
    · rw [String.toList_append, List.mem_append] at hc
      rcases hc with hc | hc
      · have hlegacy : "_legacy".toList.all isPlain = true := by decide
        exact isContinue_of_isPlain (List.all_eq_true.1 hlegacy c hc)
      · exact isContinue_of_mem_repr hc

/-- The names that a record puts together are identifiers if those of its fields are. -/
theorem isIdentifier_of_mem_computedNames {d : RecordDeclaration}
    (h : ∀ f ∈ d.fields, isIdentifier f.name.name.toList = true) :
    ∀ name ∈ d.computedNames, isIdentifier name.toList = true := by
  have hbehind : ∀ {before behind : String}, isIdentifier before.toList = true →
      (∀ c ∈ behind.toList, Unicode.isContinue c = true) →
      isIdentifier (before ++ behind).toList = true := by
    intro before behind hbefore hbehind
    rw [String.toList_append]
    exact isIdentifier_append hbefore hbehind
  intro name hname
  simp only [computedNames, List.mem_append, List.mem_map, List.mem_flatMap] at hname
  rcases hname with (⟨f, hf, rfl⟩ | ⟨e, -, rfl⟩) | ⟨p, -, s, -, rfl⟩
  · have hfield := h f (List.mem_of_mem_filter hf)
    exact hbehind (isIdentifier_of_isPlainName (by decide)) (isContinue_of_isIdentifier hfield)
  · rw [Slot.keyName, String.append_assoc]
    exact hbehind (isIdentifier_of_isPlainName (by decide)) isContinue_of_mem_slot
  · rw [Slot.variableName, String.append_assoc]
    exact hbehind (isIdentifier_of_isPlainName (by decide)) isContinue_of_mem_slot

/-- **A declared record is expanded** if the names of its item's fields are identifiers. -/
theorem exists_expanded_of_ofItem {args : Tokens} {item : Item} {d : RecordDeclaration}
    (accepted : ofItem args item = .ok d)
    (hnames : ∀ i ∈ item.fieldNames, isIdentifier i.name.toList = true) :
    ∃ ts, d.expanded = .ok ts := by
  have hcomputed := isIdentifier_of_mem_computedNames fun f hf =>
    hnames f.name (name_mem_of_ofItem accepted f hf)
  obtain ⟨names, hok⟩ := Ident.exists_mapM_ofString hcomputed
  obtain ⟨ts, hts⟩ := exists_withDeclarations (s := d.cleaned)
    fun _ hd => derivesNamed_of_mem_declarations hd
  exact ⟨ts, bind_eq_ok_iff.2 ⟨names, hok, hts⟩⟩

end RecordDeclaration

/-! ### Texts -/

namespace Request

/-- An option set is expanded, or something is found wrong with it, if each of its cases has a
constant. -/
theorem exists_expanded_optionSet_iff {w : WrittenSet} :
    (∃ r, (optionSet w).expanded = .ok r) ↔
      ∀ v ∈ w.judgedCases, isIdentifier (Words.upperSnake v.name.name.toList) = true := by
  rw [← OptionSet.exists_ofWritten_iff]
  simp only [expanded, bind_eq_ok_iff]
  constructor
  · rintro ⟨r, judged, hjudged, -⟩
    exact ⟨judged, hjudged⟩
  · rintro ⟨judged, hjudged⟩
    cases judged with
    | error ds => exact ⟨_, _, hjudged, rfl⟩
    | ok m =>
      obtain ⟨ts, hts⟩ := (OptionSet.accepted_of_ofWritten hjudged).exists_expanded
      exact ⟨_, _, hjudged, bind_eq_ok_iff.2 ⟨ts, hts, rfl⟩⟩

/-- A record is expanded, or something is found wrong with it. -/
theorem exists_expanded_record (args : Tokens) {item : Item}
    (hnames : ∀ i ∈ item.fieldNames, isIdentifier i.name.toList = true) :
    ∃ r, (record args item).expanded = .ok r := by
  simp only [expanded]
  cases hjudged : RecordDeclaration.ofItem args item with
  | error ds => exact ⟨_, rfl⟩
  | ok d =>
    obtain ⟨ts, hts⟩ := RecordDeclaration.exists_expanded_of_ofItem hjudged hnames
    exact ⟨_, bind_eq_ok_iff.2 ⟨ts, hts, rfl⟩⟩

end Request

namespace Output

/-- One more declaration comes to an end if it is expanded or something is found wrong with it. -/
theorem exists_add_iff {o : Output} {r : Request} :
    (∃ o', o.add r = .ok o') ↔ ∃ x, r.expanded = .ok x := by
  simp only [add, bind_eq_ok_iff]
  constructor
  · rintro ⟨o', x, hx, -⟩
    exact ⟨x, hx⟩
  · rintro ⟨x, hx⟩
    cases x with
    | ok ts => exact ⟨_, _, hx, rfl⟩
    | error ds => exact ⟨_, _, hx, rfl⟩

/-- **Declarations** come to an end if each of them does. -/
theorem exists_ofRequests_iff {rs : List Request} :
    (∃ o, ofRequests rs = .ok o) ↔ ∀ r ∈ rs, ∃ x, r.expanded = .ok x :=
  exists_foldlM_eq_ok_iff (f := Output.add) fun _ _ => exists_add_iff

/-- A text of option sets that can be read. -/
theorem ofOptionSets_eq_ok_iff {ts out : Tokens} {written : List WrittenSet}
    (hread : WrittenSet.listOfTokens ts = .ok written) :
    ofOptionSets ts = .ok out ↔
      ∃ o, ofRequests (written.map .optionSet) = .ok o ∧ out = o.tokens := by
  rw [ofOptionSets, hread]
  simp only [bind_eq_ok_iff]
  exact exists_congr fun o => and_congr_right fun _ => ⟨fun h => (Except.ok.inj h).symm,
    fun h => congrArg Except.ok h.symm⟩

/-- A text of option sets comes to an end if each of their cases has a constant. -/
theorem exists_ofOptionSets_iff {ts : Tokens} {written : List WrittenSet}
    (hread : WrittenSet.listOfTokens ts = .ok written) :
    (∃ out, ofOptionSets ts = .ok out) ↔ ∀ w ∈ written, ∀ v ∈ w.judgedCases,
      isIdentifier (Words.upperSnake v.name.name.toList) = true := by
  have hrequests : (∃ out, ofOptionSets ts = .ok out) ↔
      ∃ o, ofRequests (written.map .optionSet) = .ok o := by
    simp only [ofOptionSets_eq_ok_iff hread]
    exact ⟨fun ⟨_, o, ho, _⟩ => ⟨o, ho⟩, fun ⟨o, ho⟩ => ⟨_, o, ho, rfl⟩⟩
  rw [hrequests, exists_ofRequests_iff, List.forall_mem_map]
  exact forall₂_congr fun w _ => Request.exists_expanded_optionSet_iff

/-- A record comes to an end if the names of its item's fields are identifiers. -/
theorem exists_ofRecord (args : Tokens) {item : Item}
    (hnames : ∀ i ∈ item.fieldNames, isIdentifier i.name.toList = true) :
    ∃ out, ofRecord args item = .ok out := by
  obtain ⟨x, hx⟩ := Request.exists_expanded_record args hnames
  obtain ⟨o, ho⟩ := exists_ofRequests_iff.2 fun r hr => by
    rw [List.mem_singleton.1 hr]
    exact ⟨x, hx⟩
  exact ⟨_, bind_eq_ok_iff.2 ⟨o, ho, rfl⟩⟩

/-- **When expansion comes to an end.**  For a text of option sets it does exactly if the text
cannot be read or every case that is judged can be named: a letter or a mark follows the leading
underscores.  One case that cannot takes everything with it, what was expanded before included.  Any
record comes to an end.  Names are supposed to be the identifiers that they were read as. -/
theorem returns_iff (ts args : Tokens) (item : Item) (i : Ident) (position : Nat)
    (cases : ∀ written, WrittenSet.listOfTokens ts = .ok written → ∀ w ∈ written,
      ∀ v ∈ w.judgedCases, isIdentifier v.name.name.toList = true)
    (fields : ∀ j ∈ item.fieldNames, isIdentifier j.name.toList = true)
    (case : isIdentifier i.name.toList = true) :
    ((∃ out, ofOptionSets ts = .ok out) ↔
      ∀ written, WrittenSet.listOfTokens ts = .ok written → ∀ w ∈ written,
        ∀ v ∈ w.judgedCases, CaseNameable v.name.name.toList) ∧
    (∃ out, ofRecord args item = .ok out) ∧
    ((∃ c, OptionCase.ofIdent i position = .ok c) ↔ CaseNameable i.name.toList) := by
  refine ⟨?_, exists_ofRecord args fields, OptionCase.exists_ofIdent_iff case⟩
  cases hread : WrittenSet.listOfTokens ts with
  | error why => exact iff_of_true ⟨_, by rw [ofOptionSets, hread]; rfl⟩ nofun
  | ok written =>
    have hcases : (∃ out, ofOptionSets ts = .ok out) ↔
        ∀ w ∈ written, ∀ v ∈ w.judgedCases, CaseNameable v.name.name.toList := by
      rw [exists_ofOptionSets_iff hread]
      refine forall₂_congr fun w hw => forall₂_congr fun v hv => ?_
      rw [← OptionCase.exists_ofIdent_iff_isIdentifier 0]
      exact OptionCase.exists_ofIdent_iff (cases written hread w hw v hv)
    rw [hcases]
    exact ⟨fun h _ heq => Except.ok.inj heq ▸ h, fun h => h written rfl⟩

/-- A text with an option set for each of the names, which has one case of that name. -/
def oneCaseEach (names : List String) : Tokens :=
  names.flatMap fun name =>
    [.punct '#' .alone .none,
      .group .bracket (named "option_set" ++ parens (named "u8")) .none .none] ++
      named "struct" ++ named "Set" ++
      braces (named "enum" ++ named "Options" ++ braces (named name))

/-- A struct with a field of that name. -/
def oneField (name : String) : Item :=
  let field : Field := {
    attributes := []
    visibility := []
    name := some { name }
    colon := [.punct ':' .alone .none]
    type := { shape := .other, tokens := named "u8" }
    separator := [] }
  .struct {
    attributes := []
    visibility := []
    keyword := named "struct"
    name := { name := "Record" }
    generics := {}
    whereClause := []
    fields := .named [field] .none .none
    semicolon := [] }

/-- The names of all cases that are judged in a text, if it can be read. -/
def caseNames? (ts : Tokens) : Option (List String) :=
  (WrittenSet.listOfTokens ts).toOption.map (·.flatMap (·.judgedCases.map (·.name.name)))

/-- What a text has cases for. -/
theorem mem_caseNames_iff {ts : Tokens} {names : List String} (h : caseNames? ts = some names) :
    ∃ written, WrittenSet.listOfTokens ts = .ok written ∧
      ∀ name, (∃ w ∈ written, ∃ v ∈ w.judgedCases, v.name.name = name) ↔ name ∈ names := by
  unfold caseNames? at h
  cases hread : WrittenSet.listOfTokens ts with
  | error why =>
    rw [hread] at h
    cases h
  | ok written =>
    rw [hread] at h
    refine ⟨written, rfl, fun name => ?_⟩
    rw [← Option.some.inj h]
    simp only [List.mem_flatMap, List.mem_map]

/-- The case `_1` cannot be named, and so nothing comes out for the case `Read` either; no such
thing happens to a field `_1`. -/
theorem returns_of_number :
    (¬ ∃ out, ofOptionSets (oneCaseEach ["Read", "_1"]) = .ok out) ∧
    (∃ out, ofRecord [] (oneField "_1") = .ok out) ∧
    ¬ ∃ c, OptionCase.ofIdent { name := "_1" } 0 = .ok c := by
  have hplain : ∀ name ∈ ["Read", "_1"], isPlainName name.toList = true := by decide
  have hidentifiers : ∀ name ∈ ["Read", "_1"], isIdentifier name.toList = true :=
    fun name hname => isIdentifier_of_isPlainName (hplain name hname)
  have hnumber : ¬ CaseNameable "_1".toList := by
    rintro ⟨c, cs, hcs, hor⟩
    cases hcs
    revert hor
    decide +kernel
  have hparsed : caseNames? (oneCaseEach ["Read", "_1"]) = some ["Read", "_1"] := by decide +kernel
  obtain ⟨written, hread, hnames⟩ := mem_caseNames_iff hparsed
  obtain ⟨hwritten, hrecord, hcase⟩ := returns_iff (oneCaseEach ["Read", "_1"]) [] (oneField "_1")
    { name := "_1" } 0
    (fun _ heq w hw v hv => hidentifiers _ ((hnames _).1
      ⟨w, Except.ok.inj (heq.symm.trans hread) ▸ hw, v, hv, rfl⟩))
    (fun j hj => List.mem_singleton.1 hj ▸ hidentifiers "_1" (by simp))
    (hidentifiers "_1" (by simp))
  refine ⟨fun hout => ?_, hrecord, fun hout => hnumber (hcase.1 hout)⟩
  obtain ⟨w, hw, v, hv, hname⟩ := (hnames "_1").2 (by simp)
  exact hnumber (hname ▸ hwritten.1 hout written hread w hw v hv)

end Output
end Boilerplate
