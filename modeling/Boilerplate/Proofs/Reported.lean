/-
# No declaration vanishes

`extract` of `src/decl/extract` and `expand_one` of `src/expand`; `SPEC_FULL.md` §4.2.

A directive is faulty if it is missing, is given a value, cannot be read or has invalid arguments
(`Directive.Faulty`), and each fault is a diagnostic.  A declaration that is refused has a
diagnostic at least, and the code of one that is accepted starts with its struct
(`Request.Answered`).  So declarations never expand to nothing, and `compile_error` is called for
none of them exactly if each has code (`Output.none_vanishes`).
-/

import Boilerplate.Proofs.Directive
import Boilerplate.Proofs.Record.Emitted

namespace Boilerplate

/-! ### Faults of a directive -/

/-- What can be wrong with the directive of an option set. -/
inductive Directive.Faulty : Option Attribute → Prop
  | missing : Faulty none
  /-- There is a value behind `=` in the place of arguments. -/
  | value (a : Attribute) (equals : Tokens) (v : Expr) (args : a.args = .value equals v) :
      Faulty (some a)
  | unreadable (a : Attribute) (ts : Tokens) (e : SyntaxError) (given : a.args.given? = some ts)
      (read : DirectiveArg.listOfTokens ts = .error e) : Faulty (some a)
  | invalid (a : Attribute) (ts : Tokens) (args : List DirectiveArg)
      (given : a.args.given? = some ts) (read : DirectiveArg.listOfTokens ts = .ok args)
      (wrong : (∀ t, .storage t ∉ args) ∨ ExistsAt DirectiveArg.Refused args) : Faulty (some a)

namespace Directive

variable {attr : Option Attribute} {host : Span} {why : List Diagnostic}

/-- **A directive that is not understood is a diagnostic at least.** -/
theorem ne_nil_of_ofAttribute? (h : ofAttribute? attr host = .error why) : why ≠ [] := by
  have htokens : ∀ {ts span}, ofTokens ts span = .error why → why ≠ [] := by
    intro ts span h
    unfold ofTokens at h
    split at h
    · exact ne_nil_of_ofArgs h
    · obtain rfl := Except.error.inj h
      exact List.cons_ne_nil _ _
  unfold ofAttribute? at h
  split at h
  · obtain rfl := Except.error.inj h
    exact List.cons_ne_nil _ _
  · split at h
    · exact htokens h
    · exact htokens h
    · obtain rfl := Except.error.inj h
      exact List.cons_ne_nil _ _

/-- **Every fault of a directive** is told, and nothing else is. -/
theorem exists_ofAttribute?_eq_error_iff :
    (∃ why, ofAttribute? attr host = .error why) ↔ Faulty attr := by
  cases attr with
  | none => exact iff_of_true ⟨_, rfl⟩ .missing
  | some a =>
    have hofTokens : ∀ ts, a.args.given? = some ts →
        ((∃ why, ofTokens ts a.span = .error why) ↔ Faulty (some a)) := by
      intro ts hgiven
      rw [ofTokens]
      cases hread : DirectiveArg.listOfTokens ts with
      | error e => exact iff_of_true ⟨_, rfl⟩ (.unreadable a ts e hgiven hread)
      | ok args =>
        refine exists_ofArgs_eq_error_iff.trans ⟨.invalid a ts args hgiven hread, ?_⟩
        rintro (_ | ⟨_, _, _, hvalue⟩ | ⟨_, ts', e, hgiven', hread'⟩ |
          ⟨_, ts', args', hgiven', hread', hwrong⟩)
        · rw [hvalue] at hgiven
          cases hgiven
        · obtain rfl := Option.some.inj (hgiven.symm.trans hgiven')
          cases hread.symm.trans hread'
        · obtain rfl := Option.some.inj (hgiven.symm.trans hgiven')
          obtain rfl := Except.ok.inj (hread.symm.trans hread')
          exact hwrong
    cases hargs : a.args with
    | none =>
      rw [ofAttribute?, hargs]
      exact hofTokens [] (by rw [hargs]; rfl)
    | list d ts o c =>
      rw [ofAttribute?, hargs]
      exact hofTokens ts (by rw [hargs]; rfl)
    | value equals v =>
      rw [ofAttribute?, hargs]
      exact iff_of_true ⟨_, rfl⟩ (.value a equals v hargs)

end Directive

/-! ### Declarations -/

namespace OptionSet

variable {s : StructWithItems} {ds why : List Diagnostic}

/-- A struct whose directive is not understood has the diagnostics of that before all others. -/
theorem ofStruct_of_directive
    (h : Directive.ofAttribute? (s.attributes.find? isDirective) s.name.span = .error why)
    (hcases : ∃ r, ofStruct s = .ok r) : ∃ rest, ofStruct s = .ok (.error (why ++ rest)) := by
  obtain ⟨r, hr⟩ := hcases
  have hrun := hr
  rw [ofStruct, h] at hrun
  obtain ⟨draft, -, hjudged⟩ := bind_eq_ok_iff.1 hrun
  refine ⟨judgeGenerics s ++ draft.diagnostics, hr.trans (hjudged.symm.trans ?_)⟩
  simp only [Except.toOption, Option.map_none, Option.getD_none, List.append_nil, List.append_assoc]
  rfl

/-- **A struct that is no option set** has a diagnostic. -/
theorem ne_nil_of_ofStruct (h : ofStruct s = .ok (.error ds)) : ds ≠ [] := by
  cases hdirective : Directive.ofAttribute? (s.attributes.find? isDirective) s.name.span with
  | error why =>
    obtain ⟨rest, hrest⟩ := ofStruct_of_directive hdirective ⟨_, h⟩
    obtain rfl := Except.error.inj (Except.ok.inj (h.symm.trans hrest))
    exact List.append_ne_nil_of_left_ne_nil (Directive.ne_nil_of_ofAttribute? hdirective) _
  | ok d =>
    rw [ofStruct, hdirective] at h
    obtain ⟨draft, -, hjudged⟩ := bind_eq_ok_iff.1 h
    dsimp only [Except.toOption] at hjudged
    split at hjudged
    · cases hjudged
    · rename_i hnot
      obtain rfl := Except.error.inj (Except.ok.inj hjudged)
      exact fun hnil => hnot d rfl hnil

/-- A declaration that is no option set has a diagnostic. -/
theorem ne_nil_of_ofWritten {w : WrittenSet} (h : ofWritten w = .ok (.error ds)) : ds ≠ [] := by
  cases w with
  | struct s => exact ne_nil_of_ofStruct h
  | other item =>
    obtain rfl := Except.error.inj (Except.ok.inj h)
    exact List.cons_ne_nil _ _

end OptionSet

namespace RecordDeclaration

variable {args : Tokens} {item : Item} {ds : List Diagnostic}

/-- Fields that are refused are told something of. -/
theorem ne_nil_of_ofFields {before : List Diagnostic} {s : StructItem} {fields : List Field}
    (h : ofFields before s fields = .error ds) : ds ≠ [] := by
  unfold ofFields at h
  dsimp only at h
  split at h
  · cases h
  · rename_i hnot
    obtain rfl := Except.error.inj h
    exact hnot

/-- **An item that is no record** has a diagnostic. -/
theorem ne_nil_of_ofItem (h : ofItem args item = .error ds) : ds ≠ [] := by
  cases item with
  | struct s =>
    simp only [ofItem] at h
    split at h
    · exact ne_nil_of_ofFields h
    · exact ne_nil_of_ofFields h
    · obtain rfl := Except.error.inj h
      exact List.append_ne_nil_of_right_ne_nil _ (List.cons_ne_nil _ _)
  | _ =>
    obtain rfl := Except.error.inj h
    exact List.append_ne_nil_of_right_ne_nil _ (List.cons_ne_nil _ _)

/-- Arguments are complained about before all else. -/
theorem ofItem_of_args (h : args ≠ []) :
    ∃ rest, ofItem args item = .error (refuseArguments args ++ rest) := by
  have habout : (if args.isEmpty then [] else refuseArguments args) = refuseArguments args :=
    if_neg (mt List.isEmpty_iff.1 h)
  have hrefused := mt refuseArguments_eq_nil_iff.1 h
  have hfields : ∀ s fields rest, ∃ more,
      ofFields (refuseArguments args ++ rest) s fields =
        .error (refuseArguments args ++ more) := by
    intro s fields rest
    unfold ofFields
    dsimp only
    split
    · rename_i hnil
      simp only [List.append_eq_nil_iff] at hnil
      exact absurd hnil.1.1.1 hrefused
    · exact ⟨_, by simp only [List.append_assoc]; rfl⟩
  cases item with
  | struct s =>
    simp only [ofItem, habout]
    split
    · exact hfields ..
    · exact hfields ..
    · exact ⟨_, by rw [List.append_assoc]⟩
  | _ => exact ⟨_, congrArg (fun about => Except.error (about ++ _)) habout⟩

end RecordDeclaration

/-! ### What comes of a declaration -/

/-- A struct has a token at least: its name. -/
theorem StructItem.tokens_ne_nil (s : StructItem) : s.tokens ≠ [] := by
  have hname : .ident s.name ∈ s.tokens := by simp [StructItem.tokens, StructItem.declaration]
  exact List.ne_nil_of_mem hname

namespace Request

/-- What comes of a declaration: code that starts with its struct, or a diagnostic at least. -/
inductive Answered : Request → Prop
  | optionSet (s : StructWithItems) (m : OptionSet)
      (accepted : OptionSet.ofWritten (.struct s) = .ok (.ok m)) (name : m.typeName = s.name)
      (visibility : m.visibility = s.visibility)
      (attributes : m.attributes = s.attributes.filter (!OptionSet.isDirective ·))
      (more : List Attribute) (behind : Tokens)
      (code : (Request.optionSet (.struct s)).expanded =
        .ok (.ok ({ m.rawStruct with attributes := m.attributes ++ more }.tokens ++ behind))) :
      Answered (.optionSet (.struct s))
  | record (args : Tokens) (s : StructItem) (d : RecordDeclaration)
      (accepted : RecordDeclaration.ofItem args (.struct s) = .ok d) (behind : Tokens)
      (code : (Request.record args (.struct s)).expanded =
        .ok (.ok (s.stripped.tokens ++ behind))) :
      Answered (.record args (.struct s))
  | refusedSet (w : WrittenSet) (ds : List Diagnostic)
      (refused : OptionSet.ofWritten w = .ok (.error ds)) (told : ds ≠ []) :
      Answered (.optionSet w)
  | refusedRecord (args : Tokens) (item : Item) (ds : List Diagnostic)
      (refused : RecordDeclaration.ofItem args item = .error ds) (told : ds ≠ []) :
      Answered (.record args item)

/-- The code of a declaration starts with its struct, and where there is none, it is told why. -/
theorem Nameable.answered {r : Request} (h : r.Nameable) : r.Answered := by
  obtain ⟨x, hx⟩ := h.exists_expanded
  cases r with
  | optionSet w =>
    cases x with
    | error ds =>
      have refused := expanded_optionSet_eq_failed_iff.1 hx
      exact .refusedSet w ds refused (OptionSet.ne_nil_of_ofWritten refused)
    | ok ts =>
      obtain ⟨m, accepted, hm⟩ := expanded_optionSet_eq_code_iff.1 hx
      cases w with
      | other => cases accepted
      | struct s =>
        obtain ⟨d, draft, -, -, -, -, rfl⟩ := OptionSet.ofStruct_eq_ok_iff_judged.1 accepted
        obtain ⟨_, -, hcode⟩ := bind_eq_ok_iff.1 hm
        obtain ⟨more, behind, rfl⟩ := withDeclarations_eq_ok hcode
        exact .optionSet s _ accepted rfl rfl rfl more behind hx
  | record args item =>
    cases x with
    | error ds =>
      have refused := expanded_record_eq_failed_iff.1 hx
      exact .refusedRecord args item ds refused (RecordDeclaration.ne_nil_of_ofItem refused)
    | ok ts =>
      obtain ⟨d, accepted, hd⟩ := expanded_record_eq_code_iff.1 hx
      cases item with
      | struct s =>
        obtain ⟨-, fields, -, rfl⟩ :=
          RecordDeclaration.ofItem_struct_eq_ok_iff_declares.1 accepted
        obtain ⟨_, -, hcode⟩ := bind_eq_ok_iff.1 hd
        obtain ⟨missing, hbehind⟩ := withDeclarations_of_implementations s.stripped
          fun t ht => RecordDeclaration.means_of_mem_provides ht
        obtain rfl := Except.ok.inj (hcode.symm.trans hbehind)
        exact .record args s _ accepted _ hx
      | _ => cases accepted

/-- A declaration has code, or there is a diagnostic. -/
theorem Nameable.told {r : Request} (h : r.Nameable) :
    (∃ ts, ts ≠ [] ∧ r.expanded = .ok (.ok ts)) ∨ ∃ ds, ds ≠ [] ∧ r.expanded = .ok (.error ds) := by
  rcases h.answered with ⟨s, m, accepted, _, _, _, more, behind, code⟩ |
    ⟨args, s, d, accepted, behind, code⟩ | ⟨w, ds, refused, told⟩ | ⟨args, item, ds, refused, told⟩
  · exact Or.inl ⟨_, List.append_ne_nil_of_left_ne_nil (StructItem.tokens_ne_nil _) _, code⟩
  · exact Or.inl ⟨_, List.append_ne_nil_of_left_ne_nil (StructItem.tokens_ne_nil _) _, code⟩
  · exact Or.inr ⟨ds, told, expanded_optionSet_eq_failed_iff.2 refused⟩
  · exact Or.inr ⟨ds, told, expanded_record_eq_failed_iff.2 refused⟩

end Request

/-! ### What comes of many -/

/-- A call of `compile_error` is code. -/
theorem compileError_ne_nil (message : String) : compileError message ≠ [] :=
  List.append_ne_nil_of_right_ne_nil _ (List.cons_ne_nil _ _)

/-- Each diagnostic is a call of `compile_error`. -/
theorem Report.compileErrors_eq_nil_iff {r : Report} :
    r.compileErrors = [] ↔ r.diagnostics = [] := by
  rw [compileErrors, List.flatMap_eq_nil_iff, List.eq_nil_iff_forall_not_mem]
  exact forall₂_congr fun d _ => iff_of_false (compileError_ne_nil _) id

namespace Output

open Request

variable {o : Output} {r : Request} {rs : List Request}

/-- **One declaration** leaves something, and calls of `compile_error` exactly if it has no code. -/
theorem told_of_yields (hr : r.Nameable) (h : r.Yields o) :
    o.tokens ≠ [] ∧ (o.report.diagnostics = [] ↔ ∃ ts, r.expanded = .ok (.ok ts)) := by
  rcases yields_iff.1 h with ⟨ts, hts, rfl⟩ | ⟨ds, hds, rfl⟩
  · rcases hr.told with ⟨us, hus, hcode⟩ | ⟨ds, -, hfailed⟩
    · obtain rfl := Except.ok.inj (Except.ok.inj (hts.symm.trans hcode))
      exact ⟨List.append_ne_nil_of_left_ne_nil hus _, iff_of_true rfl ⟨_, hts⟩⟩
    · cases hts.symm.trans hfailed
  · rcases hr.told with ⟨us, -, hcode⟩ | ⟨_, htold, hfailed⟩
    · cases hds.symm.trans hcode
    · obtain rfl := Except.error.inj (Except.ok.inj (hds.symm.trans hfailed))
      refine ⟨List.append_ne_nil_of_right_ne_nil _ (mt Report.compileErrors_eq_nil_iff.1 htold),
        iff_of_false htold ?_⟩
      rintro ⟨ts, hts⟩
      cases hds.symm.trans hts

/-- **No declaration vanishes** among others. -/
theorem told_of_forall₂ {os : List Output} (hrs : ∀ r ∈ rs, r.Nameable)
    (h : List.Forall₂ Yields rs os) :
    (rs ≠ [] → (joined os).tokens ≠ []) ∧
      ((joined os).report.diagnostics = [] ↔ ∀ r ∈ rs, ∃ ts, r.expanded = .ok (.ok ts)) := by
  induction h with
  | nil => exact ⟨fun h => absurd rfl h, iff_of_true rfl nofun⟩
  | cons hyields hmore ih =>
    obtain ⟨hr, hrs⟩ := List.forall_mem_cons.1 hrs
    obtain ⟨htokens, hdiagnostics⟩ := told_of_yields hr hyields
    refine ⟨fun _ hnil => htokens ?_, ?_⟩
    · simp only [tokens, Report.compileErrors, joined, List.flatMap_cons, List.flatMap_append,
        List.append_eq_nil_iff] at hnil ⊢
      exact ⟨hnil.1.1, hnil.2.1⟩
    · rw [List.forall_mem_cons, ← hdiagnostics, ← (ih hrs).2]
      exact List.append_eq_nil_iff

/-- **No declaration vanishes.**  If all names can be put together, the code of a declaration that
is accepted starts with its struct, and one that is refused has a diagnostic.  Each fault of a
directive and any arguments of a record are among the diagnostics.  So option sets never expand to
nothing, and no `compile_error` is called exactly if each of them has been expanded. -/
theorem none_vanishes :
    (∀ r : Request, r.Nameable → r.Answered) ∧
    (∀ s : StructWithItems, (optionSet (.struct s)).Nameable →
      Directive.Faulty (s.attributes.find? OptionSet.isDirective) → ∃ why rest, why ≠ [] ∧
        Directive.ofAttribute? (s.attributes.find? OptionSet.isDirective) s.name.span =
          .error why ∧
        OptionSet.ofWritten (.struct s) = .ok (.error (why ++ rest))) ∧
    (∀ args item, args ≠ [] → refuseArguments args ≠ [] ∧
      ∃ rest, RecordDeclaration.ofItem args item = .error (refuseArguments args ++ rest)) ∧
    ∀ ts written, WrittenSet.listOfTokens ts = .ok written → written ≠ [] →
      (∀ w ∈ written, (optionSet w).Nameable) →
      ∃ o, ofRequests (written.map .optionSet) = .ok o ∧
        ofOptionSets ts = .ok (o.generated ++ o.report.compileErrors) ∧
        o.generated ++ o.report.compileErrors ≠ [] ∧
        (o.report.compileErrors = [] ↔ ∀ w ∈ written, ∃ m code,
          OptionSet.ofWritten w = .ok (.ok m) ∧ m.expanded = .ok code) := by
  refine ⟨fun r hr => hr.answered, fun s hs hfaulty => ?_, fun args item hargs =>
    ⟨mt refuseArguments_eq_nil_iff.1 hargs, RecordDeclaration.ofItem_of_args hargs⟩,
    fun ts written hread hne hnameable => ?_⟩
  · obtain ⟨why, hwhy⟩ := Directive.exists_ofAttribute?_eq_error_iff.2 hfaulty
    obtain ⟨rest, hrest⟩ :=
      OptionSet.ofStruct_of_directive hwhy (OptionSet.exists_ofWritten_iff.2 hs)
    exact ⟨why, rest, Directive.ne_nil_of_ofAttribute? hwhy, hwhy, hrest⟩
  · have hrequests : ∀ r ∈ written.map optionSet, r.Nameable := List.forall_mem_map.2 hnameable
    obtain ⟨o, ho⟩ := exists_ofRequests_iff.2 fun r hr => (hrequests r hr).exists_expanded
    obtain ⟨os, hos, rfl⟩ := ofRequests_eq_ok_iff.1 ho
    obtain ⟨htokens, hdiagnostics⟩ := told_of_forall₂ hrequests hos
    refine ⟨_, ho, (ofOptionSets_eq_ok_iff hread).2 ⟨_, ho, rfl⟩,
      htokens (mt List.map_eq_nil_iff.1 hne), ?_⟩
    rw [Report.compileErrors_eq_nil_iff, hdiagnostics, List.forall_mem_map]
    refine forall₂_congr fun w _ => ?_
    simp only [expanded_optionSet_eq_code_iff]
    exact exists_comm

/-- Arguments of a record are told, as is a missing directive, and a set with one case is there. -/
theorem none_vanishes_of_one :
    oneCase.Answered ∧ (record (named "a") (oneField "a")).Answered ∧
    (∃ why rest, why ≠ [] ∧ OptionSet.ofWritten (.struct { OptionSet.structOf "u8" [] with
      attributes := [] }) = .ok (.error (why ++ rest))) ∧
    (∃ ds, ds ≠ [] ∧ RecordDeclaration.ofItem (named "a") (oneField "a") = .error ds) ∧
    ∃ out, ofOptionSets (oneCaseEach ["Read"]) = .ok out ∧ out ≠ [] := by
  have hcase : oneCase.Nameable := OptionSet.exists_ofWritten_iff.1 ⟨_, rfl⟩
  have hfield : (record (named "a") (oneField "a")).Nameable := by
    have hname : isIdentifier "a".toList = true := isIdentifier_of_isPlainName (by decide)
    exact fun i hi => List.mem_singleton.1 hi ▸ hname
  have hbare : (optionSet (.struct
      { OptionSet.structOf "u8" [] with attributes := [] })).Nameable :=
    OptionSet.exists_ofWritten_iff.1 ⟨_, rfl⟩
  obtain ⟨hanswered, hfaults, harguments, hsets⟩ := none_vanishes
  obtain ⟨why, rest, hwhy, -, hmissing⟩ := hfaults _ hbare .missing
  obtain ⟨hrefused, more, hrecord⟩ := harguments (named "a") (oneField "a") nofun
  refine ⟨hanswered _ hcase, hanswered _ hfield, ⟨why, rest, hwhy, hmissing⟩,
    ⟨_, List.append_ne_nil_of_left_ne_nil hrefused more, hrecord⟩, ?_⟩
  have hparsed : caseNames? (oneCaseEach ["Read"]) = some ["Read"] := by decide +kernel
  obtain ⟨written, hread, hnames⟩ := mem_caseNames_iff hparsed
  obtain ⟨w, hw, -⟩ := (hnames "Read").2 (by simp)
  have hnameable : ∀ w ∈ written, (optionSet w).Nameable := by
    intro w hw v hv
    rw [List.mem_singleton.1 ((hnames _).1 ⟨w, hw, v, hv, rfl⟩)]
    exact isIdentifier_of_isPlainName (by decide)
  obtain ⟨o, -, hout, hne, -⟩ := hsets _ written hread (List.ne_nil_of_mem hw) hnameable
  exact ⟨_, hout, hne⟩

end Output
end Boilerplate
