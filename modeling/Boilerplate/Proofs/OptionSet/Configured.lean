/-
# What a directive configures

`extract_flag_list` of `src/decl/extract`; `SPEC_FULL.md` §4.1.

The first directive of a struct gives the storage type and the name of the enum that is looked for
as the list of cases.  A directive with which anything is wrong gives no name, even if one is
written: then an enum `Options` is looked for (`OptionSet.lookedFor_of_args`).  That the list of
cases is missing is told exactly if there is no enum of the name that is looked for
(`OptionSet.reports_requiresOptionsEnum_iff`), which need not be the name that is written.

Of all that is written in directives, not everything counts: those behind the first are not read
(`OptionSet.ofStruct_eq_of_first`), and of several names in one directive the last one counts
(`Directive.ofArgs_eq_of_later`).
-/

import Boilerplate.Proofs.Arguments
import Boilerplate.Proofs.OptionSet.Declares

namespace Boilerplate

open DirectiveArg

/-- Whether the body of a struct has an enum of the name. -/
def StructWithItems.HasEnum (s : StructWithItems) (name : String) : Prop :=
  ∃ e, .enum e ∈ s.items ∧ e.name.text = name

/-- Whether the problem is one of a directive's arguments. -/
def Problem.isOfArguments : Problem → Bool
  | .requiresOptionsEnumRawType | .expectedStringLiteral _ | .unknownArgument _
  | .malformedDirective _ => true
  | _ => false

namespace OptionSet

variable {s : StructWithItems} {p : Problem} {k n : String}

/-! ### What is told of a struct -/

/-- What comes of the first directive of a struct. -/
def firstDirective (s : StructWithItems) : Except (List Diagnostic) Directive :=
  Directive.ofAttribute? (s.attributes.find? isDirective) s.name.span

/-- The name of the enum that is looked for as the list of cases. -/
def lookedFor (s : StructWithItems) : String :=
  ((firstDirective s).toOption.map (·.options)).getD Directive.defaultOptions

/-- Whether a struct is refused with this problem, among others. -/
def Reports (s : StructWithItems) (p : Problem) : Prop :=
  ∃ ds, ofWritten (.struct s) = .ok (.error ds) ∧ p ∈ ds.map (·.problem)

/-- All that is wrong with a struct whose cases have been judged. -/
def diagnostics (s : StructWithItems) (draft : CaseDraft) : List Diagnostic :=
  Diagnostic.ofResult (firstDirective s) ++ judgeGenerics s ++ draft.diagnostics ++
    ((firstDirective s).toOption.map fun d => judgeWidth d.storage draft.cases.length).getD []

/-- **All that is wrong with a struct is told** once its cases are judged. -/
theorem map_ofResult_ofStruct : (ofStruct s).map Diagnostic.ofResult =
    (judgeCases s (firstDirective s).toOption (lookedFor s)).map (diagnostics s) := by
  simp only [ofStruct, lookedFor, firstDirective]
  cases judgeCases s _ _ with
  | error bad => rfl
  | ok draft =>
    simp only [bind, Except.bind, Except.map, diagnostics, firstDirective]
    cases Directive.ofAttribute? (s.attributes.find? isDirective) s.name.span with
    | error why => rfl
    | ok d =>
      simp only [Except.toOption, Option.map_some, Option.getD_some, Diagnostic.ofResult,
        List.nil_append]
      -- What is accepted has nothing wrong with it.
      cases judgeGenerics s ++ draft.diagnostics ++ judgeWidth d.storage draft.cases.length <;> rfl

/-- What is reported of a set, as what its struct is found to have. -/
theorem reports_iff : Reports s p ↔ ∃ draft,
    judgeCases s (firstDirective s).toOption (lookedFor s) = .ok draft ∧
      p ∈ (diagnostics s draft).map (·.problem) := by
  have hresult : Reports s p ↔
      ∃ ds, (ofStruct s).map Diagnostic.ofResult = .ok ds ∧ p ∈ ds.map (·.problem) := by
    simp only [Reports, ofWritten, map_eq_ok_iff]
    constructor
    · rintro ⟨ds, hds, hp⟩
      exact ⟨ds, ⟨_, hds, rfl⟩, hp⟩
    · rintro ⟨ds, ⟨r, hr, rfl⟩, hp⟩
      cases r with
      | ok m => cases hp
      | error ds => exact ⟨ds, hr, hp⟩
  simp only [hresult, map_ofResult_ofStruct, map_eq_ok_iff]
  constructor
  · rintro ⟨_, ⟨draft, hdraft, rfl⟩, hp⟩
    exact ⟨draft, hdraft, hp⟩
  · rintro ⟨draft, hdraft, hp⟩
    exact ⟨_, ⟨draft, hdraft, rfl⟩, hp⟩

/-! ### What a directive is refused with -/

/-- Whatever is told of the arguments is a problem of arguments. -/
theorem isOfArguments_of_mem_told_ofArgs {args : List DirectiveArg} {span : Span}
    (h : p ∈ Directive.told (Directive.ofArgs args span)) : p.isOfArguments = true := by
  rw [(Directive.ofArgs_spec args span).1.mem_iff, DirectiveArg.problems, complaints] at h
  simp only [List.mem_append, List.mem_map, List.mem_filterMap] at h
  rcases h with (⟨_, -, rfl⟩ | ⟨arg, -, harg⟩) | hmissing
  · rfl
  · cases arg with
    | storage t => cases harg
    | named name value =>
      rw [complaint?] at harg
      split at harg
      · cases harg
        rfl
      · split at harg <;> cases harg
        rfl
  · split at hmissing
    · cases List.mem_singleton.1 hmissing
      rfl
    · cases hmissing

/-- **A directive is refused** for its arguments. -/
theorem isOfArguments_of_mem_told (h : p ∈ Directive.told (firstDirective s)) :
    p.isOfArguments = true := by
  have htokens : ∀ ts span,
      p ∈ Directive.told (Directive.ofTokens ts span) → p.isOfArguments = true := by
    intro ts span h
    unfold Directive.ofTokens at h
    split at h
    · exact isOfArguments_of_mem_told_ofArgs h
    · cases List.mem_singleton.1 h
      rfl
  unfold firstDirective Directive.ofAttribute? at h
  split at h
  · cases List.mem_singleton.1 h
    rfl
  · split at h
    · exact htokens _ _ h
    · exact htokens _ _ h
    · cases List.mem_singleton.1 h
      rfl

/-! ### What a missing list of cases is told by -/

/-- No case is about the list of cases. -/
theorem not_mem_allFindings {before vs : List Variant} :
    .requiresOptionsEnum k ∉ (CaseDraft.allFindings before vs).map (·.problem) := by
  induction vs generalizing before with
  | nil => simp [CaseDraft.allFindings]
  | cons v vs ih =>
    rw [CaseDraft.allFindings, List.map_append, List.mem_append, not_or]
    refine ⟨?_, ih⟩
    simp only [CaseDraft.findings, CaseDraft.shape, List.map_append, List.mem_append, not_or]
    refine ⟨⟨?_, ?_⟩, ?_⟩
    · split <;> simp
    · split <;> simp
    · split
      · simp
      · split <;> simp

/-- **A missing list of cases** is told by the name that is looked for. -/
theorem reports_requiresOptionsEnum_iff :
    Reports s (.requiresOptionsEnum k) ↔ k = lookedFor s ∧ ¬ s.HasEnum k := by
  have hgenerics : .requiresOptionsEnum k ∉ (judgeGenerics s).map (·.problem) := by
    unfold judgeGenerics
    split <;> simp
  have hdirective : .requiresOptionsEnum k ∉ Directive.told (firstDirective s) :=
    fun h => Bool.false_ne_true (isOfArguments_of_mem_told h)
  have hwidth : ∀ count, .requiresOptionsEnum k ∉ (((firstDirective s).toOption.map fun d =>
      judgeWidth d.storage count).getD []).map (·.problem) := by
    intro count
    cases (firstDirective s).toOption with
    | none => simp
    | some d =>
      simp only [Option.map_some, Option.getD_some, judgeWidth]
      split
      · split <;> simp
      · simp
  have habsent : s.items.findSome? (caseList? (lookedFor s)) = none ↔
      ¬ s.HasEnum (lookedFor s) := by
    simp only [List.findSome?_eq_none_iff, caseList?_eq_none_iff, StructWithItems.HasEnum,
      not_exists, not_and]
    exact ⟨fun h e he => h _ he e rfl, fun h i hi e he => h e (he ▸ hi)⟩
  rw [reports_iff]
  simp only [diagnostics, List.map_append, List.mem_append, ← Directive.told_eq, hdirective,
    hgenerics, hwidth, false_or, or_false]
  unfold judgeCases
  cases hfind : s.items.findSome? (caseList? (lookedFor s)) with
  | none =>
    have hno := habsent.1 hfind
    simp only [Except.ok.injEq, exists_eq_left', List.map_cons, List.map_nil, List.mem_singleton,
      noCaseList, Problem.requiresOptionsEnum.injEq]
    exact (and_iff_left_of_imp fun hk => hk ▸ hno).symm
  | some e =>
    refine iff_of_false ?_ ?_
    · rintro ⟨draft, hdraft, hmem⟩
      dsimp only at hdraft
      split at hdraft
      · obtain rfl := Except.ok.inj hdraft
        simp at hmem
      · rw [(CaseDraft.ofVariants_spec hdraft).1] at hmem
        exact not_mem_allFindings hmem
    · rintro ⟨rfl, hno⟩
      rw [habsent.2 hno] at hfind
      cases hfind

end OptionSet

/-! ### The name that is looked for -/

/-- Whether arguments name the enum that lists the cases so: by one text, or not at all. -/
def DirectiveArg.Names (args : List DirectiveArg) (n : String) : Prop :=
  args.filterMap options? = [] ∧ n = Directive.defaultOptions ∨
    ∃ value, args.filterMap options? = [value] ∧ value.stringLiteral? = some n

variable {a : Attribute} {ts : Tokens} {args : List DirectiveArg} {s : StructWithItems}
  {n : String}

/-- An attribute whose arguments can be read is a directive if they make one. -/
theorem Directive.ofAttribute?_of_args (given : a.args.given? = some ts)
    (read : DirectiveArg.listOfTokens ts = .ok args) (host : Span) :
    Directive.ofAttribute? (some a) host = Directive.ofArgs args a.span := by
  have htokens : Directive.ofTokens ts a.span = Directive.ofArgs args a.span := by
    rw [Directive.ofTokens, read]
  rw [← htokens, Directive.ofAttribute?]
  cases hargs : a.args with
  | none =>
    rw [hargs] at given
    rw [← Option.some.inj given]
  | list delimiter tokens opening closing =>
    rw [hargs] at given
    rw [← Option.some.inj given]
  | value equals value =>
    rw [hargs] at given
    cases given

namespace OptionSet

/-- **The name that is looked for** is the one that is given, if nothing is wrong with the
arguments. -/
theorem lookedFor_of_args (first : s.attributes.find? isDirective = some a)
    (given : a.args.given? = some ts) (read : DirectiveArg.listOfTokens ts = .ok args)
    (names : DirectiveArg.Names args n) :
    lookedFor s = if DirectiveArg.problems args = [] then n else Directive.defaultOptions := by
  rw [lookedFor, firstDirective, first, Directive.ofAttribute?_of_args given read]
  cases hd : Directive.ofArgs args a.span with
  | error why =>
    have hnot : DirectiveArg.problems args ≠ [] := by
      rw [ne_eq, ← Directive.exists_ofArgs_eq_ok_iff a.span, hd]
      simp
    rw [if_neg hnot]
    rfl
  | ok d =>
    obtain ⟨hnil, -, hlist⟩ := ((Directive.ofArgs_spec args a.span).2 d).1 hd
    rw [if_pos hnil]
    change d.options = n
    rw [DirectiveArg.filterMap_list?_eq] at hlist
    rcases names with ⟨hnone, rfl⟩ | ⟨value, hvalue, htext⟩
    · rw [hnone] at hlist
      exact congrArg Prod.fst hlist
    · simp only [hvalue, List.filterMap_cons, htext, Option.map_some] at hlist
      exact congrArg Prod.fst hlist

/-- **When a missing list of cases is told.**  Let the arguments of the first directive be read, and
let them name the enum that lists the cases by one text, or else not at all.  If there is nothing
wrong with the arguments, it is told that the list is missing exactly if no enum has that name.  But
if anything is wrong with them, it is told exactly if there is no enum `Options`, and of no other
name.  So what is told goes by the name that is given exactly if nothing is wrong with the
arguments, or the name is `Options`, or there are enums of both names. -/
theorem missing_list_of_args (first : s.attributes.find? isDirective = some a)
    (given : a.args.given? = some ts) (read : DirectiveArg.listOfTokens ts = .ok args)
    (names : DirectiveArg.Names args n) :
    (∀ k, Reports s (.requiresOptionsEnum k) ↔
      k = (if DirectiveArg.problems args = [] then n else "Options") ∧ ¬ s.HasEnum k) ∧
    ((∀ k, Reports s (.requiresOptionsEnum k) ↔ k = n ∧ ¬ s.HasEnum n) ↔
      DirectiveArg.problems args = [] ∨ n = "Options" ∨ s.HasEnum n ∧ s.HasEnum "Options") := by
  have hreports : ∀ k, Reports s (.requiresOptionsEnum k) ↔
      k = (if DirectiveArg.problems args = [] then n else "Options") ∧ ¬ s.HasEnum k := by
    intro k
    rw [reports_requiresOptionsEnum_iff, lookedFor_of_args first given read names]
    rfl
  refine ⟨hreports, ?_⟩
  simp only [hreports]
  by_cases hvalid : DirectiveArg.problems args = []
  · rw [if_pos hvalid]
    exact iff_of_true (fun k => and_congr_right fun hk => hk ▸ Iff.rfl) (Or.inl hvalid)
  rw [if_neg hvalid, or_iff_right hvalid]
  by_cases hname : n = "Options"
  · rw [hname]
    exact iff_of_true (fun k => and_congr_right fun hk => hk ▸ Iff.rfl) (Or.inl rfl)
  rw [or_iff_right hname]
  constructor
  · intro h
    refine ⟨?_, ?_⟩
    · by_contra hno
      exact hname ((h n).2 ⟨rfl, hno⟩).1
    · by_contra hno
      exact hname ((h "Options").1 ⟨rfl, hno⟩).1.symm
  · rintro ⟨hgiven, hdefault⟩ k
    exact iff_of_false (fun ⟨hk, hno⟩ => hno (hk ▸ hdefault)) fun ⟨_, hno⟩ => hno hgiven

/-- A struct with an enum `Kind`, which its directive names, but without a storage type. -/
def kindWithoutStorage : StructWithItems :=
  { structOf "" [.enum { enumOf ["A"] with name := { name := "Kind" } }] with
    attributes := [{
      mark := [.punct '#' .alone .none]
      path := ⟨false, [{ name := { name := directiveName } }], named directiveName⟩
      args := .list .parenthesis (named "options" ++ [.punct '=' .alone .none] ++ quoted "Kind")
        .none .none
      opening := .none
      closing := .none }] }

/-- Of `kindWithoutStorage` it is told that there is no enum `Options`, though `Kind` is named. -/
theorem not_missing_kindWithoutStorage : kindWithoutStorage.HasEnum "Kind" ∧
    Reports kindWithoutStorage (.requiresOptionsEnum "Options") ∧
    ¬ ∀ k, Reports kindWithoutStorage (.requiresOptionsEnum k) ↔
      k = "Kind" ∧ ¬ kindWithoutStorage.HasEnum "Kind" := by
  obtain ⟨a, ts, args, first, given, read, names, hinvalid⟩ : ∃ a ts args,
      kindWithoutStorage.attributes.find? isDirective = some a ∧ a.args.given? = some ts ∧
      DirectiveArg.listOfTokens ts = .ok args ∧ DirectiveArg.Names args "Kind" ∧
      DirectiveArg.problems args ≠ [] :=
    ⟨_, _, _, rfl, rfl, rfl, Or.inr ⟨_, rfl, rfl⟩, by decide⟩
  obtain ⟨htold, hexact⟩ := missing_list_of_args first given read names
  have hkind : kindWithoutStorage.HasEnum "Kind" := ⟨_, List.mem_singleton_self _, rfl⟩
  have hoptions : ¬ kindWithoutStorage.HasEnum "Options" := by
    rintro ⟨e, he, hname⟩
    cases List.mem_singleton.1 he
    revert hname
    decide
  refine ⟨hkind, (htold "Options").2 ⟨(if_neg hinvalid).symm, hoptions⟩, fun hall => ?_⟩
  rcases hexact.1 hall with hvalid | hname | ⟨-, hdefault⟩
  · exact hinvalid hvalid
  · revert hname
    decide
  · exact hoptions hdefault

end OptionSet

/-! ### What counts of all that is written -/

/-- The arguments of an attribute, as far as they can be read. -/
def Attribute.directiveArgs (a : Attribute) : List DirectiveArg :=
  match a.args.given? with
  | some ts => (DirectiveArg.listOfTokens ts).toOption.getD []
  | none => []

/-- The arguments of all directives of a struct. -/
def StructWithItems.directiveArgs (s : StructWithItems) : List DirectiveArg :=
  (s.attributes.filter OptionSet.isDirective).flatMap Attribute.directiveArgs

/-- The arguments of a directive are what they are read as. -/
theorem Attribute.directiveArgs_of_read (given : a.args.given? = some ts)
    (read : DirectiveArg.listOfTokens ts = .ok args) : a.directiveArgs = args := by
  rw [directiveArgs, given]
  simp only [read]
  rfl

namespace OptionSet

/-- **Only the first directive counts.**  The others are as if they were not there. -/
theorem ofStruct_eq_of_first (first : s.attributes.find? isDirective = some a) :
    ofStruct { s with attributes := a :: s.attributes.filter (!isDirective ·) } = ofStruct s := by
  have hdirective : isDirective a = true := List.find?_some first
  have hfind : (a :: s.attributes.filter (!isDirective ·)).find? isDirective = some a :=
    List.find?_cons_of_pos hdirective
  have hfilter : (a :: s.attributes.filter (!isDirective ·)).filter (!isDirective ·) =
      s.attributes.filter (!isDirective ·) := by
    simp [hdirective]
  simp only [ofStruct, hfind, hfilter, first]
  rfl

/-- Whether all that the directives of a struct say counts in an option set whose cases the enum
lists: there is one directive, with the storage type of the option set and no other, and no name but
that of the enum, once at most. -/
structure SaidOnce (s : StructWithItems) (m : OptionSet) (e : EnumItem) : Prop where
  directive : (s.attributes.filter isDirective).length = 1
  storage : s.directiveArgs.filterMap storage? = [m.storage]
  options : s.directiveArgs.filterMap options? = [] ∨
    ∃ value, s.directiveArgs.filterMap options? = [value] ∧
      value.stringLiteral? = some e.name.text

/-- A set is said once if there is one directive and it names the enum at most once. -/
theorem saidOnce_iff {m : OptionSet} {e : EnumItem} {others : List Attribute}
    (hothers : s.attributes.filter isDirective = a :: others)
    (hstorage : a.directiveArgs.filterMap storage? = [m.storage])
    (hname : ∀ value, a.directiveArgs.filterMap options? = [value] →
      value.stringLiteral? = some e.name.text) :
    SaidOnce s m e ↔ others = [] ∧ (a.directiveArgs.filterMap options?).length ≤ 1 := by
  constructor
  · rintro ⟨hdirective, -, hoptions⟩
    rw [hothers, List.length_cons] at hdirective
    obtain rfl : others = [] := List.length_eq_zero_iff.1 (Nat.succ.inj hdirective)
    rw [StructWithItems.directiveArgs, hothers, List.flatMap_singleton] at hoptions
    refine ⟨rfl, ?_⟩
    rcases hoptions with hnone | ⟨value, hvalue, -⟩
    · simp [hnone]
    · simp [hvalue]
  · rintro ⟨rfl, honce⟩
    have hargs : s.directiveArgs = a.directiveArgs := by
      rw [StructWithItems.directiveArgs, hothers, List.flatMap_singleton]
    refine ⟨by rw [hothers]; rfl, hargs ▸ hstorage, ?_⟩
    · rw [hargs]
      match hvalues : a.directiveArgs.filterMap options?, honce with
      | [], _ => exact Or.inl rfl
      | [value], _ => exact Or.inr ⟨value, rfl, hname value hvalues⟩

/-- **What counts of all that is written in directives.**  Of an accepted struct, the first
directive has one storage type, which is that of the option set, and all other arguments are texts
for `options`; the last of them, or else `Options`, is the name of the enum that lists the cases.
Any other directive, and any text for `options` but the last, counts for nothing, and is not
complained about.  So nothing is passed over exactly if there is one directive and one such text at
most. -/
theorem counted_of_ofWritten {written : WrittenSet} {m : OptionSet}
    (accepted : ofWritten written = .ok (.ok m)) :
    ∃ s e a others, written = .struct s ∧ m.cases = e.variants.map (·.name) ∧
      s.attributes.filter isDirective = a :: others ∧
      a.directiveArgs.filterMap storage? = [m.storage] ∧
      (∀ name value, .named name value ∈ a.directiveArgs →
        name.text = "options" ∧ ∃ text, value.stringLiteral? = some text) ∧
      IsCaseList (((a.directiveArgs.filterMap list?).getLast?.map (·.1)).getD "Options") s.items e ∧
      ofWritten (.struct { s with attributes := a :: s.attributes.filter (!isDirective ·) }) =
        .ok (.ok m) ∧
      (∀ before arg behind, a.directiveArgs = before ++ arg :: behind → arg.list?.isSome = true →
        (∃ later ∈ behind, later.list?.isSome = true) →
        Directive.ofArgs (before ++ behind) a.span = Directive.ofArgs a.directiveArgs a.span) ∧
      (SaidOnce s m e ↔ others = [] ∧ (a.directiveArgs.filterMap options?).length ≤ 1) := by
  cases written with
  | other => cases accepted
  | struct s =>
    obtain ⟨d, e, h, rfl⟩ := ofStruct_eq_ok_iff.1 accepted
    obtain ⟨a, ts, first, given, hd⟩ := h.directed
    obtain ⟨args, read, hd⟩ : ∃ args, DirectiveArg.listOfTokens ts = .ok args ∧
        Directive.ofArgs args a.span = .ok d := by
      rw [Directive.ofTokens] at hd
      split at hd
      · exact ⟨_, ‹_›, hd⟩
      · cases hd
    obtain ⟨hnil, hstorage, hlist⟩ := ((Directive.ofArgs_spec args a.span).2 d).1 hd
    have hargs := Attribute.directiveArgs_of_read given read
    have hnamed := (DirectiveArg.problems_eq_nil_iff.1 hnil).2
    have hoptions : d.options =
        ((args.filterMap list?).getLast?.map (·.1)).getD Directive.defaultOptions := by
      have := congrArg Prod.fst hlist
      cases hlast : (args.filterMap list?).getLast? <;> simpa [hlast] using this
    obtain ⟨others, hothers⟩ : ∃ others, s.attributes.filter isDirective = a :: others :=
      List.head?_eq_some_iff.1 (by rw [List.head?_filter, first])
    refine ⟨s, e, a, others, rfl, rfl, hothers, ?_, ?_, ?_, ?_, ?_, ?_⟩
    · rw [hargs]
      exact hstorage
    · rw [hargs]
      exact hnamed
    · rw [hargs]
      exact hoptions ▸ h.listed
    · exact (ofStruct_eq_of_first first).trans accepted
    · intro before arg behind hsplit harg hlater
      rw [hsplit]
      exact Directive.ofArgs_eq_of_later harg hlater a.span
    · refine saidOnce_iff hothers (hargs ▸ hstorage) fun value hvalue => ?_
      rw [hargs] at hvalue
      obtain ⟨name, hmem, -⟩ := mem_filterMap_options?.1 (hvalue ▸ List.mem_singleton_self value)
      obtain ⟨-, text, htext⟩ := hnamed name value hmem
      obtain ⟨_, _, -, hlisted, -⟩ := h.listed
      rw [hlisted, hoptions, DirectiveArg.filterMap_list?_eq, hvalue]
      simp [htext]

/-- A struct with two directives, for storage of one and of two bytes. -/
def twiceDirected : StructWithItems :=
  { structOf "u8" [.enum (enumOf ["A"])] with
    attributes := (structOf "u8" []).attributes ++ (structOf "u16" []).attributes }

/-- Of the directives of `twiceDirected` the second is passed over. -/
theorem not_saidOnce_twiceDirected : ∃ m e, ofWritten (.struct twiceDirected) = .ok (.ok m) ∧
    m.storage.bits? = some 8 ∧ m.cases = e.variants.map (·.name) ∧
    ¬ SaidOnce twiceDirected m e := by
  obtain ⟨m, accepted, fixed⟩ : ∃ m, ofWritten (.struct twiceDirected) = .ok (.ok m) ∧
      m.storage.bits? = some 8 := ⟨_, rfl, rfl⟩
  obtain ⟨s, e, a, others, hs, hcases, hothers, -, -, -, -, -, hexact⟩ :=
    counted_of_ofWritten accepted
  obtain rfl := WrittenSet.struct.inj hs
  refine ⟨m, e, accepted, fixed, hcases, fun honce => ?_⟩
  obtain ⟨rfl, -⟩ := hexact.1 honce
  have htwo : (twiceDirected.attributes.filter isDirective).length = 2 := rfl
  rw [hothers] at htwo
  cases htwo

end OptionSet
end Boilerplate
