/-
# What arguments come to

`DirectiveOpts::parse` of `src/decl/args`; `SPEC_FULL.md` §4.1.

The arguments of an option set's directive are judged one behind the other, but what comes of them
can be said without that.  Every storage type behind the first is a problem, a named argument is a
problem by itself or not at all (`DirectiveArg.complaint?`), and a storage type must be there: these
are the problems that are told, in some order.  Where there are none, the directive has the storage
type that is given, and the last of the names that are given for the enum that lists the cases
(`Directive.ofArgs_spec`).

So the order of the arguments does not matter, unless the enum is named more than once
(`Directive.ofArgs_of_perm`).
-/

import Boilerplate.Directive
import Mathlib.Data.List.Induction

namespace Boilerplate

namespace DirectiveArg

/-- The storage type that an argument gives. -/
def storage? : DirectiveArg → Option TypeExpr
  | .storage t => some t
  | .named .. => none

/-- What stands behind `options =` in an argument. -/
def options? : DirectiveArg → Option Expr
  | .storage _ => none
  | .named name value => if name.text = "options" then some value else none

/-- The name that an argument gives to the enum that lists the cases, and the place of it. -/
def list? (arg : DirectiveArg) : Option (String × Span) :=
  arg.options?.bind fun value => value.stringLiteral?.map fun s => (s, value.tokens.span)

/-- What is wrong with an argument by itself. -/
def complaint? : DirectiveArg → Option Problem
  | .storage _ => none
  | .named name value =>
    if name.text ≠ "options" then some (.unknownArgument name.text)
    else if value.stringLiteral? = none then some (.expectedStringLiteral "options")
    else none

/-- What is said of a storage type behind another one. -/
def surplus : Problem := .malformedDirective "only one raw storage type may be given"

/-- What is wrong with arguments, but for a storage type that is missing. -/
def complaints (args : List DirectiveArg) : List Problem :=
  (args.filterMap storage?).tail.map (fun _ => surplus) ++ args.filterMap complaint?

/-- What is wrong with arguments, in some order. -/
def problems (args : List DirectiveArg) : List Problem :=
  complaints args ++
    if (args.filterMap storage?).isEmpty then [.requiresOptionsEnumRawType] else []

variable {args args' : List DirectiveArg}

/-- The names that arguments give are the texts that they give for `options`. -/
theorem filterMap_list?_eq : args.filterMap list? = (args.filterMap options?).filterMap
    fun value => value.stringLiteral?.map fun s => (s, value.tokens.span) := by
  rw [List.filterMap_filterMap]
  rfl

/-- What is given for `options` stands behind that name. -/
theorem mem_filterMap_options? {value : Expr} : value ∈ args.filterMap options? ↔
    ∃ name, .named name value ∈ args ∧ name.text = "options" := by
  rw [List.mem_filterMap]
  constructor
  · rintro ⟨arg, hmem, harg⟩
    cases arg with
    | storage t => cases harg
    | named name v =>
      obtain ⟨hname, hv⟩ := Option.ite_none_right_eq_some.1 harg
      exact ⟨name, Option.some.inj hv ▸ hmem, hname⟩
  · rintro ⟨name, hmem, hname⟩
    exact ⟨_, hmem, if_pos hname⟩

/-- One more argument adds what is wrong with it, among the complaints. -/
theorem complaints_concat (arg : DirectiveArg) : (complaints (args ++ [arg])).Perm
    (complaints args ++ (if (args.filterMap storage?).head?.isSome && arg.storage?.isSome then
      [surplus] else []) ++ arg.complaint?.toList) := by
  have hsurplus : ((args ++ [arg]).filterMap storage?).tail.map (fun _ => surplus) =
      (args.filterMap storage?).tail.map (fun _ => surplus) ++
        (if (args.filterMap storage?).head?.isSome && arg.storage?.isSome then
          [surplus] else []) := by
    rw [List.filterMap_append]
    cases args.filterMap storage? <;> cases harg : arg.storage? <;> simp [harg]
  have hcomplaint : [arg].filterMap complaint? = arg.complaint?.toList := by
    cases harg : arg.complaint? <;> simp [harg]
  rw [complaints, complaints, hsurplus, List.filterMap_append, hcomplaint]
  simp only [List.append_assoc]
  -- What is said of storage types stands before what is said of named arguments.
  rw [← List.append_assoc _ (args.filterMap complaint?), ← List.append_assoc (args.filterMap _)]
  exact (List.perm_append_comm.append_right _).append_left _

/-- Problems are the same in any order of the arguments. -/
theorem problems_perm (h : args.Perm args') : (problems args).Perm (problems args') := by
  have hstorage := h.filterMap storage?
  have hsurplus : (args.filterMap storage?).tail.map (fun _ => surplus) =
      (args'.filterMap storage?).tail.map (fun _ => surplus) := by
    rw [List.map_const', List.map_const', List.length_tail, List.length_tail, hstorage.length_eq]
  rw [problems, problems, complaints, complaints, hsurplus, hstorage.isEmpty_eq]
  exact ((h.filterMap complaint?).append_left _).append_right _

/-- Nothing is wrong with arguments for `options` whose values are texts. -/
theorem filterMap_complaint?_eq_nil_iff : args.filterMap complaint? = [] ↔
    ∀ name value, .named name value ∈ args →
      name.text = "options" ∧ ∃ s, value.stringLiteral? = some s := by
  have hnamed : ∀ name value, (named name value).complaint? = none ↔
      name.text = "options" ∧ ∃ s, value.stringLiteral? = some s := by
    intro name value
    rw [complaint?, ← Option.ne_none_iff_exists']
    by_cases hname : name.text = "options" <;> simp [hname]
  rw [List.filterMap_eq_nil_iff]
  refine ⟨fun h name value hmem => (hnamed name value).1 (h _ hmem), fun h arg hmem => ?_⟩
  cases arg with
  | storage t => rfl
  | named name value => exact (hnamed name value).2 (h name value hmem)

/-- **Nothing is wrong with arguments** that give one storage type and texts for `options`. -/
theorem problems_eq_nil_iff : problems args = [] ↔
    (∃ t, args.filterMap storage? = [t]) ∧ ∀ name value, .named name value ∈ args →
      name.text = "options" ∧ ∃ s, value.stringLiteral? = some s := by
  rw [problems, complaints, List.append_eq_nil_iff, List.append_eq_nil_iff,
    filterMap_complaint?_eq_nil_iff, and_right_comm]
  refine and_congr_left fun _ => ?_
  cases args.filterMap storage? with
  | nil => simp
  | cons t ts => simp

end DirectiveArg

/-! ### One more argument -/

namespace DirectiveDraft

open DirectiveArg

variable (d : DirectiveDraft) (arg : DirectiveArg)

/-- The name of the enum that lists the cases, and the place of it. -/
def list : String × Span := (d.options, d.optionsSpan)

/-- The first storage type that is given counts. -/
theorem storage_add : (d.add arg).storage = d.storage.or arg.storage? := by
  cases arg with
  | storage t => cases hd : d.storage <;> simp [add, hd, complain, storage?]
  | named name value =>
    simp only [add, storage?, Option.or_none]
    split
    · split <;> rfl
    · rfl

/-- The last name that is given for the enum counts. -/
theorem list_add : (d.add arg).list = arg.list?.getD d.list := by
  cases arg with
  | storage t =>
    simp only [add, list?, options?, Option.bind_none, Option.getD_none]
    split <;> rfl
  | named name value =>
    by_cases hname : name.text = "options"
    · cases hvalue : value.stringLiteral? <;>
        simp [add, list?, options?, list, hname, hvalue, complain]
    · simp [add, list?, options?, list, hname, complain]

/-- What one more argument adds to the problems: a storage type behind the first is one, and any
other argument is judged by itself. -/
theorem problems_add : (d.add arg).diagnostics.map (·.problem) = d.diagnostics.map (·.problem) ++
    (if d.storage.isSome && arg.storage?.isSome then [surplus] else []) ++
      arg.complaint?.toList := by
  cases arg with
  | storage t =>
    cases hd : d.storage <;> simp [add, hd, complain, storage?, complaint?, surplus]
  | named name value =>
    by_cases hname : name.text = "options"
    · cases hvalue : value.stringLiteral? <;>
        simp [add, storage?, complaint?, hname, hvalue, complain]
    · simp [add, storage?, complaint?, hname, complain]

/-- The draft with another name for the enum that lists the cases. -/
def renamed (l : String × Span) : DirectiveDraft := { d with options := l.1, optionsSpan := l.2 }

variable {d arg}

/-- What gives a name for the enum does nothing else. -/
theorem add_of_list? {l : String × Span} (h : arg.list? = some l) : d.add arg = d.renamed l := by
  cases arg with
  | storage t => cases h
  | named name value =>
    by_cases hname : name.text = "options"
    · cases hvalue : value.stringLiteral? with
      | none => simp [list?, options?, hname, hvalue] at h
      | some s =>
        obtain rfl : (s, value.tokens.span) = l := by simpa [list?, options?, hname, hvalue] using h
        simp [add, renamed, hname, hvalue]
    · simp [list?, options?, hname] at h

/-- An argument that does not name the enum is added in the same way, whatever name was given
before. -/
theorem add_renamed (l : String × Span) (h : arg.list? = none) :
    (d.renamed l).add arg = (d.add arg).renamed l := by
  cases arg with
  | storage t => cases hd : d.storage <;> simp [add, renamed, complain, hd]
  | named name value =>
    by_cases hname : name.text = "options"
    · cases hvalue : value.stringLiteral? with
      | none => simp [add, renamed, complain, hname, hvalue]
      | some s => simp [list?, options?, hname, hvalue] at h
    · simp [add, renamed, complain, hname]

/-- **A name for the enum counts for nothing** before another one. -/
theorem foldl_add_renamed (l : String × Span) {behind : List DirectiveArg}
    (h : ∃ later ∈ behind, later.list?.isSome = true) :
    behind.foldl DirectiveDraft.add (d.renamed l) = behind.foldl DirectiveDraft.add d := by
  induction behind generalizing d with
  | nil => simp at h
  | cons arg behind ih =>
    rw [List.foldl_cons, List.foldl_cons]
    cases harg : arg.list? with
    | none =>
      rw [add_renamed l harg]
      refine ih ?_
      simpa [harg] using h
    | some l' =>
      rw [add_of_list? harg, add_of_list? harg]
      rfl

/-- A draft behind these arguments, if that started with the given name for the enum. -/
structure Judged (start : String × Span) (args : List DirectiveArg) (d : DirectiveDraft) :
    Prop where
  storage : d.storage = (args.filterMap storage?).head?
  list : d.list = (args.filterMap list?).getLast?.getD start
  problems : (d.diagnostics.map (·.problem)).Perm (complaints args)

/-- **One more argument** is judged behind the others. -/
theorem Judged.add {start : String × Span} {args : List DirectiveArg} {d : DirectiveDraft}
    (h : d.Judged start args) (arg : DirectiveArg) : (d.add arg).Judged start (args ++ [arg]) where
  storage := by
    rw [storage_add, h.storage, List.filterMap_append, List.head?_append]
    cases harg : arg.storage? <;> simp [harg]
  list := by
    rw [list_add, h.list, List.filterMap_append, List.getLast?_append]
    cases harg : arg.list? <;> simp [harg]
  problems := by
    rw [problems_add, h.storage]
    exact ((h.problems.append_right _).append_right _).trans (complaints_concat arg).symm

/-- Once all arguments are added, a draft is judged by all of them. -/
theorem judged_foldl_add {start : String × Span} {d : DirectiveDraft} (h : d.Judged start [])
    (args : List DirectiveArg) : (args.foldl DirectiveDraft.add d).Judged start args := by
  induction args using List.reverseRecOn with
  | nil => exact h
  | append_singleton args arg ih =>
    rw [List.foldl_append]
    exact ih.add arg

end DirectiveDraft

/-! ### All arguments -/

/-- All that is told, if anything is. -/
def Diagnostic.ofResult {α : Type} : Except (List Diagnostic) α → List Diagnostic
  | .ok _ => []
  | .error ds => ds

namespace Directive

open DirectiveArg

/-- The problems that are told, if any. -/
def told {α : Type} : Except (List Diagnostic) α → List Problem
  | .ok _ => []
  | .error ds => ds.map (·.problem)

/-- What is told are the problems of the diagnostics. -/
theorem told_eq {α : Type} (r : Except (List Diagnostic) α) :
    told r = (Diagnostic.ofResult r).map (·.problem) := by
  cases r <;> rfl

variable {args args' : List DirectiveArg} {span : Span} {d : Directive}

/-- **What comes of arguments**: a directive if nothing is wrong with them, and else what is. -/
theorem ofArgs_spec (args : List DirectiveArg) (span : Span) :
    (told (ofArgs args span)).Perm (problems args) ∧
      ∀ d, ofArgs args span = .ok d ↔ problems args = [] ∧ args.filterMap storage? = [d.storage] ∧
        (d.options, d.optionsSpan) =
          (args.filterMap list?).getLast?.getD (defaultOptions, span) := by
  have hstart : DirectiveDraft.Judged (defaultOptions, span) []
      { options := defaultOptions, optionsSpan := span } := ⟨rfl, rfl, List.Perm.nil⟩
  obtain ⟨hstorage, hlist, hproblems⟩ := DirectiveDraft.judged_foldl_add hstart args
  rw [ofArgs]
  generalize args.foldl DirectiveDraft.add _ = draft at hstorage hlist hproblems ⊢
  split
  · rename_i hnone
    have hgiven : args.filterMap storage? = [] := List.head?_eq_none_iff.1 (hstorage ▸ hnone)
    refine ⟨?_, fun d => iff_of_false nofun ?_⟩
    · simp only [told, DirectiveDraft.complain, List.map_append, problems, hgiven]
      exact hproblems.append_right _
    · rw [hgiven]
      exact fun h => List.cons_ne_nil _ _ h.2.1.symm
  · rename_i storage hsome hsilent
    have hcomplaints : complaints args = [] := List.nil_perm.1 (by simpa [hsilent] using hproblems)
    obtain ⟨rest, hgiven⟩ : ∃ rest, args.filterMap storage? = storage :: rest :=
      List.head?_eq_some_iff.1 (hstorage ▸ hsome)
    obtain rfl : rest = [] := by
      rw [complaints, hgiven, List.append_eq_nil_iff] at hcomplaints
      exact List.map_eq_nil_iff.1 hcomplaints.1
    have hnil : problems args = [] := by simp [problems, hcomplaints, hgiven]
    refine ⟨by rw [hnil]; exact List.Perm.nil, fun d => ?_⟩
    rw [hgiven, and_iff_right hnil, ← hlist]
    cases d
    simp [DirectiveDraft.list, eq_comm]
  · rename_i storage hsome hnot
    obtain ⟨rest, hgiven⟩ : ∃ rest, args.filterMap storage? = storage :: rest :=
      List.head?_eq_some_iff.1 (hstorage ▸ hsome)
    have htold : (told (α := Directive) (.error draft.diagnostics)).Perm (problems args) := by
      simpa [told, problems, hgiven] using hproblems
    refine ⟨htold, fun d => iff_of_false nofun fun h => hnot ?_⟩
    exact List.map_eq_nil_iff.1 (List.perm_nil.1 (h.1 ▸ htold))

/-- Arguments make a directive if nothing is wrong with them. -/
theorem exists_ofArgs_eq_ok_iff (span : Span) :
    (∃ d, ofArgs args span = .ok d) ↔ problems args = [] := by
  obtain ⟨-, hok⟩ := ofArgs_spec args span
  refine ⟨fun ⟨d, hd⟩ => ((hok d).1 hd).1, fun hnil => ?_⟩
  obtain ⟨⟨t, ht⟩, -⟩ := problems_eq_nil_iff.1 hnil
  exact ⟨⟨t, _, _⟩, (hok _).2 ⟨hnil, ht, rfl⟩⟩

/-- An enum that is named once at most is named so in any order of the arguments. -/
theorem filterMap_list?_of_perm (h : args.Perm args')
    (once : (args.filterMap options?).length ≤ 1) :
    args.filterMap list? = args'.filterMap list? := by
  have hperm := h.filterMap options?
  rw [filterMap_list?_eq, filterMap_list?_eq]
  match hargs : args.filterMap options?, once with
  | [], _ =>
    rw [hargs] at hperm
    rw [hperm.nil_eq]
  | [value], _ =>
    rw [hargs] at hperm
    rw [List.singleton_perm.1 hperm]

/-- **Of several names for the enum the last one counts**, and any other is as if it were not
there. -/
theorem ofArgs_eq_of_later {before behind : List DirectiveArg} {arg : DirectiveArg}
    (h : arg.list?.isSome = true) (hlater : ∃ later ∈ behind, later.list?.isSome = true)
    (span : Span) : ofArgs (before ++ behind) span = ofArgs (before ++ arg :: behind) span := by
  obtain ⟨l, hl⟩ := Option.isSome_iff_exists.1 h
  simp only [ofArgs, List.foldl_append, List.foldl_cons, DirectiveDraft.add_of_list? hl,
    DirectiveDraft.foldl_add_renamed l hlater]

/-- **The order of arguments does not matter.**  Arguments, as they are read, make a directive
exactly if one of them is a storage type and each other one is a text for `options`.  Whatever their
order, the problems that are told are these: one for each storage type but the first, one for each
other value of `options` and for each argument of another name, and one if there is no storage type.
If `options` is given once at most, the directive is the same in any order. -/
theorem ofArgs_of_perm (h : args.Perm args') (span : Span) :
    (∀ ts, listOfTokens ts = .ok args → ofTokens ts span = ofArgs args span) ∧
    ((∃ d, ofArgs args span = .ok d) ↔ (∃ t, args.filterMap storage? = [t]) ∧
      ∀ name value, .named name value ∈ args →
        name.text = "options" ∧ ∃ s, value.stringLiteral? = some s) ∧
    (told (ofArgs args span)).Perm (problems args) ∧
    (told (ofArgs args' span)).Perm (problems args) ∧
    ((args.filterMap options?).length ≤ 1 →
      ∀ d, ofArgs args span = .ok d ↔ ofArgs args' span = .ok d) := by
  obtain ⟨htold, hok⟩ := ofArgs_spec args span
  obtain ⟨htold', hok'⟩ := ofArgs_spec args' span
  refine ⟨fun ts hread => by rw [ofTokens, hread], ?_, htold,
    htold'.trans (problems_perm h).symm, fun once d => ?_⟩
  · rw [exists_ofArgs_eq_ok_iff, problems_eq_nil_iff]
  · have hperm := problems_perm h
    have hnil : problems args = [] ↔ problems args' = [] :=
      ⟨fun hn => List.nil_perm.1 (hn ▸ hperm), fun hn => List.perm_nil.1 (hn ▸ hperm)⟩
    have hstorage : args.filterMap storage? = [d.storage] ↔
        args'.filterMap storage? = [d.storage] := by
      rw [← List.perm_singleton, ← List.perm_singleton]
      exact (h.filterMap storage?).congr_left _
    rw [hok, hok', hnil, hstorage, filterMap_list?_of_perm h once]

/-- The arguments `u8` and `options = "Kind"`. -/
def storageAndName : List DirectiveArg :=
  [.storage ⟨.path ⟨false, [{ name := { name := "u8" } }], named "u8"⟩, named "u8"⟩,
    .named { name := "options" } ⟨.literal { kind := .string, text := "\"Kind\"" }, quoted "Kind"⟩]

/-- The name may stand before the storage type. -/
theorem ofArgs_storageAndName_swapped : ∃ d, ofArgs storageAndName .none = .ok d ∧
    ofArgs storageAndName.reverse .none = .ok d ∧
    d.options = "Kind" ∧ d.storage.bits? = some 8 := by
  obtain ⟨-, -, -, -, hsame⟩ := ofArgs_of_perm (List.reverse_perm storageAndName).symm .none
  obtain ⟨d, hd, hname, hbits⟩ : ∃ d, ofArgs storageAndName .none = .ok d ∧ d.options = "Kind" ∧
      d.storage.bits? = some 8 := ⟨_, rfl, rfl, rfl⟩
  exact ⟨d, hd, (hsame (by decide) d).1 hd, hname, hbits⟩

end Directive
end Boilerplate
