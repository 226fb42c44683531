/-
# What the arguments of a field come to

The arguments of a field's directive are added one behind the other, attribute by attribute, and
reading an attribute can end in the middle of it.  What comes of them can be said without that: the
field is skipped if some argument says so, its default is the last one that is given, its former
keys are all that are given, in their order (`FieldSettings.ofArgs`), and every argument is wrong by
itself or not at all (`FieldArg.complaint?`).

So what the attributes of a field say is put together from what each of them says, and only that a
skipped field has former keys shows in all of them taken together (`FieldSettings.ofAttributes_eq`).
-/

import Boilerplate.FieldSettings
import Mathlib.Data.List.Basic

namespace Boilerplate

namespace FieldArg

/-- Whether the argument is `skip`. -/
def isSkip : FieldArg → Bool
  | skip => true
  | _ => false

/-- The default that an argument gives. -/
def default? : FieldArg → Option Expr
  | default e => some e
  | _ => none

/-- The former key that an argument gives, if it is a text. -/
def formerKey? : FieldArg → Option FormerKey
  | legacy e => e.stringLiteral?.map fun key => ⟨key, e.tokens.span⟩
  | _ => none

/-- What is wrong with an argument. -/
def complaint? : FieldArg → Option Diagnostic
  | legacy e =>
    if e.stringLiteral?.isNone then some ⟨.expectedStringLiteral "legacy", e.tokens.span⟩ else none
  | unknown name span => some ⟨.unknownArgument name, span⟩
  | _ => none

/-- An argument is wrong in one of two ways. -/
theorem problem_of_complaint? {x : FieldArg} {f : Diagnostic} (h : x.complaint? = some f) :
    f.problem = .expectedStringLiteral "legacy" ∨ ∃ name, f.problem = .unknownArgument name := by
  cases x with
  | skip => cases h
  | default e => cases h
  | unknown name span =>
    cases h
    exact Or.inr ⟨name, rfl⟩
  | legacy e =>
    rw [complaint?] at h
    split at h
    · cases h
      exact Or.inl rfl
    · cases h

end FieldArg

namespace FieldSettings

open FieldArg

variable {as bs : List Attribute} {xs ys : List FieldArg} {d : FieldSettings}

/-- What arguments come to. -/
def ofArgs (xs : List FieldArg) : FieldSettings where
  skip := xs.any isSkip
  default? := (xs.filterMap FieldArg.default?).getLast?
  legacy := xs.filterMap formerKey?

/-- More arguments behind those that a directive was read from. -/
theorem ofArgs_append : ofArgs (xs ++ ys) =
    { skip := (ofArgs xs).skip || (ofArgs ys).skip
      default? := (ofArgs ys).default?.or (ofArgs xs).default?
      legacy := (ofArgs xs).legacy ++ (ofArgs ys).legacy } := by
  simp only [ofArgs, List.any_append, List.filterMap_append, List.getLast?_append]

/-- One more argument, added to what the ones before it come to. -/
theorem add_ofArgs (x : FieldArg) :
    (ofArgs xs).add x = (ofArgs (xs ++ [x]), x.complaint?.toList) := by
  rw [ofArgs_append]
  cases x with
  | skip => simp [add, ofArgs, isSkip, FieldArg.default?, formerKey?, complaint?]
  | default e => simp [add, ofArgs, isSkip, FieldArg.default?, formerKey?, complaint?]
  | unknown name span => simp [add, ofArgs, isSkip, FieldArg.default?, formerKey?, complaint?]
  | legacy e =>
    cases hkey : e.stringLiteral? <;>
      simp [add, ofArgs, isSkip, FieldArg.default?, formerKey?, complaint?, hkey]

/-- **More arguments** are added to what came of those before them. -/
theorem addAll_ofArgs : (ofArgs xs).addAll ys = (ofArgs (xs ++ ys), ys.filterMap complaint?) := by
  induction ys generalizing xs with
  | nil => rw [addAll, List.append_nil, List.filterMap_nil]
  | cons y ys ih =>
    rw [addAll, add_ofArgs]
    dsimp only
    rw [ih, List.append_assoc, List.singleton_append, List.filterMap_cons]
    cases y.complaint? <;> rfl

/-! ### All attributes -/

/-- The arguments of all directives among the attributes, as far as they can be read. -/
def saidBy (as : List Attribute) : List FieldArg :=
  (as.filter isDirective).flatMap fun a => (ofAttribute a).1

/-- What is wrong with the arguments of an attribute, one by one, and why no more are read. -/
def faultsOf (a : Attribute) : List Diagnostic :=
  (ofAttribute a).1.filterMap complaint? ++ (ofAttribute a).2.toList.map Diagnostic.ofSyntaxError

/-- What is wrong with the arguments of the directives among the attributes. -/
def faultsBy (as : List Attribute) : List Diagnostic := (as.filter isDirective).flatMap faultsOf

/-- What attributes say, one list behind the other. -/
theorem saidBy_append : saidBy (as ++ bs) = saidBy as ++ saidBy bs := by
  simp only [saidBy, List.filter_append, List.flatMap_append]

/-- What is wrong with attributes, one list behind the other. -/
theorem faultsBy_append : faultsBy (as ++ bs) = faultsBy as ++ faultsBy bs := by
  simp only [faultsBy, List.filter_append, List.flatMap_append]

/-- Attributes add what they say to what was said before, and what is wrong with each of them is
told in their order. -/
theorem addAttributes_ofArgs (xs : List FieldArg) (as : List Attribute) :
    (ofArgs xs).addAttributes as = (ofArgs (xs ++ saidBy as), faultsBy as) := by
  induction as generalizing xs with
  | nil => simp [addAttributes, saidBy, faultsBy]
  | cons a as ih =>
    rw [addAttributes]
    by_cases hdirective : isDirective a = true
    · rw [if_pos hdirective]
      simp only [addAll_ofArgs, ih, saidBy, faultsBy, List.filter_cons_of_pos hdirective,
        List.flatMap_cons, List.append_assoc, faultsOf]
    · rw [if_neg hdirective, ih, saidBy, saidBy, faultsBy, faultsBy,
        List.filter_cons_of_neg hdirective]

/-- **What the attributes of a field say** is what the arguments of all directives among them come
to.  Behind what is wrong with these one by one stands what is wrong with them together. -/
theorem ofAttributes_eq (as : List Attribute) : ofAttributes as =
    (ofArgs (saidBy as), faultsBy as ++ (ofArgs (saidBy as)).conflict) := by
  have hrun : addAttributes {} as = (ofArgs (saidBy as), faultsBy as) :=
    addAttributes_ofArgs [] as
  rw [ofAttributes, hrun]

/-- A field is in conflict if it is skipped and has former keys. -/
theorem conflict_eq_nil_iff : d.conflict = [] ↔ ¬ (d.skip = true ∧ d.legacy ≠ []) := by
  obtain ⟨skip, default?, legacy⟩ := d
  cases skip <;> cases legacy <;> simp [conflict]

/-- A field is told of a conflict only once. -/
theorem exists_eq_conflict (h : d.conflict ≠ []) :
    ∃ span, d.conflict = [⟨.conflictingFieldArguments, span⟩] := by
  obtain ⟨skip, default?, legacy⟩ := d
  cases skip with
  | false => exact absurd rfl h
  | true =>
    cases legacy with
    | nil => exact absurd rfl h
    | cons l legacy => exact ⟨l.span, rfl⟩

/-- Nothing that is wrong with arguments one by one is a conflict. -/
theorem problem_ne_of_mem_faultsBy {f : Diagnostic} (h : f ∈ faultsBy as) :
    f.problem ≠ .conflictingFieldArguments := by
  obtain ⟨a, -, hf⟩ := List.mem_flatMap.1 h
  rcases List.mem_append.1 hf with hcomplaint | hsyntax
  · obtain ⟨x, -, hx⟩ := List.mem_filterMap.1 hcomplaint
    rcases problem_of_complaint? hx with heq | ⟨name, heq⟩ <;> rw [heq] <;> nofun
  · obtain ⟨e, -, rfl⟩ := List.mem_map.1 hsyntax
    exact nofun

end FieldSettings
end Boilerplate
