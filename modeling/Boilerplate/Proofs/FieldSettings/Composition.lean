/-
# Field attributes compose

`parse_field_attrs` of `src/decl/attrs`; `SPEC_FULL.md` §4.1.

What several attributes of a field say is what each of them says, one behind the other, though
reading any of them may end in the middle of it (`FieldSettings.ofAttributes_append`).  So it does
not matter how arguments that are read to their ends are spread over attributes
(`FieldSettings.ofAttributes_spread`).
-/

import Boilerplate.Proofs.FieldSettings.Arguments
import Boilerplate.Proofs.FieldSettings.Written
import Boilerplate.Token.Printer

namespace Boilerplate

/-! ### Arguments that say the same -/

/-- Whether two arguments say the same, in whatever places of the text. -/
inductive FieldArg.Alike : FieldArg → FieldArg → Prop
  | skip : Alike .skip .skip
  | default {e e' : Expr} (same : e.tokens.print = e'.tokens.print) :
    Alike (.default e) (.default e')
  | legacy {e e' : Expr} (same : e.stringLiteral? = e'.stringLiteral?) :
    Alike (.legacy e) (.legacy e')
  | unknown {name : String} {span span' : Span} : Alike (.unknown name span) (.unknown name span')

namespace FieldSettings

open FieldArg

/-- Whether two directives say the same, in whatever places of the text. -/
structure Alike (d d' : FieldSettings) : Prop where
  skip : d.skip = d'.skip
  default? : d.default?.map (·.tokens.print) = d'.default?.map (·.tokens.print)
  legacy : d.legacy.map (·.key) = d'.legacy.map (·.key)

variable {xs ys : List FieldArg} {as bs : List Attribute} {d d' : FieldSettings}

/-- What is selected from related elements is the same if it is the same for each of them. -/
theorem map_filterMap_of_forall₂ {α β γ : Type} {R : α → α → Prop} {g : α → Option β} {k : β → γ}
    (hg : ∀ x y, R x y → (g x).map k = (g y).map k) {xs ys : List α} (h : List.Forall₂ R xs ys) :
    (xs.filterMap g).map k = (ys.filterMap g).map k := by
  rw [List.map_filterMap, List.map_filterMap]
  induction h with
  | nil => rfl
  | cons hxy _ ih => rw [List.filterMap_cons, List.filterMap_cons, hg _ _ hxy, ih]

/-- Arguments that say the same come to the same, and the same is wrong with them. -/
theorem alike_ofArgs (h : List.Forall₂ FieldArg.Alike xs ys) :
    (ofArgs xs).Alike (ofArgs ys) ∧
      (xs.filterMap complaint?).map (·.problem) = (ys.filterMap complaint?).map (·.problem) := by
  have hskip : xs.any isSkip = ys.any isSkip := by
    induction h with
    | nil => rfl
    | cons hxy _ ih => cases hxy <;> simp only [List.any_cons, isSkip, ih]
  have hdefault : (xs.filterMap FieldArg.default?).map (·.tokens.print) =
      (ys.filterMap FieldArg.default?).map (·.tokens.print) := by
    refine map_filterMap_of_forall₂ (fun x y hxy => ?_) h
    cases hxy with
    | default same => exact congrArg some same
    | _ => rfl
  have hlegacy : (xs.filterMap formerKey?).map (·.key) =
      (ys.filterMap formerKey?).map (·.key) := by
    refine map_filterMap_of_forall₂ (fun x y hxy => ?_) h
    cases hxy with
    | @legacy e e' same => rw [formerKey?, formerKey?, same, Option.map_map, Option.map_map]; rfl
    | _ => rfl
  refine ⟨⟨hskip, ?_, hlegacy⟩, map_filterMap_of_forall₂ (fun x y hxy => ?_) h⟩
  · rw [ofArgs, ofArgs, ← List.getLast?_map, ← List.getLast?_map, hdefault]
  · cases hxy with
    | @legacy e e' same =>
      rw [complaint?, complaint?, same]
      split <;> rfl
    | _ => rfl

/-- Settings that say the same are in the same conflict. -/
theorem Alike.conflict (h : d.Alike d') :
    d.conflict.map (·.problem) = d'.conflict.map (·.problem) := by
  obtain ⟨skip, default?, legacy⟩ := d
  obtain ⟨skip', default?', legacy'⟩ := d'
  obtain rfl : skip = skip' := h.skip
  have hlegacy : legacy.map (·.key) = legacy'.map (·.key) := h.legacy
  cases skip with
  | false => rfl
  | true => cases legacy <;> cases legacy' <;> first | rfl | cases hlegacy

/-! ### Attributes behind others -/

/-- What is wrong with arguments one by one, of all that is told. -/
def apart (ds : List Diagnostic) : List Diagnostic :=
  ds.filter (·.problem ≠ .conflictingFieldArguments)

/-- Apart from the conflict, what is wrong with a field is what is wrong with its attributes. -/
theorem apart_ofAttributes (as : List Attribute) : apart (ofAttributes as).2 = faultsBy as := by
  have hconflict : apart (ofArgs (saidBy as)).conflict = [] := by
    by_cases hnone : (ofArgs (saidBy as)).conflict = []
    · rw [hnone]
      rfl
    · obtain ⟨span, hspan⟩ := exists_eq_conflict hnone
      rw [hspan]
      simp [apart]
  have hfaults : apart (faultsBy as) = faultsBy as :=
    List.filter_eq_self.2 fun f hf => decide_eq_true (problem_ne_of_mem_faultsBy hf)
  rw [ofAttributes_eq]
  change apart (_ ++ _) = _
  rw [apart, List.filter_append, ← apart, ← apart, hconflict, hfaults, List.append_nil]

/-- **Attributes behind others** add what they say. -/
theorem ofAttributes_append (as bs : List Attribute) :
    (ofAttributes (as ++ bs)).1.skip =
        ((ofAttributes as).1.skip || (ofAttributes bs).1.skip) ∧
      (ofAttributes (as ++ bs)).1.legacy =
        (ofAttributes as).1.legacy ++ (ofAttributes bs).1.legacy ∧
      (ofAttributes (as ++ bs)).1.default? =
        (ofAttributes bs).1.default?.or (ofAttributes as).1.default? ∧
      (ofAttributes (as ++ bs)).2 = apart (ofAttributes as).2 ++ apart (ofAttributes bs).2 ++
        (ofAttributes (as ++ bs)).1.conflict := by
  simp only [apart_ofAttributes]
  simp only [ofAttributes_eq, saidBy_append, faultsBy_append, ofArgs_append, and_self]

/-- Attributes that are no directives of fields say nothing. -/
theorem ofAttributes_filter (as : List Attribute) :
    ofAttributes (as.filter isDirective) = ofAttributes as := by
  simp only [ofAttributes_eq, saidBy, faultsBy, List.filter_filter, Bool.and_self]

/-! ### Arguments in one attribute or in several -/

variable {as : List Attribute} {a : Attribute} {parts : List (List WrittenArg)}
  {xs : List WrittenArg}

/-- What attributes say that hold arguments that are read. -/
theorem saidBy_eq_of_holds
    (holds : List.Forall₂ Attribute.Holds (as.filter isDirective) parts)
    (read : ∀ x ∈ parts.flatten, x.IsRead) :
    saidBy as = parts.flatten.map WrittenArg.arg ∧
      faultsBy as = (parts.flatten.map WrittenArg.arg).filterMap complaint? := by
  rw [saidBy, faultsBy]
  generalize as.filter isDirective = directives at holds ⊢
  induction holds with
  | nil => exact ⟨rfl, rfl⟩
  | @cons a xs directives parts ha _ ih =>
    rw [List.flatten_cons, List.forall_mem_append] at read
    obtain ⟨hsaid, hfaults⟩ := ih read.2
    have hread := ha.ofAttribute_eq_of_isRead read.1
    rw [List.flatMap_cons, List.flatMap_cons, hsaid, hfaults, faultsOf, hread, List.flatten_cons,
      List.map_append, List.filterMap_append]
    simp

/-- **Arguments spread over attributes** say what they say in one attribute. -/
theorem ofAttributes_spread (one : a.Holds xs) (read : ∀ x ∈ xs, x.IsRead)
    (holds : List.Forall₂ Attribute.Holds (as.filter isDirective) parts)
    (spread : ∀ x ∈ parts.flatten, x.IsRead)
    (alike : List.Forall₂ FieldArg.Alike (xs.map WrittenArg.arg)
      (parts.flatten.map WrittenArg.arg)) :
    (ofAttributes [a]).1.Alike (ofAttributes as).1 ∧
      (ofAttributes [a]).2.map (·.problem) = (ofAttributes as).2.map (·.problem) := by
  have hone : List.Forall₂ Attribute.Holds ([a].filter isDirective) [xs] := by
    rw [List.filter_cons_of_pos one.1]
    exact .cons one .nil
  obtain ⟨hsaid, hfaults⟩ := saidBy_eq_of_holds hone (by rwa [List.flatten_singleton])
  rw [List.flatten_singleton] at hsaid hfaults
  obtain ⟨hsaid', hfaults'⟩ := saidBy_eq_of_holds holds spread
  obtain ⟨hsettings, hproblems⟩ := alike_ofArgs alike
  rw [ofAttributes_eq, ofAttributes_eq, hsaid, hsaid', hfaults, hfaults']
  refine ⟨hsettings, ?_⟩
  rw [List.map_append, List.map_append, hproblems, hsettings.conflict]

/-- **Field attributes compose.**  A field with more attributes behind others is skipped if either
of them say so; it has the former keys of both, in their order, and the default of the later ones,
or else that of the others.  What is wrong with the arguments of both is told in the same order, and
in the end, exactly if the field is skipped and has former keys, that this does not go together.
Attributes that are no directives of fields do not matter.  And arguments that are read to their
ends say the same in one directive as in any number of directives, in the same order. -/
theorem ofAttributes_compose :
    (∀ as bs : List Attribute,
      (ofAttributes (as ++ bs)).1.skip =
          ((ofAttributes as).1.skip || (ofAttributes bs).1.skip) ∧
        (ofAttributes (as ++ bs)).1.legacy =
          (ofAttributes as).1.legacy ++ (ofAttributes bs).1.legacy ∧
        (ofAttributes (as ++ bs)).1.default? =
          (ofAttributes bs).1.default?.or (ofAttributes as).1.default? ∧
        ∃ conflict : List Diagnostic, (ofAttributes (as ++ bs)).2 =
            apart (ofAttributes as).2 ++ apart (ofAttributes bs).2 ++ conflict ∧
          if (ofAttributes (as ++ bs)).1.skip = true ∧ (ofAttributes (as ++ bs)).1.legacy ≠ [] then
            ∃ span, conflict = [⟨.conflictingFieldArguments, span⟩]
          else conflict = []) ∧
    (∀ as : List Attribute, ofAttributes (as.filter isDirective) = ofAttributes as) ∧
    ∀ (a : Attribute) (xs : List WrittenArg) (as : List Attribute) (parts : List (List WrittenArg)),
      a.Holds xs → (∀ x ∈ xs, x.IsRead) →
      List.Forall₂ Attribute.Holds (as.filter isDirective) parts →
      (∀ x ∈ parts.flatten, x.IsRead) →
      List.Forall₂ FieldArg.Alike (xs.map WrittenArg.arg) (parts.flatten.map WrittenArg.arg) →
      (ofAttributes [a]).1.Alike (ofAttributes as).1 ∧
        (ofAttributes [a]).2.map (·.problem) = (ofAttributes as).2.map (·.problem) := by
  refine ⟨fun as bs => ?_, ofAttributes_filter, fun a xs as parts one read holds spread alike =>
    ofAttributes_spread one read holds spread alike⟩
  obtain ⟨hskip, hlegacy, hdefault, hfaults⟩ := ofAttributes_append as bs
  refine ⟨hskip, hlegacy, hdefault, _, hfaults, ?_⟩
  split
  · rename_i hboth
    exact exists_eq_conflict fun hnone => conflict_eq_nil_iff.1 hnone hboth
  · rename_i hnot
    exact conflict_eq_nil_iff.2 hnot

/-- The argument `legacy` with this text, and with its value at this place. -/
def formerly (text : String) (span : Span := .none) : WrittenArg where
  path := { first := { name := "legacy" } }
  tail :=
    let l : Literal := { kind := .string, text := "\"" ++ text ++ "\"", span }
    .value .alone .none [.literal l] ⟨.literal l, [.literal l]⟩

/-- The argument `skip`. -/
def skipped : WrittenArg where
  path := { first := { name := "skip" } }

/-- A former key can be read. -/
theorem isRead_formerly (text : String) (span : Span) : (formerly text span).IsRead :=
  ⟨⟨rfl, Expr.isWritten_literal _⟩, rfl⟩

/-- `skip` can be read. -/
theorem isRead_skipped : skipped.IsRead := ⟨⟨rfl, rfl⟩, rfl⟩

/-- A field that is skipped and has a former key: both are said by one directive. -/
def skippedAtOnce : List Attribute :=
  [fieldDirective (skipped.tokens ++ .punct ',' .alone .none :: (formerly "old").tokens)]

/-- The same as `skippedAtOnce`, said by two directives with another attribute between them. -/
def skippedInTwo : List Attribute :=
  [fieldDirective skipped.tokens,
    { fieldDirective [] with path := ⟨false, [{ name := { name := "doc" } }], named "doc"⟩ },
    fieldDirective (formerly "old" ⟨⟨1, 2⟩, ⟨1, 7⟩⟩).tokens]

/-- One directive or two: both say the same, and the same is wrong. -/
theorem ofAttributes_compose_of_two :
    (ofAttributes skippedAtOnce).1.Alike (ofAttributes skippedInTwo).1 ∧
      (ofAttributes skippedAtOnce).2.map (·.problem) = [.conflictingFieldArguments] ∧
      (ofAttributes skippedInTwo).2.map (·.problem) = [.conflictingFieldArguments] := by
  let later : WrittenArg := formerly "old" ⟨⟨1, 2⟩, ⟨1, 7⟩⟩
  have one : Attribute.Holds (fieldDirective
      (skipped.tokens ++ .punct ',' .alone .none :: (formerly "old").tokens))
      [skipped, formerly "old"] :=
    holds_fieldDirective (.more _ _ _ (.last _))
  have two : List.Forall₂ Attribute.Holds (skippedInTwo.filter isDirective) [[skipped], [later]] :=
    .cons (holds_fieldDirective (.last _)) (.cons (holds_fieldDirective (.last _)) .nil)
  have read : ∀ span, ∀ x ∈ [skipped, formerly "old" span], x.IsRead := fun span =>
    List.forall_mem_cons.2
      ⟨isRead_skipped, List.forall_mem_singleton.2 (isRead_formerly "old" span)⟩
  have alike : List.Forall₂ FieldArg.Alike ([skipped, formerly "old"].map WrittenArg.arg)
      ([skipped, later].map WrittenArg.arg) :=
    .cons .skip (.cons (.legacy rfl) .nil)
  obtain ⟨hsettings, hproblems⟩ :=
    ofAttributes_compose.2.2 _ _ _ _ one (read _) two (read _) alike
  have hconflict : (ofAttributes skippedAtOnce).2.map (·.problem) =
      [.conflictingFieldArguments] := by
    decide +kernel
  exact ⟨hsettings, hconflict, hproblems.symm.trans hconflict⟩

end FieldSettings
end Boilerplate
