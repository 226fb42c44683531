/-
# Unknown arguments of a field

`parse_field_attrs` of `src/decl/attrs`, and its comment on the rest of an unknown argument.

An unknown argument is told and passed over, so that the arguments behind it count.  But not all
that may stand behind its name is passed over: a group in square brackets or in braces stays, where
a comma should stand, and ends the attribute.  So arguments are as if the unknown ones were not
among them, but for what is told of these, exactly if none of them has such a group
(`FieldSettings.unknown_arguments`).
-/

import Boilerplate.Proofs.FieldSettings.Composition

namespace Boilerplate

namespace FieldSettings

open FieldArg WrittenArg

variable {a b : Attribute} {xs : List WrittenArg}

/-- Unknown arguments do not count. -/
theorem ofArgs_filter_isKnown :
    ofArgs ((xs.filter (·.isKnown)).map WrittenArg.arg) = ofArgs (xs.map WrittenArg.arg) := by
  induction xs with
  | nil => rfl
  | cons x xs ih =>
    have hcons : ∀ y ys, ofArgs (y :: ys) = ofArgs ([y] ++ ys) := fun _ _ => rfl
    cases hknown : x.isKnown with
    | true =>
      rw [List.filter_cons_of_pos hknown, List.map_cons, List.map_cons, hcons, ofArgs_append, ih,
        ← ofArgs_append]
      rfl
    | false =>
      rw [List.filter_cons_of_neg (Bool.not_eq_true _ ▸ hknown), ih, List.map_cons,
        arg_of_not_isKnown hknown]
      rfl

/-- What is wrong with arguments is what is wrong with those that are known, and that the others are
not. -/
theorem complaints_perm (xs : List WrittenArg) : ((xs.map WrittenArg.arg).filterMap complaint?).Perm
    (((xs.filter (·.isKnown)).map WrittenArg.arg).filterMap complaint? ++
      (xs.filter (!·.isKnown)).map surprise) := by
  have hunknown : ((xs.filter (!·.isKnown)).map WrittenArg.arg).filterMap complaint? =
      (xs.filter (!·.isKnown)).map surprise := by
    rw [List.filterMap_map, ← List.filterMap_eq_map]
    refine List.filterMap_congr fun x hx => ?_
    have hknown : x.isKnown = false := by simpa using (List.mem_filter.1 hx).2
    rw [Function.comp_apply, arg_of_not_isKnown hknown]
    rfl
  rw [← hunknown, ← List.filterMap_append, ← List.map_append]
  exact ((List.filter_append_perm _ xs).symm.map _).filterMap _

/-- What an attribute says that holds well-formed arguments, and what is wrong with it. -/
theorem ofAttributes_of_holds (holds : a.Holds xs) (wellFormed : ∀ x ∈ xs, x.IsWellFormed) :
    ofAttributes [a] = (ofArgs ((heard xs).map WrittenArg.arg),
      ((heard xs).map WrittenArg.arg).filterMap FieldArg.complaint? ++
        (WrittenArg.stuck? xs).toList.map Diagnostic.ofSyntaxError ++
        (ofArgs ((heard xs).map WrittenArg.arg)).conflict) := by
  have hread := holds.ofAttribute_eq wellFormed
  have hfilter : [a].filter isDirective = [a] := List.filter_cons_of_pos holds.1
  rw [ofAttributes_eq, saidBy, faultsBy, hfilter, List.flatMap_singleton, List.flatMap_singleton,
    faultsOf, hread]

/-- Whether an attribute says what another one says that holds the known ones of its arguments,
while each unknown one is told, and nothing else. -/
def Passes (a b : Attribute) (xs : List WrittenArg) : Prop :=
  (ofAttributes [a]).1 = (ofAttributes [b]).1 ∧
    (ofAttributes [a]).2.Perm ((ofAttributes [b]).2 ++ (xs.filter (!·.isKnown)).map surprise)

/-- No failure to read is told of known arguments, nor by telling the unknown ones. -/
theorem notMem_ofAttributes_of_known (holds : b.Holds xs)
    (wellFormed : ∀ x ∈ xs, x.IsWellFormed) (known : ∀ x ∈ xs, x.isKnown = true)
    (e : SyntaxError) (ys : List WrittenArg) :
    Diagnostic.ofSyntaxError e ∉ (ofAttributes [b]).2 ++ ys.map surprise := by
  have hstuck := (heard_of_passes fun x hx =>
    sticks_of_isKnown (wellFormed x hx) (known x hx)).2
  rw [ofAttributes_of_holds holds wellFormed, hstuck]
  simp only [Option.toList_none, List.map_nil, List.append_nil, List.mem_append, not_or]
  refine ⟨⟨fun hmem => ?_, fun hmem => ?_⟩, fun hmem => ?_⟩
  · obtain ⟨x, -, hx⟩ := List.mem_filterMap.1 hmem
    rcases problem_of_complaint? hx with heq | ⟨name, heq⟩ <;> cases heq
  · obtain ⟨span, hspan⟩ := exists_eq_conflict (List.ne_nil_of_mem hmem)
    rw [hspan] at hmem
    cases List.mem_singleton.1 hmem
  · obtain ⟨x, -, hx⟩ := List.mem_map.1 hmem
    cases hx

/-- An attribute says what is said by the known ones of the arguments that are read from it. -/
theorem ofAttributes_of_heard (holds : a.Holds xs) (wellFormed : ∀ x ∈ xs, x.IsWellFormed)
    (known : b.Holds ((heard xs).filter (·.isKnown))) :
    (ofAttributes [a]).1 = (ofAttributes [b]).1 ∧
      (ofAttributes [a]).2.Perm ((ofAttributes [b]).2 ++
        ((heard xs).filter (!·.isKnown)).map surprise ++
        (WrittenArg.stuck? xs).toList.map Diagnostic.ofSyntaxError) := by
  have hknown : ∀ x ∈ (heard xs).filter (·.isKnown), x.IsRead := by
    intro x hx
    obtain ⟨hmem, hknown⟩ := List.mem_filter.1 hx
    have hx := wellFormed x (mem_of_mem_heard hmem)
    exact ⟨hx, sticks_of_isKnown hx hknown⟩
  obtain ⟨hheard, hstuck⟩ := heard_of_passes fun x hx => (hknown x hx).2
  rw [ofAttributes_of_holds holds wellFormed,
    ofAttributes_of_holds known fun x hx => (hknown x hx).1, hheard, hstuck]
  refine ⟨ofArgs_filter_isKnown.symm, List.perm_iff_count.2 fun d => ?_⟩
  have hcount := (complaints_perm (heard xs)).count_eq d
  rw [ofArgs_filter_isKnown]
  simp only [List.count_append, Option.toList_none, List.map_nil, List.count_nil] at hcount ⊢
  omega

/-- Where an argument sticks, it is told that a comma is missing. -/
theorem exists_ofSyntaxError_mem (holds : a.Holds xs) (wellFormed : ∀ x ∈ xs, x.IsWellFormed)
    {x : WrittenArg} (hx : x ∈ xs) (sticks : x.sticks = true) :
    ∃ e, Diagnostic.ofSyntaxError e ∈ (ofAttributes [a]).2 := by
  obtain ⟨e, he⟩ : ∃ e, stuck? xs = some e := by
    refine Option.ne_none_iff_exists'.1 fun hnone => ?_
    rw [stuck?_eq_none_iff.1 hnone x hx] at sticks
    cases sticks
  refine ⟨e, ?_⟩
  rw [ofAttributes_of_holds holds wellFormed, he]
  simp

/-- **What unknown arguments do.**  Let an attribute hold well-formed arguments and unknown ones.
It is read up to the first that sticks.  It says what is said by the known ones of the arguments
that are read, and beside what is wrong with these, each unknown one is told, and in the end that a
comma is missing where one sticks.  So it says what all of its known arguments say, while each
unknown one is told and nothing else, exactly if no argument sticks. -/
theorem unknown_arguments (holds : a.Holds xs) (wellFormed : ∀ x ∈ xs, x.IsWellFormed) :
    (∀ b : Attribute, b.Holds ((heard xs).filter (·.isKnown)) →
      (ofAttributes [a]).1 = (ofAttributes [b]).1 ∧
        (ofAttributes [a]).2.Perm ((ofAttributes [b]).2 ++
          ((heard xs).filter (!·.isKnown)).map surprise ++
          (WrittenArg.stuck? xs).toList.map Diagnostic.ofSyntaxError)) ∧
    ∀ b : Attribute, b.Holds (xs.filter (·.isKnown)) →
      (Passes a b xs ↔ ∀ x ∈ xs, x.sticks = false) := by
  refine ⟨fun b hb => ofAttributes_of_heard holds wellFormed hb,
    fun b hb => ⟨fun hpasses x hx => ?_, fun passes => ?_⟩⟩
  · by_contra hsticks
    obtain ⟨e, he⟩ := exists_ofSyntaxError_mem holds wellFormed hx (by simpa using hsticks)
    exact notMem_ofAttributes_of_known hb (fun x hx => wellFormed x (List.mem_filter.1 hx).1)
      (fun x hx => (List.mem_filter.1 hx).2) e _ (hpasses.2.mem_iff.1 he)
  · obtain ⟨hheard, hstuck⟩ := heard_of_passes passes
    obtain ⟨hsettings, htold⟩ := ofAttributes_of_heard holds wellFormed (hheard.symm ▸ hb)
    rw [hheard, hstuck, Option.toList_none, List.map_nil, List.append_nil] at htold
    exact ⟨hsettings, htold⟩

/-- An unknown argument with a group in square brackets, and `skip` behind it. -/
def renamedBefore : List WrittenArg :=
  [{ path := { first := { name := "rename" } },
     tail := .group .bracket [.literal { kind := .string, text := "\"x\"" }] .none .none },
    skipped]

/-- The unknown argument of `renamedBefore` hides the one behind it. -/
theorem not_passes_renamedBefore : ∃ a b : Attribute, a.Holds renamedBefore ∧
    b.Holds (renamedBefore.filter (·.isKnown)) ∧ (ofAttributes [a]).1.skip = false ∧
    (ofAttributes [b]).1.skip = true ∧ ¬ Passes a b renamedBefore := by
  have holds : (fieldDirective ((renamedBefore.flatMap fun x =>
      x.tokens ++ [.punct ',' .alone .none]))).Holds renamedBefore :=
    holds_fieldDirective (.more _ _ _ (.more _ _ _ .none))
  have known : (fieldDirective skipped.tokens).Holds (renamedBefore.filter (·.isKnown)) :=
    holds_fieldDirective (.last _)
  have wellFormed : ∀ x ∈ renamedBefore, x.IsWellFormed :=
    List.forall_mem_cons.2 ⟨rfl, List.forall_mem_singleton.2 isRead_skipped.1⟩
  obtain ⟨-, hpasses⟩ := unknown_arguments holds wellFormed
  refine ⟨_, _, holds, known, by decide +kernel, by decide +kernel, fun h => ?_⟩
  have := (hpasses _ known).1 h _ List.mem_cons_self
  cases this

end FieldSettings
end Boilerplate
