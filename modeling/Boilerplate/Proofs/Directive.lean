/-
# Which arguments are refused

A directive that takes no arguments refuses any: tokens that cannot be read are a diagnostic, and
what can be read is an argument at least, each of which is one (`refuseArguments_eq_nil_iff`).

The directive of an option set needs a storage type and refuses arguments by what stands before them
(`DirectiveArg.Refused`): its arguments are invalid if it has no storage type or one of them is
refused (`Directive.exists_ofArgs_eq_error_iff`).
-/

import Boilerplate.Proofs.Arguments
import Boilerplate.Proofs.Grammar.Parser
import Boilerplate.Proofs.Record.Counting

namespace Boilerplate

open Boilerplate.Parser

/-- Where there are tokens, there is an argument. -/
theorem DirectiveArg.eq_nil_of_listOfTokens {ts : Tokens} (h : listOfTokens ts = .ok []) :
    ts = [] := by
  obtain ⟨rest, hrun, -, -⟩ := all_eq_ok_iff.1 h
  obtain ⟨entries, _, hentries, hargs⟩ := run_bind_eq_ok_iff.1 hrun
  have hnone : entries = [] := by
    have hmap := congrArg Prod.fst (run_pure_eq_ok_iff.1 hargs)
    exact List.map_eq_nil_iff.1 hmap.symm
  cases ts with
  | nil => rfl
  | cons t ts => exact absurd hnone (separated_ne_nil rfl hentries)

/-- **Any arguments are refused.** -/
theorem refuseArguments_eq_nil_iff {ts : Tokens} : refuseArguments ts = [] ↔ ts = [] := by
  constructor
  · intro h
    unfold refuseArguments at h
    split at h
    · cases h
    · rename_i hread
      exact DirectiveArg.eq_nil_of_listOfTokens (List.map_eq_nil_iff.1 h ▸ hread)
  · rintro rfl
    rfl

/-! ### Arguments of a directive -/

/-- Whether an argument is refused behind these: a storage type behind another one, a named argument
that is not `options`, or one for `options` that is no text. -/
def DirectiveArg.Refused (before : List DirectiveArg) : DirectiveArg → Prop
  | .storage _ => ∃ t, .storage t ∈ before
  | .named name value => name.text ≠ "options" ∨ value.stringLiteral? = none

namespace DirectiveArg

variable {args : List DirectiveArg}

/-- No storage type is given if none of the arguments is one. -/
theorem filterMap_storage?_eq_nil_iff :
    args.filterMap storage? = [] ↔ ∀ t, .storage t ∉ args := by
  rw [List.filterMap_eq_nil_iff]
  refine ⟨fun h t hmem => Option.some_ne_none t (h _ hmem), fun h arg hmem => ?_⟩
  cases arg with
  | storage t => exact absurd hmem (h t)
  | named name value => rfl

/-- An argument is refused if there is a complaint about it, or it is one more storage type. -/
theorem refused_iff {arg : DirectiveArg} : arg.Refused args ↔
    ((args.filterMap storage?).head?.isSome && arg.storage?.isSome) = true ∨
      arg.complaint? ≠ none := by
  cases arg with
  | storage t =>
    have hgiven : args.filterMap storage? ≠ [] ↔ ∃ t, .storage t ∈ args := by
      rw [ne_eq, filterMap_storage?_eq_nil_iff]
      exact not_forall_not
    rw [Refused, ← hgiven]
    cases args.filterMap storage? <;> simp [storage?, complaint?]
  | named name value =>
    by_cases hname : name.text = "options" <;> simp [Refused, storage?, complaint?, hname]

/-- **There is no complaint** exactly if no argument is refused. -/
theorem complaints_eq_nil_iff : complaints args = [] ↔ ¬ ExistsAt Refused args := by
  induction args using List.reverseRecOn with
  | nil => exact iff_of_true rfl not_existsAt_nil
  | append_singleton args arg ih =>
    rw [existsAt_concat, not_or, ← ih, refused_iff, not_or, not_not,
      ← List.isEmpty_iff, (complaints_concat arg).isEmpty_eq, List.isEmpty_iff,
      List.append_eq_nil_iff, List.append_eq_nil_iff, and_assoc]
    refine and_congr_right fun _ => and_congr ?_ Option.toList_eq_nil_iff
    rw [ite_eq_right_iff]
    exact forall_congr' fun _ => iff_false_intro (List.cons_ne_nil _ _)

end DirectiveArg

namespace Directive

variable {args : List DirectiveArg} {span : Span} {why : List Diagnostic}

/-- **Invalid arguments** lack a storage type, or one of them is refused. -/
theorem exists_ofArgs_eq_error_iff :
    (∃ why, ofArgs args span = .error why) ↔
      (∀ t, .storage t ∉ args) ∨ ExistsAt DirectiveArg.Refused args := by
  have hinvalid : (∃ why, ofArgs args span = .error why) ↔ DirectiveArg.problems args ≠ [] := by
    rw [ne_eq, ← exists_ofArgs_eq_ok_iff span]
    cases ofArgs args span <;> simp
  rw [hinvalid, DirectiveArg.problems, ne_eq, List.append_eq_nil_iff, not_and_or, or_comm,
    DirectiveArg.complaints_eq_nil_iff, not_not]
  refine or_congr_left ?_
  rw [← DirectiveArg.filterMap_storage?_eq_nil_iff, ite_eq_right_iff]
  simp only [List.cons_ne_nil, imp_false, not_not, List.isEmpty_iff]

/-- Arguments that are refused are told something of. -/
theorem ne_nil_of_ofArgs (h : ofArgs args span = .error why) : why ≠ [] := by
  rintro rfl
  have hproblems : DirectiveArg.problems args = [] := by
    have htold := (ofArgs_spec args span).1
    rw [h] at htold
    exact htold.nil_eq.symm
  obtain ⟨d, hd⟩ := (exists_ofArgs_eq_ok_iff span).2 hproblems
  rw [h] at hd
  cases hd

end Directive

end Boilerplate
