/-
# Which items are carried

`carried` in `src/decl/mod`; `SPEC_FULL.md` §3 and the end of §4.1.

All items of a struct are carried that are no enum of the name that lists the cases.  The first enum
of that name does list them, so that any other one is lost, and nothing else is
(`carried_declared`, `filter_caseList?_eq_self_iff`, `carried_of_ofWritten`).
-/

import Boilerplate.Proofs.OptionSet.Code
import Boilerplate.Proofs.OptionSet.Declares

namespace Boilerplate
namespace OptionSet

variable {s : StructWithItems} {directive : Directive} {e : EnumItem} {before behind : List Item}

/-- Behind the enum that lists the cases, no other enum of its name is carried. -/
theorem carried_declared (hitems : s.items = before ++ .enum e :: behind)
    (hname : e.name.text = directive.options)
    (hbefore : ∀ other, .enum other ∈ before → other.name.text ≠ directive.options)
    (cases : List Ident) :
    (declared s directive cases).carried =
      before ++ behind.filter fun i => (caseList? directive.options i).isNone := by
  have hkept : before.filter (fun i => (caseList? directive.options i).isNone) = before := by
    refine List.filter_eq_self.2 fun i hi => Option.isNone_iff_eq_none.2 ?_
    exact caseList?_eq_none_iff.2 fun other hother => hbefore other (hother ▸ hi)
  have hdropped : ¬(caseList? directive.options (.enum e)).isNone := by
    simp [caseList?, hname]
  rw [declared, hitems]
  simp only [List.filter_append, hkept, List.filter_cons, if_neg hdropped]

/-- **Nothing but the list of cases is lost** if there is no other enum of its name. -/
theorem filter_caseList?_eq_self_iff {name : String} :
    behind.filter (fun i => (caseList? name i).isNone) = behind ↔
      ∀ other, .enum other ∈ behind → other.name.text ≠ name := by
  simp only [List.filter_eq_self, Option.isNone_iff_eq_none, caseList?_eq_none_iff]
  exact ⟨fun h other hother => h _ hother other rfl,
    fun h i hi other hother => h other (hother ▸ hi)⟩

/-- **What becomes of the items of a struct.**  The first enum of the expected name lists the cases.
All items before it are carried, and all behind it but the enums of the same name, so that it is the
only item that is not carried exactly if there is no other of its name.  Each carried item stands in
the code once, with functions and constants in the block of the members and all else beside the
type, and whatever is carried, the other code is the same. -/
theorem carried_of_ofWritten {written : WrittenSet} {m : OptionSet}
    (accepted : ofWritten written = .ok (.ok m)) :
    ∃ s d e before behind, written = .struct s ∧ Declares s d e ∧
      m.cases = e.variants.map (·.name) ∧
      s.items = before ++ .enum e :: behind ∧ e.name.text = d.options ∧
      (∀ other, .enum other ∈ before → other.name.text ≠ d.options) ∧
      m.carried = before ++ behind.filter (fun i => (caseList? d.options i).isNone) ∧
      (m.carried = before ++ behind ↔
        ∀ other, .enum other ∈ behind → other.name.text ≠ d.options) ∧
      ∃ host members beside, ∀ items, { m with carried := items }.expanded = .ok (host ++
        (code "impl" ++ [.ident m.typeName] ++ braces (members ++ Item.codeAt .member items)) ++
        (beside ++ Item.codeAt .beside items)) := by
  have hcode := (accepted_of_ofWritten accepted).exists_expanded_carrying
  cases written with
  | other => cases accepted
  | struct s =>
    obtain ⟨d, e, h, rfl⟩ := ofStruct_eq_ok_iff.1 accepted
    obtain ⟨before, behind, hitems, hname, hbefore⟩ := h.listed
    have hcarried := carried_declared hitems hname hbefore (e.variants.map (·.name))
    refine ⟨s, d, e, before, behind, rfl, h, rfl, hitems, hname, hbefore, hcarried, ?_, hcode⟩
    rw [hcarried, List.append_cancel_left_eq, filter_caseList?_eq_self_iff]

/-- A struct with two enums that could list the cases, and a function. -/
def listedTwice : StructWithItems :=
  structOf "u8" [.enum (enumOf ["A"]), .enum (enumOf ["B"]),
    .other .function (some { name := "f" }) (named "f")]

/-- Of the items of `listedTwice` more than one is not carried: the second enum is lost. -/
theorem not_carried_listedTwice : ∃ m, ofWritten (.struct listedTwice) = .ok (.ok m) ∧
    ∀ before i behind, listedTwice.items = before ++ i :: behind →
      m.carried ≠ before ++ behind := by
  obtain ⟨m, accepted⟩ : ∃ m, ofWritten (.struct listedTwice) = .ok (.ok m) := ⟨_, rfl⟩
  obtain ⟨s, d, e, before, behind, hs, -, -, hitems, hname, hbefore, hcarried, -, -⟩ :=
    carried_of_ofWritten accepted
  obtain rfl := WrittenSet.struct.inj hs
  have hnames : ∀ other, .enum other ∈ listedTwice.items → other.name.text = "Options" := by
    intro other hother
    simp only [listedTwice, structOf, List.mem_cons, Item.enum.injEq, reduceCtorEq,
      List.not_mem_nil, or_false] at hother
    rcases hother with rfl | rfl <;> rfl
  -- Both enums have the expected name, so the first of them lists the cases.
  have hoptions : d.options = "Options" :=
    hname.symm.trans (hnames e (hitems ▸ List.mem_append_right _ List.mem_cons_self))
  have hfirst : before = [] := by
    cases before with
    | nil => rfl
    | cons i rest =>
      obtain ⟨rfl, -⟩ := List.cons.inj hitems
      exact absurd hoptions.symm (hbefore _ List.mem_cons_self)
  subst hfirst
  obtain ⟨-, rfl⟩ := List.cons.inj hitems
  rw [hoptions] at hcarried
  refine ⟨m, accepted, fun before i behind hsplit hall => ?_⟩
  -- One of three items is left, but all but one would be two.
  have hone : m.carried.length = 1 := by
    rw [hcarried]
    rfl
  have hthree : before.length + (behind.length + 1) = 3 := by
    rw [← List.length_cons, ← List.length_append, ← hsplit]
    rfl
  rw [hall, List.length_append] at hone
  omega

end OptionSet
end Boilerplate
