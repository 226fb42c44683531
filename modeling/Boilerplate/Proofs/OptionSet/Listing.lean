/-
# What a set lists

`set_algebra`, `naming` and `formatting` of `src/bitmask`; `SPEC_FULL.md` §4.3, items 4 and 5, and
§8.

The code of an option set lists the options that a set contains in several ways: one by one
(`Bits.iter`), as a text (`Bits.joined`) and for debugging (`Bits.debug`).  Each of them goes
through all cases on its own.  They agree, since a set contains the constant of a case exactly if it
has the bit at the place of the case: what is listed is what the set selects from all constants, or
from all names, by their places (`Bits.selected`, `LaidOut.iter_eq`, `LaidOut.debug_eq`).  Bits that
no case owns select nothing, and they are what is lost when the listed options are put together
again (`LaidOut.collect_iter`).
-/

import Boilerplate.Proofs.OptionSet.Algebra
import Boilerplate.Proofs.OptionSet.Layout

namespace Boilerplate
namespace Bits

variable {α β : Type} {w : Nat} {cases : List OptionCase} {c : OptionCase}

/-! ### Selecting by places -/

/-- The elements of a list at the positions of a set, in their order. -/
def selected (a : BitVec w) (l : List α) : List α :=
  (l.zipIdx.filter fun p => a.getLsbD p.2).map (·.1)

variable (a : BitVec w)

/-- Selecting goes by places and not by what stands there. -/
theorem selected_map (f : α → β) (l : List α) : selected a (l.map f) = (selected a l).map f := by
  rw [selected, List.zipIdx_map, List.filter_map, List.map_map, selected, List.map_map]
  rfl

/-- Elements that tell their places are selected by what they tell. -/
theorem selected_eq_filter {p : α → Bool} {l : List α}
    (h : ∀ (i : Nat) (x : α), l[i]? = some x → a.getLsbD i = p x) : selected a l = l.filter p := by
  have hplaces : ∀ q ∈ l.zipIdx, a.getLsbD q.2 = p q.1 :=
    fun q hq => h q.2 q.1 (List.mem_zipIdx_iff_getElem?.1 hq)
  conv_rhs => rw [← List.zipIdx_map_fst 0 l, List.filter_map]
  rw [selected, List.filter_congr hplaces]
  rfl

/-! ### Constants of cases -/

/-- The constant of a case has one position. -/
theorem positions_constant (h : c.position < w) : positions (constant w c) = {c.position} := by
  ext i
  rw [mem_positions, getLsbD_constant h, decide_eq_true_iff, Finset.mem_singleton]

/-- A set contains the constant of a case if it has its bit. -/
theorem contains_constant (h : c.position < w) :
    contains a (constant w c) = a.getLsbD c.position := by
  rw [Bool.eq_iff_iff, contains_iff_subset, positions_constant h, Finset.singleton_subset_iff,
    mem_positions]

/-- The options that are listed one by one are the contained cases. -/
theorem iter_eq_map : iter cases a = (contained cases a).map (constant w) := by
  rw [iter, List.filter_map]
  rfl

namespace LaidOut

variable (h : LaidOut w cases)
include h

/-- Each case owns a bit below their number. -/
theorem position_lt (hc : c ∈ cases) : c.position < cases.length := by
  obtain ⟨i, hi⟩ := List.getElem?_of_mem hc
  rw [h.position i c hi]
  exact (List.getElem?_eq_some_iff.1 hi).1

/-- Cases that own the lowest bits stand in the order of their bits. -/
theorem inOrder : InOrder w cases where
  increasing := List.pairwise_iff_getElem.2 fun i j hi hj hij => by
    rwa [h.position i _ (List.getElem?_eq_getElem hi), h.position j _ (List.getElem?_eq_getElem hj)]
  fits := fun _ hc => Nat.lt_of_lt_of_le (h.position_lt hc) h.fits

/-! ### Listings -/

/-- **The contained cases** are those at the positions of the set. -/
theorem contained_eq : contained cases a = selected a cases := by
  refine (selected_eq_filter a fun i c hc => ?_).symm
  rw [contains_constant a (h.inOrder.fits c (List.mem_of_getElem? hc)), h.position i c hc]

/-- **The options of a set** are the constants that its bits select. -/
theorem iter_eq : iter cases a = selected a (cases.map (constant w)) := by
  rw [iter_eq_map, h.contained_eq, selected_map]

/-- **The text of a set** joins the names that its bits select. -/
theorem joined_eq :
    joined cases a = ", ".intercalate (selected a (OptionCase.optionNames cases)) := by
  rw [joined, h.contained_eq, OptionCase.optionNames, selected_map]

/-- **What is one case has its names.** -/
theorem name_eq_some_iff {display : Bool} {s : String} :
    name cases a display = some s ↔ ∃ c ∈ cases, a = constant w c ∧ c.label display = s := by
  constructor
  · intro hname
    obtain ⟨c, hfind, rfl⟩ := Option.map_eq_some_iff.1 hname
    have heq : (a == constant w c) = true := List.find?_some (p := fun c => a == constant w c) hfind
    exact ⟨c, List.mem_of_find?_eq_some hfind, eq_of_beq heq, rfl⟩
  · rintro ⟨c, hc, rfl, rfl⟩
    exact h.inOrder.name_constant hc display

/-- What is listed for debugging has a name. -/
theorem names_iter : (iter cases a).map (fun b => name cases b true) =
    (contained cases a).map fun c => some c.display := by
  rw [iter_eq_map, List.map_map]
  exact List.map_congr_left fun c hc => h.inOrder.name_constant (List.mem_of_mem_filter hc) true

/-- **The form for debugging** joins the names that the bits select. -/
theorem debug_eq (title : String) : debug title cases a =
    title ++ "(" ++ " | ".intercalate (selected a (OptionCase.optionNames cases)) ++ ")" := by
  have hnames := congrArg (List.map (·.getD "?")) (h.names_iter a)
  rw [List.map_map, List.map_map] at hnames
  have hshown : (iter cases a).map (fun b => (name cases b true).getD "?") =
      selected a (OptionCase.optionNames cases) := by
    rw [OptionCase.optionNames, selected_map, ← h.contained_eq]
    exact hnames
  rw [debug, hshown]

/-- Each option is listed once. -/
theorem nodup_iter : (iter cases a).Nodup := h.apart.filter _

/-! ### Putting together what is listed -/

/-- **Only bits that no case owns are lost** when the listed options are put together. -/
theorem collect_iter : collect (iter cases a) = intersection a (Bits.all w cases) := by
  rw [← positions_inj, positions_collect, positions_intersection]
  ext i
  rw [Finset.mem_biUnion, Finset.mem_inter, mem_positions (a := Bits.all w cases), h.all,
    decide_eq_true_iff, iter_eq_map]
  constructor
  · rintro ⟨b, hb, hi⟩
    obtain ⟨c, hc, rfl⟩ := List.mem_map.1 (List.mem_toFinset.1 hb)
    obtain ⟨hmem, hcontains⟩ := List.mem_filter.1 hc
    have hcase := hi
    rw [positions_constant (h.inOrder.fits c hmem), Finset.mem_singleton] at hcase
    exact ⟨contains_iff_subset.1 hcontains hi, hcase ▸ h.position_lt hmem⟩
  · rintro ⟨ha, hi⟩
    have hmem := List.getElem_mem hi
    have hposition := h.position i _ (List.getElem?_eq_getElem hi)
    have hfits := h.inOrder.fits _ hmem
    refine ⟨constant w cases[i], List.mem_toFinset.2 (List.mem_map.2 ⟨_, ?_, rfl⟩), ?_⟩
    · refine List.mem_filter.2 ⟨hmem, ?_⟩
      rw [contains_constant a hfits, hposition]
      exact mem_positions.1 ha
    · rw [positions_constant hfits, hposition, Finset.mem_singleton]

/-- **A set is collected again from its options** exactly if it has no bits that no case owns. -/
theorem collect_iter_eq_self_iff :
    collect (iter cases a) = a ↔ ∀ i, a.getLsbD i = true → i < cases.length := by
  rw [h.collect_iter, ← positions_inj, positions_intersection, Finset.inter_eq_left]
  refine forall_congr' fun i => ?_
  rw [mem_positions, mem_positions, h.all, decide_eq_true_iff]

end LaidOut
end Bits

namespace OptionSet

open OptionCase

variable {m : OptionSet}

/-- The cases of an accepted option set own the low bits. -/
theorem Accepted.laidOut (h : m.Accepted) {bits : Nat} (fixed : m.storage.bits? = some bits) :
    Bits.LaidOut bits (spelledAll m.cases) := by
  refine Bits.laidOut_of_positions ?_ ?_
  · rw [length_spelledAll]
    exact h.fits bits fixed
  · rw [length_spelledAll, map_position_spelledAll]

/-- **All listings of a set agree.**  In an accepted option set of fixed width, for every raw value,
whatever its bits: the options that are listed one by one are the constants of the cases at the
places of its bits, each once and in the order of the cases; what is joined, and what is shown
behind the name of the type for debugging, are the names at these places.  A raw value has a name
exactly if it is the constant of a case, and then those of this case, so that all that is listed has
one.  The listed options put together are the raw value without the bits that no case owns. -/
theorem listings_of_ofWritten {written : WrittenSet} {bits : Nat}
    (accepted : ofWritten written = .ok (.ok m)) (fixed : m.storage.bits? = some bits) :
    ∃ cases, OptionCase.ofIdents m.cases = .ok cases ∧ cases.length = m.cases.length ∧
      ∀ a : BitVec bits,
        Bits.iter cases a = Bits.selected a (cases.map (Bits.constant bits)) ∧
        (Bits.iter cases a).Nodup ∧
        Bits.joined cases a = ", ".intercalate (Bits.selected a (optionNames cases)) ∧
        Bits.debug m.typeName.name cases a = m.typeName.name ++ "(" ++
          " | ".intercalate (Bits.selected a (optionNames cases)) ++ ")" ∧
        (∀ b ∈ Bits.iter cases a, ∃ s, Bits.name cases b true = some s) ∧
        (∀ display s, Bits.name cases a display = some s ↔
          ∃ c ∈ cases, a = Bits.constant bits c ∧ c.label display = s) ∧
        Bits.collect (Bits.iter cases a) = Bits.intersection a (Bits.all bits cases) ∧
        (Bits.collect (Bits.iter cases a) = a ↔ ∀ i, a.getLsbD i = true → i < cases.length) := by
  have haccepted := accepted_of_ofWritten accepted
  have h := haccepted.laidOut fixed
  refine ⟨_, haccepted.ofIdents, length_spelledAll m.cases, fun a => ⟨h.iter_eq a, h.nodup_iter a,
    h.joined_eq a, h.debug_eq a _, fun b hb => ?_, fun display s => h.name_eq_some_iff a,
    h.collect_iter a, h.collect_iter_eq_self_iff a⟩⟩
  rw [Bits.iter_eq_map] at hb
  obtain ⟨c, hc, rfl⟩ := List.mem_map.1 hb
  exact ⟨_, h.inOrder.name_constant (List.mem_of_mem_filter hc) true⟩

/-- A struct with a raw name and three cases for a signed byte. -/
def threeCases : StructWithItems :=
  { structOf "i8" [.enum (enumOf ["read", "write", "execute"])] with
    name := { name := "Loop", raw := true } }

/-- The sign of a byte that has three cases is listed nowhere, and is lost. -/
theorem listings_of_negative : ∃ m cases,
    ofWritten (.struct threeCases) = .ok (.ok m) ∧ m.storage.bits? = some 8 ∧
    OptionCase.ofIdents m.cases = .ok cases ∧
    Bits.joined cases (BitVec.ofInt 8 (-123)) = "Read, Execute" ∧
    Bits.debug m.typeName.name cases (BitVec.ofInt 8 (-123)) = "Loop(Read | Execute)" ∧
    (∀ display, Bits.name cases (BitVec.ofInt 8 (-123)) display = none) ∧
    Bits.collect (Bits.iter cases (BitVec.ofInt 8 (-123))) = 5#8 := by
  obtain ⟨m, accepted, fixed, htitle, hm⟩ : ∃ m,
      ofWritten (.struct threeCases) = .ok (.ok m) ∧ m.storage.bits? = some 8 ∧
      m.typeName.name = "Loop" ∧
      m.cases = ["read", "write", "execute"].map fun c => { name := c } :=
    ⟨_, rfl, rfl, rfl, rfl⟩
  obtain ⟨cases, hnamed, -, hlistings⟩ := listings_of_ofWritten accepted fixed
  obtain ⟨-, -, hjoined, hdebug, -, hname, hcollect, -⟩ := hlistings (BitVec.ofInt 8 (-123))
  obtain rfl := (ofIdents_eq_ok_iff.1 hnamed).2
  have hnames : optionNames (spelledAll m.cases) = ["Read", "Write", "Execute"] := by
    rw [hm]
    decide +kernel
  have hconstants : (spelledAll m.cases).map (Bits.constant 8) = [1#8, 2#8, 4#8] := by
    rw [hm]
    decide +kernel
  refine ⟨m, _, accepted, fixed, hnamed, ?_, ?_, fun display => ?_, ?_⟩
  · rw [hjoined, hnames]
    decide
  · rw [hdebug, hnames, htitle]
    decide
  · refine Option.eq_none_iff_forall_ne_some.2 fun s hs => ?_
    obtain ⟨c, hc, heq, -⟩ := (hname display s).1 hs
    have hmem := heq ▸ List.mem_map_of_mem (f := Bits.constant 8) hc
    rw [hconstants] at hmem
    revert hmem
    decide
  · rw [hcollect, hm]
    decide +kernel

end OptionSet
end Boilerplate
