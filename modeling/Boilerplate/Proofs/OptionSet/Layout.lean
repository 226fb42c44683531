/-
# Which bits the cases own

`flag_constants` of `src/bitmask`; `SPEC_FULL.md` §4.3 and the first property of §8.

The cases of an accepted option set own the low bits of the storage, one each in their order, and no
case goes without: the constants are the single bits and `all` is all of them (`Bits.LaidOut`,
`layout_of_ofWritten`).
-/

import Boilerplate.Proofs.OptionSet.Declares
import Boilerplate.Proofs.OptionSet.Names

namespace Boilerplate
namespace Bits

variable {w : Nat} {cases : List OptionCase} {c : OptionCase}

/-- A constant has the bit of its case alone. -/
theorem getLsbD_constant (h : c.position < w) (j : Nat) :
    (constant w c).getLsbD j = decide (j = c.position) := by
  rw [constant, BitVec.getLsbD_shiftLeft, BitVec.getLsbD_one, Bool.eq_iff_iff]
  simp only [Bool.and_eq_true, Bool.not_eq_true', decide_eq_true_iff, decide_eq_false_iff_not]
  omega

/-- A set has the bits of its parts. -/
theorem getLsbD_foldl_constant (a : BitVec w) (j : Nat) :
    (cases.foldl (fun a c => a ||| constant w c) a).getLsbD j =
      (a.getLsbD j || cases.any fun c => (constant w c).getLsbD j) := by
  induction cases generalizing a with
  | nil => simp
  | cons c cases ih => rw [List.foldl_cons, ih, BitVec.getLsbD_or, List.any_cons, Bool.or_assoc]

/-- Cases on the low bits of a word, one for each in their order. -/
structure LaidOut (w : Nat) (cases : List OptionCase) : Prop where
  fits : cases.length ≤ w
  position : ∀ (i : Nat) (c : OptionCase), cases[i]? = some c → c.position = i
  /-- The constant of a case has its bit and no other. -/
  single : ∀ (i : Nat) (c : OptionCase), cases[i]? = some c →
    ∀ j, (constant w c).getLsbD j = decide (j = i)
  /-- The constants are the powers of two. -/
  powers : cases.map (fun c => (constant w c).toNat) = (List.range cases.length).map (1 <<< ·)
  apart : (cases.map (constant w)).Nodup
  /-- All cases together have the low bits. -/
  all : ∀ j, (Bits.all w cases).getLsbD j = decide (j < cases.length)

/-- **Numbered cases** own the low bits if there are enough. -/
theorem laidOut_of_positions (hfits : cases.length ≤ w)
    (hpositions : cases.map (·.position) = List.range cases.length) : LaidOut w cases := by
  have hposition : ∀ (i : Nat) (c : OptionCase), cases[i]? = some c → c.position = i := by
    intro i c hc
    have hi : i < cases.length := (List.getElem?_eq_some_iff.1 hc).1
    have hget : (cases.map (·.position))[i]? = (List.range cases.length)[i]? := by rw [hpositions]
    rw [List.getElem?_map, hc, List.getElem?_range hi] at hget
    exact Option.some.inj hget
  have hlt : ∀ c ∈ cases, c.position < w := by
    intro c hc
    obtain ⟨i, hi⟩ := List.getElem?_of_mem hc
    have := (List.getElem?_eq_some_iff.1 hi).1
    rw [hposition i c hi]
    omega
  have hpowers : cases.map (fun c => (constant w c).toNat) =
      (List.range cases.length).map (1 <<< ·) := by
    rw [← hpositions, List.map_map]
    exact List.map_congr_left fun c hc => toNat_constant (hlt c hc)
  refine {
    fits := hfits
    position := hposition
    single := fun i c hc j => ?_
    powers := hpowers
    apart := ?_
    all := fun j => ?_ }
  · rw [getLsbD_constant (hlt c (List.mem_of_getElem? hc)), hposition i c hc]
  -- Different powers of two are values of different words.
  · have hnodup : (cases.map fun c => (constant w c).toNat).Nodup := by
      rw [hpowers]
      refine List.Nodup.map (fun i j h => ?_) List.nodup_range
      simp only [Nat.one_shiftLeft] at h
      exact (Nat.pow_right_inj (by decide)).1 h
    rw [← Function.comp_def, ← List.map_map] at hnodup
    exact hnodup.of_map
  · rw [Bits.all, getLsbD_foldl_constant, BitVec.getLsbD_zero, Bool.false_or, Bool.eq_iff_iff,
      List.any_eq_true, decide_eq_true_iff, ← List.mem_range, ← hpositions, List.mem_map]
    refine exists_congr fun c => and_congr_right fun hc => ?_
    rw [getLsbD_constant (hlt c hc), decide_eq_true_iff, eq_comm]

end Bits

namespace OptionSet

open OptionCase

/-- **Which bits the cases own.**  In an accepted option set of fixed width there is at least one
case and there are no more cases than bits.  Their constants have names that are apart from each
other and from the one that is reserved; each is the bit at the place of its case in the enum, and
all together they are the low bits.  The names that are shown are listed in the same order. -/
theorem layout_of_ofWritten {written : WrittenSet} {m : OptionSet} {bits : Nat}
    (accepted : ofWritten written = .ok (.ok m)) (fixed : m.storage.bits? = some bits) :
    ∃ s d e cases, written = .struct s ∧ Declares s d e ∧ m.cases = e.variants.map (·.name) ∧
      OptionCase.ofIdents m.cases = .ok cases ∧
      cases.length = e.variants.length ∧ 1 ≤ cases.length ∧ Bits.LaidOut bits cases ∧
      (cases.map (·.constant.text)).Nodup ∧ reservedConstant ∉ cases.map (·.constant.text) ∧
      optionNames cases =
        e.variants.map fun v => String.ofList (capitalized v.name.name.toList) := by
  cases written with
  | other => cases accepted
  | struct s =>
    obtain ⟨d, e, h, rfl⟩ := ofStruct_eq_ok_iff.1 accepted
    obtain ⟨cases, hcases, hnodup, hfree⟩ := h.named
    obtain rfl := (ofIdents_eq_ok_iff.1 hcases).2
    have hlength : (spelledAll (e.variants.map (·.name))).length = e.variants.length := by
      rw [spelledAll, List.length_map, List.length_zipIdx, List.length_map]
    have hpositions := map_position_spelledAll (e.variants.map (·.name))
    rw [List.length_map, ← hlength] at hpositions
    refine ⟨s, d, e, _, rfl, h, rfl, hcases, hlength, ?_, ?_, hnodup, hfree, ?_⟩
    · rw [hlength]
      exact List.length_pos_iff.2 h.nonempty
    · exact Bits.laidOut_of_positions (hlength ▸ h.fits bits fixed) hpositions
    · rw [optionNames, map_spelledAll _ fun _ _ => rfl, List.map_map]
      rfl

/-- A struct with eight cases for a signed byte. -/
def eightCases : StructWithItems :=
  structOf "i8" [.enum (enumOf ["a", "b", "c", "d", "e", "f", "g", "h"])]

/-- A signed byte has room for eight cases, and the last of them owns the sign. -/
theorem layout_of_eight : ∃ m cases,
    ofWritten (.struct eightCases) = .ok (.ok m) ∧ m.storage.bits? = some 8 ∧
    OptionCase.ofIdents m.cases = .ok cases ∧ Bits.LaidOut 8 cases ∧
    optionNames cases = ["A", "B", "C", "D", "E", "F", "G", "H"] ∧
    ∃ c, cases[7]? = some c ∧ Bits.value true (Bits.constant 8 c) = -128 := by
  obtain ⟨m, accepted, fixed, hm⟩ : ∃ m,
      ofWritten (.struct eightCases) = .ok (.ok m) ∧ m.storage.bits? = some 8 ∧
      m.cases = ["a", "b", "c", "d", "e", "f", "g", "h"].map fun c => { name := c } :=
    ⟨_, rfl, rfl, rfl⟩
  obtain ⟨s, d, e, cases, -, -, hcases, hnamed, hlength, -, hlaid, -, -, hnames⟩ :=
    layout_of_ofWritten accepted fixed
  have height : e.variants.length = 8 := by
    rw [← List.length_map (·.name), ← hcases, hm]
    rfl
  refine ⟨m, cases, accepted, fixed, hnamed, hlaid, ?_, ?_⟩
  · have hmap := congrArg (List.map fun i => String.ofList (capitalized i.name.toList)) hcases
    rw [List.map_map] at hmap
    refine hnames.trans (hmap.symm.trans ?_)
    rw [hm]
    decide +kernel
  · have hlast : 7 < cases.length := by omega
    refine ⟨cases[7], List.getElem?_eq_getElem hlast, ?_⟩
    rw [Bits.constant, hlaid.position 7 _ (List.getElem?_eq_getElem hlast)]
    decide

end OptionSet
end Boilerplate
