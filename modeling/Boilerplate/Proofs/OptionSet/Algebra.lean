/-
# Option sets as sets of bits

`set_algebra` and `operators` of `src/bitmask`; `SPEC_FULL.md` §4.3.

A word of any width is read as the set of the positions of its bits (`Bits.positions`), which
determines the word.  In a signed storage type the bits are those of the two's complement, so that
the sign is one more position (`mem_positions_iff_value`), and no position is treated unlike the
others, whether a case owns it or not.  All operations on option sets are those on sets of positions
(`positions_of_operations`).  What comes of a sequence depends on its members alone, whatever their
order and however often they stand there (`positions_collect`, `positions_extend`).
-/

import Boilerplate.OptionSet.Bits
import Mathlib.Data.Finset.Union

namespace Boilerplate
namespace Bits

variable {w : Nat} {a b : BitVec w} {i : Nat}

/-- The positions of the bits that a set has. -/
def positions (a : BitVec w) : Finset Nat := (Finset.range w).filter (a.getLsbD ·)

/-- The positions of a set are those of its bits. -/
theorem mem_positions : i ∈ positions a ↔ a.getLsbD i = true := by
  rw [positions, Finset.mem_filter, Finset.mem_range, and_iff_right_of_imp]
  exact BitVec.lt_of_getLsbD

/-- A set is determined by its positions. -/
theorem positions_inj : positions a = positions b ↔ a = b := by
  refine ⟨fun h => BitVec.eq_of_getLsbD_eq fun i _ => ?_, fun h => h ▸ rfl⟩
  rw [Bool.eq_iff_iff, ← mem_positions, ← mem_positions, h]

/-! ### Raw values -/

/-- The bits of a word are those of the number that is less by `2 ^ w`. -/
theorem shiftRight_sub_two_pow (n : Int) (h : i < w) :
    (n - (2 ^ w : Nat)) >>> i % 2 = n >>> i % 2 := by
  have hpow : 2 ^ w = 2 ^ (w - i - 1) * 2 * 2 ^ i := by
    rw [← Nat.pow_succ, ← Nat.pow_add, show w - i - 1 + 1 + i = w by omega]
  have hpos : 0 < 2 ^ i := Nat.two_pow_pos i
  rw [Int.shiftRight_eq_div_pow, Int.shiftRight_eq_div_pow, hpow, Int.natCast_mul,
    Int.sub_mul_ediv_right _ _ (by omega)]
  omega

/-- **Position `i` is bit `i` of the raw value**, which is in two's complement if it is signed. -/
theorem mem_positions_iff_value (signed : Bool) :
    i ∈ positions a ↔ i < w ∧ value signed a >>> i % 2 = 1 := by
  have hunsigned : a.getLsbD i = true ↔ (a.toNat : Int) >>> i % 2 = 1 := by
    rw [← BitVec.testBit_toNat, Nat.testBit_eq_decide_div_mod_eq, decide_eq_true_iff,
      Int.shiftRight_eq_div_pow]
    omega
  have hsigned : i < w → a.toInt >>> i % 2 = (a.toNat : Int) >>> i % 2 := by
    intro hi
    rw [BitVec.toInt_eq_toNat_cond]
    split
    · rfl
    · exact shiftRight_sub_two_pow a.toNat hi
  rw [mem_positions, ← and_iff_right_of_imp BitVec.lt_of_getLsbD, hunsigned]
  refine and_congr_right fun hi => ?_
  cases signed with
  | false => rfl
  | true => rw [value, if_pos rfl, hsigned hi]

/-- Sets are equal if their raw values are. -/
theorem value_inj (signed : Bool) : value signed a = value signed b ↔ a = b := by
  cases signed with
  | false => exact Int.ofNat_inj.trans BitVec.toNat_inj
  | true => exact BitVec.toInt_inj

/-! ### Operations on two sets -/

/-- The union has the positions of both sets. -/
theorem positions_union : positions (union a b) = positions a ∪ positions b := by
  ext i
  rw [Finset.mem_union, mem_positions, mem_positions, mem_positions, union, BitVec.getLsbD_or,
    Bool.or_eq_true]

/-- The intersection has the positions that the sets share. -/
theorem positions_intersection : positions (intersection a b) = positions a ∩ positions b := by
  ext i
  rw [Finset.mem_inter, mem_positions, mem_positions, mem_positions, intersection,
    BitVec.getLsbD_and, Bool.and_eq_true]

/-- The difference has the positions that only the first set has. -/
theorem positions_difference : positions (difference a b) = positions a \ positions b := by
  ext i
  rw [Finset.mem_sdiff, mem_positions, mem_positions, mem_positions, difference,
    BitVec.getLsbD_and, BitVec.getLsbD_not, Bool.and_eq_true, Bool.and_eq_true, decide_eq_true_iff,
    Bool.not_eq_true', Bool.not_eq_true]
  exact and_congr_right fun h => and_iff_right (BitVec.lt_of_getLsbD h)

/-- A set contains another one if it has all of its positions. -/
theorem contains_iff_subset : contains a b = true ↔ positions b ⊆ positions a := by
  rw [contains, beq_iff_eq, ← positions_inj, ← Finset.inter_eq_right]
  exact Eq.congr_left positions_intersection

/-- A set is empty if it has no positions. -/
theorem isEmpty_iff : isEmpty a = true ↔ positions a = ∅ := by
  have hzero : positions 0#w = ∅ := by
    ext i
    simp [mem_positions]
  rw [isEmpty, beq_iff_eq, ← positions_inj, hzero]

/-! ### Changing a set -/

/-- A set is fresh if not all of its positions were there. -/
theorem insert_spec (a b : BitVec w) :
    ((insert a b).2 = true ↔ ¬ positions b ⊆ positions a) ∧
      positions (insert a b).1 = positions a ∪ positions b := by
  refine ⟨?_, positions_union⟩
  rw [insert, Bool.not_eq_true', ← contains_iff_subset, Bool.not_eq_true]

/-- A set was present if one of its positions was there. -/
theorem remove_spec (a b : BitVec w) :
    ((remove a b).2 = true ↔ (positions a ∩ positions b).Nonempty) ∧
      positions (remove a b).1 = positions a \ positions b := by
  refine ⟨?_, positions_difference⟩
  have hpresent : (remove a b).2 = !isEmpty (intersection a b) := rfl
  rw [hpresent, Bool.not_eq_true', ← Bool.not_eq_true, isEmpty_iff, positions_intersection,
    Finset.nonempty_iff_ne_empty]

/-! ### Sequences of sets -/

/-- One set after the other is added to what there is. -/
theorem positions_foldl_union (a : BitVec w) (bs : List (BitVec w)) :
    positions (bs.foldl union a) = positions a ∪ bs.toFinset.biUnion positions := by
  induction bs generalizing a with
  | nil => rw [List.foldl_nil, List.toFinset_nil, Finset.biUnion_empty, Finset.union_empty]
  | cons b bs ih =>
    rw [List.foldl_cons, ih, positions_union, List.toFinset_cons, Finset.biUnion_insert,
      Finset.union_assoc]

/-- **Collecting sets** gives the union of all that there are. -/
theorem positions_collect (bs : List (BitVec w)) :
    positions (collect bs) = bs.toFinset.biUnion positions := by
  have hempty : positions 0#w = ∅ := isEmpty_iff.1 (beq_self_eq_true 0#w)
  rw [collect, positions_foldl_union, hempty, Finset.empty_union]

/-- **Extending a set** adds all that there are.  It inserts them one by one, which forgets whether
they were fresh. -/
theorem positions_extend (a : BitVec w) (bs : List (BitVec w)) :
    positions (extend a bs) = positions a ∪ bs.toFinset.biUnion positions :=
  positions_foldl_union a bs

/-- **Option sets are sets of bits.**  For every width and all raw values, of signed types in two's
complement, each operation is the one on sets of positions, the operators and their assigning forms
are those of the methods, and a sequence of sets counts as the set of its members. -/
theorem positions_of_operations (a b : BitVec w) (bs : List (BitVec w)) :
    (∀ signed, (∀ i, i ∈ positions a ↔ i < w ∧ value signed a >>> i % 2 = 1) ∧
      (positions a = positions b ↔ value signed a = value signed b)) ∧
    positions (union a b) = positions a ∪ positions b ∧
    positions (intersection a b) = positions a ∩ positions b ∧
    positions (difference a b) = positions a \ positions b ∧
    (contains a b = true ↔ positions b ⊆ positions a) ∧
    (Operator.bitOr.apply a b = union a b ∧ Operator.bitOr.assign a b = union a b) ∧
    (Operator.bitAnd.apply a b = intersection a b ∧
      Operator.bitAnd.assign a b = intersection a b) ∧
    (Operator.sub.apply a b = difference a b ∧ Operator.sub.assign a b = difference a b) ∧
    (((insert a b).2 = true ↔ ¬ positions b ⊆ positions a) ∧
      positions (insert a b).1 = positions a ∪ positions b) ∧
    (((remove a b).2 = true ↔ (positions a ∩ positions b).Nonempty) ∧
      positions (remove a b).1 = positions a \ positions b) ∧
    positions (collect bs) = bs.toFinset.biUnion positions ∧
    positions (extend a bs) = positions a ∪ bs.toFinset.biUnion positions := by
  refine ⟨fun signed => ⟨fun i => mem_positions_iff_value signed, ?_⟩, positions_union,
    positions_intersection, positions_difference, contains_iff_subset, ?_, ?_, ?_,
    insert_spec a b, remove_spec a b, positions_collect bs, positions_extend a bs⟩
  · rw [positions_inj, value_inj]
  all_goals exact ⟨rfl, rfl⟩

/-- The sign of a byte is the last of its positions, here of a byte in which no case owns a bit. -/
example : positions (BitVec.ofInt 8 (-127)) = {0, 7} ∧
    insert (BitVec.ofInt 8 (-127)) 0x83#8 = (BitVec.ofInt 8 (-125), true) := by decide

end Bits
end Boilerplate
