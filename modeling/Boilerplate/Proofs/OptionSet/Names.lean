/-
# Names of options and back

`naming` of `src/bitmask`, and its comment that `from_name` is the inverse of `name`.

An option is told by its bit, and bits are apart, so a constant always gives the names of its case
(`InOrder.name_constant`).  The way back goes by the names, which need not be apart: a name gives
the first case that goes by it (`InOrder.fromName_label_eq_some_iff`).  So the two ways are inverse
exactly if no case goes by a name of another one (`InOrder.namesInverse_iff`), and that is not what
is checked when an option set is accepted: what is checked are the constants.  In ASCII, apart
constants leave one way in which names can be shared: two shown names that are the same
(`Accepted.namesApart_iff`).
-/

import Boilerplate.OptionSet.Bits
import Boilerplate.Proofs.Ascii
import Boilerplate.Proofs.OptionSet.Accepted

namespace Boilerplate

/-- The shown or the stored name. -/
def OptionCase.label (c : OptionCase) (display : Bool) : String :=
  if display then c.display else c.wire

/-- Whether two cases have no name in common, in whatever spelling. -/
def OptionCase.NamesApart (b c : OptionCase) : Prop := ∀ x y, b.label x ≠ c.label y

/-- A text is neither of a case's names. -/
theorem OptionCase.forall_label_ne_iff {c : OptionCase} {s : String} :
    (∀ x, c.label x ≠ s) ↔ (s == c.display || s == c.wire) = false := by
  rw [Bool.forall_bool, Bool.or_eq_false_iff, beq_eq_false_iff_ne, beq_eq_false_iff_ne, and_comm]
  exact and_congr ne_comm ne_comm

namespace Bits

variable {w : Nat} {cases : List OptionCase} {b c : OptionCase}

/-! ### Bits -/

/-- The constant of a case as a number. -/
theorem toNat_constant (h : c.position < w) : (constant w c).toNat = 1 <<< c.position := by
  have hone : (1#w).toNat = 1 := by
    rw [BitVec.toNat_ofNat]
    exact Nat.mod_eq_of_lt (Nat.one_lt_two_pow (by omega))
  rw [constant, BitVec.toNat_shiftLeft, hone, Nat.one_shiftLeft]
  exact Nat.mod_eq_of_lt (Nat.pow_lt_pow_right (by decide) h)

/-- **Bits are apart.** -/
theorem position_eq_of_constant_eq (hb : b.position < w) (hc : c.position < w)
    (h : constant w b = constant w c) : b.position = c.position := by
  have hpow := congrArg BitVec.toNat h
  rw [toNat_constant hb, toNat_constant hc, Nat.one_shiftLeft, Nat.one_shiftLeft] at hpow
  exact (Nat.pow_right_inj (by decide)).1 hpow

/-! ### Cases in order -/

/-- Cases stand in the order of their bits, and all bits are those of a word. -/
structure InOrder (w : Nat) (cases : List OptionCase) : Prop where
  increasing : cases.Pairwise fun b c => b.position < c.position
  fits : ∀ c ∈ cases, c.position < w

namespace InOrder

variable (h : InOrder w cases)
include h

/-- A case is told by its bit. -/
theorem eq_of_constant_eq (hb : b ∈ cases) (hc : c ∈ cases) (heq : constant w b = constant w c) :
    b = c := by
  have hposition := position_eq_of_constant_eq (h.fits b hb) (h.fits c hc) heq
  have hnodup : (cases.map (·.position)).Nodup :=
    (List.pairwise_map.2 h.increasing).imp fun hlt => Nat.ne_of_lt hlt
  exact List.inj_on_of_nodup_map hnodup hb hc hposition

/-- A search finds a case if none before it fits. -/
theorem find?_eq_some_iff {p : OptionCase → Bool} (hc : c ∈ cases) (hp : p c = true) :
    cases.find? p = some c ↔ ∀ b ∈ cases, b.position < c.position → p b = false := by
  obtain ⟨before, behind, rfl⟩ := List.append_of_mem hc
  obtain ⟨-, hbehind, hbefore⟩ := List.pairwise_append.1 h.increasing
  have hlate : ∀ b ∈ behind, c.position < b.position := (List.pairwise_cons.1 hbehind).1
  have hearly : ∀ b ∈ before, b.position < c.position :=
    fun b hb => hbefore b hb c List.mem_cons_self
  constructor
  · intro hfind b hb hlt
    rcases List.mem_append.1 hb with hb | hb
    · have hnone : before.find? p = none := by
        cases hfirst : before.find? p with
        | none => rfl
        | some d =>
          rw [List.find?_append, hfirst, Option.some_or] at hfind
          have := hearly d (List.mem_of_find?_eq_some hfirst)
          rw [Option.some.inj hfind] at this
          omega
      exact Bool.eq_false_iff.2 (List.find?_eq_none.1 hnone b hb)
    · rcases List.mem_cons.1 hb with rfl | hb
      · omega
      · have := hlate b hb
        omega
  · intro hnot
    have hnone : before.find? p = none := List.find?_eq_none.2 fun b hb =>
      Bool.eq_false_iff.1 (hnot b (List.mem_append_left _ hb) (hearly b hb))
    rw [List.find?_append, hnone, Option.none_or, List.find?_cons_of_pos hp]

/-- **The constant of a case has its names.** -/
theorem name_constant (hc : c ∈ cases) (display : Bool) :
    name cases (constant w c) display = some (c.label display) := by
  have hfind : cases.find? (fun b => constant w c == constant w b) = some c := by
    refine (h.find?_eq_some_iff hc (by simp)).2 fun b hb hlt => ?_
    refine beq_eq_false_iff_ne.2 fun heq => ?_
    rw [h.eq_of_constant_eq hc hb heq] at hlt
    omega
  rw [name, hfind]
  rfl

/-- **A name gives the first case that goes by it.** -/
theorem fromName_label_eq_some_iff (hc : c ∈ cases) (display : Bool) :
    fromName w cases (c.label display) = some (constant w c) ↔
      ∀ b ∈ cases, b.position < c.position → ∀ x, b.label x ≠ c.label display := by
  have hown : (c.label display == c.display || c.label display == c.wire) = true := by
    cases display <;> simp [OptionCase.label]
  have hfirst := h.find?_eq_some_iff
    (p := fun b => c.label display == b.display || c.label display == b.wire) hc hown
  simp only [← OptionCase.forall_label_ne_iff] at hfirst
  rw [← hfirst, fromName, Option.map_eq_some_iff]
  constructor
  · rintro ⟨b, hb, heq⟩
    rwa [h.eq_of_constant_eq (List.mem_of_find?_eq_some hb) hc heq] at hb
  · exact fun hfind => ⟨c, hfind, rfl⟩

/-- What holds of pairs in the order of the list holds of pairs in the order of their bits. -/
theorem pairwise_iff {R : OptionCase → OptionCase → Prop} :
    cases.Pairwise R ↔ ∀ b ∈ cases, ∀ c ∈ cases, b.position < c.position → R b c := by
  constructor
  · intro hR b hb c hc hlt
    obtain ⟨i, hi, rfl⟩ := List.getElem_of_mem hb
    obtain ⟨j, hj, rfl⟩ := List.getElem_of_mem hc
    rcases Nat.lt_trichotomy i j with hij | rfl | hji
    · exact List.pairwise_iff_getElem.1 hR i j hi hj hij
    · omega
    · have := List.pairwise_iff_getElem.1 h.increasing j i hj hi hji
      omega
  · exact fun hR => h.increasing.imp_of_mem fun hb hc hlt => hR _ hb _ hc hlt

end InOrder

/-- Whether each name of each case leads back to its constant. -/
def NamesInverse (w : Nat) (cases : List OptionCase) : Prop :=
  ∀ c ∈ cases, ∀ display, ∃ s, name cases (constant w c) display = some s ∧
    fromName w cases s = some (constant w c)

/-- **Names are inverse** if no case goes by a name of another one. -/
theorem InOrder.namesInverse_iff (h : InOrder w cases) :
    NamesInverse w cases ↔ cases.Pairwise OptionCase.NamesApart := by
  have hlabel : ∀ c ∈ cases, ∀ display, (∃ s, name cases (constant w c) display = some s ∧
      fromName w cases s = some (constant w c)) ↔
        ∀ b ∈ cases, b.position < c.position → ∀ x, b.label x ≠ c.label display := by
    intro c hc display
    rw [h.name_constant hc, ← h.fromName_label_eq_some_iff hc]
    simp only [Option.some.injEq, exists_eq_left']
  rw [h.pairwise_iff]
  constructor
  · exact fun hinverse b hb c hc hlt x y => (hlabel c hc y).1 (hinverse c hc y) b hb hlt x
  · exact fun hapart c hc y => (hlabel c hc y).2 fun b hb hlt x => hapart b hb c hc hlt x y

end Bits

namespace OptionSet

open OptionCase

variable {m : OptionSet}

/-- The cases of an accepted option set stand in the order of their bits. -/
theorem Accepted.inOrder (h : m.Accepted) {bits : Nat} (fixed : m.storage.bits? = some bits) :
    Bits.InOrder bits (spelledAll m.cases) := by
  have hpositions := map_position_spelledAll m.cases
  refine ⟨List.pairwise_map.1 (hpositions ▸ List.pairwise_lt_range), fun c hc => ?_⟩
  have hmem : c.position ∈ List.range m.cases.length := hpositions ▸ List.mem_map_of_mem hc
  have := List.mem_range.1 hmem
  have := h.fits bits fixed
  omega

/-- Names are apart if they are so from identifier to identifier. -/
theorem pairwise_spelled_iff {R : OptionCase → OptionCase → Prop}
    (hR : ∀ i j p q, R (spelled i p) (spelled j q) ↔ R (spelled i 0) (spelled j 0)) :
    (spelledAll m.cases).Pairwise R ↔
      m.cases.Pairwise fun i j => R (spelled i 0) (spelled j 0) := by
  have hfirst := List.pairwise_map (f := Prod.fst) (l := m.cases.zipIdx)
    (R := fun i j => R (spelled i 0) (spelled j 0))
  rw [List.zipIdx_map_fst] at hfirst
  rw [spelledAll, List.pairwise_map, hfirst]
  simp only [hR]

/-- **In ASCII** names are apart unless two shown names are the same. -/
theorem Accepted.namesApart_iff (h : m.Accepted) (ascii : ∀ i ∈ m.cases, IsAscii i.name.toList) :
    (m.cases.Pairwise fun i j => NamesApart (spelled i 0) (spelled j 0)) ↔
      m.cases.Pairwise fun i j => capitalized i.name.toList ≠ capitalized j.name.toList := by
  constructor
  · refine fun hapart => hapart.imp fun hij heq => hij true true ?_
    exact congrArg String.ofList heq
  · intro hshown
    refine (hshown.and (List.pairwise_map.1 h.nodup)).imp_of_mem ?_
    rintro i j hi hj ⟨hshown, hconstant⟩ x y heq
    have hmixed := fun {i} (hi : i ∈ m.cases) {j} (hj : j ∈ m.cases) =>
      Ascii.capitalized_ne_snake (ascii i hi) (ascii j hj) (h.named i hi) (h.named j hj)
    cases x <;> cases y
    · have hwire : Words.snake i.name.toList = Words.snake j.name.toList :=
        String.ofList_injective heq
      refine hconstant (congrArg String.ofList ?_)
      rw [Ascii.upperSnake_eq (ascii i hi), Ascii.upperSnake_eq (ascii j hj), hwire]
    · exact hmixed hj hi (String.ofList_injective heq).symm
    · exact hmixed hi hj (String.ofList_injective heq)
    · exact hshown (String.ofList_injective heq)

/-- **When names are inverse.**  In an accepted option set of fixed width a constant has the names
of its case, and a name leads back to the first case that goes by it.  So all names lead back to
their constants exactly if no two cases share one, and in ASCII exactly if no two shown names are
the same, which nothing rules out. -/
theorem names_of_ofWritten {written : WrittenSet} {bits : Nat}
    (accepted : ofWritten written = .ok (.ok m)) (fixed : m.storage.bits? = some bits) :
    ∃ cases, OptionCase.ofIdents m.cases = .ok cases ∧
      (∀ c ∈ cases, ∀ display,
        Bits.name cases (Bits.constant bits c) display = some (c.label display)) ∧
      (∀ c ∈ cases, ∀ display,
        Bits.fromName bits cases (c.label display) = some (Bits.constant bits c) ↔
          ∀ b ∈ cases, b.position < c.position → ∀ x, b.label x ≠ c.label display) ∧
      (Bits.NamesInverse bits cases ↔ cases.Pairwise NamesApart) ∧
      ((∀ i ∈ m.cases, IsAscii i.name.toList) →
        (Bits.NamesInverse bits cases ↔ m.cases.Pairwise fun i j =>
          capitalized i.name.toList ≠ capitalized j.name.toList)) := by
  have h := accepted_of_ofWritten accepted
  have horder := h.inOrder fixed
  refine ⟨_, h.ofIdents, fun c hc => horder.name_constant hc,
    fun c hc => horder.fromName_label_eq_some_iff hc, horder.namesInverse_iff, fun ascii => ?_⟩
  rw [horder.namesInverse_iff, ← h.namesApart_iff ascii]
  exact pairwise_spelled_iff fun _ _ _ _ => Iff.rfl

/-- An option set with the cases `aB` and `AB`, whose constants are `A_B` and `AB`. -/
def alike : WrittenSet :=
  let directive : Attribute := {
    mark := [.punct '#' .alone .none]
    path := { rooted := false, segments := [{ name := { name := "option_set" } }], tokens := [] }
    args := .list .parenthesis [.ident { name := "u8" }] .none .none
    opening := .none
    closing := .none }
  let case (name : String) : Variant := {
    attributes := [], name := { name }, fields := .unit, discriminant := none, separator := [] }
  let options : EnumItem := {
    attributes := []
    visibility := []
    keyword := []
    name := { name := "Options" }
    generics := {}
    whereClause := []
    variants := [case "aB", case "AB"]
    opening := .none
    closing := .none }
  .struct {
    attributes := [directive]
    visibility := []
    name := { name := "Set" }
    generics := {}
    hasWhere := false
    items := [.enum options] }

/-- Both cases of `alike` are shown as `AB`, and that leads to the first of them only. -/
theorem not_namesInverse_alike : ∃ m cases, ofWritten alike = .ok (.ok m) ∧
    OptionCase.ofIdents m.cases = .ok cases ∧ ¬ Bits.NamesInverse 8 cases := by
  obtain ⟨m, accepted, fixed, hcases⟩ : ∃ m, ofWritten alike = .ok (.ok m) ∧
      m.storage.bits? = some 8 ∧ m.cases = [{ name := "aB" }, { name := "AB" }] :=
    ⟨_, rfl, rfl, rfl⟩
  obtain ⟨cases, hnamed, -, -, -, hascii⟩ := names_of_ofWritten accepted fixed
  refine ⟨m, cases, accepted, hnamed, ?_⟩
  rw [hascii (by rw [hcases]; decide), hcases]
  decide +kernel

end OptionSet
end Boilerplate
