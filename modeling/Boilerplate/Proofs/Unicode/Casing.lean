/-
# Upper case inside identifiers

Which characters may stand in an identifier is a matter of tables, and so is upper case.  What is
proved of the tables here is what case conversion relies on: upper case keeps a character that
starts an identifier one that does, and changes no character that goes on with one unless that
starts one, too, or is a mark (`upper_spec`).  And no letter becomes a small one of ASCII, nor stays
one (`isLower_eq_false_of_mem_upper`).

The tables are checked range by range, not letter by letter (`CaseRun.keeps`).
-/

import Boilerplate.Unicode.Casing
import Boilerplate.Unicode.Cluster
import Boilerplate.Unicode.Identifier

namespace Boilerplate
namespace Unicode

/-! ### Ranges -/

namespace Ranges

/-- Whether the ranges stand in increasing order, from a code point on. -/
def orderedFrom : Nat → Ranges → Bool
  | _, [] => true
  | bound, (first, last) :: rest =>
    decide (bound ≤ first) && decide (first ≤ last) && orderedFrom (last + 1) rest

/-- Whether one range holds all code points from `first` to `last`.  `Nat.ble` is what the kernel
evaluates fast. -/
def includes (rs : Ranges) (first last : Nat) : Bool :=
  rs.any fun p => Nat.ble p.1 first && Nat.ble last p.2

/-- Whether no range holds a code point from `first` to `last`. -/
def avoids (rs : Ranges) (first last : Nat) : Bool := rs.all fun p => p.2 < first || last < p.1

/-- Ranges in increasing order start behind where they start from. -/
theorem le_of_orderedFrom {rs : Ranges} {bound : Nat} (h : rs.orderedFrom bound = true) :
    ∀ p ∈ rs, bound ≤ p.1 := by
  induction rs generalizing bound with
  | nil => exact nofun
  | cons p rest ih =>
    obtain ⟨first, last⟩ := p
    simp only [orderedFrom, Bool.and_eq_true, decide_eq_true_iff] at h
    intro q hq
    rcases List.mem_cons.1 hq with rfl | hq
    · exact h.1.1
    · have := ih h.2 q hq
      omega

/-- Among ranges in increasing order the search finds the range that holds a character. -/
theorem holds_iff {rs : Ranges} {bound : Nat} (h : rs.orderedFrom bound = true) {c : Char} :
    rs.holds c = true ↔ ∃ p ∈ rs, p.1 ≤ c.toNat ∧ c.toNat ≤ p.2 := by
  induction rs generalizing bound with
  | nil => simp [holds]
  | cons p rest ih =>
    obtain ⟨first, last⟩ := p
    simp only [orderedFrom, Bool.and_eq_true, decide_eq_true_iff] at h
    simp only [holds, List.mem_cons, exists_eq_or_imp, ← ih h.2]
    split
    · exact ⟨Or.inr, fun hor => hor.resolve_left fun hc => by omega⟩
    · rw [decide_eq_true_iff]
      refine ⟨fun hc => Or.inl ⟨hc, by omega⟩, fun hor => hor.elim And.left fun hc => ?_⟩
      obtain ⟨q, hq, hq₁, -⟩ := (ih h.2).1 hc
      have := le_of_orderedFrom h.2 q hq
      omega

/-- Ranges of characters, in increasing order. -/
structure Sound (rs : Ranges) : Prop where
  ordered : rs.orderedFrom 0 = true
  valid : ∀ p ∈ rs, p.2 < 0xD800 ∨ 0xDFFF < p.1 ∧ p.2 < 0x110000

namespace Sound

variable {rs : Ranges} (h : rs.Sound)
include h

/-- Every character between two ends that one range holds is held. -/
theorem holds_of_includes {first last : Nat} (hin : rs.includes first last = true) {c : Char}
    (hfirst : first ≤ c.toNat) (hlast : c.toNat ≤ last) : rs.holds c = true := by
  obtain ⟨p, hp, hle⟩ := List.any_eq_true.1 hin
  rw [Bool.and_eq_true, Nat.ble_eq, Nat.ble_eq] at hle
  exact (holds_iff h.ordered).2 ⟨p, hp, by omega, by omega⟩

/-- No character between two ends is held if no range reaches between them. -/
theorem holds_eq_false_of_avoids {first last : Nat} (hout : rs.avoids first last = true) {c : Char}
    (hfirst : first ≤ c.toNat) (hlast : c.toNat ≤ last) : rs.holds c = false := by
  rw [← Bool.not_eq_true, holds_iff h.ordered]
  rintro ⟨p, hp, hp₁, hp₂⟩
  have hout := List.all_eq_true.1 hout p hp
  simp only [Bool.or_eq_true, decide_eq_true_iff] at hout
  omega

/-- A code point that is held is that of a character. -/
theorem isValidChar_of_includes {first last n : Nat} (hin : rs.includes first last = true)
    (hfirst : first ≤ n) (hlast : n ≤ last) : n.isValidChar := by
  obtain ⟨p, hp, hle⟩ := List.any_eq_true.1 hin
  rw [Bool.and_eq_true, Nat.ble_eq, Nat.ble_eq] at hle
  have := h.valid p hp
  unfold Nat.isValidChar
  omega

/-- Every code point between two ends that one range holds is that of a character that is held. -/
theorem holds_ofNat {first last n : Nat} (hin : rs.includes first last = true)
    (hfirst : first ≤ n) (hlast : n ≤ last) : rs.holds (Char.ofNat n) = true := by
  have hvalid := h.isValidChar_of_includes hin hfirst hlast
  have hn : (Char.ofNat n).toNat = n := by
    rw [Char.ofNat, dif_pos hvalid]
    rfl
  exact h.holds_of_includes hin (by omega) (by omega)

end Sound
end Ranges

set_option maxRecDepth 100000 in
/-- The ranges of the tables are in order. -/
theorem ranges_sound : startRanges.Sound ∧ continueRanges.Sound ∧ markRanges.Sound :=
  ⟨⟨by decide +kernel, by decide +kernel⟩, ⟨by decide +kernel, by decide +kernel⟩,
    ⟨by decide +kernel, by decide +kernel⟩⟩

/-- The ranges of characters that start identifiers are in order. -/
theorem startRanges_sound : startRanges.Sound := ranges_sound.1

/-- The ranges of characters that go on with identifiers are in order. -/
theorem continueRanges_sound : continueRanges.Sound := ranges_sound.2.1

/-- The ranges of marks are in order. -/
theorem markRanges_sound : markRanges.Sound := ranges_sound.2.2

/-! ### Upper case -/

/-- The code points of a run. -/
def CaseRun.points (r : CaseRun) : List Nat :=
  (List.range ((r.last - r.first) / r.step + 1)).map fun k => r.first + k * r.step

/-- Whether characters that start identifiers move to such characters. -/
def CaseRun.starts (r : CaseRun) (first last : Nat) : Bool :=
  startRanges.includes (first + r.shift).toNat (last + r.shift).toNat &&
    (startRanges.includes first last || markRanges.includes first last)

/-- Whether the run has no part in identifiers, or moves characters that start them, and marks, to
characters that start them: all at once or one by one. -/
def CaseRun.keeps (r : CaseRun) : Bool :=
  r.starts r.first r.last || (r.points.all fun n => r.starts n n) ||
    (startRanges.avoids r.first r.last && continueRanges.avoids r.first r.last)

/-- Whether the letter starts identifiers, and so does what it becomes. -/
def keepsSpecial (p : Nat × List Nat) : Bool :=
  startRanges.includes p.1 p.1 &&
    match p.2 with
    | [] => false
    | n :: ns => startRanges.includes n n &&
        ns.all fun k => startRanges.includes k k || continueRanges.includes k k

/-- What the tables of upper case say of letters that start identifiers. -/
theorem upper_keep :
    upperRuns.all CaseRun.keeps = true ∧ upperSpecial.all keepsSpecial = true :=
  ⟨by decide +kernel, by decide +kernel⟩

/-- Every run of letters keeps the start of identifiers. -/
theorem upperRuns_keep : upperRuns.all CaseRun.keeps = true := upper_keep.1

/-- Every letter that becomes several keeps the start of identifiers. -/
theorem upperSpecial_keep : upperSpecial.all keepsSpecial = true := upper_keep.2

/-- A run covers the points that are listed. -/
theorem CaseRun.mem_points {r : CaseRun} {n : Nat} (h : r.covers n = true) : n ∈ r.points := by
  simp only [CaseRun.covers, Bool.and_eq_true, decide_eq_true_iff, beq_iff_eq] at h
  obtain ⟨⟨hfirst, hlast⟩, hstep⟩ := h
  refine List.mem_map.2 ⟨(n - r.first) / r.step, List.mem_range.2 ?_, ?_⟩
  · have := Nat.div_le_div_right (c := r.step) (Nat.sub_le_sub_right hlast r.first)
    omega
  · have := Nat.div_add_mod' (n - r.first) r.step
    omega

/-- A character that is moved by a run between two ends. -/
theorem starts_spec {r : CaseRun} {first last : Nat} (h : r.starts first last = true) {c : Char}
    (hfirst : first ≤ c.toNat) (hlast : c.toNat ≤ last) :
    (isStart c = true ∨ markRanges.holds c = true) ∧
      isStart (Char.ofNat (c.toNat + r.shift).toNat) = true := by
  simp only [CaseRun.starts, Bool.and_eq_true, Bool.or_eq_true] at h
  obtain ⟨htarget, hsource⟩ := h
  exact ⟨hsource.imp (startRanges_sound.holds_of_includes · hfirst hlast)
      (markRanges_sound.holds_of_includes · hfirst hlast),
    startRanges_sound.holds_ofNat htarget (by omega) (by omega)⟩

/-- What a letter with a mapping of its own becomes. -/
theorem keepsSpecial_spec {n : Nat} {ns : List Nat} (h : keepsSpecial (n, ns) = true) :
    startRanges.includes n n = true ∧
      ∃ d ds, ns.map Char.ofNat = d :: ds ∧ isStart d = true ∧ ∀ e ∈ ds, isContinue e = true := by
  have hholds : ∀ {rs : Ranges}, rs.Sound → ∀ {k}, rs.includes k k = true →
      rs.holds (Char.ofNat k) = true :=
    fun hrs _ hk => hrs.holds_ofNat hk (Nat.le_refl _) (Nat.le_refl _)
  rw [keepsSpecial, Bool.and_eq_true] at h
  cases ns with
  | nil => cases h.2
  | cons m ms =>
    obtain ⟨hm, hms⟩ := Bool.and_eq_true_iff.1 h.2
    refine ⟨h.1, _, _, List.map_cons, hholds startRanges_sound hm, fun e he => ?_⟩
    obtain ⟨k, hk, rfl⟩ := List.mem_map.1 he
    have hk := Bool.or_eq_true_iff.1 (List.all_eq_true.1 hms k hk)
    exact Bool.or_eq_true_iff.2 (hk.imp (hholds startRanges_sound) (hholds continueRanges_sound))

/-- Where a run moves a character of identifiers. -/
theorem keeps_spec {r : CaseRun} (h : r.keeps = true) {c : Char} (hcovers : r.covers c.toNat = true)
    (hc : isContinue c = true) :
    (isStart c = true ∨ markRanges.holds c = true) ∧
      isStart (Char.ofNat (c.toNat + r.shift).toNat) = true := by
  have hin := hcovers
  simp only [CaseRun.covers, Bool.and_eq_true, decide_eq_true_iff] at hin
  simp only [CaseRun.keeps, Bool.or_eq_true, Bool.and_eq_true] at h
  rcases h with (hall | hpoints) | ⟨hstart, hcontinue⟩
  · exact starts_spec hall hin.1.1 hin.1.2
  · have hone := List.all_eq_true.1 hpoints _ (CaseRun.mem_points hcovers)
    exact starts_spec hone (Nat.le_refl _) (Nat.le_refl _)
  · have hs := startRanges_sound.holds_eq_false_of_avoids hstart hin.1.1 hin.1.2
    have hk := continueRanges_sound.holds_eq_false_of_avoids hcontinue hin.1.1 hin.1.2
    rw [isContinue, hs, hk] at hc
    cases hc

/-- **Upper case inside identifiers.**  A character stays as it is, or it becomes what starts an
identifier; the latter happens to no other characters of identifiers than those that start one, and
marks. -/
theorem upper_spec {c : Char} (h : isContinue c = true) :
    upper c = [c] ∨
      (isStart c = true ∨ markRanges.holds c = true) ∧
        ∃ d ds, upper c = d :: ds ∧ isStart d = true ∧ ∀ e ∈ ds, isContinue e = true := by
  unfold upper mapLetter
  split
  · rename_i n ns hfind
    have hkeep := List.all_eq_true.1 upperSpecial_keep _ (List.mem_of_find?_eq_some hfind)
    obtain ⟨hstart, hbecomes⟩ := keepsSpecial_spec hkeep
    obtain rfl : n = c.toNat := by simpa using List.find?_some hfind
    exact Or.inr ⟨Or.inl (startRanges_sound.holds_of_includes hstart (Nat.le_refl _)
      (Nat.le_refl _)), hbecomes⟩
  · split
    · rename_i r hfind
      have hkeep := List.all_eq_true.1 upperRuns_keep r (List.mem_of_find?_eq_some hfind)
      obtain ⟨hc, hd⟩ := keeps_spec hkeep (by simpa using List.find?_some hfind) h
      exact Or.inr ⟨hc, _, [], rfl, hd, nofun⟩
    · exact Or.inl rfl

/-- What identifiers go on with, they also go on with in upper case. -/
theorem isContinue_of_mem_upper {c d : Char} (hc : isContinue c = true) (hd : d ∈ upper c) :
    isContinue d = true := by
  rcases upper_spec hc with hsame | ⟨-, e, es, hupper, he, hes⟩
  · rw [hsame, List.mem_singleton] at hd
    exact hd ▸ hc
  · rw [hupper] at hd
    rcases List.mem_cons.1 hd with rfl | hd
    · exact isContinue_of_isStart he
    · exact hes d hd

/-- What starts an identifier also does so in upper case. -/
theorem exists_upper_of_isStart {c : Char} (hc : isStart c = true) :
    ∃ d ds, upper c = d :: ds ∧ isStart d = true := by
  rcases upper_spec (isContinue_of_isStart hc) with hsame | ⟨-, d, ds, hupper, hd, -⟩
  · exact ⟨c, [], hsame, hc⟩
  · exact ⟨d, ds, hupper, hd⟩

/-- What only goes on with an identifier and is no mark has no upper case. -/
theorem upper_eq_self {c : Char} (hc : isContinue c = true) (hstart : isStart c = false)
    (hmark : markRanges.holds c = false) : upper c = [c] := by
  rcases upper_spec hc with hsame | ⟨hcase, -⟩
  · exact hsame
  · rw [hstart, hmark] at hcase
    rcases hcase with h | h <;> cases h

/-! ### Small letters of ASCII -/

/-- Whether the run moves no letter to a small one of ASCII. -/
def CaseRun.avoidsSmall (r : CaseRun) : Bool := r.last + r.shift < 97 || 122 < r.first + r.shift

/-- Whether the letter becomes no small one of ASCII. -/
def specialAvoidsSmall (p : Nat × List Nat) : Bool := p.2.all fun n => n < 97 || 122 < n

/-- What the tables of upper case say of the small letters of ASCII: a run moves all of them, and
nothing becomes one of them. -/
theorem upper_avoids : upperRuns.all CaseRun.avoidsSmall = true ∧
    upperSpecial.all specialAvoidsSmall = true ∧ ⟨97, 122, 1, -32⟩ ∈ upperRuns :=
  ⟨by decide +kernel, by decide +kernel, List.mem_cons_self⟩

/-- The capitals of ASCII. -/
theorem isUpper_iff {c : Char} : c.isUpper = true ↔ 65 ≤ c.toNat ∧ c.toNat ≤ 90 := by
  change decide (65 ≤ c.val ∧ c.val ≤ 90) = true ↔ _
  rw [decide_eq_true_iff]
  exact and_congr UInt32.le_iff_toNat_le UInt32.le_iff_toNat_le

/-- The small letters of ASCII. -/
theorem isLower_iff {c : Char} : c.isLower = true ↔ 97 ≤ c.toNat ∧ c.toNat ≤ 122 := by
  change (decide (97 ≤ c.val) && decide (c.val ≤ 122)) = true ↔ _
  rw [Bool.and_eq_true, decide_eq_true_iff, decide_eq_true_iff]
  exact and_congr UInt32.le_iff_toNat_le UInt32.le_iff_toNat_le

/-- A code point that is none of a small letter of ASCII. -/
theorem isLower_ofNat_eq_false {n : Nat} (h : n < 97 ∨ 122 < n) :
    (Char.ofNat n).isLower = false := by
  rw [Bool.eq_false_iff, ne_eq, isLower_iff]
  by_cases hvalid : n.isValidChar
  · have hn : (Char.ofNat n).toNat = n := by
      rw [Char.ofNat, dif_pos hvalid]
      rfl
    omega
  · rw [Char.ofNat, dif_neg hvalid]
    decide

/-- **Upper case has no small letters of ASCII.** -/
theorem isLower_eq_false_of_mem_upper {c d : Char} (h : d ∈ upper c) : d.isLower = false := by
  obtain ⟨hruns, hspecial, hsmall⟩ := upper_avoids
  unfold upper mapLetter at h
  split at h
  · rename_i n ns hfind
    obtain ⟨k, hk, rfl⟩ := List.mem_map.1 h
    have havoid := List.all_eq_true.1 hspecial _ (List.mem_of_find?_eq_some hfind)
    have hk := List.all_eq_true.1 havoid k hk
    exact isLower_ofNat_eq_false (by simpa using hk)
  · split at h
    · rename_i r hfind
      obtain rfl := List.mem_singleton.1 h
      have havoid := List.all_eq_true.1 hruns r (List.mem_of_find?_eq_some hfind)
      have hcovers : r.covers c.toNat = true := by simpa using List.find?_some hfind
      simp only [CaseRun.avoidsSmall, CaseRun.covers, Bool.or_eq_true, Bool.and_eq_true,
        decide_eq_true_iff] at havoid hcovers
      exact isLower_ofNat_eq_false (by omega)
    · rename_i hfind
      obtain rfl := List.mem_singleton.1 h
      have hnot := List.find?_eq_none.1 hfind _ hsmall
      rw [Bool.eq_false_iff, ne_eq, isLower_iff]
      rintro hlower
      refine hnot ?_
      simp [CaseRun.covers, hlower, Nat.mod_one]

end Unicode
end Boilerplate
