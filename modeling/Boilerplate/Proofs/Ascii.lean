/-
# Names in ASCII

In ASCII every letter is a cluster and has one upper and one lower case, and these go with each
other.  So the constant of a case is its stored name in upper case (`upperSnake_eq`), and the shown
name of a case is nobody's stored name: it starts in upper case or with an underscore, which no
stored name does (`capitalized_ne_snake`).
-/

import Boilerplate.Proofs.OptionSet.CaseName

namespace Boilerplate

open Unicode

/-- Whether the text is in ASCII. -/
def IsAscii (s : List Char) : Prop := ∀ c ∈ s, c.toNat < 128

/-- Whether a text is in ASCII is a matter of looking at it. -/
instance (s : List Char) : Decidable (IsAscii s) :=
  decidable_of_iff (s.all fun c => c.toNat < 128) (by simp [IsAscii])

namespace Ascii

/-- What holds of the first code points holds of the characters in ASCII. -/
theorem forall_char {P : Char → Prop} (h : ∀ n < 128, P (Char.ofNat n)) {c : Char}
    (hc : c.toNat < 128) : P c :=
  Char.ofNat_toNat c ▸ h c.toNat hc

/-! ### Characters -/

/-- Of tables whose entries but the first lie behind ASCII, only the first entry matters in it. -/
theorem mapLetter_eq {run : CaseRun} {runs : List CaseRun} {special : List (Nat × List Nat)}
    (hruns : ∀ r ∈ runs, 128 ≤ r.first) (hspecial : ∀ p ∈ special, 128 ≤ p.1) {c : Char}
    (hc : c.toNat < 128) : mapLetter (run :: runs) special c = mapLetter [run] [] c := by
  have hnospecial : special.find? (·.1 == c.toNat) = none := by
    refine List.find?_eq_none.2 fun p hp heq => ?_
    have := hspecial p hp
    rw [eq_of_beq heq] at this
    omega
  have hnorun : runs.find? (·.covers c.toNat) = none := by
    refine List.find?_eq_none.2 fun r hr hcovers => ?_
    have := hruns r hr
    simp only [CaseRun.covers, Bool.and_eq_true, decide_eq_true_iff] at hcovers
    omega
  simp only [mapLetter, hnospecial, List.find?_cons, hnorun, List.find?_nil]

section
variable {c : Char} (h : c.toNat < 128)
include h

/-- The upper case of a character of ASCII is one character. -/
theorem upper_eq : upper c = [c.toUpper] := by
  have hfirst : upper c = mapLetter [⟨0x61, 0x7A, 1, -32⟩] [] c :=
    mapLetter_eq (by decide +kernel) (by decide +kernel) h
  rw [hfirst]
  exact forall_char (P := fun c => mapLetter [⟨0x61, 0x7A, 1, -32⟩] [] c = [c.toUpper])
    (by decide +kernel) h

/-- The lower case of a character of ASCII is one character. -/
theorem lower_eq : lower c = [c.toLower] := by
  have hfirst : lower c = mapLetter [⟨0x41, 0x5A, 1, 32⟩] [] c :=
    mapLetter_eq (by decide +kernel) (by decide +kernel) h
  rw [hfirst]
  exact forall_char (P := fun c => mapLetter [⟨0x41, 0x5A, 1, 32⟩] [] c = [c.toLower])
    (by decide +kernel) h

/-- What the tables say of the characters in ASCII: their cases go with each other, case changes no
separator into a letter or back, what starts an identifier in upper case is a letter, whose two
cases differ, and nothing stays with the character before or behind it. -/
theorem char_spec :
    (c.toLower.toUpper = c.toUpper ∧ c.toLower.toLower = c.toLower ∧
      c.toUpper.toUpper = c.toUpper ∧ c.toUpper.toLower = c.toLower) ∧
    (Words.isSeparator [c.toUpper] = Words.isSeparator [c] ∧
      Words.isSeparator [c.toLower] = Words.isSeparator [c]) ∧
    (isStart c.toUpper = true → c.toUpper.toLower ≠ c.toUpper) ∧
    (markRanges.holds c = false ∧ prependRanges.holds c = false) :=
  forall_char (P := fun c =>
    (c.toLower.toUpper = c.toUpper ∧ c.toLower.toLower = c.toLower ∧
      c.toUpper.toUpper = c.toUpper ∧ c.toUpper.toLower = c.toLower) ∧
    (Words.isSeparator [c.toUpper] = Words.isSeparator [c] ∧
      Words.isSeparator [c.toLower] = Words.isSeparator [c]) ∧
    (isStart c.toUpper = true → c.toUpper.toLower ≠ c.toUpper) ∧
    (markRanges.holds c = false ∧ prependRanges.holds c = false)) (by decide +kernel) h

/-- Lower case does not change what the upper case is. -/
theorem toUpper_toLower : c.toLower.toUpper = c.toUpper := (char_spec h).1.1

/-- Lower case of lower case is that. -/
theorem toLower_toLower : c.toLower.toLower = c.toLower := (char_spec h).1.2.1

/-- Case changes no separator into a letter or back. -/
theorem isSeparator_case : Words.isSeparator [c.toUpper] = Words.isSeparator [c] ∧
    Words.isSeparator [c.toLower] = Words.isSeparator [c] :=
  (char_spec h).2.1

/-- What starts an identifier is a letter, whose two cases differ. -/
theorem toLower_toUpper_ne (hc : isStart c.toUpper = true) : c.toUpper.toLower ≠ c.toUpper :=
  (char_spec h).2.2.1 hc

/-- No character of ASCII is a mark. -/
theorem markRanges_holds : markRanges.holds c = false := (char_spec h).2.2.2.1

/-- No character of ASCII takes what follows it into its letter. -/
theorem prependRanges_holds : prependRanges.holds c = false := (char_spec h).2.2.2.2

end

/-! ### Texts -/

/-- The upper case of a text in ASCII, character by character. -/
theorem upperText_eq {s : List Char} (h : IsAscii s) : upperText s = s.map Char.toUpper := by
  induction s with
  | nil => rfl
  | cons c s ih =>
    obtain ⟨hc, hs⟩ := List.forall_mem_cons.1 h
    rw [upperText, List.flatMap_cons, upper_eq hc, List.map_cons, ← ih hs]
    rfl

/-- The lower case of a text in ASCII, character by character: there is no sigma in it. -/
theorem lowerAfter_eq {s : List Char} (h : IsAscii s) (before : List Char) :
    lowerAfter before s = s.map Char.toLower := by
  induction s generalizing before with
  | nil => rfl
  | cons c s ih =>
    obtain ⟨hc, hs⟩ := List.forall_mem_cons.1 h
    have hsigma : c ≠ 'Σ' := by
      rintro rfl
      revert hc
      decide
    rw [lowerAfter, if_neg hsigma, lower_eq hc, ih hs, List.map_cons]
    rfl

/-- Every character is a cluster. -/
theorem clusters_eq {s : List Char} (h : IsAscii s) : clusters s = s.map ([·]) := by
  induction s with
  | nil => rfl
  | cons c s ih =>
    obtain ⟨hc, hs⟩ := List.forall_mem_cons.1 h
    cases s with
    | nil => rfl
    | cons d s =>
      have hd := hs d List.mem_cons_self
      have hjoins : joins c d = false := by
        rw [joins, markRanges_holds hd, prependRanges_holds hc]
        rfl
      rw [Words.clusters_cons_of_not_joins hjoins, ih hs]
      rfl

/-! ### Words -/

/-- The words of a text in ASCII are in ASCII. -/
theorem isAscii_of_mem_split {s w : List Char} (h : IsAscii s) (hw : w ∈ Words.split s) :
    IsAscii w :=
  fun _ hc => h _ (Words.mem_of_mem_split hw hc)

/-- No word holds a separator. -/
theorem isSeparator_of_mem_split {s w : List Char} (h : IsAscii s) (hw : w ∈ Words.split s)
    {c : Char} (hc : c ∈ w) : Words.isSeparator [c] = false := by
  obtain ⟨k, hk, hsep, hck⟩ := Words.mem_of_mem_cut (List.mem_of_mem_filter hw) hc
  rw [clusters_eq h] at hk
  obtain ⟨d, -, rfl⟩ := List.mem_map.1 hk
  obtain rfl := List.mem_singleton.1 hck
  exact hsep

/-- Characters are mapped word by word. -/
theorem map_join {f : Char → Char} (hf : f '_' = '_') (ws : List (List Char)) :
    (Words.join ws).map f = Words.join (ws.map (List.map f)) := by
  induction ws with
  | nil => rfl
  | cons w ws ih =>
    cases ws with
    | nil => simp [Words.join, List.intercalate_singleton]
    | cons w' ws =>
      unfold Words.join at ih ⊢
      rw [List.intercalate_cons_cons, List.map_append, List.map_append, ih]
      simp only [List.map_cons, List.map_nil, hf, List.intercalate_cons_cons]

/-- **A constant is the stored name in upper case.** -/
theorem upperSnake_eq {s : List Char} (h : IsAscii s) :
    Words.upperSnake s = (Words.snake s).map Char.toUpper := by
  rw [Words.upperSnake, Words.snake, map_join rfl, List.map_map]
  congr 1
  refine List.map_congr_left fun w hw => ?_
  have hascii := isAscii_of_mem_split h hw
  rw [upperText_eq hascii, Function.comp_apply, lowerText, lowerAfter_eq hascii, List.map_map]
  exact List.map_congr_left fun c hc => (toUpper_toLower (hascii c hc)).symm

/-- A case that can be named has a word. -/
theorem exists_split {s : List Char} (h : isIdentifier (Words.upperSnake s) = true) :
    ∃ c t ws, Words.split s = (c :: t) :: ws := by
  cases hsplit : Words.split s with
  | nil =>
    rw [Words.upperSnake, hsplit] at h
    cases h
  | cons w ws =>
    cases w with
    | nil => exact absurd rfl (Words.ne_nil_of_mem_split (hsplit ▸ List.mem_cons_self))
    | cons c t => exact ⟨c, t, ws, rfl⟩

/-- A stored name starts with a letter in lower case that separates nothing. -/
theorem exists_snake_eq_cons {s : List Char} (h : IsAscii s)
    (hid : isIdentifier (Words.upperSnake s) = true) :
    ∃ c rest, c.toNat < 128 ∧ Words.isSeparator [c] = false ∧
      Words.snake s = c.toLower :: rest := by
  obtain ⟨c, t, ws, hsplit⟩ := exists_split hid
  have hmem : c :: t ∈ Words.split s := hsplit ▸ List.mem_cons_self
  have hascii := isAscii_of_mem_split h hmem
  obtain ⟨rest, hrest⟩ := Words.join_cons (lowerText (c :: t)) (ws.map lowerText)
  refine ⟨c, t.map Char.toLower ++ rest, hascii c List.mem_cons_self,
    isSeparator_of_mem_split h hmem List.mem_cons_self, ?_⟩
  rw [Words.snake, hsplit, List.map_cons, hrest, lowerText, lowerAfter_eq hascii]
  rfl

/-- The first character of a case that can be named is a letter, unless it separates words. -/
theorem isStart_toUpper {c : Char} {s : List Char} (hc : c.toNat < 128)
    (hsep : Words.isSeparator [c] = false)
    (hid : isIdentifier (Words.upperSnake (c :: s)) = true) : isStart c.toUpper = true := by
  obtain ⟨t, ws, hsplit⟩ := Words.split_cons hsep s
  obtain ⟨rest, hrest⟩ := Words.upperSnake_of_split hsplit
  rw [hrest, upper_eq hc, List.singleton_append, isIdentifier_cons_iff] at hid
  refine hid.1.resolve_left fun hunderscore => ?_
  have hcase := (isSeparator_case hc).1
  rw [hunderscore, hsep] at hcase
  cases hcase

/-- **No shown name is a stored name.** -/
theorem capitalized_ne_snake {s t : List Char} (hs : IsAscii s) (ht : IsAscii t)
    (hsid : isIdentifier (Words.upperSnake s) = true)
    (htid : isIdentifier (Words.upperSnake t) = true) :
    OptionCase.capitalized s ≠ Words.snake t := by
  intro heq
  obtain ⟨e, rest, he, hesep, hsnake⟩ := exists_snake_eq_cons ht htid
  rw [hsnake] at heq
  cases s with
  | nil => cases heq
  | cons c s =>
    have hc := hs c List.mem_cons_self
    rw [OptionCase.capitalized, upper_eq hc] at heq
    have hhead : c.toUpper = e.toLower := (List.cons.inj heq).1
    have hcsep : Words.isSeparator [c] = false := by
      rw [← (isSeparator_case hc).1, hhead, (isSeparator_case he).2, hesep]
    refine toLower_toUpper_ne hc (isStart_toUpper hc hcsep hsid) ?_
    rw [hhead, toLower_toLower he]

end Ascii
end Boilerplate
