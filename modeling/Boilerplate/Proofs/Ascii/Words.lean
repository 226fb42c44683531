/-
# Words in ASCII

In ASCII every character is a letter of its own, and it is of one kind.  Letters and digits never
share a word, because a word ends where they meet (`isDigit_eq_of_not_meet`): the words of a text
that can be named are made of letters alone or of digits alone (`isPure_of_mem_split`).  Together
they hold all characters of the text but its separators (`flatten_split_eq`).
-/

import Boilerplate.Proofs.Ascii

namespace Boilerplate

open Unicode

namespace Words

/-- Whether a word is made of letters alone or of digits alone. -/
def IsPure (w : List Char) : Prop := (∀ c ∈ w, c.isAlpha = true) ∨ ∀ c ∈ w, c.isDigit = true

/-! ### What is left of a text -/

/-- Words hold all letters but the separators, in their order. -/
theorem flatten_cut (ks : List (List Char)) :
    (cut ks).flatten = (ks.filter (!isSeparator ·)).flatten := by
  induction ks with
  | nil => rfl
  | cons k ks ih =>
    by_cases hsep : isSeparator k = true
    · simp [cut_cons_separator hsep, hsep, ih]
    · simp only [Bool.not_eq_true] at hsep
      rw [List.filter_cons_of_pos (by simp [hsep]), List.flatten_cons, ← ih, cut,
        if_neg (by simp [hsep])]
      split
      · rfl
      · cases cut ks <;> simp

/-- The words of a text, joined without anything between them, are the text without its separators.
-/
theorem flatten_split (s : List Char) :
    (split s).flatten = ((clusters s).filter (!isSeparator ·)).flatten := by
  have hne : split s = (cut (clusters s)).filter fun w => decide (w ≠ []) :=
    List.filter_congr fun w _ => by cases w <;> simp
  rw [hne, List.flatten_filter_ne_nil, flatten_cut]

end Words

namespace Ascii

open Words

/-! ### Kinds of characters -/

section
variable {c : Char} (h : c.toNat < 128)
include h

/-- What the table of ASCII says of the kind of a character: letters are those whose two cases
differ, no character is of two kinds, and what is in capitals a part of an identifier is a letter or
a digit, unless it separates words. -/
theorem kind_spec :
    (([c.toUpper] != [c.toLower] && [c] == [c.toUpper]) = c.isUpper ∧
      ([c.toUpper] != [c.toLower] && [c] == [c.toLower]) = c.isLower) ∧
    ((c.isUpper = true → c.isLower = false ∧ c.isDigit = false) ∧
      (c.isLower = true → c.isUpper = false ∧ c.isDigit = false) ∧
      (c.isDigit = true → c.isUpper = false ∧ c.isLower = false)) ∧
    (isContinue c.toUpper = true → isSeparator [c] = false → c.isAlphanum = true) :=
  forall_char (P := fun c =>
    (([c.toUpper] != [c.toLower] && [c] == [c.toUpper]) = c.isUpper ∧
      ([c.toUpper] != [c.toLower] && [c] == [c.toLower]) = c.isLower) ∧
    ((c.isUpper = true → c.isLower = false ∧ c.isDigit = false) ∧
      (c.isLower = true → c.isUpper = false ∧ c.isDigit = false) ∧
      (c.isDigit = true → c.isUpper = false ∧ c.isLower = false)) ∧
    (isContinue c.toUpper = true → isSeparator [c] = false → c.isAlphanum = true))
    (by decide +kernel) h

/-- By itself, a character of ASCII is in upper case if it is a capital. -/
theorem isUpper_eq : Words.isUpper [c] = c.isUpper := by
  have hupper : upperText [c] = [c.toUpper] := upperText_eq (List.forall_mem_singleton.2 h)
  have hlower : lowerText [c] = [c.toLower] := lowerAfter_eq (List.forall_mem_singleton.2 h) []
  rw [Words.isUpper, hupper, hlower, (kind_spec h).1.1]

/-- By itself, a character of ASCII is in lower case if it is a small letter. -/
theorem isLower_eq : Words.isLower [c] = c.isLower := by
  have hupper : upperText [c] = [c.toUpper] := upperText_eq (List.forall_mem_singleton.2 h)
  have hlower : lowerText [c] = [c.toLower] := lowerAfter_eq (List.forall_mem_singleton.2 h) []
  rw [Words.isLower, hupper, hlower, (kind_spec h).1.2]

end

/-- By itself, a character is a digit if it is one of the ten. -/
theorem isDigit_eq (c : Char) : Words.isDigit [c] = c.isDigit := by simp [Words.isDigit]

/-- A character of a word is in ASCII, and no other kind of it separates words. -/
theorem not_isSeparator_of_isAlphanum {c : Char} (h : c.isAlphanum = true) :
    isSeparator [c] = false := by
  have hne : c ≠ '_' ∧ c ≠ '-' ∧ c ≠ ' ' := by
    refine ⟨?_, ?_, ?_⟩ <;> rintro rfl <;> cases h
  simp [isSeparator, hne]

/-- A letter is in one of the cases. -/
theorem isAlpha_iff {c : Char} : c.isAlpha = true ↔ c.isUpper = true ∨ c.isLower = true :=
  Bool.or_eq_true_iff

/-- What may stand in a word: a letter or a digit. -/
theorem isAlphanum_iff {c : Char} :
    c.isAlphanum = true ↔ c.isAlpha = true ∨ c.isDigit = true :=
  Bool.or_eq_true_iff

/-- Letters and digits are in ASCII. -/
theorem toNat_lt_of_isAlphanum {c : Char} (h : c.isAlphanum = true) : c.toNat < 128 := by
  have hle : ∀ {d : Char}, c.val ≤ d.val → d.toNat < 128 → c.toNat < 128 :=
    fun hcd hd => Nat.lt_of_le_of_lt (UInt32.le_iff_toNat_le.1 hcd) hd
  rcases isAlphanum_iff.1 h with hletter | hdigit
  · rcases isAlpha_iff.1 hletter with hupper | hlower
    · exact hle (of_decide_eq_true hupper).2 (by decide)
    · exact hle (of_decide_eq_true (Bool.and_eq_true_iff.1 hlower).2) (by decide)
  · exact hle (of_decide_eq_true (Bool.and_eq_true_iff.1 hdigit).2) (by decide)

/-- No letter is a digit. -/
theorem isDigit_eq_false_of_isAlpha {c : Char} (h : c.isAlpha = true) : c.isDigit = false := by
  have hascii := toNat_lt_of_isAlphanum (isAlphanum_iff.2 (Or.inl h))
  obtain ⟨-, ⟨hupper, hlower, -⟩, -⟩ := kind_spec hascii
  rcases isAlpha_iff.1 h with hc | hc
  · exact (hupper hc).2
  · exact (hlower hc).2

/-- **Words end where letters and digits meet.** -/
theorem isDigit_eq_of_not_meet {c d : Char} (hc : c.isAlphanum = true) (hd : d.isAlphanum = true)
    (h : meet [c] [d] = false) : c.isDigit = d.isDigit := by
  have hcascii := toNat_lt_of_isAlphanum hc
  have hdascii := toNat_lt_of_isAlphanum hd
  simp only [meet, isUpper_eq hcascii, isUpper_eq hdascii, isLower_eq hcascii, isLower_eq hdascii,
    isDigit_eq, Bool.or_eq_false_iff, Bool.and_eq_false_iff] at h
  rw [isAlphanum_iff, isAlpha_iff] at hc hd
  cases hcd : c.isDigit <;> cases hdd : d.isDigit <;> simp_all

/-! ### Pure words -/

variable {s w : List Char}

/-- A letter or a digit is of one kind. -/
theorem isPure_singleton {c : Char} (h : c.isAlphanum = true) : IsPure [c] := by
  simpa [IsPure] using isAlphanum_iff.1 h

/-- Words stay of one kind as they grow to the left, as long as none ends there. -/
theorem isPure_cons_cons {c d : Char} (hc : c.isAlphanum = true) (hd : d.isAlphanum = true)
    (hmeet : meet [c] [d] = false) (h : IsPure (d :: w)) : IsPure (c :: d :: w) := by
  have hsame := isDigit_eq_of_not_meet hc hd hmeet
  rcases h with hletters | hdigits
  · left
    have hdigit : c.isDigit = false := by
      rw [hsame]
      exact isDigit_eq_false_of_isAlpha (hletters d List.mem_cons_self)
    have hletter : c.isAlpha = true := by simpa [hdigit] using isAlphanum_iff.1 hc
    exact List.forall_mem_cons.2 ⟨hletter, hletters⟩
  · right
    have hdigit : c.isDigit = true := by
      rw [hsame]
      exact hdigits d List.mem_cons_self
    exact List.forall_mem_cons.2 ⟨hdigit, hdigits⟩

/-- Letters and digits never share a word. -/
theorem isPure_of_mem_cut
    (h : ∀ c ∈ s, isSeparator [c] = false → c.isAlphanum = true)
    (hw : w ∈ cut (s.map ([·]))) : IsPure w := by
  induction s generalizing w with
  | nil =>
    obtain rfl := List.mem_singleton.1 hw
    exact Or.inl nofun
  | cons c s ih =>
    obtain ⟨hc, hs⟩ := List.forall_mem_cons.1 h
    have hbehind : ∀ {w}, w ∈ cut (s.map ([·])) → IsPure w := fun hw => ih hs hw
    rw [List.map_cons, cut] at hw
    split at hw
    · rcases List.mem_cons.1 hw with rfl | hw
      · exact Or.inl nofun
      · exact hbehind hw
    · rename_i hsep
      have hc := hc (by simpa using hsep)
      split at hw
      · rcases List.mem_cons.1 hw with rfl | hw
        · exact isPure_singleton hc
        · exact hbehind hw
      · rename_i hgoes
        split at hw
        · rename_i w' ws hcut
          rcases List.mem_cons.1 hw with rfl | hw
          -- What the character goes on with starts with the next one, unless that is a separator.
          · cases s with
            | nil =>
              cases hcut
              exact isPure_singleton hc
            | cons d s =>
              by_cases hd : isSeparator [d] = true
              · rw [List.map_cons, cut_cons_separator hd] at hcut
                cases hcut
                exact isPure_singleton hc
              · have hd : isSeparator [d] = false := by simpa using hd
                have hpure : IsPure w' := hbehind (hcut ▸ List.mem_cons_self)
                obtain ⟨t, ws', hletter⟩ := cut_cons_letter hd (s.map ([·]))
                rw [List.map_cons, hletter] at hcut
                cases hcut
                have hmeet : meet [c] [d] = false := by
                  cases s <;> simp_all [endsAfter]
                exact isPure_cons_cons hc (hs d List.mem_cons_self hd) hmeet hpure
          · exact hbehind (hcut ▸ List.mem_cons_of_mem _ hw)
        · obtain rfl := List.mem_singleton.1 hw
          exact isPure_singleton hc

/-! ### Texts that can be named -/

/-- The constant of a text in ASCII: its words in upper case, joined. -/
theorem upperSnake_eq_join (h : IsAscii s) :
    upperSnake s = join ((split s).map (List.map Char.toUpper)) := by
  rw [upperSnake]
  congr 1
  exact List.map_congr_left fun w hw => upperText_eq (isAscii_of_mem_split h hw)

/-- The stored name of a text in ASCII: its words in lower case, joined. -/
theorem snake_eq_join (h : IsAscii s) :
    snake s = join ((split s).map (List.map Char.toLower)) := by
  rw [snake]
  congr 1
  exact List.map_congr_left fun w hw => lowerAfter_eq (isAscii_of_mem_split h hw) []

/-- Words hold all characters but the separators, in their order. -/
theorem flatten_split_eq (h : IsAscii s) :
    (split s).flatten = s.filter fun c => !isSeparator [c] := by
  rw [flatten_split, clusters_eq h, List.filter_map, ← List.flatMap_def, List.flatMap_singleton']
  rfl

/-- Characters that can stand in a constant are letters and digits. -/
theorem isAlphanum_of_isIdentifier (h : IsAscii s) (hid : isIdentifier (upperSnake s) = true) :
    ∀ c ∈ s, isSeparator [c] = false → c.isAlphanum = true := by
  intro c hc hsep
  have hword : c ∈ (split s).flatten := by
    rw [flatten_split_eq h, List.mem_filter]
    exact ⟨hc, by simp [hsep]⟩
  obtain ⟨w, hw, hcw⟩ := List.mem_flatten.1 hword
  have hmem : c.toUpper ∈ upperSnake s := by
    rw [upperSnake_eq_join h]
    exact mem_join_of_mem (List.mem_map_of_mem hw) (List.mem_map_of_mem hcw)
  exact (kind_spec (h c hc)).2.2 (isContinue_of_isIdentifier hid _ hmem) hsep

/-- **The words of a text that can be named** are made of letters alone or of digits alone. -/
theorem isPure_of_mem_split (h : IsAscii s) (hid : isIdentifier (upperSnake s) = true)
    (hw : w ∈ split s) : IsPure w := by
  have hcut := List.mem_of_mem_filter hw
  rw [clusters_eq h] at hcut
  exact isPure_of_mem_cut (isAlphanum_of_isIdentifier h hid) hcut

end Ascii
end Boilerplate
