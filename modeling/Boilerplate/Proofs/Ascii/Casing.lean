/-
# Conversion of words in ASCII

A word in one case does not end inside (`cut_append`).  So words in one case that are joined are
split where they were joined (`split_join`), and since the words of a text that can be named are in
one case once they are converted (`IsCasing.isUniform_map`), its constant and its stored name have
the same words as the text.  A conversion of these makes what the conversion of the text made
(`IsCasing.upperSnake_join`, `IsCasing.snake_join`).
-/

import Boilerplate.Proofs.Ascii.Words

namespace Boilerplate

open Unicode

namespace Words

/-- Whether a word is made of capitals alone, of small letters alone or of digits alone. -/
def IsUniform (w : List Char) : Prop :=
  (∀ c ∈ w, c.isUpper = true) ∨ (∀ c ∈ w, c.isLower = true) ∨ ∀ c ∈ w, c.isDigit = true

end Words

namespace Ascii

open Words

variable {s w : List Char}

/-! ### Words in one case -/

/-- Words in one case are made of letters and digits. -/
theorem isAlphanum_of_isUniform (h : IsUniform w) : ∀ c ∈ w, c.isAlphanum = true := by
  intro c hc
  rw [isAlphanum_iff, isAlpha_iff]
  rcases h with hall | hall | hall
  · exact Or.inl (Or.inl (hall c hc))
  · exact Or.inl (Or.inr (hall c hc))
  · exact Or.inr (hall c hc)

/-- Separators are of no kind. -/
theorem kind_separator {k : List Char} (h : isSeparator k = true) :
    Words.isUpper k = false ∧ Words.isLower k = false ∧ Words.isDigit k = false := by
  simp only [isSeparator, Bool.or_eq_true, beq_iff_eq] at h
  rcases h with (rfl | rfl) | rfl <;>
    exact ⟨(isUpper_eq (by decide)).trans rfl, (isLower_eq (by decide)).trans rfl, rfl⟩

/-- A word does not end before a separator on account of what they are. -/
theorem meet_separator (k : List Char) {l : List Char} (h : isSeparator l = true) :
    meet k l = false := by
  obtain ⟨hupper, hlower, hdigit⟩ := kind_separator h
  simp [meet, hupper, hlower, hdigit]

/-- In a word in one case no two characters end a word, and no small letter follows capitals. -/
theorem not_meet_of_isUniform (h : IsUniform w) {c d : Char} (hc : c ∈ w) (hd : d ∈ w) :
    meet [c] [d] = false ∧ (Words.isUpper [c] && Words.isLower [d]) = false := by
  have hckind := isAlphanum_of_isUniform h c hc
  have hdkind := isAlphanum_of_isUniform h d hd
  have hcascii := toNat_lt_of_isAlphanum hckind
  have hdascii := toNat_lt_of_isAlphanum hdkind
  simp only [meet, isUpper_eq hcascii, isUpper_eq hdascii, isLower_eq hcascii, isLower_eq hdascii,
    isDigit_eq]
  obtain ⟨-, ⟨hcupper, hclower, hcdigit⟩, -⟩ := kind_spec hcascii
  obtain ⟨-, ⟨hdupper, hdlower, hddigit⟩, -⟩ := kind_spec hdascii
  rcases h with hall | hall | hall
  · simp [hcupper (hall c hc), hdupper (hall d hd)]
  · simp [hclower (hall c hc), hdlower (hall d hd)]
  · simp [hcdigit (hall c hc), hddigit (hall d hd)]

/-- Neither the end of a word nor its next characters end it. -/
theorem not_endsAfter {c : Char} (h : IsUniform (c :: w)) {ks : List (List Char)}
    (hks : ∀ k ∈ ks.head?, isSeparator k = true) :
    endsAfter [c] (w.map ([·]) ++ ks) = false := by
  have hc : c ∈ c :: w := List.mem_cons_self
  rcases w with _ | ⟨d, _ | ⟨e, w⟩⟩
  -- What is behind the word are no letters.
  · rcases ks with _ | ⟨k, _ | ⟨l, ks⟩⟩
    · rfl
    · exact meet_separator [c] (hks k rfl)
    · have hk := hks k rfl
      simp [endsAfter, meet_separator [c] hk, kind_separator hk]
  · have hd := not_meet_of_isUniform h hc (d := d) (by simp)
    rcases ks with _ | ⟨k, ks⟩
    · exact hd.1
    · have hk := hks k rfl
      simp [endsAfter, hd.1, kind_separator hk]
  · have hd := not_meet_of_isUniform h hc (d := d) (by simp)
    have he := not_meet_of_isUniform h hc (d := e) (by simp)
    have hcapital := he.2
    rw [Bool.and_eq_false_iff] at hcapital
    rcases hcapital with hcapital | hsmall
    · simp [endsAfter, hd.1, hcapital]
    · simp [endsAfter, hd.1, hsmall]

/-- **No word ends inside a word in one case.** -/
theorem cut_append (h : IsUniform w) {ks : List (List Char)}
    (hks : ∀ k ∈ ks.head?, isSeparator k = true) :
    cut (w.map ([·]) ++ ks) = w :: (cut ks).tail := by
  induction w with
  | nil =>
    cases ks with
    | nil => rfl
    | cons k ks =>
      have hk : isSeparator k = true := hks k rfl
      simp [cut_cons_separator hk]
  | cons c w ih =>
    have hc := isAlphanum_of_isUniform h c List.mem_cons_self
    have hw : IsUniform w := by
      rcases h with hall | hall | hall
      · exact Or.inl (List.forall_mem_cons.1 hall).2
      · exact Or.inr (Or.inl (List.forall_mem_cons.1 hall).2)
      · exact Or.inr (Or.inr (List.forall_mem_cons.1 hall).2)
    rw [List.map_cons, List.cons_append, cut, not_isSeparator_of_isAlphanum hc,
      not_endsAfter h hks, ih hw]
    rfl

/-- Words in one case that are joined are found again by cutting. -/
theorem cut_join {ws : List (List Char)} (hne : ws ≠ []) (h : ∀ w ∈ ws, IsUniform w) :
    cut ((join ws).map ([·])) = ws := by
  induction ws with
  | nil => exact absurd rfl hne
  | cons w ws ih =>
    obtain ⟨hw, hws⟩ := List.forall_mem_cons.1 h
    cases ws with
    | nil =>
      have hcut : cut (w.map ([·]) ++ []) = w :: (cut []).tail := cut_append hw (by simp)
      simpa [join, cut] using hcut
    | cons w' ws =>
      have hrest := ih (by simp) hws
      have hjoin : (join (w :: w' :: ws)).map ([·]) =
          w.map ([·]) ++ ['_'] :: (join (w' :: ws)).map ([·]) := by
        simp [join_cons_cons]
      rw [hjoin, cut_append hw (by simp [isSeparator]), cut_cons_separator (by decide), hrest]
      rfl

/-- **Words in one case are split as they were joined.** -/
theorem split_join {ws : List (List Char)} (h : ∀ w ∈ ws, w ≠ [] ∧ IsUniform w) :
    split (join ws) = ws := by
  have hascii : IsAscii (join ws) := by
    intro c hc
    rcases mem_join hc with rfl | ⟨w, hw, hcw⟩
    · decide
    · exact toNat_lt_of_isAlphanum (isAlphanum_of_isUniform (h w hw).2 c hcw)
  by_cases hne : ws = []
  · subst hne
    rfl
  · rw [split, clusters_eq hascii, cut_join hne fun w hw => (h w hw).2, List.filter_eq_self]
    intro w hw
    simp [(h w hw).1]

/-! ### Conversion -/

/-- Whether letters are brought into one case, and nothing is changed in any other way. -/
structure IsCasing (f : Char → Char) : Prop where
  toUpper_eq : ∀ c, c.toNat < 128 → (f c).toUpper = c.toUpper
  toLower_eq : ∀ c, c.toNat < 128 → (f c).toLower = c.toLower
  letter : (∀ c, c.isAlpha = true → (f c).isUpper = true) ∨
    ∀ c, c.isAlpha = true → (f c).isLower = true
  digit : ∀ c, c.isDigit = true → (f c).isDigit = true

/-- What the table of ASCII says of letters and digits in either case. -/
theorem case_spec {c : Char} (h : c.toNat < 128) :
    (c.isAlpha = true → c.toUpper.isUpper = true ∧ c.toLower.isLower = true) ∧
      (c.isDigit = true → c.toUpper = c ∧ c.toLower = c) :=
  forall_char (P := fun c =>
    (c.isAlpha = true → c.toUpper.isUpper = true ∧ c.toLower.isLower = true) ∧
      (c.isDigit = true → c.toUpper = c ∧ c.toLower = c)) (by decide +kernel) h

/-- The cases of a letter are what they are called. -/
theorem case_of_isAlpha {c : Char} (h : c.isAlpha = true) :
    c.toUpper.isUpper = true ∧ c.toLower.isLower = true :=
  (case_spec (toNat_lt_of_isAlphanum (isAlphanum_iff.2 (Or.inl h)))).1 h

/-- Digits have no case. -/
theorem case_of_isDigit {c : Char} (h : c.isDigit = true) : c.toUpper = c ∧ c.toLower = c :=
  (case_spec (toNat_lt_of_isAlphanum (isAlphanum_iff.2 (Or.inr h)))).2 h

/-- Upper case brings letters into one case and changes nothing else. -/
theorem isCasing_toUpper : IsCasing Char.toUpper where
  toUpper_eq _ hc := (char_spec hc).1.2.2.1
  toLower_eq _ hc := (char_spec hc).1.2.2.2
  letter := Or.inl fun _ hc => (case_of_isAlpha hc).1
  digit _ hc := (case_of_isDigit hc).1.symm ▸ hc

/-- Lower case brings letters into one case and changes nothing else. -/
theorem isCasing_toLower : IsCasing Char.toLower where
  toUpper_eq _ hc := toUpper_toLower hc
  toLower_eq _ hc := toLower_toLower hc
  letter := Or.inr fun _ hc => (case_of_isAlpha hc).2
  digit _ hc := (case_of_isDigit hc).2.symm ▸ hc

namespace IsCasing

variable {f : Char → Char} (hf : IsCasing f)
include hf

/-- A word of letters alone or of digits alone is in one case once it is converted. -/
theorem isUniform_map (hw : IsPure w) : IsUniform (w.map f) := by
  rcases hw with hletters | hdigits
  · rcases hf.letter with hupper | hlower
    · exact Or.inl (List.forall_mem_map.2 fun c hc => hupper c (hletters c hc))
    · exact Or.inr (Or.inl (List.forall_mem_map.2 fun c hc => hlower c (hletters c hc)))
  · exact Or.inr (Or.inr (List.forall_mem_map.2 fun c hc => hf.digit c (hdigits c hc)))

variable (h : IsAscii s) (hid : isIdentifier (upperSnake s) = true)
include h hid

/-- The converted words of a text are in one case, and none is empty. -/
theorem forall_mem_words : ∀ w ∈ (split s).map (List.map f), w ≠ [] ∧ IsUniform w := by
  intro w hw
  obtain ⟨v, hv, rfl⟩ := List.mem_map.1 hw
  have hne : v ≠ [] := ne_nil_of_mem_split hv
  exact ⟨by simpa using hne, hf.isUniform_map (isPure_of_mem_split h hid hv)⟩

/-- The converted words, joined, are in ASCII. -/
theorem isAscii_join : IsAscii (join ((split s).map (List.map f))) := by
  intro c hc
  rcases mem_join hc with rfl | ⟨w, hw, hcw⟩
  · decide
  · have huniform := (hf.forall_mem_words h hid w hw).2
    exact toNat_lt_of_isAlphanum (isAlphanum_of_isUniform huniform c hcw)

/-- The words are found again, and a conversion of them is that of the words as they were. -/
theorem map_split_join {g : Char → Char} (hg : ∀ c, c.toNat < 128 → g (f c) = g c) :
    (split (join ((split s).map (List.map f)))).map (List.map g) =
      (split s).map (List.map g) := by
  rw [split_join (hf.forall_mem_words h hid), List.map_map]
  refine List.map_congr_left fun w hw => ?_
  have hascii := isAscii_of_mem_split h hw
  rw [Function.comp_apply, List.map_map]
  exact List.map_congr_left fun c hc => hg c (hascii c hc)

/-- **Conversion is stable**: words that were brought into one case and joined make the same
constant as before. -/
theorem upperSnake_join : upperSnake (join ((split s).map (List.map f))) = upperSnake s := by
  rw [upperSnake_eq_join (hf.isAscii_join h hid), hf.map_split_join h hid hf.toUpper_eq,
    upperSnake_eq_join h]

/-- **The stored name of the converted words** is the stored name of the text. -/
theorem snake_join : snake (join ((split s).map (List.map f))) = snake s := by
  rw [snake_eq_join (hf.isAscii_join h hid), hf.map_split_join h hid hf.toLower_eq,
    snake_eq_join h]

end IsCasing
end Ascii
end Boilerplate
