/-
# What constants look like

`FlagCase::new` of `src/bitmask`; `SPEC_FULL.md` §4.3, items 3 and 4.

In ASCII the constant of a case has one shape (`IsConstantText`): words of capitals and words of
digits, with one underscore between two of them.  It says as much as the identifier does without its
underscores, and as much as the stored name, so that cases share a constant exactly if they share a
stored name (`OptionCase.shape_of_ofIdent`).
-/

import Boilerplate.Proofs.Ascii.Casing
import Mathlib.Data.List.Chain

namespace Boilerplate

open Unicode

/-- Whether a text has the shape of a constant. -/
structure IsConstantText (k : List Char) : Prop where
  characters : ∀ c ∈ k, c.isUpper = true ∨ c.isDigit = true ∨ c = '_'
  /-- Underscores stand inside the text, and no two of them together. -/
  first : k.head? ≠ some '_'
  last : k.getLast? ≠ some '_'
  single : ¬ ['_', '_'] <:+: k
  /-- Between underscores there are capitals alone or digits alone. -/
  words : ∀ w ∈ k.splitOn '_', (∀ c ∈ w, c.isUpper = true) ∨ ∀ c ∈ w, c.isDigit = true

namespace Words

/-! ### Where the underscores of joined words stand -/

variable {ws : List (List Char)} (h : ∀ w ∈ ws, w ≠ [] ∧ '_' ∉ w)
include h

/-- Joined words do not start with an underscore. -/
theorem head?_join_ne : (join ws).head? ≠ some '_' := by
  cases ws with
  | nil => simp [join]
  | cons w ws =>
    obtain ⟨hne, hfree⟩ := h w List.mem_cons_self
    obtain ⟨rest, hrest⟩ := join_cons w ws
    cases w with
    | nil => exact absurd rfl hne
    | cons c t =>
      have hc : c ≠ '_' := fun heq => hfree (heq ▸ List.mem_cons_self)
      simp [hrest, hc]

/-- Nor do they end with one. -/
theorem getLast?_join_ne : (join ws).getLast? ≠ some '_' := by
  induction ws with
  | nil => simp [join]
  | cons w ws ih =>
    obtain ⟨⟨hne, hfree⟩, hws⟩ := List.forall_mem_cons.1 h
    cases ws with
    | nil =>
      rw [join, List.intercalate_singleton]
      exact fun hlast => hfree (List.mem_of_getLast? hlast)
    | cons w' ws =>
      have hbehind : join (w' :: ws) ≠ [] := by
        obtain ⟨rest, hrest⟩ := join_cons w' ws
        simp [hrest, (h w' (by simp)).1]
      rw [join_cons_cons, List.append_cons, List.getLast?_append_of_ne_nil _ hbehind]
      exact ih hws

/-- No two underscores stand together in joined words. -/
theorem isChain_join : (join ws).IsChain fun c d => c ≠ '_' ∨ d ≠ '_' := by
  induction ws with
  | nil => exact .nil
  | cons w ws ih =>
    obtain ⟨⟨hne, hfree⟩, hws⟩ := List.forall_mem_cons.1 h
    have hletter : ∀ c ∈ w, c ≠ '_' := fun c hc heq => hfree (heq ▸ hc)
    have hword : w.IsChain fun c d => c ≠ '_' ∨ d ≠ '_' :=
      (List.pairwise_of_forall_mem_list fun c hc _ _ => Or.inl (hletter c hc)).isChain
    cases ws with
    | nil => rwa [join, List.intercalate_singleton]
    | cons w' ws =>
      rw [join_cons_cons, List.isChain_append, List.isChain_cons]
      refine ⟨hword, ⟨fun d hd => Or.inr ?_, ih hws⟩, fun c hc _ _ => Or.inl ?_⟩
      · rintro rfl
        exact head?_join_ne hws hd
      · exact hletter c (List.mem_of_getLast? hc)

omit h in
/-- Without underscores joined words are what they were. -/
theorem filter_join (hfree : ∀ w ∈ ws, '_' ∉ w) : (join ws).filter (· != '_') = ws.flatten := by
  induction ws with
  | nil => rfl
  | cons w ws ih =>
    obtain ⟨hw, hws⟩ := List.forall_mem_cons.1 hfree
    have hword : w.filter (· != '_') = w :=
      List.filter_eq_self.2 fun c hc => by simpa using fun heq : c = '_' => hw (heq ▸ hc)
    cases ws with
    | nil => simp [join, List.intercalate_singleton, hword]
    | cons w' ws =>
      rw [join_cons_cons, List.filter_append, List.filter_cons_of_neg (by simp), hword, ih hws]
      rfl

end Words

open Words in
/-- **Words of capitals and words of digits** that are joined have the shape of a constant. -/
theorem isConstantText_join {ws : List (List Char)} (hne : ws ≠ [])
    (h : ∀ w ∈ ws, w ≠ [] ∧ ((∀ c ∈ w, c.isUpper = true) ∨ ∀ c ∈ w, c.isDigit = true)) :
    IsConstantText (join ws) := by
  have hfree : ∀ w ∈ ws, w ≠ [] ∧ '_' ∉ w := by
    intro w hw
    obtain ⟨hword, hkind⟩ := h w hw
    refine ⟨hword, fun hmem => ?_⟩
    rcases hkind with hall | hall <;> cases hall '_' hmem
  constructor
  · intro c hc
    rcases mem_join hc with rfl | ⟨w, hw, hcw⟩
    · exact Or.inr (Or.inr rfl)
    · rcases (h w hw).2 with hall | hall
      · exact Or.inl (hall c hcw)
      · exact Or.inr (Or.inl (hall c hcw))
  · exact head?_join_ne hfree
  · exact getLast?_join_ne hfree
  · rintro ⟨before, behind, heq⟩
    have hchain := isChain_join hfree
    rw [← heq, List.append_assoc, List.isChain_append] at hchain
    simp at hchain
  · have hsplit : (join ws).splitOn '_' = ws :=
      List.splitOn_intercalate '_' (fun w hw => (hfree w hw).2) hne
    rw [hsplit]
    exact fun w hw => (h w hw).2

namespace Ascii

open Words

variable {s : List Char}

/-- In upper case words are made of capitals alone or of digits alone. -/
theorem kind_map_toUpper {w : List Char} (h : IsPure w) :
    (∀ c ∈ w.map Char.toUpper, c.isUpper = true) ∨ ∀ c ∈ w.map Char.toUpper, c.isDigit = true := by
  rcases h with hletters | hdigits
  · exact Or.inl (List.forall_mem_map.2 fun c hc => (case_of_isAlpha (hletters c hc)).1)
  · refine Or.inr (List.forall_mem_map.2 fun c hc => ?_)
    rw [(case_of_isDigit (hdigits c hc)).1]
    exact hdigits c hc

/-- **The constant** of a text that can be named has the shape of one. -/
theorem isConstantText_upperSnake (h : IsAscii s) (hid : isIdentifier (upperSnake s) = true) :
    IsConstantText (upperSnake s) := by
  rw [upperSnake_eq_join h]
  refine isConstantText_join ?_ ?_
  · obtain ⟨c, t, ws, hsplit⟩ := exists_split hid
    simp [hsplit]
  · intro w hw
    obtain ⟨v, hv, rfl⟩ := List.mem_map.1 hw
    have hne : v ≠ [] := ne_nil_of_mem_split hv
    exact ⟨by simpa using hne, kind_map_toUpper (isPure_of_mem_split h hid hv)⟩

/-- In identifiers nothing but underscores separates words. -/
theorem filter_isSeparator (hs : ∀ c ∈ s, isContinue c = true) :
    (s.filter fun c => !isSeparator [c]) = s.filter (· != '_') := by
  refine List.filter_congr fun c hc => ?_
  by_cases hne : c = '_'
  · subst hne
    rfl
  · rw [isSeparator_eq_false (hs c hc) hne]
    simp [hne]

/-- Without underscores the constant is the text in upper case. -/
theorem filter_upperSnake (h : IsAscii s) (hid : isIdentifier (upperSnake s) = true)
    (hs : ∀ c ∈ s, isContinue c = true) :
    (upperSnake s).filter (· != '_') = (s.filter (· != '_')).map Char.toUpper := by
  have hfree : ∀ w ∈ (split s).map (List.map Char.toUpper), '_' ∉ w := by
    intro w hw hmem
    obtain ⟨v, hv, rfl⟩ := List.mem_map.1 hw
    rcases kind_map_toUpper (isPure_of_mem_split h hid hv) with hall | hall <;>
      cases hall '_' hmem
  rw [upperSnake_eq_join h, filter_join hfree, ← List.map_flatten, flatten_split_eq h,
    filter_isSeparator hs]

/-- The stored name is the constant in lower case. -/
theorem snake_eq (h : IsAscii s) : snake s = (upperSnake s).map Char.toLower := by
  rw [snake_eq_join h, upperSnake_eq_join h, map_join rfl, List.map_map]
  congr 1
  refine List.map_congr_left fun w hw => ?_
  have hascii := isAscii_of_mem_split h hw
  rw [Function.comp_apply, List.map_map]
  exact List.map_congr_left fun c hc => (isCasing_toUpper.toLower_eq c (hascii c hc)).symm

/-- **Two texts have the same constant** exactly if they have the same stored name. -/
theorem upperSnake_eq_iff {t : List Char} (hs : IsAscii s) (ht : IsAscii t) :
    upperSnake s = upperSnake t ↔ snake s = snake t := by
  constructor
  · intro heq
    rw [snake_eq hs, snake_eq ht, heq]
  · intro heq
    rw [upperSnake_eq hs, upperSnake_eq ht, heq]

/-- No identifier can be named that is empty, or goes on with a digit, behind its leading
underscores; any other can. -/
theorem caseNameable_iff (h : IsAscii s) (hs : ∀ c ∈ s, isContinue c = true) :
    CaseNameable s ↔ ¬ (s.dropWhile (· == '_') = [] ∨
      ∃ c cs, s.dropWhile (· == '_') = c :: cs ∧ c.isDigit = true) := by
  cases hdrop : s.dropWhile (· == '_') with
  | nil => simp [CaseNameable, hdrop]
  | cons c cs =>
    have hmem : c ∈ s := (List.dropWhile_sublist _).mem (hdrop ▸ List.mem_cons_self)
    have hne : c ≠ '_' := by
      simpa [hdrop] using List.head_dropWhile_not (p := (· == '_')) (l := s) (by simp [hdrop])
    have hkind : isStart c = true ↔ ¬ c.isDigit = true :=
      forall_char (P := fun c => isContinue c = true → c ≠ '_' →
        (isStart c = true ↔ ¬ c.isDigit = true)) (by decide +kernel) (h c hmem) (hs c hmem) hne
    simp [CaseNameable, hdrop, markRanges_holds (h c hmem), hkind]

end Ascii

namespace OptionCase

/-- **The names of a case in ASCII.**  An identifier can name a case unless nothing or a digit
follows its leading underscores.  Then the constant has the shape of one; without underscores it is
the identifier without underscores, in upper case; and in lower case it is the stored name.  So two
cases have the same constant exactly if they have the same stored name. -/
theorem shape_of_ofIdent {i : Ident} (ascii : IsAscii i.name.toList)
    (identifier : isIdentifier i.name.toList = true) (position : Nat) :
    ((∃ why, ofIdent i position = .error why) ↔
      i.name.toList.dropWhile (· == '_') = [] ∨
        ∃ c cs, i.name.toList.dropWhile (· == '_') = c :: cs ∧ c.isDigit = true) ∧
    ∀ c, ofIdent i position = .ok c →
      IsConstantText c.constant.text.toList ∧
      c.constant.text.toList.filter (· != '_') =
        (i.name.toList.filter (· != '_')).map Char.toUpper ∧
      c.wire.toList = c.constant.text.toList.map Char.toLower ∧
      ∀ (j : Ident) p d, IsAscii j.name.toList → ofIdent j p = .ok d →
        (c.constant.text = d.constant.text ↔ c.wire = d.wire) := by
  have hcontinue := isContinue_of_isIdentifier identifier
  constructor
  · have hnameable : CaseNameable i.name.toList ↔ ¬ ∃ why, ofIdent i position = .error why := by
      rw [← exists_eq_ok_iff, exists_ofIdent_iff identifier]
    rw [Ascii.caseNameable_iff ascii hcontinue] at hnameable
    exact (not_iff_not.1 hnameable).symm
  · intro c hc
    obtain ⟨hid, rfl⟩ := ofIdent_eq_ok_iff.1 hc
    refine ⟨?_, ?_, ?_, ?_⟩
    · simpa [spelled, Ident.text] using Ascii.isConstantText_upperSnake ascii hid
    · simpa [spelled, Ident.text] using Ascii.filter_upperSnake ascii hid hcontinue
    · simpa [spelled, Ident.text] using Ascii.snake_eq ascii
    · intro j p d hj hd
      obtain ⟨-, rfl⟩ := ofIdent_eq_ok_iff.1 hd
      simpa [spelled, Ident.text, String.ofList_inj] using Ascii.upperSnake_eq_iff ascii hj

/-- The cases `IOPort2` and `ioPort_2` have one constant, and so one stored name; and `_2x` names no
case. -/
theorem shape_of_ioPort : ∃ c d, ofIdent { name := "IOPort2" } 0 = .ok c ∧
    ofIdent { name := "ioPort_2" } 1 = .ok d ∧ c.constant.text = "IO_PORT_2" ∧
    IsConstantText c.constant.text.toList ∧ c.wire = d.wire ∧
    ∃ why, ofIdent { name := "_2x" } 2 = .error why := by
  obtain ⟨c, hc, hconstant⟩ : ∃ c, ofIdent { name := "IOPort2" } 0 = .ok c ∧
      c.constant.text = "IO_PORT_2" := ⟨_, rfl, rfl⟩
  obtain ⟨d, hd, hsame⟩ : ∃ d, ofIdent { name := "ioPort_2" } 1 = .ok d ∧
      d.constant.text = "IO_PORT_2" := ⟨_, rfl, rfl⟩
  have hshape := shape_of_ofIdent (i := { name := "IOPort2" }) (by decide)
    (isIdentifier_of_isPlainName (by decide)) 0
  obtain ⟨hcharacters, -, -, hshared⟩ := hshape.2 c hc
  have hpanics := shape_of_ofIdent (i := { name := "_2x" }) (by decide)
    (isIdentifier_of_isPlainName (by decide)) 2
  refine ⟨c, d, hc, hd, hconstant, hcharacters, ?_, ?_⟩
  · exact (hshared { name := "ioPort_2" } 1 d (by decide) hd).1 (hconstant.trans hsame.symm)
  · exact hpanics.1.2 (Or.inr ⟨'2', ['x'], rfl, rfl⟩)

end OptionCase
end Boilerplate
