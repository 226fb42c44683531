/-
# Words and their first letters

The words of a text are made of its characters (`mem_of_mem_split`).  The first of them starts with
the first character that separates no words (`split_cons`), where an underscore separates unless a
mark stays with it (`split_underscore`, `split_underscore_mark`).  Joined again, words have no other
characters than their own and underscores (`mem_join`).
-/

import Boilerplate.Words
import Mathlib.Data.List.Basic

namespace Boilerplate
namespace Words

open Unicode

/-! ### Clusters -/

/-- The first cluster starts with the first character. -/
theorem clusters_cons (c : Char) (rest : List Char) :
    ∃ t ks, clusters (c :: rest) = (c :: t) :: ks := by
  unfold clusters
  split
  · split
    · exact ⟨_, _, rfl⟩
    · exact ⟨_, _, rfl⟩
  · exact ⟨_, _, rfl⟩

/-- A character is a cluster of its own unless the text goes on with that cluster. -/
theorem clusters_cons_of_not_joins {c d : Char} {rest : List Char} (h : joins c d = false) :
    clusters (c :: d :: rest) = [c] :: clusters (d :: rest) := by
  obtain ⟨t, ks, hks⟩ := clusters_cons d rest
  conv_lhs => unfold clusters
  simp [hks, h]

/-- A cluster goes on with what joins. -/
theorem clusters_cons_of_joins {c d : Char} (h : joins c d = true) (rest : List Char) :
    ∃ t ks, clusters (c :: d :: rest) = (c :: d :: t) :: ks := by
  obtain ⟨t, ks, hks⟩ := clusters_cons d rest
  unfold clusters
  simp [hks, h]

/-! ### Cutting -/

/-- A separator ends a word. -/
theorem cut_cons_separator {k : List Char} (h : isSeparator k = true) (ks : List (List Char)) :
    cut (k :: ks) = [] :: cut ks := by
  rw [cut, if_pos h]

/-- Any other letter starts one. -/
theorem cut_cons_letter {k : List Char} (h : isSeparator k = false) (ks : List (List Char)) :
    ∃ t ws, cut (k :: ks) = (k ++ t) :: ws := by
  rw [cut, if_neg (by simp [h])]
  split
  · exact ⟨[], cut ks, by simp⟩
  · split
    · exact ⟨_, _, rfl⟩
    · exact ⟨[], [], by simp⟩

/-- Words are made of the letters that they are cut from. -/
theorem mem_of_mem_cut {ks : List (List Char)} {w : List Char} (hw : w ∈ cut ks) {c : Char}
    (hc : c ∈ w) : ∃ k ∈ ks, isSeparator k = false ∧ c ∈ k := by
  induction ks generalizing w with
  | nil =>
    obtain rfl := List.mem_singleton.1 hw
    cases hc
  | cons k ks ih =>
    have hbehind : ∀ {w}, w ∈ cut ks → c ∈ w → ∃ l ∈ k :: ks, isSeparator l = false ∧ c ∈ l := by
      intro w hw hc
      obtain ⟨l, hl, hcl⟩ := ih hw hc
      exact ⟨l, List.mem_cons_of_mem _ hl, hcl⟩
    rw [cut] at hw
    split at hw
    · rcases List.mem_cons.1 hw with rfl | hw
      · cases hc
      · exact hbehind hw hc
    · rename_i hsep
      have hhere : c ∈ k → ∃ l ∈ k :: ks, isSeparator l = false ∧ c ∈ l :=
        fun hc => ⟨k, List.mem_cons_self, by simpa using hsep, hc⟩
      split at hw
      · rcases List.mem_cons.1 hw with rfl | hw
        · exact hhere hc
        · exact hbehind hw hc
      · split at hw
        · rename_i w' ws hcut
          rcases List.mem_cons.1 hw with rfl | hw
          · rcases List.mem_append.1 hc with hc | hc
            · exact hhere hc
            · exact hbehind (hcut ▸ List.mem_cons_self) hc
          · exact hbehind (hcut ▸ List.mem_cons_of_mem _ hw) hc
        · obtain rfl := List.mem_singleton.1 hw
          exact hhere hc

/-! ### The words of a text -/

/-- **Words are made of the characters of the text.** -/
theorem mem_of_mem_split {s w : List Char} (hw : w ∈ split s) {c : Char} (hc : c ∈ w) : c ∈ s := by
  obtain ⟨k, hk, -, hck⟩ := mem_of_mem_cut (List.mem_of_mem_filter hw) hc
  rw [← flatten_clusters s]
  exact List.mem_flatten.2 ⟨k, hk, hck⟩

/-- No word is empty. -/
theorem ne_nil_of_mem_split {s w : List Char} (hw : w ∈ split s) : w ≠ [] := by
  simpa using (List.mem_filter.1 hw).2

/-- A text that starts with a letter has a word that starts so. -/
theorem split_of_clusters {s k : List Char} {ks : List (List Char)} {c : Char} {t : List Char}
    (hclusters : clusters s = k :: ks) (hk : k = c :: t) (hsep : isSeparator k = false) :
    ∃ t ws, split s = (c :: t) :: ws := by
  obtain ⟨t', ws, hcut⟩ := cut_cons_letter hsep ks
  rw [split, hclusters, hcut, hk]
  exact ⟨t ++ t', _, List.filter_cons_of_pos (by simp)⟩

/-- **The first word** starts with the first character, if that separates no words. -/
theorem split_cons {c : Char} (h : isSeparator [c] = false) (rest : List Char) :
    ∃ t ws, split (c :: rest) = (c :: t) :: ws := by
  obtain ⟨t, ks, hclusters⟩ := clusters_cons c rest
  refine split_of_clusters hclusters rfl ?_
  cases t with
  | nil => exact h
  | cons d t => simp [isSeparator]

/-- An underscore at the start of a text separates nothing. -/
theorem split_underscore {rest : List Char} (h : ∀ d ∈ rest.head?, markRanges.holds d = false) :
    split ('_' :: rest) = split rest := by
  have hclusters : clusters ('_' :: rest) = ['_'] :: clusters rest := by
    cases rest with
    | nil => rfl
    | cons d rest =>
      have hd : markRanges.holds d = false := h d rfl
      have hprepend : prependRanges.holds '_' = false := by decide
      exact clusters_cons_of_not_joins (by rw [joins, hd, hprepend]; rfl)
  rw [split, hclusters, cut_cons_separator (by decide)]
  exact List.filter_cons_of_neg (by simp)

/-- An underscore with a mark is a letter. -/
theorem split_underscore_mark {d : Char} (h : markRanges.holds d = true) (rest : List Char) :
    ∃ t ws, split ('_' :: d :: rest) = ('_' :: t) :: ws := by
  have hjoins : joins '_' d = true := by rw [joins, h, Bool.true_or]
  obtain ⟨t, ks, hclusters⟩ := clusters_cons_of_joins hjoins rest
  exact split_of_clusters hclusters rfl (by simp [isSeparator])

/-! ### Joining -/

/-- Joined words start with the first of them. -/
theorem join_cons (w : List Char) (ws : List (List Char)) : ∃ rest, join (w :: ws) = w ++ rest := by
  cases ws with
  | nil => exact ⟨[], by rw [join, List.intercalate_singleton, List.append_nil]⟩
  | cons w' ws => exact ⟨_, by rw [join, List.intercalate_cons_cons, List.append_assoc]⟩

/-- Words are joined by underscores. -/
theorem join_cons_cons (w w' : List Char) (ws : List (List Char)) :
    join (w :: w' :: ws) = w ++ '_' :: join (w' :: ws) := by
  rw [join, List.intercalate_cons_cons, List.append_assoc, List.singleton_append, join]

/-- No character of a word is lost when words are joined. -/
theorem mem_join_of_mem {ws : List (List Char)} {w : List Char} (hw : w ∈ ws) {c : Char}
    (hc : c ∈ w) : c ∈ join ws := by
  induction ws with
  | nil => cases hw
  | cons w' ws ih =>
    rw [join]
    by_cases hws : ws = []
    · subst hws
      rw [List.mem_singleton] at hw
      rwa [List.intercalate_singleton, ← hw]
    · rw [List.intercalate_cons_of_ne_nil hws, List.mem_append, List.mem_append]
      rcases List.mem_cons.1 hw with rfl | hw
      · exact Or.inl (Or.inl hc)
      · exact Or.inr (ih hw)

/-- Joined words have their characters and underscores. -/
theorem mem_join {ws : List (List Char)} {c : Char} (hc : c ∈ join ws) :
    c = '_' ∨ ∃ w ∈ ws, c ∈ w := by
  induction ws with
  | nil => cases hc
  | cons w ws ih =>
    rw [join] at hc
    by_cases hws : ws = []
    · rw [hws, List.intercalate_singleton] at hc
      exact Or.inr ⟨w, List.mem_cons_self, hc⟩
    · rw [List.intercalate_cons_of_ne_nil hws, List.mem_append, List.mem_append] at hc
      rcases hc with (hc | hc) | hc
      · exact Or.inr ⟨w, List.mem_cons_self, hc⟩
      · exact Or.inl (List.mem_singleton.1 hc)
      · refine (ih hc).imp_right ?_
        rintro ⟨w', hw', hcw'⟩
        exact ⟨w', List.mem_cons_of_mem _ hw', hcw'⟩

end Words
end Boilerplate
