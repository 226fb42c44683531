/-
# Which cases can be named

The constant of a case is made of the words of its identifier, and whether that is an identifier
again depends on how the identifier goes on behind its leading underscores, which the words are
without (`CaseNameable`).  If a letter follows, the constant starts with that letter in upper case.
If a mark follows, the last underscore stays with the mark.  But if nothing follows, there is no
word, and a digit is where no identifier starts (`exists_ofIdent_iff`).
-/

import Boilerplate.OptionCase
import Boilerplate.Proofs.Except
import Boilerplate.Proofs.Naming
import Boilerplate.Proofs.Words

namespace Boilerplate

open Unicode

/-- Whether a letter or a mark follows the leading underscores of an identifier. -/
def CaseNameable (s : List Char) : Prop :=
  ∃ c cs, s.dropWhile (· == '_') = c :: cs ∧ (isStart c = true ∨ markRanges.holds c = true)

namespace Words

/-- What goes on with identifiers separates words only if it is an underscore. -/
theorem isSeparator_eq_false {c : Char} (h : isContinue c = true) (hne : c ≠ '_') :
    isSeparator [c] = false := by
  obtain ⟨-, -, -, hyphen, space⟩ := ranges_ascii
  have hnot : c ≠ '_' ∧ c ≠ '-' ∧ c ≠ ' ' := by
    refine ⟨hne, ?_, ?_⟩ <;> rintro rfl
    · rw [hyphen] at h
      cases h
    · rw [space] at h
      cases h
  simp [isSeparator, hnot]

/-- The constant has only characters that may stand in identifiers if the text has only such. -/
theorem isContinue_of_mem_upperSnake {s : List Char} (h : ∀ c ∈ s, isContinue c = true) :
    ∀ d ∈ upperSnake s, isContinue d = true := by
  intro d hd
  rcases mem_join hd with rfl | ⟨w, hw, hdw⟩
  · exact isContinue_underscore
  · obtain ⟨v, hv, rfl⟩ := List.mem_map.1 hw
    obtain ⟨c, hc, hdc⟩ := List.mem_flatMap.1 hdw
    exact isContinue_of_mem_upper (h c (mem_of_mem_split hv hc)) hdc

/-- The constant starts as the first word does in upper case. -/
theorem upperSnake_of_split {s : List Char} {c : Char} {t : List Char} {ws : List (List Char)}
    (h : split s = (c :: t) :: ws) : ∃ rest, upperSnake s = upper c ++ rest := by
  rw [upperSnake, h, List.map_cons]
  obtain ⟨rest, hrest⟩ := join_cons (upperText (c :: t)) (ws.map upperText)
  refine ⟨upperText t ++ rest, ?_⟩
  rw [hrest, upperText, List.flatMap_cons, List.append_assoc, upperText]

/-- The constant is an identifier if its first word starts one in upper case. -/
theorem isIdentifier_upperSnake_of_split {s : List Char} (h : ∀ c ∈ s, isContinue c = true)
    {c d : Char} {t ds : List Char} {ws : List (List Char)} (hsplit : split s = (c :: t) :: ws)
    (hupper : upper c = d :: ds) :
    isIdentifier (upperSnake s) = true ↔ d = '_' ∨ isStart d = true := by
  obtain ⟨rest, hrest⟩ := upperSnake_of_split hsplit
  have hall := isContinue_of_mem_upperSnake h
  rw [hupper, List.cons_append] at hrest
  rw [hrest, isIdentifier_cons_iff]
  exact and_iff_left fun e he => hall e (hrest ▸ List.mem_cons_of_mem _ he)

/-- A text that starts with no underscore, and with a mark only if that starts identifiers. -/
theorem isIdentifier_upperSnake_cons_iff {c : Char} {cs : List Char}
    (h : ∀ d ∈ c :: cs, isContinue d = true) (hne : c ≠ '_')
    (hmark : markRanges.holds c = true → isStart c = true) :
    isIdentifier (upperSnake (c :: cs)) = true ↔ isStart c = true := by
  have hc := h c List.mem_cons_self
  obtain ⟨t, ws, hsplit⟩ := split_cons (isSeparator_eq_false hc hne) cs
  cases hstart : isStart c with
  | true =>
    obtain ⟨d, ds, hupper, hd⟩ := exists_upper_of_isStart hstart
    exact iff_of_true ((isIdentifier_upperSnake_of_split h hsplit hupper).2 (Or.inr hd)) rfl
  | false =>
    have hmark : markRanges.holds c = false := by
      rw [hstart] at hmark
      exact Bool.eq_false_iff.2 fun hm => Bool.false_ne_true (hmark hm)
    rw [isIdentifier_upperSnake_of_split h hsplit (upper_eq_self hc hstart hmark)]
    simp [hne, hstart]

/-- A text that starts with an underscore that stays with a mark. -/
theorem isIdentifier_upperSnake_underscore_mark {d : Char} {cs : List Char}
    (h : ∀ e ∈ '_' :: d :: cs, isContinue e = true) (hmark : markRanges.holds d = true) :
    isIdentifier (upperSnake ('_' :: d :: cs)) = true := by
  have hupper : upper '_' = ['_'] := by decide +kernel
  obtain ⟨t, ws, hsplit⟩ := split_underscore_mark hmark cs
  exact (isIdentifier_upperSnake_of_split h hsplit hupper).2 (Or.inl rfl)

/-- **When the constant is an identifier.** -/
theorem isIdentifier_upperSnake_iff {s : List Char} (h : ∀ c ∈ s, isContinue c = true)
    (hmark : ∀ c ∈ s.head?, markRanges.holds c = true → isStart c = true) :
    isIdentifier (upperSnake s) = true ↔ CaseNameable s := by
  induction s with
  | nil => exact iff_of_false (by decide) (by rintro ⟨c, cs, hs, -⟩; cases hs)
  | cons c rest ih =>
    by_cases hc : c = '_'
    · subst hc
      have hrest := fun d hd => h d (List.mem_cons_of_mem _ hd)
      have hdrop : ('_' :: rest).dropWhile (· == '_') = rest.dropWhile (· == '_') := rfl
      by_cases hhead : ∃ d ∈ rest.head?, markRanges.holds d = true
      · obtain ⟨d, hd, hdmark⟩ := hhead
        obtain ⟨cs, rfl⟩ : ∃ cs, rest = d :: cs := ⟨_, List.eq_cons_of_mem_head? hd⟩
        have hne : d ≠ '_' := by
          rintro rfl
          revert hdmark
          decide
        refine iff_of_true (isIdentifier_upperSnake_underscore_mark h hdmark)
          ⟨d, cs, ?_, Or.inr hdmark⟩
        rw [hdrop, List.dropWhile_cons_of_neg (by simpa using hne)]
      · have hsame : upperSnake ('_' :: rest) = upperSnake rest := by
          rw [upperSnake, upperSnake, split_underscore]
          exact fun d hd => Bool.eq_false_iff.2 fun hm => hhead ⟨d, hd, hm⟩
        rw [hsame, ih hrest fun d hd hm => absurd ⟨d, hd, hm⟩ hhead, CaseNameable, CaseNameable,
          hdrop]
    · have hdrop : (c :: rest).dropWhile (· == '_') = c :: rest := by simp [hc]
      rw [isIdentifier_upperSnake_cons_iff h hc (hmark c rfl), CaseNameable, hdrop]
      constructor
      · exact fun hstart => ⟨c, rest, rfl, Or.inl hstart⟩
      · rintro ⟨d, ds, hds, hor⟩
        cases hds
        exact hor.elim id (hmark c rfl)

end Words

namespace OptionCase

/-- The case that an identifier names, if it names one. -/
def spelled (i : Ident) (position : Nat) : OptionCase where
  constant := { name := String.ofList (Words.upperSnake i.name.toList), span := i.span }
  position := position
  display := String.ofList (capitalized i.name.toList)
  wire := String.ofList (Words.snake i.name.toList)

/-- The cases that identifiers name, in their order. -/
def spelledAll (is : List Ident) : List OptionCase := is.zipIdx.map fun p => spelled p.1 p.2

/-- An identifier names a case if the constant is an identifier, too. -/
theorem ofIdent_eq_ok_iff {i : Ident} {position : Nat} {c : OptionCase} :
    ofIdent i position = .ok c ↔
      isIdentifier (Words.upperSnake i.name.toList) = true ∧ c = spelled i position := by
  rw [ofIdent, bind_eq_ok_iff]
  simp only [Ident.ofString_eq_ok_iff, String.toList_ofList]
  constructor
  · rintro ⟨k, ⟨hid, rfl⟩, hc⟩
    exact ⟨hid, (Except.ok.inj hc).symm⟩
  · rintro ⟨hid, rfl⟩
    exact ⟨_, ⟨hid, rfl⟩, rfl⟩

/-- Identifiers name cases if each of them has a constant. -/
theorem ofIdents_eq_ok_iff {is : List Ident} {cases : List OptionCase} :
    ofIdents is = .ok cases ↔
      (∀ i ∈ is, isIdentifier (Words.upperSnake i.name.toList) = true) ∧ cases = spelledAll is := by
  have hidents : (∀ p ∈ is.zipIdx, isIdentifier (Words.upperSnake p.1.name.toList) = true) ↔
      ∀ i ∈ is, isIdentifier (Words.upperSnake i.name.toList) = true := by
    conv_rhs => rw [← List.zipIdx_map_fst 0 is, List.forall_mem_map]
  have hcases : List.Forall₂ (fun p c => c = spelled p.1 p.2) is.zipIdx cases ↔
      cases = spelledAll is := by
    simp only [eq_comm (b := spelled _ _)]
    rw [← List.forall₂_map_left_iff, List.forall₂_eq_eq_eq, eq_comm, spelledAll]
  rw [ofIdents, mapM_eq_ok_iff]
  simp only [ofIdent_eq_ok_iff]
  rw [List.forall₂_and_left, hidents, hcases]

/-- What is asked of the cases without their positions is asked of the identifiers. -/
theorem map_spelledAll {α : Type} {f : OptionCase → α} (is : List Ident)
    (hf : ∀ i p, f (spelled i p) = f (spelled i 0)) :
    (spelledAll is).map f = is.map fun i => f (spelled i 0) := by
  have hfst := congrArg (List.map fun i => f (spelled i 0)) (List.zipIdx_map_fst 0 is)
  rw [List.map_map] at hfst
  rw [spelledAll, List.map_map, ← hfst]
  exact List.map_congr_left fun p _ => hf p.1 p.2

/-- There is one case for each identifier. -/
theorem length_spelledAll (is : List Ident) : (spelledAll is).length = is.length := by
  rw [spelledAll, List.length_map, List.length_zipIdx]

/-- The cases own the bits from the lowest on. -/
theorem map_position_spelledAll (is : List Ident) :
    (spelledAll is).map (·.position) = List.range is.length := by
  rw [spelledAll, List.map_map, List.range_eq_range']
  exact List.zipIdx_map_snd 0 is

/-- A case can be made of an identifier exactly if its constant can be named. -/
theorem exists_ofIdent_iff_isIdentifier {i : Ident} (position : Nat) :
    (∃ c, ofIdent i position = .ok c) ↔ isIdentifier (Words.upperSnake i.name.toList) = true := by
  simp only [ofIdent_eq_ok_iff, exists_and_left, exists_eq, and_true]

/-- **Which identifiers name a case**: those with a letter or a mark behind their leading
underscores. -/
theorem exists_ofIdent_iff {i : Ident} (h : isIdentifier i.name.toList = true) {position : Nat} :
    (∃ c, ofIdent i position = .ok c) ↔ CaseNameable i.name.toList := by
  rw [exists_ofIdent_iff_isIdentifier]
  refine Words.isIdentifier_upperSnake_iff (isContinue_of_isIdentifier h) fun c hc hmark => ?_
  obtain ⟨cs, hcs⟩ : ∃ cs, i.name.toList = c :: cs := ⟨_, List.eq_cons_of_mem_head? hc⟩
  rw [hcs, isIdentifier_cons_iff] at h
  refine h.1.resolve_left ?_
  rintro rfl
  revert hmark
  decide

/-- An identifier that goes on with a digit behind an underscore names no case. -/
example : ¬ ∃ c, ofIdent { name := "_1" } 0 = .ok c := by
  rw [exists_ofIdent_iff (isIdentifier_of_isPlainName (by decide))]
  rintro ⟨c, cs, hcs, hor⟩
  cases hcs
  revert hor
  decide +kernel

end OptionCase
end Boilerplate
