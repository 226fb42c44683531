/-
# Names that are put together

A text is made an identifier exactly if it is one (`Ident.ofString_eq_ok_iff`).  What is put behind
an identifier keeps it one as long as its characters are right (`isIdentifier_append`), as those of
identifiers and of numbers are.
-/

import Boilerplate.Naming
import Boilerplate.Proofs.Except
import Boilerplate.Proofs.Unicode.Casing

namespace Boilerplate

open Unicode

/-! ### Characters -/

/-- What the tables say of the characters of ASCII that names are put together from. -/
theorem ranges_ascii :
    ((isContinue '_' = true ∧ continueRanges.includes 48 57 = true) ∧
      startRanges.includes 65 90 = true ∧ startRanges.includes 97 122 = true) ∧
    startRanges.avoids 48 57 = true ∧
    (isContinue '#' = false ∧ isContinue '-' = false ∧ isContinue ' ' = false) :=
  ⟨⟨⟨by decide +kernel, by decide +kernel⟩, by decide +kernel, by decide +kernel⟩,
    by decide +kernel, by decide +kernel, by decide +kernel, by decide +kernel⟩

/-- A name may go on with an underscore. -/
theorem isContinue_underscore : isContinue '_' = true := ranges_ascii.1.1.1

/-- A name may go on with a digit. -/
theorem isContinue_of_isDigit {c : Char} (h : c.isDigit = true) : isContinue c = true := by
  simp only [Char.isDigit, Bool.and_eq_true, decide_eq_true_iff, ge_iff_le, UInt32.le_iff_toNat_le]
    at h
  exact Bool.or_eq_true_iff.2
    (Or.inr (continueRanges_sound.holds_of_includes ranges_ascii.1.1.2 h.1 h.2))

/-- A name may start with a letter of ASCII. -/
theorem isStart_of_isAlpha {c : Char} (h : c.isAlpha = true) : isStart c = true := by
  rcases Bool.or_eq_true_iff.1 h with hupper | hlower
  · obtain ⟨hfirst, hlast⟩ := isUpper_iff.1 hupper
    exact startRanges_sound.holds_of_includes ranges_ascii.1.2.1 hfirst hlast
  · obtain ⟨hfirst, hlast⟩ := isLower_iff.1 hlower
    exact startRanges_sound.holds_of_includes ranges_ascii.1.2.2 hfirst hlast

/-- A name may go on with a number. -/
theorem isContinue_of_mem_repr {n : Nat} {c : Char} (h : c ∈ (Nat.repr n).toList) :
    isContinue c = true := by
  rw [Nat.toList_repr] at h
  exact isContinue_of_isDigit (Nat.isDigit_of_mem_toDigits (by decide) (by decide) h)

/-- No name starts with a digit. -/
theorem isStart_eq_false_of_isDigit {c : Char} (h : c.isDigit = true) : isStart c = false := by
  simp only [Char.isDigit, Bool.and_eq_true, decide_eq_true_iff, ge_iff_le, UInt32.le_iff_toNat_le]
    at h
  exact startRanges_sound.holds_eq_false_of_avoids ranges_ascii.2.1 h.1 h.2

/-- Whether a character is a letter or digit of ASCII, or an underscore. -/
def isPlain (c : Char) : Bool := c = '_' || c.isAlphanum

/-- A name may go on with what is plain. -/
theorem isContinue_of_isPlain {c : Char} (h : isPlain c = true) : isContinue c = true := by
  simp only [isPlain, Char.isAlphanum, Bool.or_eq_true, decide_eq_true_iff] at h
  rcases h with rfl | halpha | hdigit
  · exact isContinue_underscore
  · exact isContinue_of_isStart (isStart_of_isAlpha halpha)
  · exact isContinue_of_isDigit hdigit

/-! ### Identifiers -/

/-- What a name is made of. -/
theorem isIdentifier_cons_iff {c : Char} {cs : List Char} :
    isIdentifier (c :: cs) = true ↔
      (c = '_' ∨ isStart c = true) ∧ ∀ d ∈ cs, isContinue d = true := by
  simp [isIdentifier]

/-- Whether a text of plain characters starts with no digit.  The tables are not searched, so fixed
names are decided by evaluation. -/
def isPlainName : List Char → Bool
  | [] => false
  | c :: cs => (c = '_' || c.isAlpha) && cs.all isPlain

/-- A plain name is an identifier. -/
theorem isIdentifier_of_isPlainName {cs : List Char} (h : isPlainName cs = true) :
    isIdentifier cs = true := by
  cases cs with
  | nil => cases h
  | cons c cs =>
    simp only [isPlainName, Bool.and_eq_true, Bool.or_eq_true, decide_eq_true_iff,
      List.all_eq_true] at h
    exact isIdentifier_cons_iff.2
      ⟨h.1.imp_right isStart_of_isAlpha, fun d hd => isContinue_of_isPlain (h.2 d hd)⟩

/-- Every character of an identifier may stand in one. -/
theorem isContinue_of_isIdentifier {cs : List Char} (h : isIdentifier cs = true) :
    ∀ c ∈ cs, isContinue c = true := by
  cases cs with
  | nil => exact nofun
  | cons c cs =>
    obtain ⟨hc, hcs⟩ := isIdentifier_cons_iff.1 h
    intro d hd
    rcases List.mem_cons.1 hd with rfl | hd
    · rcases hc with rfl | hc
      · exact isContinue_underscore
      · exact isContinue_of_isStart hc
    · exact hcs d hd

/-- What is put behind an identifier keeps it one. -/
theorem isIdentifier_append {cs ds : List Char} (h : isIdentifier cs = true)
    (hds : ∀ d ∈ ds, isContinue d = true) : isIdentifier (cs ++ ds) = true := by
  cases cs with
  | nil => cases h
  | cons c cs =>
    obtain ⟨hc, hcs⟩ := isIdentifier_cons_iff.1 h
    refine isIdentifier_cons_iff.2 ⟨hc, fun d hd => ?_⟩
    exact (List.mem_append.1 hd).elim (hcs d) (hds d)

/-- An identifier is no number. -/
theorem all_isDigit_of_isIdentifier {cs : List Char} (h : isIdentifier cs = true) :
    cs.all Char.isDigit = false := by
  cases cs with
  | nil => cases h
  | cons c cs =>
    obtain ⟨hc, -⟩ := isIdentifier_cons_iff.1 h
    rw [List.all_cons, Bool.and_eq_false_iff]
    refine Or.inl (Bool.eq_false_iff.2 fun hdigit => ?_)
    rcases hc with rfl | hc
    · cases hdigit
    · rw [isStart_eq_false_of_isDigit hdigit] at hc
      cases hc

namespace Ident

/-- An identifier is made one. -/
theorem ofString_of_isIdentifier {s : String} (h : isIdentifier s.toList = true) (span : Span) :
    ofString s span = .ok { name := s, span } := by
  have hne : s.toList.isEmpty = false := by
    cases hs : s.toList with
    | nil => rw [hs] at h; cases h
    | cons => rfl
  simp [ofString, hne, all_isDigit_of_isIdentifier h, h]

/-- Nothing else is. -/
theorem isIdentifier_of_ofString {s : String} {span : Span} {i : Ident}
    (h : ofString s span = .ok i) : isIdentifier s.toList = true := by
  cases hid : isIdentifier s.toList with
  | true => rfl
  | false =>
    rw [ofString, hid] at h
    split at h
    · cases h
    · split at h <;> cases h

/-- **A text is made an identifier exactly if it is one.** -/
theorem ofString_eq_ok_iff {s : String} {span : Span} {i : Ident} :
    ofString s span = .ok i ↔ isIdentifier s.toList = true ∧ i = { name := s, span } := by
  constructor
  · intro h
    have hid := isIdentifier_of_ofString h
    rw [ofString_of_isIdentifier hid] at h
    exact ⟨hid, (Except.ok.inj h).symm⟩
  · rintro ⟨hid, rfl⟩
    exact ofString_of_isIdentifier hid span

/-- Names are made identifiers if all of them are. -/
theorem exists_mapM_ofString {α : Type} {name : α → String} {xs : List α}
    (h : ∀ x ∈ xs, isIdentifier (name x).toList = true) :
    ∃ is, (xs.mapM fun x => ofString (name x)) = .ok is := by
  rw [exists_eq_ok_iff, exists_mapM_eq_error_iff]
  rintro ⟨x, hx, why, hwhy⟩
  rw [ofString_of_isIdentifier (h x hx)] at hwhy
  cases hwhy

end Ident
end Boilerplate
