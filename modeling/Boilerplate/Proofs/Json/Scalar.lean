/-
# Numbers and strings that are written and read

What is written is read again, whatever follows it as long as that does not go on with the same
number: an integer that fits 64 bits (`readNumber_toDigits`), and a string of any characters
(`string_quote`).
-/

import Boilerplate.Json.Reader
import Mathlib.Tactic.IntervalCases

namespace Boilerplate
namespace Json

/-! ### Numbers -/

/-- Whether what follows a value does not belong to it: it is nothing, or a comma or a bracket. -/
def Ends (rest : List Char) : Prop := ∀ c ∈ rest.head?, c = ',' ∨ c = ']' ∨ c = '\x7d'

/-- The digits of a number, as numbers. -/
def digitsOf (n : Nat) : List Nat := (Nat.toDigits 10 n).map fun c => c.toNat - '0'.toNat

variable {rest : List Char}

/-- The digits of a number are all read, if no more of them follow. -/
theorem digits_toDigits (n : Nat) (hrest : Ends rest) :
    digits (Nat.toDigits 10 n ++ rest) = (digitsOf n, rest) := by
  have hall : ∀ c ∈ Nat.toDigits 10 n, c.isDigit = true :=
    fun c hc => Nat.isDigit_of_mem_toDigits (by decide) (by decide) hc
  have hstop : rest.takeWhile Char.isDigit = [] ∧ rest.dropWhile Char.isDigit = rest := by
    cases rest with
    | nil => exact ⟨rfl, rfl⟩
    | cons c rest =>
      rcases hrest c rfl with rfl | rfl | rfl <;> exact ⟨rfl, rfl⟩
  rw [digits, List.takeWhile_append_of_pos hall, List.dropWhile_append_of_pos hall, hstop.1,
    hstop.2, List.append_nil, digitsOf]

/-- A number is what its digits amount to. -/
theorem foldl_digitsOf (n : Nat) : (digitsOf n).foldl (fun m d => m * 10 + d) 0 = n := by
  have h : Nat.ofDigitChars 10 (Nat.toDigits 10 n) 0 = n := Nat.ofDigitChars_ten_toDigits
  rw [Nat.ofDigitChars_eq_foldl] at h
  rw [digitsOf, List.foldl_map]
  simpa only [Nat.mul_comm 10] using h

/-- Digits only make a number larger. -/
theorem le_foldl (m : Nat) (ds : List Nat) : m ≤ ds.foldl (fun m d => m * 10 + d) m := by
  induction ds generalizing m with
  | nil => exact Nat.le_refl m
  | cons d ds ih => exact Nat.le_trans (by omega) (ih (m * 10 + d))

/-- All digits fit if the number does. -/
theorem fitting_eq {bound m : Nat} {ds : List Nat}
    (h : ds.foldl (fun m d => m * 10 + d) m < bound) :
    fitting bound m ds = (ds.foldl (fun m d => m * 10 + d) m, []) := by
  induction ds generalizing m with
  | nil => rfl
  | cons d ds ih =>
    rw [fitting, if_pos (Nat.lt_of_le_of_lt (le_foldl (m * 10 + d) ds) h)]
    exact ih h

/-- All digits of a number fit in a word if the number does. -/
theorem fitting_digitsOf {n : Nat} (h : n < wordBound) :
    fitting wordBound 0 (digitsOf n) = (n, []) := by
  rw [fitting_eq (by rwa [foldl_digitsOf]), foldl_digitsOf]

/-- There are digits, and the first of several is not zero. -/
theorem digitsOf_shape (n : Nat) : ∃ d ds, digitsOf n = d :: ds ∧ (d = 0 → ds = []) := by
  induction n using Nat.strong_induction_on with
  | _ n ih =>
    by_cases hn : n < 10
    · exact ⟨_, [], by rw [digitsOf, Nat.toDigits_of_lt_base hn]; rfl, fun _ => rfl⟩
    · -- The first digit is that of the number without its last digit, which is not zero.
      obtain ⟨d, ds, hds, hzero⟩ := ih (n / 10) (by omega)
      have hfirst : digitsOf n = d :: (ds ++ [((n % 10).digitChar.toNat - '0'.toNat)]) := by
        rw [digitsOf, Nat.toDigits_of_base_le (by decide) (by omega), List.map_append, ← digitsOf,
          hds]
        rfl
      refine ⟨d, _, hfirst, fun hd => ?_⟩
      have hamount := foldl_digitsOf (n / 10)
      rw [hds, hd, hzero hd] at hamount
      simp at hamount
      omega

/-- **A whole number** is read behind its sign. -/
theorem readNumber_toDigits (negative : Bool) (n : Nat) (hrest : Ends rest) :
    readNumber negative (Nat.toDigits 10 n ++ rest) =
      (({ negative, whole := digitsOf n } : Numeral).doc, some rest) := by
  obtain ⟨d, ds, hds, hzero⟩ := digitsOf_shape n
  unfold readNumber
  rw [digits_toDigits n hrest, hds]
  -- No leading zero, and no point and no exponent behind the digits.
  have hend : rest = [] ∨ ∃ c cs, rest = c :: cs ∧ (c = ',' ∨ c = ']' ∨ c = '\x7d') := by
    cases rest with
    | nil => exact Or.inl rfl
    | cons c cs => exact Or.inr ⟨c, cs, rfl, hrest c rfl⟩
  cases d with
  | zero =>
    obtain rfl := hzero rfl
    rcases hend with rfl | ⟨c, cs, rfl, rfl | rfl | rfl⟩ <;> rfl
  | succ d =>
    rcases hend with rfl | ⟨c, cs, rfl, rfl | rfl | rfl⟩ <;> rfl

/-- A natural number that fits 64 bits is read as an integer. -/
theorem value?_digitsOf {n : Nat} (h : n < 2 ^ 64) :
    ({ negative := false, whole := digitsOf n } : Numeral).value? = some (.integer n) := by
  unfold Numeral.value?
  rw [fitting_digitsOf h]
  rfl

/-- A negative number that fits 64 bits is read as an integer. -/
theorem value?_digitsOf_negative {n : Nat} (hpos : 0 < n) (h : n ≤ 2 ^ 63) :
    ({ negative := true, whole := digitsOf n } : Numeral).value? = some (.integer (-n)) := by
  have hfits : n < wordBound := Nat.lt_of_le_of_lt h (by decide)
  have hinteger : ¬(n = 0 || decide (Nat.pow 2 63 < n)) = true := by
    simp
    omega
  unfold Numeral.value?
  rw [fitting_digitsOf hfits]
  exact if_neg hinteger

/-! ### Strings -/

/-- A hexadecimal digit has its value. -/
theorem hexValue?_digitChar : ∀ d < 16, hexValue? (Nat.digitChar d) = some d := by decide

/-- A control character is escaped by its code point. -/
theorem hexUnit_hexByte {n : Nat} (h : n < 256) (s : List Char) :
    hexUnit ('0' :: '0' :: (hexByte n ++ s)) = .ok (n, s) := by
  have hzero : hexValue? '0' = some 0 := by decide
  have hhigh := hexValue?_digitChar (n / 16) (by omega)
  have hlow := hexValue?_digitChar (n % 16) (by omega)
  simp only [hexUnit, hexByte, List.cons_append, List.nil_append, hzero, hhigh, hlow]
  simp
  omega

/-- **One character** is read as it was escaped. -/
theorem readString_escape (n : Nat) (text : List Char) (c : Char) (s : List Char) :
    readString (n + 1) (some text) none (escape c ++ s) =
      readString n (some (c :: text)) none s := by
  have hof : ∀ {k : Nat}, c.toNat = k → c = Char.ofNat k := fun h => by rw [← h, Char.ofNat_toNat]
  unfold escape
  split_ifs with hquote hbackslash hline hreturn htab hback hfeed hcontrol
  · subst hquote; rfl
  · subst hbackslash; rfl
  · subst hline; rfl
  · subst hreturn; rfl
  · subst htab; rfl
  · rw [hof hback]; rfl
  · rw [hof hfeed]; rfl
  · have hunit := hexUnit_hexByte (n := c.toNat) (by omega) s
    have hhigh : isHighSurrogate c.toNat = false := by
      simp only [isHighSurrogate, Bool.and_eq_false_iff, decide_eq_false_iff_not]
      omega
    have hlow : isLowSurrogate c.toNat = false := by
      simp only [isLowSurrogate, Bool.and_eq_false_iff, decide_eq_false_iff_not]
      omega
    simp [readString, hunit, hhigh, hlow, Char.ofNat_toNat]
  · rw [List.singleton_append, readString.eq_def]
    split <;> simp_all

/-- The inside of a string is read as it was escaped, up to the quote behind it. -/
theorem readString_flatMap_escape (cs text s : List Char) {n : Nat} (h : cs.length < n) :
    readString n (some text) none (cs.flatMap escape ++ '"' :: s) =
      ⟨some (cs.reverse ++ text), .ok s⟩ := by
  induction cs generalizing text n with
  | nil =>
    obtain ⟨n, rfl⟩ := Nat.exists_eq_succ_of_ne_zero (Nat.ne_of_gt h)
    rfl
  | cons c cs ih =>
    obtain ⟨n, rfl⟩ := Nat.exists_eq_succ_of_ne_zero (Nat.ne_of_gt (Nat.zero_lt_of_lt h))
    rw [List.flatMap_cons, List.append_assoc, readString_escape,
      ih (c :: text) (Nat.lt_of_succ_lt_succ h), List.reverse_cons, List.append_assoc]
    rfl

/-- Every character shows as something. -/
theorem escape_ne_nil (c : Char) : escape c ≠ [] := by
  unfold escape
  split_ifs <;> simp

/-- A text is not longer than its characters when they are escaped. -/
theorem length_le_flatMap_escape (cs : List Char) : cs.length ≤ (cs.flatMap escape).length := by
  induction cs with
  | nil => exact Nat.le_refl 0
  | cons c cs ih =>
    have hone := List.length_pos_iff.2 (escape_ne_nil c)
    rw [List.flatMap_cons, List.length_append, List.length_cons]
    omega

/-- A quoted text, character by character. -/
theorem toList_quote (s : String) :
    (quote s).toList = '"' :: (s.toList.flatMap escape ++ ['"']) := by
  rw [quote, String.toList_ofList, List.cons_append]

/-- **A string** is read behind its opening quote. -/
theorem string_quote (s : String) (rest : List Char) :
    ∃ r, string (s.toList.flatMap escape ++ '"' :: rest) = r ∧ r.rest = .ok rest ∧
      r.decoded = some s := by
  refine ⟨_, readString_flatMap_escape s.toList [] rest ?_, rfl, ?_⟩
  · have hlength := length_le_flatMap_escape s.toList
    rw [List.length_append]
    omega
  · simp [StringRest.decoded]

end Json
end Boilerplate
