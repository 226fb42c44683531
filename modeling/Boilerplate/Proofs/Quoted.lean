/-
# Quoted texts are read back

Whatever characters a text has, the literal that it is written as stands for the text
(`Quoted.value?_literal`).  Each character is read as what it was written for: itself, a letter
behind a backslash, or a code point in hexadecimal digits, of which there are never too many
(`Scan.quoted_codePoint`).
-/

import Boilerplate.Text.Quoted
import Boilerplate.Token.Scan
import Mathlib.Data.List.Basic

namespace Boilerplate

namespace Scan

variable {c e : Char} {rest : List Char}

/-- What is read if one more character stands before it. -/
def before (c : Char) (read : Option (List Char × List Char)) : Option (List Char × List Char) :=
  read.map fun p => (c :: p.1, p.2)

/-- A character in front of what is read. -/
theorem before_eq_bind (c : Char) (read : Option (List Char × List Char)) :
    before c read = read.bind fun p => some (c :: p.1, p.2) := by
  cases read <;> rfl

/-! ### One character -/

attribute [local simp] quoted

/-- A character that neither ends nor escapes. -/
theorem quoted_plain (hquote : c ≠ '"') (hreturn : c ≠ '\r') (hescape : c ≠ '\\') :
    quoted .string .text (c :: rest) = before c (quoted .string .text rest) := by
  simp [hreturn, hescape, allowed, before_eq_bind]

/-- A letter behind a backslash. -/
theorem quoted_escape (he : simpleEscape? e = some c) :
    quoted .string .text ('\\' :: e :: rest) = before c (quoted .string .text rest) := by
  have hne : e ≠ '\n' ∧ e ≠ '\r' ∧ e ≠ 'x' ∧ e ≠ 'u' := by
    refine ⟨?_, ?_, ?_, ?_⟩ <;> rintro rfl <;> cases he
  simp [hne, he, before_eq_bind]

/-- Two digits for the zero character. -/
theorem quoted_zero : quoted .string .text ('\\' :: 'x' :: '0' :: '0' :: rest) =
    before (Char.ofNat 0) (quoted .string .text rest) := by
  simp [hexEscape?, hexDigit?, before_eq_bind]

/-! ### Code points -/

/-- One more digit of a code point. -/
theorem quoted_digit {digits value d : Nat} (hc : hexDigit? c = some d) (hdigits : digits < 6) :
    quoted .string (.codePoint digits value) (c :: rest) =
      quoted .string (.codePoint (digits + 1) (16 * value + d)) rest := by
  have hne : c ≠ '_' ∧ c ≠ '\x7d' := by
    refine ⟨?_, ?_⟩ <;> rintro rfl <;> cases hc
  simp [hne, hc, Nat.ne_of_lt hdigits]

/-- A hexadecimal digit has its value. -/
theorem hexDigit?_digitChar {n : Nat} (h : n < 16) : hexDigit? n.digitChar = some n := by
  revert n
  decide

/-- The digits of a number are read as that number, if they are not too many. -/
theorem quoted_toDigits {n : Nat} (h : (Nat.toDigits 16 n).length ≤ 6) (rest : List Char) :
    quoted .string (.codePoint 0 0) (Nat.toDigits 16 n ++ rest) =
      quoted .string (.codePoint (Nat.toDigits 16 n).length n) rest := by
  -- All digits but the last are those of a smaller number.
  induction n using Nat.strongRecOn generalizing rest with
  | ind n ih =>
    rw [Nat.toDigits_eq_if (by decide)] at h ⊢
    split at h
    · rename_i hlt
      rw [if_pos hlt]
      rw [List.singleton_append, quoted_digit (hexDigit?_digitChar hlt) (Nat.zero_lt_succ 5),
        Nat.mul_zero, Nat.zero_add n, List.length_singleton]
    · rename_i hge
      rw [List.length_append, List.length_singleton] at h
      have hrest := ih (n / 16) (by omega) (by omega) ((n % 16).digitChar :: rest)
      have hdigit := hexDigit?_digitChar (Nat.mod_lt n (by decide : 16 > 0))
      rw [if_neg hge, List.append_assoc, List.singleton_append, hrest,
        quoted_digit hdigit (by omega), Nat.div_add_mod, List.length_append, List.length_singleton]

/-- Every character has a code point. -/
theorem scalar?_toNat (c : Char) : scalar? c.toNat = some c := by
  have hvalid : c.toNat.isValidChar := c.valid
  rw [scalar?, if_pos hvalid, Char.ofNat_toNat]

/-- **A code point** is read as its character. -/
theorem quoted_codePoint (c : Char) (rest : List Char) :
    quoted .string .text (Quoted.codePoint c ++ rest) = before c (quoted .string .text rest) := by
  have hlength : (Nat.toDigits 16 c.toNat).length ≤ 6 := by
    have hvalid : c.toNat.isValidChar := c.valid
    rw [Nat.length_toDigits_le_iff (by decide) (by decide)]
    simp only [Nat.isValidChar] at hvalid
    omega
  have hpositive : 0 < (Nat.toDigits 16 c.toNat).length := Nat.length_toDigits_pos
  have hstart : ∀ rest, quoted .string .text ('\\' :: 'u' :: '\x7b' :: rest) =
      quoted .string (.codePoint 0 0) rest := by simp
  have hend : ∀ digits value, 0 < digits → scalar? value = some c →
      quoted .string (.codePoint digits value) ('\x7d' :: rest) =
        before c (quoted .string .text rest) := by
    intro digits value hdigits hvalue
    simp [hdigits, hvalue, before_eq_bind]
  calc quoted .string .text (Quoted.codePoint c ++ rest)
      = quoted .string (.codePoint 0 0) (Nat.toDigits 16 c.toNat ++ '\x7d' :: rest) := by
        rw [← hstart, Quoted.codePoint, List.append_assoc]
        rfl
    _ = _ := by rw [quoted_toDigits hlength, hend _ _ hpositive (scalar?_toNat c)]

/-- **What is written of a character** is read as that character. -/
theorem quoted_escape_append (c : Char) (rest : List Char) :
    quoted .string .text (Quoted.escape c ++ rest) = before c (quoted .string .text rest) := by
  have hletter : ∀ e, simpleEscape? e = some c →
      quoted .string .text (['\\', e] ++ rest) = before c (quoted .string .text rest) :=
    fun e he => quoted_escape he
  unfold Quoted.escape
  by_cases htab : c = '\t'
  · subst htab
    exact hletter 't' rfl
  by_cases hreturn : c = '\r'
  · subst hreturn
    exact hletter 'r' rfl
  by_cases hfeed : c = '\n'
  · subst hfeed
    exact hletter 'n' rfl
  by_cases hquote : c = '"'
  · subst hquote
    exact hletter '"' rfl
  by_cases hescape : c = '\\'
  · subst hescape
    exact hletter '\\' rfl
  rw [if_neg htab, if_neg hreturn, if_neg hfeed, if_neg hquote, if_neg hescape]
  split
  · rename_i hzero
    exact hletter '0' (by rw [← Char.ofNat_toNat c, hzero]; rfl)
  split
  · exact quoted_plain hquote hreturn hescape
  · exact quoted_codePoint c rest

end Scan

namespace Quoted

open Scan

/-- The inside of a literal is read as the text. -/
theorem quoted_literalBody (cs rest : List Char) :
    quoted .string .text (literalBody cs ++ '"' :: rest) = some (cs, rest) := by
  induction cs with
  | nil => simp [literalBody, quoted]
  | cons c cs ih =>
    have hread : quoted .string .text (literalBody (c :: cs) ++ '"' :: rest) =
        before c (quoted .string .text (literalBody cs ++ '"' :: rest)) := by
      rw [literalBody, List.append_assoc]
      split
      -- Before an octal digit the zero character has two digits.
      · rename_i hzero
        have hc : c = Char.ofNat 0 := by
          rw [← Char.ofNat_toNat c, of_decide_eq_true (Bool.and_eq_true_iff.1 hzero).1]
        rw [hc]
        exact quoted_zero
      · exact quoted_escape_append c _
    rw [hread, ih]
    rfl

/-- **A literal stands for the text** that it was made from. -/
theorem value?_literal (s : String) :
    ({ kind := .string, text := literal s } : Literal).value? = some s := by
  have hread : string? (literal s).toList = some (.string, s.toList, []) := by
    rw [literal, String.toList_ofList, List.cons_append, string?, quoted_literalBody]
    rfl
  rw [Literal.value?, hread]
  exact congrArg some String.ofList_toList

end Quoted
end Boilerplate
