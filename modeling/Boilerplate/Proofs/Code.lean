/-
# Reading generated code

What generated code says is read from its tokens: one by one (`Token.sign`), or, where only the
texts and numbers matter, all literals in their order, whatever brackets they stand in
(`Tokens.literals`).  A text that was put into the code is read from it again
(`map_sign_quoted`, `literals_quoted`).  Names are read in the same way (`Tokens.words`).

Fixed code is compared with code that is put together from names by deciding whether the tokens are
the same.
-/

import Boilerplate.Code
import Boilerplate.Proofs.Quoted

namespace Boilerplate

/-! ### Tokens one by one -/

/-- What is seen of a token, without what stands in its brackets. -/
inductive Sign
  /-- A name or a keyword. -/
  | word (text : String)
  | mark (c : Char)
  /-- The text that a literal stands for. -/
  | text (value : String)
  | other
deriving DecidableEq, Repr, Inhabited

/-- What a token says by itself; groups say nothing. -/
def Token.sign : Token → Sign
  | .ident i => .word i.text
  | .punct c _ _ => .mark c
  | .literal l => (l.value?.map Sign.text).getD .other
  | .group .. => .other

/-- A text that is put into code is read from it again. -/
theorem map_sign_quoted (s : String) : (quoted s).map Token.sign = [.text s] := by
  rw [quoted, List.map_singleton, Token.sign, Quoted.value?_literal]
  rfl

/-! ### Literals -/

mutual

/-- The literals of a token, in brackets or not. -/
def Token.literals : Token → List Literal
  | .literal l => [l]
  | .group _ body _ _ => Tokens.literals body
  | .ident _ | .punct .. => []

/-- The literals in the tokens, in their order. -/
def Tokens.literals : List Token → List Literal
  | [] => []
  | t :: ts => t.literals ++ Tokens.literals ts

end

/-- A literal that stands for a text. -/
def Literal.ofText (s : String) : Literal := { kind := .string, text := Quoted.literal s }

/-- A number in decimal. -/
def Literal.ofNat (n : Nat) : Literal := { kind := .number, text := Nat.repr n }

/-- The literal that is made of a text has that text for its value. -/
theorem Literal.value?_ofText (s : String) : (ofText s).value? = some s := Quoted.value?_literal s

namespace Tokens

@[simp] theorem literals_nil : literals [] = [] := by rw [literals]

@[simp] theorem literals_cons (t : Token) (ts : Tokens) :
    literals (t :: ts) = t.literals ++ literals ts := by rw [literals]

/-- The literals of two pieces of code, one behind the other. -/
@[simp] theorem literals_append (ts us : Tokens) :
    literals (ts ++ us) = literals ts ++ literals us := by
  induction ts with
  | nil => simp
  | cons t ts ih => rw [List.cons_append, literals_cons, ih, literals_cons, List.append_assoc]

@[simp] theorem literals_ident (i : Ident) : (Token.ident i).literals = [] := by
  rw [Token.literals]

@[simp] theorem literals_punct (c : Char) (spacing : Spacing) (span : Span) :
    (Token.punct c spacing span).literals = [] := by
  rw [Token.literals]

@[simp] theorem literals_group (d : Delimiter) (body : Tokens) (o c : Span) :
    (Token.group d body o c).literals = literals body := by
  rw [Token.literals]

@[simp] theorem literals_quoted (s : String) : literals (quoted s) = [.ofText s] := by
  rw [quoted, literals_cons, Token.literals]
  rfl

@[simp] theorem literals_numeral (n : Nat) : literals (numeral n) = [.ofNat n] := by
  rw [numeral, literals_cons, Token.literals]
  rfl

/-- The literals of code that is put together piece by piece. -/
theorem literals_flatMap {α : Type} (f : α → Tokens) (as : List α) :
    literals (as.flatMap f) = as.flatMap fun a => literals (f a) := by
  induction as with
  | nil => simp
  | cons a as ih => rw [List.flatMap_cons, literals_append, ih, List.flatMap_cons]

/-- Commas between pieces of code are no literals. -/
theorem literals_commaSeparated (pieces : List Tokens) :
    literals (commaSeparated pieces) = pieces.flatMap literals := by
  induction pieces with
  | nil => simp [commaSeparated]
  | cons piece pieces ih =>
    cases pieces with
    | nil => simp [commaSeparated]
    | cons next pieces =>
      rw [commaSeparated, List.intercalate_cons_cons, ← commaSeparated, literals_append,
        literals_append, ih, List.flatMap_cons]
      simp

/-- A list of texts is read as these texts. -/
theorem literals_commaSeparated_quoted (texts : List String) :
    literals (commaSeparated (texts.map quoted)) = texts.map .ofText := by
  rw [literals_commaSeparated, List.flatMap_map]
  simp only [literals_quoted]
  exact List.flatMap_pure_eq_map _ _

end Tokens

/-! ### Words -/

mutual

/-- The names and keywords of a token, in brackets or not. -/
def Token.words : Token → List String
  | .ident i => [i.text]
  | .group _ body _ _ => Tokens.words body
  | .literal _ | .punct .. => []

/-- The names in the tokens, in their order. -/
def Tokens.words : List Token → List String
  | [] => []
  | t :: ts => t.words ++ Tokens.words ts

end

namespace Tokens

/-- The names of two pieces of code, one behind the other. -/
@[simp] theorem words_append (ts us : Tokens) : words (ts ++ us) = words ts ++ words us := by
  induction ts with
  | nil => rfl
  | cons t ts ih => rw [List.cons_append, words, ih, words, List.append_assoc]

@[simp] theorem words_named (name : String) : words (named name) = [name] := rfl

@[simp] theorem words_quoted (s : String) : words (quoted s) = [] := rfl

@[simp] theorem words_parens (body : Tokens) : words (parens body) = words body := by
  rw [parens, words, Token.words, words, List.append_nil]

@[simp] theorem words_braces (body : Tokens) : words (braces body) = words body := by
  rw [braces, words, Token.words, words, List.append_nil]

/-- The names of code that is put together piece by piece. -/
theorem words_flatMap {α : Type} (f : α → Tokens) (as : List α) :
    words (as.flatMap f) = as.flatMap fun a => words (f a) := by
  induction as with
  | nil => rfl
  | cons a as ih => rw [List.flatMap_cons, words_append, ih, List.flatMap_cons]

end Tokens

/-! ### The same tokens -/

mutual

/-- Whether two tokens are the same. -/
def Token.beq : Token → Token → Bool
  | .ident i, .ident j => i == j
  | .punct c s p, .punct d t q => c == d && s == t && p == q
  | .literal l, .literal k => l == k
  | .group d ts o c, .group e us o' c' => d == e && Tokens.beq ts us && o == o' && c == c'
  | _, _ => false

/-- Whether tokens are the same one by one. -/
def Tokens.beq : List Token → List Token → Bool
  | [], [] => true
  | t :: ts, u :: us => t.beq u && Tokens.beq ts us
  | _, _ => false

end

mutual

/-- The comparison of tokens is equality. -/
theorem Token.beq_iff_eq : ∀ t u : Token, t.beq u = true ↔ t = u
  | .ident _, u => by cases u <;> simp [Token.beq]
  | .punct .., u => by cases u <;> simp [Token.beq, and_assoc]
  | .literal _, u => by cases u <;> simp [Token.beq]
  | .group _ ts _ _, u => by cases u <;> simp [Token.beq, Tokens.beq_iff_eq ts, and_assoc]

/-- The comparison of rows of tokens is equality. -/
theorem Tokens.beq_iff_eq : ∀ ts us : List Token, Tokens.beq ts us = true ↔ ts = us
  | [], us => by cases us <;> simp [Tokens.beq]
  | t :: ts, us => by cases us <;> simp [Tokens.beq, Token.beq_iff_eq t, Tokens.beq_iff_eq ts]

end

/-- Whether two tokens are the same is found by comparing them. -/
instance : DecidableEq Token := fun t u => decidable_of_iff _ (Token.beq_iff_eq t u)

/-- A colon on its own. -/
theorem code_colon : code ":" = [.punct ':' .alone .none] := by decide +kernel

end Boilerplate
