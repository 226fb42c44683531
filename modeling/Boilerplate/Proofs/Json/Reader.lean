/-
# Values that are written and read

The text of a value is read as the value, all of it and nothing else (`Document.ofText_print`), as
long as its numbers are integers that fit 64 bits: the entries of objects in the order in which they
are written, and their keys as often as they are written.  The steps that reading may take are
enough because every step but a third goes on in the text (`Value.ReadsBack`).
-/

import Boilerplate.Proofs.Json.Scalar

namespace Boilerplate
namespace Json

/-! ### Documents of values -/

namespace Value

mutual

/-- The value as the document of its text. -/
def doc : Value → Doc
  | .null => .null
  | .bool b => .bool b
  | .number n => .number n
  | .string s => .string s
  | .array items => .array (docs items) .closed
  | .object entries => .object (entryDocs entries) .closed

/-- The documents of the elements of an array. -/
def docs : List Value → List Doc
  | [] => []
  | v :: vs => v.doc :: docs vs

/-- The documents of the entries of an object. -/
def entryDocs : List (String × Value) → List (Option String × Doc)
  | [] => []
  | (k, v) :: es => (some k, v.doc) :: entryDocs es

end

/-- Whether all numbers in the value are integers that fit 64 bits. -/
inductive Whole : Value → Prop
  | null : Whole .null
  | bool (b : Bool) : Whole (.bool b)
  | integer {n : Int} (low : -2 ^ 63 ≤ n) (high : n < 2 ^ 64) : Whole (.number (.integer n))
  | string (s : String) : Whole (.string s)
  | array {items : List Value} (items_whole : ∀ v ∈ items, Whole v) : Whole (.array items)
  | object {entries : List (String × Value)} (entries_whole : ∀ e ∈ entries, Whole e.2) :
      Whole (.object entries)

/-! ### Texts of values -/

/-- The text of an entry behind the opening quote of its key. -/
def entryText (e : String × Value) : List Char :=
  e.1.toList.flatMap escape ++ '"' :: ':' :: e.2.print.toList

/-- Further elements, each behind a comma. -/
def itemsBehind (vs : List Value) : List Char := vs.flatMap fun v => ',' :: v.print.toList

/-- Further entries, each behind a comma. -/
def entriesBehind (es : List (String × Value)) : List Char :=
  es.flatMap fun e => ',' :: '"' :: entryText e

/-- The text of the elements of an array: the first, and then the others behind commas. -/
theorem toList_printItems (v : Value) (vs : List Value) :
    (printItems (v :: vs)).toList = v.print.toList ++ itemsBehind vs := by
  induction vs generalizing v with
  | nil => simp [printItems, itemsBehind]
  | cons w vs ih => simp [printItems, itemsBehind, ih w]

/-- The text of the entries of an object: the first, and then the others behind commas. -/
theorem toList_printEntries (e : String × Value) (es : List (String × Value)) :
    (printEntries (e :: es)).toList = '"' :: (entryText e ++ entriesBehind es) := by
  induction es generalizing e with
  | nil => simp [printEntries, entriesBehind, entryText, toList_quote]
  | cons f es ih => simp [printEntries, entriesBehind, entryText, toList_quote, ih f]

end Value

/-! ### Reading -/

/-- Whether the value is read from its text, in three steps for each character of it, whatever
follows. -/
structure Value.ReadsBack (v : Value) : Prop where
  /-- The text is that of an element. -/
  starts : ∃ c cs, v.print.toList = c :: cs ∧ isBlank c = false ∧ c ≠ ']'
  reads : ∀ {n : Nat} {rest : List Char}, 3 * v.print.toList.length ≤ n → Ends rest →
    readValue n (v.print.toList ++ rest) = (v.doc, some rest)

variable {n : Nat} {rest : List Char}

/-- No number goes on behind an element of an array. -/
theorem ends_itemsBehind (vs : List Value) : Ends (Value.itemsBehind vs ++ ']' :: rest) := by
  cases vs with
  | nil => simp [Value.itemsBehind, Ends]
  | cons v vs => simp [Value.itemsBehind, Ends]

/-- No number goes on behind an entry of an object. -/
theorem ends_entriesBehind (es : List (String × Value)) :
    Ends (Value.entriesBehind es ++ '\x7d' :: rest) := by
  cases es with
  | nil => simp [Value.entriesBehind, Ends]
  | cons e es => simp [Value.entriesBehind, Ends]

/-- No blanks are skipped in front of anything else. -/
theorem skipBlanks_cons {c : Char} (h : isBlank c = false) (s : List Char) :
    skipBlanks (c :: s) = c :: s :=
  List.dropWhile_cons_of_neg (by simp [h])

/-- The first element of an array. -/
theorem readItems_first {c : Char} {s : List Char} (hblank : isBlank c = false) (hc : c ≠ ']') :
    readItems (n + 1) true (c :: s) = readItem n (c :: s) := by
  rw [readItems, skipBlanks_cons hblank]
  split <;> simp_all

/-- An element of an array behind a comma. -/
theorem readItems_comma {c : Char} {s : List Char} (hblank : isBlank c = false) (hc : c ≠ ']') :
    readItems (n + 1) false (',' :: c :: s) = readItem n (c :: s) := by
  rw [readItems, skipBlanks_cons rfl]
  split
  · simp_all
  · simp_all
  · rename_i heq
    obtain ⟨rfl, rfl⟩ := List.cons.inj heq
    rw [if_neg Bool.false_ne_true, if_pos rfl, skipBlanks_cons hblank]
    split <;> simp_all

/-- An element and those behind it, if each of them is read. -/
theorem readItem_print {v : Value} {vs : List Value} (hv : v.ReadsBack)
    (hn : 3 * v.print.toList.length ≤ n)
    (hbehind : readItems n false (Value.itemsBehind vs ++ ']' :: rest) =
      (Value.docs vs, .closed, some rest)) :
    readItem (n + 1) (v.print.toList ++ (Value.itemsBehind vs ++ ']' :: rest)) =
      (Value.docs (v :: vs), .closed, some rest) := by
  rw [readItem, hv.reads hn (ends_itemsBehind vs)]
  simp only [hbehind, Value.docs]

/-- **Further elements** are read up to the bracket. -/
theorem readItems_itemsBehind {vs : List Value} (h : ∀ v ∈ vs, v.ReadsBack)
    (hn : 3 * (Value.itemsBehind vs).length < n) :
    readItems n false (Value.itemsBehind vs ++ ']' :: rest) =
      (Value.docs vs, .closed, some rest) := by
  induction vs generalizing n with
  | nil =>
    obtain ⟨n, rfl⟩ := Nat.exists_eq_succ_of_ne_zero (Nat.ne_of_gt (Nat.zero_lt_of_lt hn))
    rfl
  | cons v vs ih =>
    have hsplit : Value.itemsBehind (v :: vs) = ',' :: (v.print.toList ++ Value.itemsBehind vs) :=
      rfl
    rw [hsplit, List.length_cons, List.length_append] at hn
    obtain ⟨n, rfl⟩ : ∃ m, n = m + 2 := ⟨n - 2, by omega⟩
    obtain ⟨c, cs, hcs, hblank, hc⟩ := (h v List.mem_cons_self).starts
    have hbehind := ih (n := n) (fun w hw => h w (List.mem_cons_of_mem _ hw)) (by omega)
    have hitem := readItem_print (h v List.mem_cons_self) (by omega) hbehind
    rw [hsplit, List.cons_append, List.append_assoc, ← hitem, hcs, List.cons_append,
      readItems_comma hblank hc]

/-- **All elements** are read behind the opening bracket. -/
theorem readItems_printItems {vs : List Value} (h : ∀ v ∈ vs, v.ReadsBack)
    (hn : 3 * (Value.printItems vs).toList.length + 2 ≤ n) :
    readItems n true ((Value.printItems vs).toList ++ ']' :: rest) =
      (Value.docs vs, .closed, some rest) := by
  obtain ⟨n, rfl⟩ : ∃ m, n = m + 2 := ⟨n - 2, by omega⟩
  cases vs with
  | nil => rfl
  | cons v vs =>
    rw [Value.toList_printItems, List.length_append] at hn
    obtain ⟨c, cs, hcs, hblank, hc⟩ := (h v List.mem_cons_self).starts
    have hlength : 1 ≤ v.print.toList.length := by simp [hcs]
    have hbehind : readItems n false (Value.itemsBehind vs ++ ']' :: rest) =
        (Value.docs vs, .closed, some rest) :=
      readItems_itemsBehind (fun w hw => h w (List.mem_cons_of_mem _ hw)) (by omega)
    have hitem := readItem_print (h v List.mem_cons_self) (by omega) hbehind
    rw [Value.toList_printItems, List.append_assoc, ← hitem, hcs, List.cons_append,
      readItems_first hblank hc]

/-! ### Entries -/

/-- An entry and those behind it, if each of them is read. -/
theorem readEntry_entryText {e : String × Value} {es : List (String × Value)}
    (he : e.2.ReadsBack) (hn : 3 * (Value.entryText e).length ≤ n)
    (hbehind : readEntries n false (Value.entriesBehind es ++ '\x7d' :: rest) =
      (Value.entryDocs es, .closed, some rest)) :
    readEntry (n + 1) (Value.entryText e ++ (Value.entriesBehind es ++ '\x7d' :: rest)) =
      (Value.entryDocs (e :: es), .closed, some rest) := by
  obtain ⟨k, v⟩ := e
  obtain ⟨key, hkey, hrest, htext⟩ := string_quote k
    (':' :: (v.print.toList ++ (Value.entriesBehind es ++ '\x7d' :: rest)))
  have hlength : 3 * v.print.toList.length ≤ n := by
    simp [Value.entryText] at hn
    omega
  have hends : Ends (Value.entriesBehind es ++ '\x7d' :: rest) := ends_entriesBehind es
  have hvalue := he.reads hlength hends
  simp only [Value.entryText, List.append_assoc, List.cons_append, readEntry, hkey, hrest, htext]
  rw [skipBlanks_cons (by decide)]
  simp only [hvalue, hbehind, Value.entryDocs]

/-- **Further entries** are read up to the brace. -/
theorem readEntries_entriesBehind {es : List (String × Value)} (h : ∀ e ∈ es, e.2.ReadsBack)
    (hn : 3 * (Value.entriesBehind es).length < n) :
    readEntries n false (Value.entriesBehind es ++ '\x7d' :: rest) =
      (Value.entryDocs es, .closed, some rest) := by
  induction es generalizing n with
  | nil =>
    obtain ⟨n, rfl⟩ := Nat.exists_eq_succ_of_ne_zero (Nat.ne_of_gt (Nat.zero_lt_of_lt hn))
    rfl
  | cons e es ih =>
    have hsplit : Value.entriesBehind (e :: es) =
        ',' :: '"' :: (Value.entryText e ++ Value.entriesBehind es) := rfl
    rw [hsplit, List.length_cons, List.length_cons, List.length_append] at hn
    obtain ⟨n, rfl⟩ : ∃ m, n = m + 2 := ⟨n - 2, by omega⟩
    have hbehind := ih (n := n) (fun f hf => h f (List.mem_cons_of_mem _ hf)) (by omega)
    rw [hsplit, List.cons_append, List.cons_append, List.append_assoc,
      ← readEntry_entryText (h e List.mem_cons_self) (by omega) hbehind]
    rfl

/-- **All entries** are read behind the opening brace. -/
theorem readEntries_printEntries {es : List (String × Value)} (h : ∀ e ∈ es, e.2.ReadsBack)
    (hn : 3 * (Value.printEntries es).toList.length + 2 ≤ n) :
    readEntries n true ((Value.printEntries es).toList ++ '\x7d' :: rest) =
      (Value.entryDocs es, .closed, some rest) := by
  obtain ⟨n, rfl⟩ : ∃ m, n = m + 2 := ⟨n - 2, by omega⟩
  cases es with
  | nil => rfl
  | cons e es =>
    rw [Value.toList_printEntries, List.length_cons, List.length_append] at hn
    have hbehind : readEntries n false (Value.entriesBehind es ++ '\x7d' :: rest) =
        (Value.entryDocs es, .closed, some rest) :=
      readEntries_entriesBehind (fun f hf => h f (List.mem_cons_of_mem _ hf)) (by omega)
    rw [Value.toList_printEntries, List.cons_append, List.append_assoc,
      ← readEntry_entryText (h e List.mem_cons_self) (by omega) hbehind]
    rfl

/-! ### Values -/

/-- A value is read from its text if that is read behind its first character. -/
theorem readsBack_of_cons {v : Value} {c : Char} {cs : List Char}
    (hprint : v.print.toList = c :: cs) (hblank : isBlank c = false) (hc : c ≠ ']')
    (h : ∀ {n : Nat} {rest : List Char}, 3 * cs.length + 2 ≤ n → Ends rest →
      readValue (n + 1) (c :: (cs ++ rest)) = (v.doc, some rest)) : v.ReadsBack := by
  refine ⟨⟨c, cs, hprint, hblank, hc⟩, fun {n rest} hn hrest => ?_⟩
  rw [hprint, List.length_cons] at hn
  obtain ⟨n, rfl⟩ : ∃ m, n = m + 1 := ⟨n - 1, by omega⟩
  rw [hprint, List.cons_append]
  exact h (by omega) hrest

/-- No digit is a blank. -/
theorem isBlank_of_isDigit {c : Char} (h : c.isDigit = true) : isBlank c = false := by
  by_contra hblank
  simp only [isBlank, Bool.not_eq_false, Bool.or_eq_true, decide_eq_true_eq] at hblank
  rcases hblank with ((rfl | rfl) | rfl) | rfl <;> cases h

/-- No other value starts with a digit. -/
theorem readValue_digit {c : Char} {s : List Char} (h : c.isDigit = true) :
    readValue (n + 1) (c :: s) = readNumber false (c :: s) := by
  have hother : c ≠ 'n' ∧ c ≠ 't' ∧ c ≠ 'f' ∧ c ≠ '-' ∧ c ≠ '"' ∧ c ≠ '[' ∧ c ≠ '\x7b' := by
    refine ⟨?_, ?_, ?_, ?_, ?_, ?_, ?_⟩ <;> (rintro rfl; cases h)
  rw [readValue, skipBlanks_cons (isBlank_of_isDigit h)]
  split <;> simp_all

/-- Integers of 64 bits read back. -/
theorem readsBack_integer {n : Int} (low : -2 ^ 63 ≤ n) (high : n < 2 ^ 64) :
    (Value.number (.integer n)).ReadsBack := by
  have hprint : (Value.number (.integer n)).print.toList =
      if 0 ≤ n then Nat.toDigits 10 n.toNat else '-' :: Nat.toDigits 10 (-n).toNat := by
    simp only [Value.print, Number.print, Int.toString_eq_repr, Int.repr_eq_if,
      Nat.repr_eq_ofList_toDigits]
    split <;> simp
  by_cases hsign : 0 ≤ n
  · rw [if_pos hsign] at hprint
    obtain ⟨c, cs, hcs⟩ := List.exists_cons_of_ne_nil (Nat.toDigits_ne_nil (b := 10) (n := n.toNat))
    have hdigit : c.isDigit = true :=
      Nat.isDigit_of_mem_toDigits (by decide) (by decide) (hcs ▸ List.mem_cons_self)
    have hbracket : c ≠ ']' := by
      rintro rfl
      cases hdigit
    refine readsBack_of_cons (hprint.trans hcs) (isBlank_of_isDigit hdigit) hbracket
      fun {m rest} _ hrest => ?_
    rw [readValue_digit hdigit, ← List.cons_append, ← hcs, readNumber_toDigits false _ hrest,
      Numeral.doc, value?_digitsOf (by omega), Int.toNat_of_nonneg hsign]
    rfl
  · rw [if_neg hsign] at hprint
    refine readsBack_of_cons hprint (by decide) (by decide) fun {m rest} _ hrest => ?_
    have hsigned : readValue (m + 1) ('-' :: (Nat.toDigits 10 (-n).toNat ++ rest)) =
        readNumber true (Nat.toDigits 10 (-n).toNat ++ rest) := rfl
    rw [hsigned, readNumber_toDigits true _ hrest, Numeral.doc,
      value?_digitsOf_negative (by omega) (by omega), Int.toNat_of_nonneg (by omega), Int.neg_neg]
    rfl

/-- Texts read back. -/
theorem readsBack_string (s : String) : (Value.string s).ReadsBack := by
  have hprint : (Value.string s).print.toList = '"' :: (s.toList.flatMap escape ++ ['"']) := by
    rw [Value.print, toList_quote]
  refine readsBack_of_cons hprint (by decide) (by decide) fun {n rest} _ _ => ?_
  obtain ⟨r, hr, hrest, htext⟩ := string_quote s rest
  rw [List.append_assoc, List.singleton_append, readValue, skipBlanks_cons (by decide)]
  simp only [hr, hrest, htext, Value.doc]

/-- Arrays read back if their elements do. -/
theorem readsBack_array {items : List Value} (h : ∀ v ∈ items, v.ReadsBack) :
    (Value.array items).ReadsBack := by
  have hprint : (Value.array items).print.toList =
      '[' :: ((Value.printItems items).toList ++ [']']) := by
    simp [Value.print]
  refine readsBack_of_cons hprint (by decide) (by decide) fun {n rest} hn _ => ?_
  rw [List.length_append, List.length_singleton] at hn
  have hitems : readItems n true ((Value.printItems items).toList ++ ']' :: rest) =
      (Value.docs items, .closed, some rest) := readItems_printItems h (by omega)
  rw [List.append_assoc, List.singleton_append, readValue, skipBlanks_cons (by decide)]
  simp only [hitems, Value.doc]

/-- Objects read back if their values do. -/
theorem readsBack_object {entries : List (String × Value)} (h : ∀ e ∈ entries, e.2.ReadsBack) :
    (Value.object entries).ReadsBack := by
  have hprint : (Value.object entries).print.toList =
      '\x7b' :: ((Value.printEntries entries).toList ++ ['\x7d']) := by
    simp [Value.print]
  refine readsBack_of_cons hprint (by decide) (by decide) fun {n rest} hn _ => ?_
  rw [List.length_append, List.length_singleton] at hn
  have hentries : readEntries n true ((Value.printEntries entries).toList ++ '\x7d' :: rest) =
      (Value.entryDocs entries, .closed, some rest) := readEntries_printEntries h (by omega)
  rw [List.append_assoc, List.singleton_append, readValue, skipBlanks_cons (by decide)]
  simp only [hentries, Value.doc]

/-- **A value** is read from its text. -/
theorem Value.Whole.readsBack {v : Value} (h : v.Whole) : v.ReadsBack := by
  induction h with
  | null => exact readsBack_of_cons (c := 'n') rfl (by decide) (by decide) fun _ _ => rfl
  | bool b =>
    cases b with
    | false => exact readsBack_of_cons (c := 'f') rfl (by decide) (by decide) fun _ _ => rfl
    | true => exact readsBack_of_cons (c := 't') rfl (by decide) (by decide) fun _ _ => rfl
  | integer low high => exact readsBack_integer low high
  | string s => exact readsBack_string s
  | array _ ih => exact readsBack_array ih
  | object _ ih => exact readsBack_object ih

/-- **The text of a value** is that of the value's document, and nothing follows it. -/
theorem Document.ofText_print {v : Value} (h : v.Whole) :
    Document.ofText v.print = ⟨v.doc, false⟩ := by
  have hread : readValue (3 * v.print.toList.length + 3) (v.print.toList ++ []) =
      (v.doc, some []) := h.readsBack.reads (by omega) nofun
  rw [List.append_nil] at hread
  rw [Document.ofText]
  simp only [hread]
  rfl

end Json
end Boilerplate
