/-
# Upper and lower case

The full case mappings of Unicode without a language: a letter may become several (`ß` gives `SS`),
and a capital sigma at the end of a word becomes `ς` instead of `σ` (`lowerText`).
-/

import Boilerplate.Unicode.CaseTables

namespace Boilerplate
namespace Unicode

/-- Whether the run holds the code point. -/
def CaseRun.covers (r : CaseRun) (n : Nat) : Bool :=
  r.first ≤ n && n ≤ r.last && (n - r.first) % r.step == 0

/-- The mapping that a table of runs and a table of single letters describe. -/
def mapLetter (runs : List CaseRun) (special : List (Nat × List Nat)) (c : Char) : List Char :=
  match special.find? (·.1 == c.toNat) with
  | some (_, ns) => ns.map Char.ofNat
  | none =>
    match runs.find? (·.covers c.toNat) with
    | some r => [Char.ofNat (c.toNat + r.shift).toNat]
    | none => [c]

/-- The upper case of one character. -/
def upper (c : Char) : List Char := mapLetter upperRuns upperSpecial c

/-- The lower case of one character out of context. -/
def lower (c : Char) : List Char := mapLetter lowerRuns lowerSpecial c

/-- The upper case of a text. -/
def upperText (s : List Char) : List Char := s.flatMap upper

/-- Whether a text starts, after characters that casing ignores, with a cased letter. -/
def reachesCased (s : List Char) : Bool :=
  match s.dropWhile ignorableRanges.holds with
  | c :: _ => casedRanges.holds c
  | [] => false

/-- The lower case of a text that stands behind `before`, which is written backwards. -/
def lowerAfter (before : List Char) : List Char → List Char
  | [] => []
  | c :: rest =>
    (if c = 'Σ' then
      if reachesCased before && !reachesCased rest then ['ς'] else ['σ']
     else lower c) ++ lowerAfter (c :: before) rest

/-- The lower case of a text. -/
def lowerText (s : List Char) : List Char := lowerAfter [] s

end Unicode
end Boilerplate
