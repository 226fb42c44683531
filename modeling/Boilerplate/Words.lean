/-
# Words of an identifier

`convert_case` 0.6, `Case::UpperSnake` and `Case::Snake`, which `src/bitmask` calls.

An identifier is read as a sequence of words, whatever its spelling: `NextDay`, `nextDay` and
`next_day` hold the words `next` and `day`.  A word ends

* at `_`, `-` or a space, which belongs to no word;
* where a lower-case letter meets an upper-case one, or a cased letter and a digit meet;
* before the last of several upper-case letters, when a lower-case one follows (`HTTPServer`).

`snake` and `upperSnake` join the words again, with `_` between them.
-/

import Boilerplate.Unicode.Casing
import Boilerplate.Unicode.Cluster

namespace Boilerplate
namespace Words

open Unicode

/-- A letter whose two cases differ and that is its own upper case. -/
def isUpper (k : List Char) : Bool := upperText k != lowerText k && k == upperText k

/-- A letter whose two cases differ and that is its own lower case. -/
def isLower (k : List Char) : Bool := upperText k != lowerText k && k == lowerText k

/-- A decimal digit of ASCII without marks. -/
def isDigit (k : List Char) : Bool := k.all Char.isDigit

/-- The characters that separate words. -/
def isSeparator (k : List Char) : Bool := k == ['_'] || k == ['-'] || k == [' ']

/-- Whether a word ends between two neighbours. -/
def meet (c d : List Char) : Bool :=
  (isLower c && isUpper d) || (isUpper c && isDigit d) || (isDigit c && isUpper d) ||
    (isDigit c && isLower d) || (isLower c && isDigit d)

/-- Whether a word ends after `c`, seen from `c` and what follows it. -/
def endsAfter (c : List Char) : List (List Char) → Bool
  | d :: e :: _ => meet c d || (isUpper c && isUpper d && isLower e)
  | [d] => meet c d
  | [] => false

/-- The words of a sequence of letters, empty ones included. -/
def cut : List (List Char) → List (List Char)
  | [] => [[]]
  | c :: rest =>
    if isSeparator c then [] :: cut rest
    else if endsAfter c rest then c :: cut rest
    else match cut rest with
      | w :: ws => (c ++ w) :: ws
      | [] => [c]

/-- The words of a text. -/
def split (s : List Char) : List (List Char) := (cut (clusters s)).filter (· != [])

/-- The words joined by `_`. -/
def join (ws : List (List Char)) : List Char := ['_'].intercalate ws

/-- The words in lower case, joined by `_`. -/
def snake (s : List Char) : List Char := join ((split s).map lowerText)

/-- The words in upper case, joined by `_`. -/
def upperSnake (s : List Char) : List Char := join ((split s).map upperText)

end Words
end Boilerplate
