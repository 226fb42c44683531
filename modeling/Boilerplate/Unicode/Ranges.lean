/-
# Sets of characters given by ranges

Properties of characters are tables of closed ranges of code points, in increasing order.
-/

namespace Boilerplate
namespace Unicode

/-- Closed ranges of code points, in increasing order. -/
abbrev Ranges := List (Nat × Nat)

/-- Whether the character lies in one of the ranges.  The search stops at the first range that ends
behind the character. -/
def Ranges.holds : Ranges → Char → Bool
  | [], _ => false
  | (first, last) :: rest, c => if last < c.toNat then Ranges.holds rest c else first ≤ c.toNat

end Unicode
end Boilerplate
