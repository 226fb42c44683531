/-
# What the code of an option set does

The members and operators that `src/bitmask` generates (`set_algebra`, `naming`, `operators`,
`formatting`), as they run, and `SPEC_FULL.md` §4.3.

A set is the bits of its raw value; bits that no case owns are kept and compared like all others.
The functions here are those of the generated code, on words of any width.
-/

import Boilerplate.OptionCase

namespace Boilerplate
namespace Bits

variable {w : Nat}

/-- What is in one of the sets. -/
def union (a b : BitVec w) : BitVec w := a ||| b

/-- What is in both sets. -/
def intersection (a b : BitVec w) : BitVec w := a &&& b

/-- What is in the first set and not in the second. -/
def difference (a b : BitVec w) : BitVec w := a &&& ~~~b

/-- Whether no bit is set, owned or not. -/
def isEmpty (a : BitVec w) : Bool := a == 0#w

/-- Whether every bit of `b` is in `a`. -/
def contains (a b : BitVec w) : Bool := a &&& b == b

/-- The set with `b` in it, and whether a bit of `b` was missing. -/
def insert (a b : BitVec w) : BitVec w × Bool := (a ||| b, !contains a b)

/-- The set without `b`, and whether a bit of `b` was in it. -/
def remove (a b : BitVec w) : BitVec w × Bool := (a &&& ~~~b, a &&& b != 0#w)

/-- The operators between sets: `|`, `&` and `-`. -/
inductive Operator
  | bitOr
  | bitAnd
  | sub
deriving DecidableEq, Repr, Inhabited

namespace Operator

/-- What the operator gives. -/
def apply : Operator → BitVec w → BitVec w → BitVec w
  | bitOr, a, b => a ||| b
  | bitAnd, a, b => a &&& b
  | sub, a, b => a &&& ~~~b

/-- What the assigning form of the operator leaves in a variable that holds `a`. -/
def assign (o : Operator) (a b : BitVec w) : BitVec w := o.apply a b

end Operator

/-- The union of sets. -/
def collect (bs : List (BitVec w)) : BitVec w := bs.foldl union 0#w

/-- The set with sets in it, one after the other. -/
def extend (a : BitVec w) (bs : List (BitVec w)) : BitVec w :=
  bs.foldl (fun a b => (insert a b).1) a

/-- The constant of a case: the bit that it owns. -/
def constant (w : Nat) (c : OptionCase) : BitVec w := 1#w <<< c.position

/-- Every case. -/
def all (w : Nat) (cases : List OptionCase) : BitVec w :=
  cases.foldl (fun a c => a ||| constant w c) 0#w

/-- The contained cases. -/
def contained (cases : List OptionCase) (a : BitVec w) : List OptionCase :=
  cases.filter fun c => contains a (constant w c)

/-- The constants of the contained cases. -/
def iter (cases : List OptionCase) (a : BitVec w) : List (BitVec w) :=
  (cases.map (constant w)).filter (contains a)

/-- The name of a set that is one case. -/
def name (cases : List OptionCase) (a : BitVec w) (display : Bool) : Option String :=
  (cases.find? fun c => a == constant w c).map fun c => if display then c.display else c.wire

/-- The first case with the name, in either spelling. -/
def fromName (w : Nat) (cases : List OptionCase) (s : String) : Option (BitVec w) :=
  (cases.find? fun c => s == c.display || s == c.wire).map (constant w)

/-- The names of the contained cases. -/
def joined (cases : List OptionCase) (a : BitVec w) : String :=
  ", ".intercalate ((contained cases a).map (·.display))

/-- The set as it shows when debugging: the names of the contained cases behind that of the type. -/
def debug (title : String) (cases : List OptionCase) (a : BitVec w) : String :=
  let names := (iter cases a).map fun b => (name cases b true).getD "?"
  title ++ "(" ++ " | ".intercalate names ++ ")"

/-- The raw value, of a signed or unsigned integer type. -/
def value (signed : Bool) (a : BitVec w) : Int := if signed then a.toInt else a.toNat

end Bits
end Boilerplate
