/-
# JSON numbers

`serde_json::Number`, as it is read.

A number without fraction and exponent that fits 64 bits is an integer, save `-0`.  Any other is a
double: the leading digits that fit 64 bits, multiplied or divided by powers of ten, with one
rounding for each step.  A number beyond the doubles cannot be decoded.
-/

import Boilerplate.Json.Document

namespace Boilerplate
namespace Json

/-- Decimal digits at the start of a text, and what follows. -/
def digits (s : List Char) : List Nat × List Char :=
  ((s.takeWhile Char.isDigit).map fun c => c.toNat - '0'.toNat, s.dropWhile Char.isDigit)

/-- The digits of a number, as it is written. -/
structure Numeral where
  negative : Bool
  whole : List Nat
  fraction : List Nat := []
  /-- The sign of the exponent and its digits. -/
  exponent : Option (Bool × List Nat) := none
deriving DecidableEq, Repr, Inhabited

/-- A bound on what the digits may amount to. -/
def wordBound : Nat := Nat.pow 2 64

/-- Digits as a number below the bound, as far as they fit, and the digits that do not. -/
def fitting (bound : Nat) : Nat → List Nat → Nat × List Nat
  | n, [] => (n, [])
  | n, d :: ds => if n * 10 + d < bound then fitting bound (n * 10 + d) ds else (n, d :: ds)

/-- Ten to a power that is a double. -/
def power (n : Nat) : Float := Float.ofScientific 1 false n

/-- Scales by a power of ten, in several steps if it is small; none if the result is too large. -/
def scale? : Nat → Float → Int → Option Float
  | 0, x, _ => some x
  | steps + 1, x, e =>
    if e.natAbs ≤ 308 then
      if e < 0 then some (x / power e.natAbs)
      else
        let y := x * power e.natAbs
        if y.isInf then none else some y
    else if x == 0 then some x
    else if 0 ≤ e then none
    else scale? steps (x / power 308) (e + 308)

namespace Numeral

/-- The leading digits, and the exponent that makes up for all others but that written. -/
def significand (n : Numeral) : Nat × Int :=
  let (whole, surplus) := fitting wordBound 0 n.whole
  let (all, rest) := fitting wordBound whole n.fraction
  (all, (surplus.length : Int) - (n.fraction.length - rest.length : Nat))

/-- The number as a double. -/
def float? (n : Numeral) : Option Float :=
  let (leading, shift) := n.significand
  let sign := fun (x : Float) => if n.negative then -x else x
  let start := leading.toUInt64.toFloat
  let limit := Nat.pow 2 31
  match n.exponent with
  | none => (scale? 4 start shift).map sign
  | some (negative, ds) =>
    let (e, surplus) := fitting limit 0 ds
    if !surplus.isEmpty then
      if leading != 0 && !negative then none else some (sign 0)
    else (scale? 4 start (if negative then shift - e else shift + e)).map sign

/-- The number that is written, unless it is too large. -/
def value? (n : Numeral) : Option Number :=
  match n.fraction, n.exponent, fitting wordBound 0 n.whole with
  | [], none, (m, []) =>
    if !n.negative then some (.integer m)
    else if m = 0 || Nat.pow 2 63 < m then some (.float (-m.toUInt64.toFloat))
    else some (.integer (-m))
  | _, _, _ => n.float?.map .float

/-- The number as a part of a document. -/
def doc (n : Numeral) : Doc :=
  match n.value? with
  | some v => .number v
  | none => .faulty .malformed none

end Numeral

/-- The fault of a number that lacks digits where the text ends or goes on; skipping does not look
for the end. -/
def lacking (rest : List Char) : Doc :=
  .faulty (if rest.isEmpty then .ended else .malformed) (some .malformed)

/-- A number behind its sign, and what follows; nothing follows a fault. -/
def readNumber (negative : Bool) (s : List Char) : Doc × Option (List Char) :=
  let (whole, s) := digits s
  match whole with
  | [] => (lacking s, none)
  | 0 :: _ :: _ => (.faulty .malformed (some .malformed), none)
  | _ =>
    let (hasPoint, s) := match s with
      | '.' :: rest => (true, rest)
      | _ => (false, s)
    let (fraction, s) := if hasPoint then digits s else ([], s)
    if hasPoint && fraction.isEmpty then (lacking s, none)
    else
      let n : Numeral := { negative, whole, fraction }
      match s with
      | 'e' :: rest | 'E' :: rest =>
        let (down, rest) := match rest with
          | '+' :: rest => (false, rest)
          | '-' :: rest => (true, rest)
          | _ => (false, rest)
        let (exponent, rest) := digits rest
        if exponent.isEmpty then (lacking rest, none)
        else ({ n with exponent := some (down, exponent) }.doc, some rest)
      | _ => (n.doc, some s)

end Json
end Boilerplate
