/-
# The shortest decimal of a floating-point number

The text of a double in `serde_json`.

A double stands for all reals that round to it, an interval around its value.  Of the decimals in
that interval, `Dyadic.shortest` gives one with the fewest digits, and of these the nearest.  It
tries the grids of 1, 2, … 17 digits in exact arithmetic: if a point of a grid lies in the interval,
one of the value's two neighbours on that grid does.
-/

namespace Boilerplate

/-- A decimal `digits * 10 ^ exponent`. -/
structure Decimal where
  digits : Nat
  exponent : Int
deriving DecidableEq, Repr, Inhabited

/-- A positive double `mantissa * 2 ^ exponent`; `narrow` says that the doubles below it are closer
than those above. -/
structure Dyadic where
  mantissa : Nat
  exponent : Int
  narrow : Bool := false
deriving DecidableEq, Repr, Inhabited

namespace Dyadic

/-- The double of a sign-less bit pattern that is neither zero nor infinite. -/
def ofBits (bits : Nat) : Dyadic :=
  let fraction : Nat := bits % Nat.pow 2 52
  let e : Nat := bits / Nat.pow 2 52 % Nat.pow 2 11
  if e = 0 then ⟨fraction, -1074, false⟩
  else ⟨Nat.pow 2 52 + fraction, (e : Int) - 1075, fraction = 0 && 1 < e⟩

/-- The value and the ends of its interval, as numerators, and their denominator. -/
structure Interval where
  value : Nat
  low : Nat
  high : Nat
  denominator : Nat

/-- What rounds to the double: half a unit to each side of its value, and only a quarter below a
power of two, where the doubles lie twice as close. -/
def interval (d : Dyadic) : Interval :=
  let unit := Nat.pow 2 d.exponent.toNat
  let value := 4 * d.mantissa * unit
  ⟨value, value - (if d.narrow then unit else 2 * unit), value + 2 * unit,
    4 * Nat.pow 2 (-d.exponent).toNat⟩

/-- The exponent of the first digit: `10 ^ k ≤ value < 10 ^ (k + 1)`. -/
def leadingExponent (i : Interval) : Int :=
  if i.denominator ≤ i.value then ((Nat.toDigits 10 (i.value / i.denominator)).length : Int) - 1
  else go 400 i.value 0
where
  go : Nat → Nat → Int → Int
    | 0, _, k => k
    | n + 1, v, k => if i.denominator ≤ v then k else go n (v * 10) (k - 1)

/-- The nearest decimal with the given exponent in the interval, if there is one; the even one of
two that are equally near. -/
def onGrid? (i : Interval) (even : Bool) (exponent : Int) : Option Decimal :=
  let up := Nat.pow 10 (-exponent).toNat
  let unit := i.denominator * Nat.pow 10 exponent.toNat
  let value := i.value * up
  let isInside := fun (c : Nat) =>
    if even then i.low * up ≤ c * unit && c * unit ≤ i.high * up
    else i.low * up < c * unit && c * unit < i.high * up
  let below := value / unit
  let above := below + 1
  let distance := value - below * unit
  let lower := 2 * distance < unit || (2 * distance = unit && below % 2 = 0)
  let candidates := (if lower then [below, above] else [above, below]).filter fun c =>
    0 < c && isInside c
  candidates.head?.map fun c => ⟨c, exponent⟩

/-- A shortest decimal that rounds to the double. -/
def shortest (d : Dyadic) : Decimal :=
  let i := d.interval
  let k := leadingExponent i
  let found := (List.range 17).findSome? fun (n : Nat) =>
    onGrid? i (d.mantissa % 2 = 0) (k - n)
  found.getD ⟨d.mantissa, d.exponent⟩

end Dyadic

namespace Decimal

/-- The digits without zeros behind the last other one. -/
def significant (d : Decimal) : List Char :=
  ((Nat.toDigits 10 d.digits).reverse.dropWhile (· == '0')).reverse

/-- The exponent of the first digit. -/
def leading (d : Decimal) : Int := d.exponent + (Nat.toDigits 10 d.digits).length - 1

end Decimal
end Boilerplate
