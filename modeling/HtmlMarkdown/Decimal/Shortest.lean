/-!
# The shortest decimal that reads back

A binary fraction is the nearest to every decimal of an interval around it. Of the decimals with the
fewest digits in this interval the nearest is its text.

* `Binary`: a positive number `mantissa * 2 ^ exponent` with the width of its interval;
* `Binary.shortest`: digits and power of ten of the shortest decimal in the interval.
-/

namespace HtmlMarkdown.Decimal

/-! ## Binary and decimal numbers -/

/-- A positive number `mantissa * 2 ^ exponent`; `isLowest` says that the next smaller number is
only half as far away as the next larger one. -/
structure Binary where
  mantissa : Nat
  exponent : Int
  isLowest : Bool

/-- The decimal `digits * 10 ^ exponent`. -/
structure Numeral where
  digits : Nat
  exponent : Int

/-- A power of ten. -/
def tenTo (n : Nat) : Nat := Nat.pow 10 n

namespace Binary

variable (b : Binary)

/-- The number as a fraction whose denominator is four times a power of two, so that the ends of its
interval are whole multiples of the same unit. -/
def numerator : Nat := (4 * b.mantissa) <<< b.exponent.toNat

/-- The denominator of `numerator` and of the ends of the interval. -/
def denominator : Nat := 4 <<< (-b.exponent).toNat

/-- The lower end of the interval, over `denominator`. -/
def lower : Nat := (4 * b.mantissa - if b.isLowest then 1 else 2) <<< b.exponent.toNat

/-- The upper end of the interval, over `denominator`. -/
def upper : Nat := (4 * b.mantissa + 2) <<< b.exponent.toNat

/-! ## Decimals that read back -/

/-- The decimal reads back as this number: it lies in the interval, whose ends belong to it for an
even mantissa only. -/
def reads (d : Numeral) : Bool :=
  let num := d.digits * tenTo d.exponent.toNat * b.denominator
  let unit := tenTo (-d.exponent).toNat
  if b.mantissa % 2 = 0 then b.lower * unit ≤ num && num ≤ b.upper * unit
  else b.lower * unit < num && num < b.upper * unit

/-- The number of decimal places that a fraction below one has before its first digit other than
zero; at most `fuel`. -/
def leadingZeros (num den : Nat) : (fuel : Nat) → Nat
  | 0 => 0
  | fuel + 1 => if num * 10 < den then leadingZeros (num * 10) den fuel + 1 else 0

/-- The power of ten just above the number: `10 ^ (p - 1) ≤ b < 10 ^ p`. -/
def magnitude : Int :=
  let whole := b.numerator / b.denominator
  if whole = 0 then -(leadingZeros b.numerator b.denominator 400 : Int)
  else ((Nat.toDigits 10 whole).length : Int)

/-- The two neighbours of the number among the multiples of `10 ^ exponent`: the number lies between
`digits` and `digits + 1`, and the flag says that it is not nearer to the second. -/
def neighbours (exponent : Int) : Nat × Bool :=
  let num := b.numerator * tenTo (-exponent).toNat
  let den := b.denominator * tenTo exponent.toNat
  let digits := num / den
  let rest := num % den
  (digits, 2 * rest < den || (2 * rest == den && digits % 2 == 0))

/-- The nearest of the decimals with `count` digits that read back. -/
def withDigits? (count : Nat) : Option Numeral :=
  let exponent := b.magnitude - count
  let (digits, isLow) := b.neighbours exponent
  let low : Numeral := ⟨digits, exponent⟩
  let high : Numeral := ⟨digits + 1, exponent⟩
  match b.reads low, b.reads high with
  | true, true => some (if isLow then low else high)
  | true, false => some low
  | false, true => some high
  | false, false => none

/-- The first count of digits, from `count` on, with a decimal that reads back. -/
def shortestFrom (count : Nat) : (fuel : Nat) → Numeral
  | 0 => ⟨0, 0⟩
  | fuel + 1 => (b.withDigits? count).getD (shortestFrom (count + 1) fuel)

/-- The nearest of the shortest decimals that read back. -/
def shortest : Numeral := b.shortestFrom 1 17

end Binary

end HtmlMarkdown.Decimal
