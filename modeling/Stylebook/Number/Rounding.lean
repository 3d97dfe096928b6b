/-!
# Rounding rationals to binary64

Numbers are exact rationals throughout; the binary64 format enters only through `nearest`.

* `scaled m b e` : the rational `m * b ^ e`, for a whole exponent of either sign;
* `floorLog b q` : the exponent `e` with `b ^ e ≤ q < b ^ (e + 1)`, for positive `q`;
* `halfEven q` : the nearest integer, the even one of two equally near;
* `nearest q` : the binary64 number nearest to `q ≥ 0`, with an even significand of two equally near, and nothing
  where that is not finite.
-/

namespace Stylebook.Number

/-- The rational `m * b ^ e`. -/
def scaled (m : Int) (b : Nat) (e : Int) : Rat :=
  if 0 ≤ e then mkRat (m * Int.ofNat (Nat.pow b e.toNat)) 1 else mkRat m (Nat.pow b (-e).toNat)

/-- One less than the number of digits of `n` in base `b`. -/
def logDigits (b n : Nat) : Nat := (Nat.toDigits b n).length - 1

/-- The exponent of the largest power of `b` that is at most `q`. -/
def floorLog (b : Nat) (q : Rat) : Int :=
  let e : Int := Int.ofNat (logDigits b q.num.natAbs) - Int.ofNat (logDigits b q.den)
  if scaled 1 b e ≤ q then e else e - 1

/-- The nearest integer, and the even one of two that are equally near. -/
def halfEven (q : Rat) : Int :=
  let low := q.floor
  let twice := (q - low) + (q - low)
  if twice < 1 then low
  else if 1 < twice then low + 1
  else if low % 2 == 0 then low else low + 1

/-- The exponent of the last place of a binary64 significand near `q`. -/
def placeExponent (q : Rat) : Int :=
  let e := floorLog 2 q - 52
  if e < -1074 then -1074 else e

/-- The binary64 number nearest to `q`, which is not negative; nothing if it is not finite. -/
def nearest (q : Rat) : Option Rat :=
  if q == 0 then some 0
  else
    let e := placeExponent q
    let r := scaled (halfEven (q * scaled 1 2 (-e))) 2 e
    if r < scaled 1 2 1024 then some r else none

end Stylebook.Number
