import Stylebook.Number.Rounding
import Stylebook.Text.Basic
import Stylebook.Text.Digit

/-!
# Decimal texts

A decimal text has an optional sign, decimal digits of any script with an optional point among or beside them,
and an optional exponent; a single underscore may stand between two digits.

* `Decimal` : sign, digits as a natural number, and the power of ten of the last digit;
* `Decimal.read?` : reads a text, which must be a decimal text as a whole;
* `Decimal.magnitude`, `Decimal.value` : the number that it denotes, without and with its sign;
* `Decimal.nearest` : the binary64 number nearest to the magnitude. Far outside the range of the format the
  answer is known from the position of the leading digit, so that no large power has to be computed.
-/

namespace Stylebook

open Text

/-- The number `± digits * 10 ^ exponent`. -/
structure Decimal where
  negative : Bool
  digits : Nat
  exponent : Int
  deriving DecidableEq

namespace Decimal

/-- A decimal digit of any script as the digit from `0` to `9`; other characters stay. -/
def plainDigit (c : Char) : Char :=
  match digitValue? c with
  | some n => Char.ofNat ('0'.toNat + n)
  | none => c

/-- The text without underscores, if each stands between two digits; `afterDigit` tells whether a digit was
read just before. -/
def dropUnderscores? (afterDigit : Bool) : Text → Option Text
  | [] => some []
  | '_' :: d :: rest =>
    if afterDigit && d.isDigit then (dropUnderscores? true rest).map (d :: ·) else none
  | c :: rest =>
    if c == '_' then none else (dropUnderscores? c.isDigit rest).map (c :: ·)

def ofDigits (ds : Text) : Nat := ds.foldl (fun n c => 10 * n + (c.toNat - '0'.toNat)) 0

def readSign : Text → Bool × Text
  | '-' :: rest => (true, rest)
  | '+' :: rest => (false, rest)
  | t => (false, t)

/-- The exponent part of a decimal text; nothing is the exponent zero. -/
def readExponent? : Text → Option Int
  | [] => some 0
  | c :: rest =>
    if c == 'e' || c == 'E' then
      let (negative, ds) := readSign rest
      if !ds.isEmpty && ds.all Char.isDigit then
        some (if negative then -Int.ofNat (ofDigits ds) else Int.ofNat (ofDigits ds))
      else none
    else none

/-- The digits after a point, if there is one, and the rest. -/
def readFraction : Text → Text × Text
  | '.' :: rest => (rest.takeWhile Char.isDigit, rest.dropWhile Char.isDigit)
  | t => ([], t)

/-- Reads a decimal text of plain digits, without blanks and underscores. -/
def readPlain? (t : Text) : Option Decimal :=
  let (negative, unsigned) := readSign t
  let whole := unsigned.takeWhile Char.isDigit
  let (fraction, rest) := readFraction (unsigned.dropWhile Char.isDigit)
  if (whole ++ fraction).isEmpty then none
  else (readExponent? rest).map fun e =>
    { negative, digits := ofDigits (whole ++ fraction), exponent := e - Int.ofNat fraction.length }

def read? (t : Text) : Option Decimal :=
  (dropUnderscores? false ((trim t).map plainDigit)).bind readPlain?

def magnitude (d : Decimal) : Rat := Number.scaled d.digits 10 d.exponent

def value (d : Decimal) : Rat := if d.negative then -d.magnitude else d.magnitude

/-- The power of ten of the leading digit. -/
def lead (d : Decimal) : Int := d.exponent + Int.ofNat (Number.logDigits 10 d.digits)

/-- The binary64 number nearest to the magnitude; nothing if it is not finite. -/
def nearest (d : Decimal) : Option Rat :=
  if d.digits == 0 || d.lead < -400 then some 0
  else if 400 < d.lead then none
  else Number.nearest d.magnitude

end Decimal

end Stylebook
