import Stylebook.Number.Rounding
import Stylebook.Text.Basic

/-!
# The fewest digits that read back

* `shortest q` : for a positive binary64 number `q`, the decimal `m * 10 ^ e` with the fewest digits that is
  nearest to no other binary64 number; of two such decimals the nearer one, of two equally near the even one;
* `decimalText q` : its text, positional if the leading digit stands between `10 ^ -4` and `10 ^ 15`, with an
  exponent of at least two digits otherwise.
-/

namespace Stylebook.Number

/-- The decimal `m * 10 ^ e` reads back as `q`. -/
def readsBack (q : Rat) (m : Int) (e : Int) : Bool := nearest (scaled m 10 e) == some q

/-- Of the two multiples of `10 ^ e` around `q`, the one to write, if one reads back as `q`. -/
def onGrid (q : Rat) (e : Int) : Option Int :=
  let place := q * scaled 1 10 (-e)
  let low := place.floor
  match readsBack q low e, readsBack q (low + 1) e with
  | true, true => some (halfEven place)
  | true, false => some low
  | false, true => some (low + 1)
  | false, false => none

/-- The first grid, from `digits` places on, that has a decimal to write. -/
def shortestFrom (q : Rat) (log : Int) (digits : Nat) : (more : Nat) → Int × Int
  | 0 =>
    let e := log - Int.ofNat digits + 1
    (halfEven (q * scaled 1 10 (-e)), e)
  | more + 1 =>
    let e := log - Int.ofNat digits + 1
    match onGrid q e with
    | some m => (m, e)
    | none => shortestFrom q log (digits + 1) more

/-- The decimal with the fewest digits that reads back as `q`; seventeen digits always do. -/
def shortest (q : Rat) : Int × Int := shortestFrom q (floorLog 10 q) 1 16

/-- The digits without trailing zeros, and the power of ten that the first digit then stands for. -/
def leadingDigits (m e : Int) : Text × Int :=
  let all := Nat.toDigits 10 m.natAbs
  let digits := (all.reverse.dropWhile (· == '0')).reverse
  (digits, e + Int.ofNat all.length - 1)

/-- Digits in positional notation, the first one standing for `10 ^ lead`. -/
def positional (digits : Text) (lead : Int) : Text :=
  if lead < 0 then
    ['0', '.'] ++ List.replicate ((-lead).toNat - 1) '0' ++ digits
  else
    let whole := lead.toNat + 1
    if digits.length ≤ whole then
      digits ++ List.replicate (whole - digits.length) '0' ++ ['.', '0']
    else digits.take whole ++ ['.'] ++ digits.drop whole

/-- Digits with an exponent, the first one standing for `10 ^ lead`. -/
def scientific (digits : Text) (lead : Int) : Text :=
  let significand := match digits with
    | [] => []
    | [d] => [d]
    | d :: rest => d :: '.' :: rest
  let power := Nat.toDigits 10 lead.natAbs
  significand ++ ['e', if lead < 0 then '-' else '+'] ++
    (if power.length < 2 then '0' :: power else power)

def decimalText (q : Rat) : Text :=
  if q == 0 then ['0', '.', '0']
  else
    let (m, e) := shortest q
    let (digits, lead) := leadingDigits m e
    if -4 ≤ lead && lead < 16 then positional digits lead else scientific digits lead

end Stylebook.Number
