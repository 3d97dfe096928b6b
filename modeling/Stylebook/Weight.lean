import Stylebook.Number.Decimal
import Stylebook.Number.Shortest

/-!
# Weights

A weight orders the sections of one level. Authors write it as a decimal text and get the binary64 number nearest to
it, which is an exact rational here. A section made by hand can have any other number for its weight, an infinity,
or something that is no number.

* `Weight`, `Weight.isBelow` : weights and their order, in which what is no number has no place;
* `Weight.read` : the weight of a text, which is finite: zero for a text that is no decimal or too large;
* `Weight.text` : whole weights in full, others with the fewest digits that read back.
-/

namespace Stylebook

/-- The rank of a section among its siblings: an integer or a binary64 number, infinities and what is no number (NaN)
included. Integers and binary64 numbers of one value are one weight, and a whole one is written as the integer. A NaN
equals nothing but itself, so each has a tag that tells it from the others. -/
inductive Weight where
  | finite (q : Rat)
  | infinite (negative : Bool)
  | nan (tag : Nat)
  deriving DecidableEq

namespace Weight

instance : Coe Rat Weight := ⟨finite⟩

instance : NatCast Weight := ⟨fun n => finite n⟩

instance (n : Nat) : OfNat Weight n := ⟨finite n⟩

def isNan : Weight → Bool
  | .nan _ => true
  | _ => false

/-- The order of numbers. Nothing is below a NaN or above it. -/
def isBelow : Weight → Weight → Bool
  | .finite p, .finite q => p < q
  | .finite _, .infinite negative => !negative
  | .infinite negative, .finite _ => negative
  | .infinite a, .infinite b => a && !b
  | _, _ => false

instance : LT Weight := ⟨fun a b => isBelow a b = true⟩

instance (a b : Weight) : Decidable (a < b) := inferInstanceAs (Decidable (isBelow a b = true))

/-- The weight that a text denotes, and zero if it denotes none. -/
def read (t : Text) : Rat :=
  match Decimal.read? t with
  | none => 0
  | some d =>
    match d.nearest with
    | none => 0
    | some q => if d.negative then -q else q

def integerText (n : Int) : Text :=
  (if n < 0 then ['-'] else []) ++ Nat.toDigits 10 n.natAbs

def finiteText (q : Rat) : Text :=
  if q.den == 1 then integerText q.num
  else if q < 0 then '-' :: Number.decimalText (-q)
  else Number.decimalText q

def text : Weight → Text
  | .finite q => finiteText q
  | .infinite negative => (if negative then ['-'] else []) ++ "inf".toList
  | .nan _ => "nan".toList

end Weight

end Stylebook
