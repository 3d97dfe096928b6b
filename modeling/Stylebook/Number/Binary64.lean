import Stylebook.Number.Decimal
import Stylebook.Number.Shortest

/-!
# Binary64 numbers

* `Binary64` : a finite number, with a sign also on zero, an infinity, or no number;
* `Binary64.read?` : the number nearest to a decimal text, or the one that a name such as `-inf` or `nan` stands
  for;
* `Binary64.text` : the fewest digits that read back.
-/

namespace Stylebook

open Text

/-- A number of the binary64 format; the magnitude of a finite one is an exact rational. -/
inductive Binary64 where
  | finite (negative : Bool) (magnitude : Rat)
  | infinite (negative : Bool)
  | nan
  deriving DecidableEq

namespace Binary64

def ofDecimal (d : Decimal) : Binary64 :=
  match d.nearest with
  | some q => .finite d.negative q
  | none => .infinite d.negative

/-- The number that a name stands for, in any case and with an optional sign. -/
def ofName? (t : Text) : Option Binary64 :=
  let (negative, name) := Decimal.readSign t
  match String.ofList (name.map Char.toLower) with
  | "inf" | "infinity" => some (.infinite negative)
  | "nan" => some .nan
  | _ => none

/-- Reads a decimal text or the name of a number, with blanks around it. -/
def read? (t : Text) : Option Binary64 :=
  match Decimal.read? t with
  | some d => some (ofDecimal d)
  | none => ofName? (trim t)

def toRat? : Binary64 → Option Rat
  | .finite negative q => some (if negative then -q else q)
  | .infinite _ | .nan => none

def text : Binary64 → Text
  | .finite negative q => (if negative then ['-'] else []) ++ Number.decimalText q
  | .infinite negative => (if negative then ['-'] else []) ++ ['i', 'n', 'f']
  | .nan => ['n', 'a', 'n']

end Binary64

end Stylebook
