import Stylebook.Guide.Basic
import Stylebook.Number.Decimal
import Stylebook.Sorting
import Stylebook.Text.Case.Full
import Stylebook.Text.Quoted

/-!
# The order of sections

Sections are compared level by level: by the weight of the section that owns the level, numbers before names,
numbers by value and names in lower case. A section stands before those below it, and sections that compare
equal keep their order. A NaN among the weights is neither before nor after another weight, so that the order
depends on the steps of the sort: these are those of `Sorting.sort`.

* `Rank`, `LevelKey` : what one level is compared by;
* `Rank.ofLevel` : fails on figures that form no numeral, such as superscripts, and on overlong numerals;
* `Guide.ownerWeights` : the weight of the last section at each list of levels;
* `Guide.sorted` : the sections in order, or the first failure in the order in which they were read.
-/

namespace Stylebook

open Text

/-- Why a level made of figures cannot be compared. -/
inductive Rank.Fault where
  | notANumeral (level : Text)
  | tooLong (digits : Nat)
  deriving DecidableEq

def Rank.Fault.message : Rank.Fault → Text
  | .notANumeral level =>
    "invalid literal for int() with base 10: ".toList ++ (quoted level).take 200
  | .tooLong digits =>
    "Exceeds the limit (4300 digits) for integer string conversion: value has ".toList ++
      Nat.toDigits 10 digits ++
      " digits; use sys.set_int_max_str_digits() to increase the limit".toList

/-- The text of a level as it is compared. -/
inductive Rank where
  | number (n : Nat)
  | name (t : Text)
  deriving DecidableEq

namespace Rank

/-- Numbers come before names. -/
def isBefore : Rank → Rank → Bool
  | .number m, .number n => m < n
  | .number _, .name _ => true
  | .name _, .number _ => false
  | .name s, .name t => Text.isBefore s t

/-- The number that a level made of figures stands for. -/
def numeral (level : Text) : Except Fault Rank :=
  let digits := level.takeWhile isDecimal
  if 4300 < digits.length then .error (.tooLong digits.length)
  else if digits.length < level.length then .error (.notANumeral level)
  else .ok (.number (Decimal.ofDigits (digits.map Decimal.plainDigit)))

/-- A level that is compared by its number. -/
def isNumeral (level : Text) : Bool := !level.isEmpty && level.all looksNumeric

def ofLevel (level : Text) : Except Fault Rank :=
  if isNumeral level then numeral level else .ok (.name (lower level))

end Rank

structure LevelKey where
  weight : Weight
  rank : Rank
  deriving DecidableEq

/-- The lighter level comes first, and of equally heavy ones the one of smaller rank. -/
def LevelKey.isBefore (a b : LevelKey) : Bool :=
  a.weight < b.weight || (a.weight == b.weight && a.rank.isBefore b.rank)

/-- The first level that differs decides, and a section comes before those below it. -/
def LevelKey.areBefore (as bs : List LevelKey) : Bool := List.lex as bs LevelKey.isBefore

namespace Guide

/-- The weight of the last section at each list of levels. -/
def ownerWeights (sections : List Section) : OrderedMap (List Text) Weight :=
  sections.foldl (fun m s => m.insert (Reference.levels s.reference) s.weight) {}

def keysFrom (weights : OrderedMap (List Text) Weight) (above : List Text) :
    List Text → Except Rank.Fault (List LevelKey)
  | [] => .ok []
  | level :: rest => do
    let rank ← Rank.ofLevel level
    let here := above ++ [level]
    return { weight := (weights.get? here).getD 0, rank } :: (← keysFrom weights here rest)

def keys (weights : OrderedMap (List Text) Weight) (s : Section) : Except Rank.Fault (List LevelKey) :=
  keysFrom weights [] (Reference.levels s.reference)

def keyed (sections : List Section) : Except Rank.Fault (List (List LevelKey × Section)) :=
  let weights := ownerWeights sections
  sections.mapM fun s => do return (← keys weights s, s)

def sorted (g : Guide) : Except Rank.Fault (List Section) := do
  let pairs ← keyed g.sections
  return (Sorting.sort (fun a b => LevelKey.areBefore a.1 b.1) pairs).map (·.2)

end Guide

end Stylebook
