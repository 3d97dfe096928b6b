import Stylebook.Text.Case.Full
import Stylebook.Value
import Stylebook.Yaml.Quoted

/-!
# Values of scalars

* `Form` : how a scalar is to be read: as it looks, or as a value of one kind;
* `Scalar.looksInteger`, `Scalar.looksFloat`, `Scalar.timestamp?` : the notations of numbers, also in base sixty, and of
  dates;
* `Scalar.integer`, `Scalar.float` : the number that a text means, in one of these notations or not;
* `Scalar.value` : the value of a scalar. A plain one stands for null, a truth value, a number, a date or moment, or for
  the text itself;
* `Scalar.isMerge`, `Scalar.isDefault` : the marks of merged and of default values.
-/

namespace Stylebook.Yaml

/-- How a scalar is to be read: as it looks, or as a value of one kind. -/
inductive Form where
  | plain
  | text
  | null
  | truth
  | integer
  | float
  | timestamp
  deriving DecidableEq

namespace Scalar

open Text

/-! ## Integers -/

/-- The digits are there, and all of them pass; underscores among them do not count. -/
def areDigits (p : Char → Bool) (ds : Text) : Bool := !ds.isEmpty && ds.all fun c => p c || c == '_'

def isOctal (c : Char) : Bool := '0' ≤ c && c ≤ '7'

def isBinary (c : Char) : Bool := c == '0' || c == '1'

/-- A part of a number in base sixty: below sixty, of one or two digits. -/
def isSixtieth : Text → Bool
  | [d] => d.isDigit
  | [t, d] => '0' ≤ t && t ≤ '5' && d.isDigit
  | _ => false

/-- A natural number in one of the notations of YAML. -/
def looksNatural (t : Text) : Bool :=
  match t with
  | ['0'] => true
  | '0' :: 'b' :: ds => areDigits isBinary ds
  | '0' :: 'x' :: ds => areDigits isHex ds
  | '0' :: ds => areDigits isOctal ds
  | _ =>
    match t.splitOn ':' with
    | [] => false
    | first :: parts => areDigits Char.isDigit first && first.head? != some '_' && parts.all isSixtieth

def looksInteger (t : Text) : Bool := looksNatural (Decimal.readSign t).2

/-- The value of a digit of any script, or of a letter that is a digit beyond nine. -/
def digitIn? (base : Nat) (c : Char) : Option Nat :=
  let value := if isHex c then some (digitOf c) else digitValue? c
  value.bind fun n => if n < base then some n else none

/-- The integer of digits in a base, with an optional sign and blanks around it. Of decimal digits at most 4300 are
read. -/
def readIn (base : Nat) (t : Text) : Except Fault Int :=
  let (negative, ds) := Decimal.readSign (trim t)
  match if ds.isEmpty then none else ds.mapM (digitIn? base) with
  | none => .error (.noInteger base t)
  | some values =>
    if base == 10 && 4300 < ds.length then .error (.tooManyDigits ds.length)
    else
      let n := Int.ofNat (values.foldl (fun n d => base * n + d) 0)
      .ok (if negative then -n else n)

/-- The integer that a text means: in base two, sixteen or eight after a mark, in base sixty with colons, and in base ten
otherwise. Underscores do not count. -/
def integer (t : Text) : Except Fault Int := do
  let (negative, unsigned) := Decimal.readSign (t.filter (· != '_'))
  let n ← match unsigned with
    | [] => if t.all (· == '_') then .error .malformed else readIn 10 []
    | ['0'] => pure 0
    | '0' :: 'b' :: ds => readIn 2 ds
    | '0' :: 'x' :: ds => readIn 16 ds
    | '0' :: ds => readIn 8 ('0' :: ds)
    | _ => do
      let parts ← (unsigned.splitOn ':').mapM (readIn 10)
      pure (parts.foldl (fun n p => 60 * n + p) 0)
  return if negative then -n else n

/-! ## Numbers with a point -/

/-- The exponent part of a number with a point: nothing, or `e`, a sign and digits. -/
def isExponent : Text → Bool
  | [] => true
  | e :: sign :: ds =>
    (e == 'e' || e == 'E') && (sign == '+' || sign == '-') && !ds.isEmpty && ds.all Char.isDigit
  | _ => false

def isDigitOrGap (c : Char) : Bool := c.isDigit || c == '_'

/-- Digits with a point, without a sign; if there are digits in front of the point, the first is one. -/
def isPointed (signed : Bool) (t : Text) : Bool :=
  let whole := t.takeWhile isDigitOrGap
  match t.drop whole.length with
  | '.' :: rest =>
    let fraction := rest.takeWhile isDigitOrGap
    isExponent (rest.drop fraction.length) &&
      (if whole.isEmpty then !signed && fraction.head?.any Char.isDigit
       else whole.head?.any Char.isDigit)
  | _ => false

/-- A number in base sixty with a point in its last part. -/
def areSixtieths (t : Text) : Bool :=
  match t.splitOn ':' with
  | first :: second :: others =>
    let parts := (second :: others).dropLast
    let last := (second :: others).getLast (List.cons_ne_nil _ _)
    let units := last.takeWhile (· != '.')
    match last.drop units.length with
    | '.' :: fraction =>
      areDigits Char.isDigit first && first.head? != some '_' && (parts ++ [units]).all isSixtieth &&
        fraction.all isDigitOrGap
    | _ => false
  | _ => false

/-- A number with a point, or the name of a number, in one of the notations of YAML. -/
def looksFloat (t : Text) : Bool :=
  let unsigned := (Decimal.readSign t).2
  let signed := unsigned.length < t.length
  let name := String.ofList unsigned
  [".inf", ".Inf", ".INF"].contains name || (!signed && [".nan", ".NaN", ".NAN"].contains name) ||
    isPointed signed unsigned || areSixtieths unsigned

/-- The sum of two numbers that are not negative, or no number. -/
def plus : Binary64 → Binary64 → Binary64
  | .nan, _ | _, .nan => .nan
  | .infinite _, _ | _, .infinite _ => .infinite false
  | .finite _ p, .finite _ q => ((Number.nearest (p + q)).map (.finite false)).getD (.infinite false)

/-- A number that is not negative times a natural number, which is rounded first. -/
def times (x : Binary64) (n : Nat) : Binary64 :=
  match x with
  | .finite _ p =>
    let product := (Number.nearest (mkRat (Int.ofNat n) 1)).bind fun factor => Number.nearest (p * factor)
    (product.map (.finite false)).getD (.infinite false)
  | x => x

/-- The sum of the parts of a number in base sixty, the last part first, each times a power of sixty. -/
def sumSixtieths (base : Nat) (sum : Binary64) : List Binary64 → Binary64
  | [] => sum
  | part :: rest => sumSixtieths (60 * base) (plus sum (times part base)) rest

def signed (negative : Bool) : Binary64 → Binary64
  | .finite n q => .finite (n != negative) q
  | .infinite n => .infinite (n != negative)
  | .nan => .nan

/-- The number that a decimal text or a name means. -/
def readFloat (t : Text) : Except Fault Binary64 :=
  match Binary64.read? t with
  | some x => .ok x
  | none => .error (.noFloat t)

/-- The number that a text means: infinity and no number by their names, in base sixty with colons, and in base ten
otherwise. Underscores do not count. -/
def float (t : Text) : Except Fault Binary64 := do
  let (negative, unsigned) := Decimal.readSign (lower (t.filter (· != '_')))
  if t.all (· == '_') then throw .malformed
  else if unsigned == ".inf".toList then return .infinite negative
  else if unsigned == ".nan".toList then return .nan
  else if unsigned.contains ':' then
    let parts ← (unsigned.splitOn ':').mapM readFloat
    return signed negative (sumSixtieths 1 (.finite false 0) parts.reverse)
  else return signed negative (← readFloat unsigned)

/-! ## Dates -/

/-- Up to `most` digits in front of a text, at least `least` of them, as a number, and the rest. -/
def digits? (least most : Nat) (t : Text) : Option (Nat × Text) :=
  let ds := (t.take most).takeWhile Char.isDigit
  if ds.length < least then none else some (inBase 10 ds, t.drop ds.length)

def after? (c : Char) (t : Text) : Option Text :=
  match t with
  | d :: rest => if c == d then some rest else none
  | [] => none

/-- The microseconds in front of a text, and the rest. -/
def fraction (t : Text) : Nat × Text :=
  match t with
  | '.' :: rest =>
    let ds := rest.takeWhile Char.isDigit
    let six := ds.take 6
    (inBase 10 (six ++ List.replicate (6 - six.length) '0'), rest.drop ds.length)
  | _ => (0, t)

def isSpaceOrTab (c : Char) : Bool := c == ' ' || c == '\t'

/-- The time zone that a text names, in minutes: nothing, `Z`, or hours and minutes with a sign. -/
def zone? (t : Text) : Option (Option Int) :=
  match t.dropWhile isSpaceOrTab with
  | [] => if t.isEmpty then some none else none
  | ['Z'] => some (some 0)
  | sign :: rest =>
    if sign == '+' || sign == '-' then do
      let (hours, rest) ← digits? 1 2 rest
      let minutes ← match rest with
        | [] => some 0
        | ':' :: rest => (digits? 2 2 rest).bind fun (m, rest) => if rest.isEmpty then some m else none
        | _ => none
      let offset := Int.ofNat (60 * hours + minutes)
      some (some (if sign == '-' then -offset else offset))
    else none

/-- The rest of a text after what divides a date from a time. -/
def afterDate? (t : Text) : Option Text :=
  match t with
  | c :: rest =>
    if c == 'T' || c == 't' then some rest
    else if isSpaceOrTab c then some (rest.dropWhile isSpaceOrTab)
    else none
  | [] => none

/-- The value of a date with or without a time, if the text has the form of one. A date alone has two digits for the
month and the day. -/
def timestamp? (t : Text) : Option (Except Fault Value) := do
  let (year, rest) ← digits? 4 4 t
  let rest ← after? '-' rest
  let (month, rest) ← digits? 1 2 rest
  let rest ← after? '-' rest
  let (day, rest) ← digits? 1 2 rest
  if rest.isEmpty then
    if t.length == 10 then
      some (((Date.of year month day).mapError Fault.outOfRange).map Value.date)
    else none
  else
    let rest ← afterDate? rest
    let (hour, rest) ← digits? 1 2 rest
    let rest ← after? ':' rest
    let (minute, rest) ← digits? 2 2 rest
    let rest ← after? ':' rest
    let (second, rest) ← digits? 2 2 rest
    let (micro, rest) := fraction rest
    let offset ← zone? rest
    some (((Moment.of year month day hour minute second micro offset).mapError Fault.outOfRange).map Value.moment)

/-! ## All values -/

def truth? (word : Text) : Option Bool :=
  match String.ofList word with
  | "yes" | "true" | "on" => some true
  | "no" | "false" | "off" => some false
  | _ => none

/-- The word is in lower case, in upper case, or begins with a capital letter. -/
def isUniform (word : Text) : Bool :=
  word.all Char.isLower || word.all Char.isUpper || (word.head?.any Char.isUpper && word.tail.all Char.isLower)

def isNull (t : Text) : Bool := ["", "~", "null", "Null", "NULL"].contains (String.ofList t)

/-- The key under which other mappings are merged. -/
def isMerge (t : Text) : Bool := t == ['<', '<']

/-- The key of a default value. -/
def isDefault (t : Text) : Bool := t == ['=']

/-- The value that a plain scalar stands for; the marks of merged and default values stand for none. -/
def plainValue (t : Text) : Except Fault Value :=
  if isNull t then .ok .null
  else if isMerge t || isDefault t then .error .malformed
  else match if isUniform t then truth? (t.map Char.toLower) else none, timestamp? t with
    | some b, _ => .ok (.bool b)
    | none, some v => v
    | none, none =>
      if looksFloat t then (float t).map .float
      else if looksInteger t then (integer t).map .int
      else .ok (.text t)

def value (form : Form) (t : Text) : Except Fault Value :=
  match form with
  | .plain => plainValue t
  | .text => .ok (.text t)
  | .null => .ok .null
  | .truth => match truth? (lower t) with
    | some b => .ok (.bool b)
    | none => .error .malformed
  | .integer => (integer t).map .int
  | .float => (float t).map .float
  | .timestamp => (timestamp? t).getD (.error .malformed)

end Scalar

end Stylebook.Yaml
