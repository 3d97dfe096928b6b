import Stylebook.Calendar
import Stylebook.Number.Binary64
import Stylebook.OrderedMap
import Stylebook.Text.Quoted
import Stylebook.Weight

/-!
# Dynamic values

Configuration documents, and input whose shape is not known beforehand, are trees of such values.

* `Value` : the values, with lists and tuples kept apart; `Value.Object` : those of types that are not known here;
* `Value.kind` : the name of a value's type in messages;
* `Value.shown`, `Value.plain` : the text of a value as messages show it, and as it stands for itself; they
  differ on texts, which are quoted only when shown, and on dates;
* `Value.isWritable` : whether a value has such texts, that is, no integer with too many digits;
* `Value.equal` : equality, in which truth values count as 0 and 1 and numbers are compared by value;
* `Value.mapping` : the map with the given pairs, a later one taking the place of an equal key;
* `Value.built` : a value whose maps have been made in this way. Lists and maps cannot be keys.
-/

namespace Stylebook

open Text

/-- The names of the types whose values are known in full. -/
def Value.kinds : List Text :=
  ["NoneType", "bool", "int", "float", "str", "bytes", "date", "datetime", "list", "tuple", "dict"].map String.toList

/-- A value of another type, such as a set, or what is shown in the place of a collection inside itself. All that counts
of it are its texts and whether it counts as something. -/
structure Value.Object where
  kind : Text
  shown : Text
  plain : Text
  truth : Bool
  kind_not_mem : kind ∉ kinds

theorem Value.Object.kind_ne (o : Object) {t : Text} (ht : t ∈ kinds) : o.kind ≠ t :=
  fun h => o.kind_not_mem (h ▸ ht)

inductive Value where
  | null
  | bool (b : Bool)
  | int (n : Int)
  | float (x : Binary64)
  | text (t : Text)
  | bytes (bs : List UInt8)
  | date (d : Date)
  | moment (m : Moment)
  | list (items : List Value)
  | tuple (items : List Value)
  | map (pairs : List (Value × Value))
  | object (o : Value.Object)

namespace Value

def kind : Value → Text
  | .null => "NoneType".toList
  | .bool _ => "bool".toList
  | .int _ => "int".toList
  | .float _ => "float".toList
  | .text _ => "str".toList
  | .bytes _ => "bytes".toList
  | .date _ => "date".toList
  | .moment _ => "datetime".toList
  | .list _ => "list".toList
  | .tuple _ => "tuple".toList
  | .map _ => "dict".toList
  | .object o => o.kind

/-! ## Texts of values -/

def byteText (quote : Char) (b : UInt8) : Text :=
  let c := Char.ofNat b.toNat
  if 0x7f ≤ b.toNat then hexEscape c else quotedChar quote c

def bytesText (bs : List UInt8) : Text :=
  let cs := bs.map fun b => Char.ofNat b.toNat
  let quote := if cs.contains '\'' && !cs.contains '"' then '"' else '\''
  'b' :: quote :: bs.flatMap (byteText quote) ++ [quote]

/-- Texts between brackets, divided by commas. -/
def listed (opening closing : Char) (items : List Text) : Text :=
  opening :: [',', ' '].intercalate items ++ [closing]

mutual

/-- The text of a value in messages and inside other values. -/
def shown : Value → Text
  | .null => "None".toList
  | .bool true => "True".toList
  | .bool false => "False".toList
  | .int n => Weight.integerText n
  | .float x => x.text
  | .text t => quoted t
  | .bytes bs => bytesText bs
  | .date d => d.shown
  | .moment m => m.shown
  | .list items => listed '[' ']' (shownItems items)
  | .tuple [item] => '(' :: item.shown ++ [',', ')']
  | .tuple items => listed '(' ')' (shownItems items)
  | .map pairs => listed '\x7b' '\x7d' (shownPairs pairs)
  | .object o => o.shown

def shownItems : List Value → List Text
  | [] => []
  | v :: rest => v.shown :: shownItems rest

def shownPairs : List (Value × Value) → List Text
  | [] => []
  | (k, v) :: rest => (k.shown ++ [':', ' '] ++ v.shown) :: shownPairs rest

end

/-- The text of a value that stands for itself. -/
def plain : Value → Text
  | .text t => t
  | .date d => d.text
  | .moment m => m.text
  | .object o => o.plain
  | v => v.shown

mutual

/-- Every integer in the value has at most 4300 digits; others are not written. -/
def isWritable : Value → Bool
  | .int n => (Nat.toDigits 10 n.natAbs).length ≤ 4300
  | .list items => areWritable items
  | .tuple items => areWritable items
  | .map pairs => pairsWritable pairs
  | _ => true

def areWritable : List Value → Bool
  | [] => true
  | v :: rest => v.isWritable && areWritable rest

def pairsWritable : List (Value × Value) → Bool
  | [] => true
  | (k, v) :: rest => k.isWritable && v.isWritable && pairsWritable rest

end

/-! ## Equality -/

def number? : Value → Option Rat
  | .bool b => some (if b then 1 else 0)
  | .int n => some n
  | .float x => x.toRat?
  | _ => none

mutual

/-- The values are equal, as numbers if both count as such. -/
def equal : Value → Value → Bool
  | .null, .null => true
  | .text a, .text b => a == b
  | .bytes a, .bytes b => a == b
  | .date a, .date b => a == b
  | .moment a, .moment b => a.same b
  | .list as, .list bs => equalItems as bs
  | .tuple as, .tuple bs => equalItems as bs
  | .map as, .map bs => equalPairs as bs
  | .float (.infinite a), .float (.infinite b) => a == b
  | a, b =>
    match a.number?, b.number? with
    | some p, some q => p == q
    | _, _ => false

def equalItems : List Value → List Value → Bool
  | [], [] => true
  | a :: as, b :: bs => a.equal b && equalItems as bs
  | _, _ => false

def equalPairs : List (Value × Value) → List (Value × Value) → Bool
  | [], [] => true
  | (k, v) :: as, (l, w) :: bs => k.equal l && v.equal w && equalPairs as bs
  | _, _ => false

end

instance : BEq Value := ⟨equal⟩

/-- The map with the given pairs; a later pair with an equal key takes the place of the earlier one. -/
def mapping (pairs : List (Value × Value)) : Value := .map (OrderedMap.ofList pairs).entries

/-- A value that cannot be a key, by the name of its type. -/
structure KeyFault where
  kind : Text
  deriving DecidableEq

def KeyFault.message (f : KeyFault) : Text := "unhashable type: '".toList ++ f.kind ++ ['\'']

mutual

/-- What keeps a value from being a key: it is a list or a map, or a tuple that holds one. -/
def keyFault? : Value → Option KeyFault
  | .list items => some ⟨(Value.list items).kind⟩
  | .map pairs => some ⟨(Value.map pairs).kind⟩
  | .tuple items => keyFaultIn? items
  | _ => none

def keyFaultIn? : List Value → Option KeyFault
  | [] => none
  | v :: rest => v.keyFault? <|> keyFaultIn? rest

end

mutual

/-- The value with its maps made of their pairs. -/
def built : Value → Except KeyFault Value
  | .list items => return .list (← builtItems items)
  | .tuple items => return .tuple (← builtItems items)
  | .map pairs => return mapping (← builtPairs pairs)
  | v => .ok v

def builtItems : List Value → Except KeyFault (List Value)
  | [] => .ok []
  | v :: rest => return (← v.built) :: (← builtItems rest)

def builtPairs : List (Value × Value) → Except KeyFault (List (Value × Value))
  | [] => .ok []
  | (k, v) :: rest => do
    let key ← k.built
    let value ← v.built
    match key.keyFault? with
    | some f => throw f
    | none => return (key, value) :: (← builtPairs rest)

end

end Value

end Stylebook
