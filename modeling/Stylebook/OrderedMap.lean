/-!
# Ordered maps

An ordered map holds each key once, in the order in which the keys were first inserted; a later value for a
key takes the place of the earlier one.

* `insert`, `get?`, `contains`, `keys` : the operations, on the list of `entries`;
* `ofList` : insertion one after the other;
* `sameAs` : equality as a mapping, whatever the order.
-/

namespace Stylebook

/-- Pairs of keys and values in the order of first insertion. -/
structure OrderedMap (κ ν : Type) where
  entries : List (κ × ν) := []
  deriving DecidableEq

namespace OrderedMap

variable {κ ν : Type} [BEq κ]

/-- The pairs with `value` under `key`, in place if the key is there and at the end otherwise. -/
def insertIn (key : κ) (value : ν) : List (κ × ν) → List (κ × ν)
  | [] => [(key, value)]
  | (k, v) :: rest =>
    if k == key then (k, value) :: rest else (k, v) :: insertIn key value rest

def insert (m : OrderedMap κ ν) (key : κ) (value : ν) : OrderedMap κ ν := ⟨insertIn key value m.entries⟩

def get? (m : OrderedMap κ ν) (key : κ) : Option ν := (m.entries.find? (·.1 == key)).map (·.2)

def contains (m : OrderedMap κ ν) (key : κ) : Bool := m.entries.any (·.1 == key)

def keys (m : OrderedMap κ ν) : List κ := m.entries.map (·.1)

/-- The map made by inserting pairs one after the other. -/
def ofList (pairs : List (κ × ν)) : OrderedMap κ ν := pairs.foldl (fun m p => m.insert p.1 p.2) {}

def sameAs [BEq ν] (a b : OrderedMap κ ν) : Bool :=
  a.entries.length == b.entries.length && a.entries.all fun p => b.get? p.1 == some p.2

end OrderedMap

end Stylebook
