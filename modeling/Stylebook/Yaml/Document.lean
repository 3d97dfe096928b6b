import Stylebook.Yaml.Node

/-!
# YAML documents

* `Node.flatten` : a node in which each mapping holds the pairs of the mappings merged into it, in front of its own;
* `Node.fault?` : what is wrong with the scalars of a node, found level by level;
* `Node.value` : the value of a node. A later pair with an equal key takes the place of the earlier one;
* `read` : the value of a whole text, which holds one document at most.
-/

namespace Stylebook.Yaml

namespace Node

/-- The node is a key under which other mappings are merged. -/
def isMerge : Node → Bool
  | .scalar .plain t => Scalar.isMerge t
  | _ => false

/-! ## Merging -/

/-- The pairs of a mapping; nothing for other nodes. -/
def pairs? : Node → Option (List (Node × Node))
  | .mapping pairs => some pairs
  | _ => none

/-- The pairs that a node gives to a mapping that it is merged into: those of a mapping, or those of the mappings of a
sequence, the last mapping first. -/
def mergedPairs? : Node → Option (List (Node × Node))
  | .mapping pairs => some pairs
  | .sequence items => (items.mapM pairs?).map fun lists => lists.reverse.flatten
  | _ => none

/-- The merged pairs of a mapping in front of its own; nothing if what is merged is no mapping. -/
def flatPairs? (pairs : List (Node × Node)) : Option (List (Node × Node)) := do
  let merged ← (pairs.filter (·.1.isMerge)).mapM fun p => p.2.mergedPairs?
  some (merged.flatten ++ pairs.filter (!·.1.isMerge))

mutual

/-- The node with merged mappings; a mapping that cannot be merged holds a refused pair. -/
def flatten : Node → Node
  | .scalar form t => .scalar form t
  | .sequence items => .sequence (flattenAll items)
  | .mapping pairs => .mapping ((flatPairs? (flattenPairs pairs)).getD [(.refused, .refused)])
  | .refused => .refused

def flattenAll : List Node → List Node
  | [] => []
  | n :: rest => n.flatten :: flattenAll rest

def flattenPairs : List (Node × Node) → List (Node × Node)
  | [] => []
  | (k, v) :: rest => (k.flatten, v.flatten) :: flattenPairs rest

end

/-! ## Faults -/

/-- The value of a scalar as a key, where the mark of a default value is a text. -/
def keyOf (form : Form) (t : Text) : Except Fault Value :=
  if form == .plain && Scalar.isDefault t then .ok (.text t) else Scalar.value form t

def faultOf {α : Type} : Except Fault α → Option Fault
  | .ok _ => none
  | .error f => some f

/-- What is wrong with a node as a value, not counting what it holds. -/
def valueFault? : Node → Option Fault
  | .scalar form t => faultOf (Scalar.value form t)
  | .refused => some .malformed
  | .sequence _ | .mapping _ => none

/-- What is wrong with a node as a key; a collection cannot be one. -/
def keyFault? : Node → Option Fault
  | .scalar form t => faultOf (keyOf form t)
  | _ => some .malformed

/-- What is wrong with the members of a collection, not counting what these hold. -/
def memberFault? : Node → Option Fault
  | .sequence items => items.findSome? valueFault?
  | .mapping pairs => pairs.findSome? fun (k, v) => k.keyFault? <|> v.valueFault?
  | .scalar _ _ | .refused => none

def members : Node → List Node
  | .sequence items => items
  | .mapping pairs => pairs.map (·.2)
  | .scalar _ _ | .refused => []

mutual

/-- The number of collections inside each other. -/
def depth : Node → Nat
  | .scalar _ _ | .refused => 0
  | .sequence items => depthAll items + 1
  | .mapping pairs => depthPairs pairs + 1

def depthAll : List Node → Nat
  | [] => 0
  | n :: rest => max n.depth (depthAll rest)

def depthPairs : List (Node × Node) → Nat
  | [] => 0
  | (_, v) :: rest => max v.depth (depthPairs rest)

end

/-- What is wrong with the members of some nodes, then with the members of these, and so on down to a depth. -/
def levelFault? : (depth : Nat) → List Node → Option Fault
  | 0, _ => none
  | depth + 1, nodes => nodes.findSome? memberFault? <|> levelFault? depth (nodes.flatMap members)

/-- What is wrong with a node: with itself, else with its members, and so on. -/
def fault? (n : Node) : Option Fault := n.valueFault? <|> levelFault? n.depth [n]

/-! ## Values -/

/-- The keys are equal; as keys all that are no number are. -/
def sameKey (a b : Value) : Bool :=
  match a, b with
  | .float .nan, .float .nan => true
  | a, b => a.equal b

/-- The value of what was read, null in the place of a fault. -/
def orNull : Except Fault Value → Value
  | .ok v => v
  | .error _ => .null

mutual

/-- The value of a node without faults. -/
def value : Node → Value
  | .scalar form t => orNull (Scalar.value form t)
  | .sequence items => .list (values items)
  | .mapping pairs => .map (@OrderedMap.ofList _ _ ⟨sameKey⟩ (valuePairs pairs)).entries
  | .refused => .null

def values : List Node → List Value
  | [] => []
  | n :: rest => n.value :: values rest

def valuePairs : List (Node × Node) → List (Value × Value)
  | [] => []
  | (.scalar form t, v) :: rest => (orNull (keyOf form t), v.value) :: valuePairs rest
  | (_, v) :: rest => (.null, v.value) :: valuePairs rest

end

end Node

def isAllowed (c : Char) : Bool :=
  let n := c.toNat
  n == 0x09 || n == 0x0a || n == 0x0d || (0x20 ≤ n && n ≤ 0x7e) || n == 0x85 || (0xa0 ≤ n && n ≤ 0xfffd) ||
    0x10000 ≤ n

/-- The value of a text, null if it holds nothing. -/
def read (t : Text) : Except Fault Value :=
  if !t.all isAllowed then .error .malformed
  else do
    let tokens ← Token.ofText (Text.unifyNewlines t)
    match Node.ofTokens? tokens with
    | none => .error .malformed
    | some n =>
      let n := n.flatten
      match n.fault? with
      | some f => .error f
      | none => .ok n.value

end Stylebook.Yaml
