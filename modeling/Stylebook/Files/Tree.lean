import Stylebook.Files.Path

/-!
# File trees

* `Node` : a file with its bytes, or a folder of named nodes;
* `Node.look` : the node that a relative path leads to, where `..` leads back to the folder above;
* `Node.place` : the tree with a node at a list of names, the folders on the way being made;
* `Node.files` : the files below a node, with the names that lead to them.
-/

namespace Stylebook

inductive Node where
  | file (bytes : List UInt8)
  | folder (entries : List (Text × Node))

namespace Node

/-- The names and nodes in a folder; a file has none. -/
def entries : Node → List (Text × Node)
  | .folder es => es
  | .file _ => []

/-- Follows names from a node that lies in the given folders, the innermost first. Names lead on from folders
only. -/
def walk (above : List Node) (here : Node) : List Text → Option Node
  | [] => some here
  | name :: rest =>
    match here with
    | .file _ => none
    | .folder es =>
      if name == ['.', '.'] then
        match above with
        | parent :: others => walk others parent rest
        | [] => none
      else
        match es.lookup name with
        | some node => walk (here :: above) node rest
        | none => none

/-- The node that a path leads to from the root of a tree; only relative paths lead anywhere. -/
def look (root : Node) (p : Path) : Option Node :=
  if p.root.isEmpty then root.walk [] p.names else none

/-- The entries with `node` under `name`. -/
def setEntry (name : Text) (node : Node) : List (Text × Node) → List (Text × Node)
  | [] => [(name, node)]
  | (n, x) :: rest => if n == name then (n, node) :: rest else (n, x) :: setEntry name node rest

/-- The node `old` with `node` placed below it at the given names. A folder placed on a folder changes
nothing. -/
def place (node : Node) (old : Option Node) : List Text → Node
  | [] =>
    match node, old with
    | .folder _, some (.folder es) => .folder es
    | _, _ => node
  | name :: rest =>
    let es := (old.map entries).getD []
    .folder (setEntry name (place node (es.lookup name) rest) es)

mutual

/-- The files below a node, each with the names that lead to it. -/
def files : Node → List (List Text × List UInt8)
  | .file bytes => [([], bytes)]
  | .folder es => filesIn es

def filesIn : List (Text × Node) → List (List Text × List UInt8)
  | [] => []
  | (name, node) :: rest => (node.files.map fun f => (name :: f.1, f.2)) ++ filesIn rest

end

end Node

end Stylebook
