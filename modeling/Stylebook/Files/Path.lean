import Stylebook.Text.Basic
import Stylebook.Text.Order

/-!
# Paths

A path is a list of names below a root. Empty names and `.` do not count, `..` does.

* `Path.ofText`, `Path.text` : reading and writing; the empty path is written `.`;
* `Path.name` : the last name;
* `Path.isBefore` : the order of paths, name by name.
-/

namespace Stylebook

open Text

/-- A path: the slashes in front, if any, and the names. -/
structure Path where
  root : Text := []
  names : List Text := []
  deriving DecidableEq

namespace Path

/-- The root that a text begins with. Two slashes are a root of their own, three or more count as one. -/
def rootOf (t : Text) : Text :=
  match (t.takeWhile (· == '/')).length with
  | 0 => []
  | 2 => ['/', '/']
  | _ => ['/']

def ofText (t : Text) : Path where
  root := rootOf t
  names := (t.splitOn '/').filter fun name => !name.isEmpty && name != ['.']

def text (p : Path) : Text :=
  if p.root.isEmpty && p.names.isEmpty then ['.'] else p.root ++ ['/'].intercalate p.names

/-- The last name of a path; the empty text where there is none. -/
def name (p : Path) : Text := p.names.getLastD []

def append (p : Path) (names : List Text) : Path := { p with names := p.names ++ names }

def isBefore (p q : Path) : Bool := List.lex p.names q.names Text.isBefore

end Path

end Stylebook
