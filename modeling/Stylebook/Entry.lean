import Stylebook.Text.Basic

/-!
# Entries

A section lists its variants or arguments as lines of the form `name - description`.

* `Entry.starts line` : the line begins an entry;
* `Entry.collect? paragraph` : one line per entry of a paragraph that begins with one, the lines between them
  joined to the entry before;
* `Entry.ofLine` : name and description of such a line;
* `Entry.className` : the name of a variant as the value of a `class` attribute.
-/

namespace Stylebook

open Text

structure Entry where
  name : Text
  description : Text := []
  deriving DecidableEq

namespace Entry

/-- After some blanks, the text goes on with a dash and a blank. -/
def dashFollows (t : Text) : Bool :=
  match trimStart t with
  | '-' :: c :: _ => isBlank c
  | _ => false

/-- The line begins an entry: blanks at most, a word, blanks, a dash and a blank. -/
def starts (line : Text) : Bool := dashFollows ((trimStart line).dropWhile (!isBlank ·))

/-- The lines of entries, given the one being read and the lines after it. -/
def collectFrom (current : Text) : List Text → List Text
  | [] => [current]
  | line :: rest =>
    if starts line then current :: collectFrom line rest
    else collectFrom (current ++ ' ' :: trim line) rest

/-- One line per entry, if the paragraph begins with an entry. -/
def collect? (paragraph : Text) : Option (List Text) :=
  match lines paragraph with
  | first :: rest => if starts first then some (collectFrom first rest) else none
  | [] => none

/-- What follows blanks, a dash and blanks at the start of a text. -/
def afterSeparator? (t : Text) : Option Text :=
  match t with
  | [] => none
  | c :: _ =>
    match trimStart t with
    | '-' :: d :: rest => if isBlank c && isBlank d then some (trimStart rest) else none
    | _ => none

/-- The texts before and after the first separator: a dash between blanks. -/
def cut? : Text → Option (Text × Text)
  | [] => none
  | c :: rest =>
    match afterSeparator? (c :: rest) with
    | some description => some ([], description)
    | none => (cut? rest).map fun (name, description) => (c :: name, description)

/-- Name and description of a line; without a separator the description is empty. -/
def ofLine (line : Text) : Entry :=
  match cut? line with
  | some (name, description) => { name := trim name, description }
  | none => { name := trim line }

/-- The name as a `class` attribute: a dot begins another class, a colon a pseudo-class. -/
def className (e : Entry) : Text :=
  trim (replaceChar ':' " pseudo-class-".toList (replaceChar '.' [' '] e.name))

end Entry

end Stylebook
