import Stylebook.Text.Basic
import Stylebook.Text.Digit

/-!
# Lines that mark blocks

* `codeIndent`, `outdent`, `isIndented` : the indentation of code and of what belongs to a list item;
* `listItem?` : the text after the marker of a list item, and whether the marker is a number;
* `heading?`, `underline?` : a line that is a heading, and one that makes a heading of the line above it;
* `isRule` : a line of marks that divides a text;
* `quoted?` : the rest of a quoted line.
-/

namespace Stylebook.Markdown

open Text

def codeIndent : Text := [' ', ' ', ' ', ' ']

def isIndented (line : Text) : Bool := codeIndent.isPrefixOf line

/-- The line without `levels` indentations, if it has that many. -/
def outdent (levels : Nat) (line : Text) : Text :=
  (afterText? (List.replicate levels codeIndent).flatten line).getD line

/-- The rest of a line after fewer spaces than the indentation of code. -/
def unindented? (line : Text) : Option Text :=
  if isIndented line then none else some (line.dropWhile (· == ' '))

/-- The text after the marker of a list item, and whether the marker is a number. -/
def listItem? (line : Text) : Option (Bool × Text) := do
  let unindented ← unindented? line
  let number := unindented.takeWhile isDecimal
  let (mark, rest) ← match unindented.drop number.length with
    | c :: rest => some (c, rest)
    | [] => none
  guard (if number.isEmpty then mark == '*' || mark == '+' || mark == '-' else mark == '.')
  match rest with
  | ' ' :: item => some (!number.isEmpty, item.dropWhile (· == ' '))
  | _ => none

/-- The title that a heading has after its opening marks: marks at its end do not count, unless a backslash
makes one literal. A lone backslash at the end makes it no heading. -/
def title? : Text → Option Text
  | [] => some []
  | ['\\'] => none
  | '\\' :: c :: rest => (title? rest).map ('\\' :: c :: ·)
  | c :: rest => if c == '#' && rest.all (· == '#') then some [] else (title? rest).map (c :: ·)

/-- The level and the title of a heading: one to six marks, then the title. -/
def heading? (line : Text) : Option (Nat × Text) :=
  let level := min 6 (line.takeWhile (· == '#')).length
  if level == 0 then none else (title? (line.drop level)).map fun title => (level, trim title)

/-- The level of the heading that an underline of one mark makes of the line above it. -/
def underline? (line : Text) : Option Nat :=
  match (line.reverse.dropWhile (· == ' ')).reverse with
  | [] => none
  | c :: rest =>
    if !rest.all (· == c) then none else if c == '=' then some 1 else if c == '-' then some 2 else none

/-- The line is a rule: three or more of one mark, with at most two spaces between them. -/
def isRule (line : Text) : Bool :=
  match unindented? line with
  | some (c :: rest) =>
    (c == '-' || c == '_' || c == '*') && rest.all (fun d => d == c || d == ' ') &&
      2 ≤ rest.count c && !hasText [' ', ' ', ' ', c] rest
  | _ => false

def quoted? (line : Text) : Option Text :=
  match unindented? line with
  | some ('>' :: ' ' :: rest) | some ('>' :: rest) => some rest
  | _ => none

end Stylebook.Markdown
