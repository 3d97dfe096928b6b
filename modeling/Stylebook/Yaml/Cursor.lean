import Stylebook.Text.Basic

/-!
# Places in a YAML document

Layout matters in YAML, so that a reader knows the line and the column of what it reads.

* `Cursor` : the text that is left, with its place;
* `Cursor.step`, `Cursor.skip` : past one character, and past several;
* `Cursor.skipGap` : past spaces, comments and line breaks. Tabs are no layout, so that nothing is found where a tab
  stands;
* `isBreak`, `endsToken` : the characters that end a line, and those that end a token;
* `isMarker` : a line that begins or ends a document.
-/

namespace Stylebook.Yaml

/-- The mark that may stand in front of a text. -/
def orderMark : Char := Char.ofNat 0xfeff

/-- The character ends a line. -/
def isBreak (c : Char) : Bool :=
  c == '\n' || c.toNat == 0x85 || c.toNat == 0x2028 || c.toNat == 0x2029

/-- The character is a space, a tab or the end of a line. -/
def isGap (c : Char) : Bool := c == ' ' || c == '\t' || isBreak c

/-- The text is at its end, or goes on with a space, a tab or the end of a line. -/
def endsToken (t : Text) : Bool := t.head?.all isGap

/-- The text is at its end, or goes on with a space or the end of a line. -/
def endsWord (t : Text) : Bool := t.head?.all fun c => c == ' ' || isBreak c

def endsLine (t : Text) : Bool := t.head?.all isBreak

/-- A line break as it counts inside a scalar. -/
def normalBreak (c : Char) : Char :=
  if c.toNat == 0x2028 || c.toNat == 0x2029 then c else '\n'

/-- The line begins with a mark of three characters of its own. -/
def hasMark (mark : Char) : Text → Bool
  | a :: b :: c :: rest => a == mark && b == mark && c == mark && endsToken rest
  | _ => false

/-- The line begins or ends a document. -/
def isMarker (line : Text) : Bool := hasMark '-' line || hasMark '.' line

/-- The text that is left, with its place in the document. -/
structure Cursor where
  rest : Text
  index : Nat := 0
  line : Nat := 0
  column : Nat := 0
  deriving DecidableEq

/-- The number of characters that spaces, comments and line breaks take up in front of a text. -/
def gapLength (inComment : Bool) : Text → Nat
  | [] => 0
  | c :: rest =>
    if isBreak c then gapLength false rest + 1
    else if inComment || c == '#' then gapLength true rest + 1
    else if c == ' ' then gapLength false rest + 1
    else 0

namespace Cursor

/-- Past one character; the order mark takes up no column. -/
def step (cur : Cursor) : Cursor :=
  match cur.rest with
  | [] => cur
  | c :: rest =>
    if isBreak c then ⟨rest, cur.index + 1, cur.line + 1, 0⟩
    else ⟨rest, cur.index + 1, cur.line, if c == orderMark then cur.column else cur.column + 1⟩

def skip (cur : Cursor) : Nat → Cursor
  | 0 => cur
  | n + 1 => cur.step.skip n

def skipWhile (p : Char → Bool) (cur : Cursor) : Cursor := cur.skip (cur.rest.takeWhile p).length

def skipSpaces (cur : Cursor) : Cursor := cur.skipWhile (· == ' ')

/-- Past spaces, comments and line breaks. -/
def skipGap (cur : Cursor) : Cursor := cur.skip (gapLength false cur.rest)

/-- Past spaces and a comment, which nothing else may follow on the line, to the next line. -/
def skipLineEnd? (cur : Cursor) : Option Cursor :=
  let next := cur.skipSpaces
  let next := if next.rest.head? == some '#' then next.skipWhile (!isBreak ·) else next
  if endsLine next.rest then some next.step else none

end Cursor

end Stylebook.Yaml
