import Stylebook.Yaml.Cursor

/-!
# Plain scalars

A scalar without quotes may go on over several lines, which are joined by single spaces, as long as these are indented.

* `Plain.starts` : a plain scalar begins here;
* `Plain.read` : its text, the place after it, and whether that place is on a later line than its last word.
-/

namespace Stylebook.Yaml.Plain

/-- The brackets and marks that end a plain scalar inside a flow collection. -/
def isFlowMark (c : Char) : Bool :=
  c == ',' || c == '[' || c == ']' || c == '\x7b' || c == '\x7d'

/-- The characters that begin something other than a plain scalar. -/
def indicators : Text := "-?:,[]\x7b\x7d#&*!|>'\"%@".toList ++ [Char.ofNat 0x60]

def starts (inFlow : Bool) : Text → Bool
  | [] => false
  | c :: rest =>
    !(isGap c || indicators.contains c) ||
      (!endsToken rest && (c == '-' || (!inFlow && (c == '?' || c == ':'))))

/-- After a colon, the colon ends the scalar before it. -/
def endsKey (inFlow : Bool) (t : Text) : Bool := endsToken t || (inFlow && t.head?.any isFlowMark)

/-- The length of the part of a plain scalar that has no blanks. -/
def chunkLength (inFlow : Bool) : Text → Nat
  | [] => 0
  | c :: rest =>
    if isGap c || (c == ':' && endsKey inFlow rest) || (inFlow && (isFlowMark c || c == '?')) then 0
    else chunkLength inFlow rest + 1

/-- The line breaks, and the number of characters, of further empty lines and of the spaces after them; no line
breaks if a line is reached that begins or ends a document. -/
def emptyLines (fresh : Bool) : Text → Option Text × Nat
  | [] => (some [], 0)
  | c :: rest =>
    if fresh && isMarker (c :: rest) then (none, 0)
    else if c == ' ' then let (breaks, n) := emptyLines false rest; (breaks, n + 1)
    else if isBreak c then
      let (breaks, n) := emptyLines true rest
      (breaks.map (normalBreak c :: ·), n + 1)
    else (some [], 0)

/-- What joins two lines: a space, or the line breaks beyond the first. -/
def joint (first : Char) (others : Text) : Text :=
  if normalBreak first != '\n' then first :: others
  else if others.isEmpty then [' '] else others

/-- The blanks inside a plain scalar at the cursor, as they count, and the place after them. -/
def spacing (cur : Cursor) : Text × Cursor :=
  let spaces := cur.rest.takeWhile (· == ' ')
  let after := cur.skip spaces.length
  match after.rest with
  | c :: _ =>
    if isBreak c then
      let (breaks, n) := emptyLines true after.step.rest
      ((breaks.map (joint c)).getD [], after.step.skip n)
    else (spaces, after)
  | [] => (spaces, after)

/-- Reads on in a plain scalar; its further lines begin at column `least` or later. -/
def readFrom (inFlow : Bool) (least : Nat) (read : Text) (cur : Cursor) : (fuel : Nat) → Text × Cursor × Bool
  | 0 => (read, cur, false)
  | fuel + 1 =>
    let n := chunkLength inFlow cur.rest
    let chunk := cur.rest.take n
    let (blanks, next) := spacing (cur.skip n)
    let ends := blanks.isEmpty || next.rest.head? == some '#' || chunkLength inFlow next.rest == 0 ||
      (!inFlow && next.column < least)
    if ends then (read ++ chunk, next, cur.line < next.line)
    else readFrom inFlow least (read ++ chunk ++ blanks) next fuel

/-- The plain scalar at the cursor, the place after it, and whether a line ends between its last word and that place. -/
def read (inFlow : Bool) (least : Nat) (cur : Cursor) : Text × Cursor × Bool :=
  readFrom inFlow least [] cur (cur.rest.length + 1)

end Stylebook.Yaml.Plain
