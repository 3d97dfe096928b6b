import Stylebook.Yaml.Cursor

/-!
# Block scalars

After a bar the lines of a block scalar stay as they are; after a greater-than sign single line breaks between them are
folded. The lines stand at one column, given by the first of them or by a digit in the head of the scalar.

* `Literal.Head` : what the head of a block scalar says;
* `Literal.read?` : the scalar at a cursor, and the place after it.
-/

namespace Stylebook.Yaml.Literal

/-- The head of a block scalar: what becomes of line breaks at its end, and its indentation if it is given. -/
structure Head where
  folded : Bool
  keepsBreaks : Option Bool := none
  indentation : Option Nat := none

/-- The head with one more indicator read from the text; nothing if the indicator is the digit zero. -/
def Head.withDigit? (h : Head) (c : Char) : Option Head :=
  if c == '0' then none else some { h with indentation := some (c.toNat - '0'.toNat) }

/-- Whether the character tells what becomes of line breaks. -/
def isBreakSign (c : Char) : Bool := c == '+' || c == '-'

/-- Reads the indicators of a head, each kind at most once, and tells how many there are. -/
def Head.read? (h : Head) : Text → Option (Head × Nat)
  | [] => some (h, 0)
  | c :: rest =>
    if isBreakSign c then
      let h := { h with keepsBreaks := some (c == '+') }
      match rest.head? with
      | some d => if d.isDigit then (h.withDigit? d).map (·, 2) else some (h, 1)
      | none => some (h, 1)
    else if c.isDigit then do
      let h ← h.withDigit? c
      match rest.head? with
      | some d => if isBreakSign d then some ({ h with keepsBreaks := some (d == '+') }, 2) else some (h, 1)
      | none => some (h, 1)
    else some (h, 0)

/-- The breaks of empty lines in front, the widest column of their spaces and of those after them, and the number of
characters. -/
def emptyLines (column widest : Nat) : Text → Text × Nat × Nat
  | [] => ([], widest, 0)
  | c :: rest =>
    if c == ' ' then
      let (breaks, w, n) := emptyLines (column + 1) (max widest (column + 1)) rest
      (breaks, w, n + 1)
    else if isBreak c then
      let (breaks, w, n) := emptyLines 0 widest rest
      (normalBreak c :: breaks, w, n + 1)
    else ([], widest, 0)

/-- The breaks of empty lines in front, whose spaces do not go beyond the indentation, and the number of characters up
to the content of the next line. -/
def breaksWithin (indent column : Nat) : Text → Text × Nat
  | [] => ([], 0)
  | c :: rest =>
    if c == ' ' && column < indent then
      let (breaks, n) := breaksWithin indent (column + 1) rest
      (breaks, n + 1)
    else if isBreak c then
      let (breaks, n) := breaksWithin indent 0 rest
      (normalBreak c :: breaks, n + 1)
    else ([], 0)

/-- The lines of a block scalar, the break of the last one, the breaks of empty lines after it, and the place after
them; `breaks` are those of empty lines just before. -/
def linesFrom (folded : Bool) (indent : Nat) (breaks : Text) (cur : Cursor) :
    (fuel : Nat) → Text × Text × Text × Cursor
  | 0 => ([], [], breaks, cur)
  | fuel + 1 =>
    if cur.column == indent && !cur.rest.isEmpty then
      let line := cur.rest.takeWhile (!isBreak ·)
      let ended := cur.skip line.length
      let lineBreak := (ended.rest.take 1).map normalBreak
      let start := ended.step
      let (more, n) := breaksWithin indent start.column start.rest
      let next := start.skip n
      if next.column == indent && !next.rest.isEmpty then
        let isLoose (t : Text) : Bool := t.head?.any fun c => c == ' ' || c == '\t'
        let between :=
          if folded && lineBreak == ['\n'] && !isLoose cur.rest && !isLoose next.rest then
            (if more.isEmpty then [' '] else [])
          else lineBreak
        let (content, last) := linesFrom folded indent more next fuel
        (breaks ++ line ++ between ++ content, last)
      else (breaks ++ line, lineBreak, more, next)
    else ([], [], breaks, cur)

/-- The block scalar at the cursor, inside a collection at column `outer`, and the place after it. -/
def read? (outer : Int) (cur : Cursor) : Option (Text × Cursor) := do
  let (head, n) ← Head.read? { folded := cur.rest.head? == some '>' } (cur.rest.drop 1)
  let ended := cur.skip (n + 1)
  if !endsWord ended.rest then none
  else
    let start ← ended.skipLineEnd?
    let least := max 1 (outer + 1).toNat
    let (indent, breaks, count) := match head.indentation with
      | some k =>
        let indent := least + k - 1
        let (breaks, count) := breaksWithin indent start.column start.rest
        (indent, breaks, count)
      | none =>
        let (breaks, widest, count) := emptyLines start.column 0 start.rest
        (max least widest, breaks, count)
    let (content, lineBreak, after, last) :=
      linesFrom head.folded indent breaks (start.skip count) (cur.rest.length + 1)
    let tail := match head.keepsBreaks with
      | none => lineBreak
      | some true => lineBreak ++ after
      | some false => []
    some (content ++ tail, last)

end Stylebook.Yaml.Literal
