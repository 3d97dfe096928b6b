import Stylebook.Console.Markup
import Stylebook.Console.Wrap

/-!
# Console output

* `Line` : a line of output: a text, or a row of cells in a frame;
* `shownLines` : the lines of a plain text as the console shows them, without controls and with tabs filled up to
  every eighth column;
* `framedLines` : the same in a frame, where a line can take up several;
* `printed`, `panel`, `table` : a message, a framed text and a table.

A frame is as wide as its text was before tabs were filled up. Spaces around a line or cell do not count. Empty lines count
only inside a frame.
-/

namespace Stylebook.Console

open Text

inductive Line where
  | text (t : Text)
  | row (cells : List Text)
  deriving DecidableEq

/-- A line as text, the cells of a row between bars. -/
def Line.shown : Line → Text
  | .text t => t
  | .row cells => cells.flatMap (fun cell => ['|', ' '] ++ cell ++ [' ']) ++ ['|']

/-- The character moves the cursor or rings the bell, and is not shown. -/
def isControl (c : Char) : Bool :=
  let n := c.toNat
  n == 0x07 || n == 0x08 || n == 0x0b || n == 0x0c || n == 0x0d

/-- Parts of a text that were divided by tabs, with these filled up to every eighth column. A tab is at least one space wide,
and counts as part of the text before it. -/
def fillParts (column : Nat) : List Text → Text
  | [] => []
  | [t] => t
  | t :: rest =>
    let part := t ++ [' ']
    let column := column + cells part
    let missing := (8 - column % 8) % 8
    part ++ List.replicate missing ' ' ++ fillParts (column + missing) rest

def fillTabs (t : Text) : Text := fillParts 0 (t.splitOn '\t')

def trimSpaces (t : Text) : Text :=
  ((t.dropWhile (· == ' ')).reverse.dropWhile (· == ' ')).reverse

def visible (t : Text) : Text := t.filter (!isControl ·)

def shownLines (t : Text) : List Text :=
  (lines (visible t)).map fun line => trimSpaces (fillTabs line)

def framedLines (overflow : Overflow) (width : Nat) (t : Text) : List Text :=
  (lines (visible t)).flatMap fun line => (wrap overflow width (fillTabs line)).map trimSpaces

/-- A text without markup outside of any frame. -/
def message (t : Text) : List Line := ((shownLines t).filter (!·.isEmpty)).map .text

/-- A text with markup outside of any frame. -/
def printed (markup : Text) : Except Markup.Fault (List Line) :=
  message <$> Markup.plain markup

/-- The cells that the title of a frame asks for. It stands between spaces. -/
def titleWidth (title : Text) : Nat :=
  if title.isEmpty then 0 else cells (' ' :: fillTabs (visible title) ++ [' '])

def panel (title markup : Text) : Except Markup.Fault (List Line) := do
  let head := replaceChar '\n' [' '] (← Markup.plain title)
  let body ← Markup.plain markup
  let width := max (fullWidth (visible body)) (titleWidth head)
  return message head ++ (framedLines .fold width body).map fun line => .row [line]

/-- The rows that cells of several lines take up; shorter cells are filled with empty lines. -/
def rowsOf (cells : List (List Text)) : List Line :=
  let height := (cells.map List.length).foldl max 0
  (List.range height).map fun i => .row (cells.map fun cell => cell[i]?.getD [])

def columnWidths (rows : List (List Text)) : List Nat :=
  match rows.map fun row => row.map fun cell => fullWidth (visible cell) with
  | [] => []
  | first :: rest => rest.foldl (List.zipWith max) first

/-- A table with a title and a row of headings, its cells with markup. -/
def table (title : Text) (headings : List Text) (rows : List (List Text)) :
    Except Markup.Fault (List Line) := do
  let body ← rows.mapM fun row => row.mapM Markup.plain
  let widths := columnWidths (headings :: body)
  return .text title :: .row headings ::
    body.flatMap fun row => rowsOf (List.zipWith (framedLines .shorten) widths row)

end Stylebook.Console
