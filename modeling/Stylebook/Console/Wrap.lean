import Stylebook.Text.Basic
import Stylebook.Console.Width

/-!
# Lines in a frame of a given width

* `fullWidth` : the cells that a text asks for;
* `Overflow` : what becomes of a word that is wider than the frame;
* `wordsWithBlanks` : the words of a line, each with the blanks after it;
* `chop`, `fill` : a word in pieces, and words set line after line;
* `wrap` : the lines that a line takes up in a frame.

A word goes to the next line when it does not fit without the blanks after it. These blanks stay on the line, and are cut
where they leave the frame.
-/

namespace Stylebook.Console

open Text

/-- The character ends a line when widths are measured. -/
def endsMeasure (c : Char) : Bool :=
  let n := c.toNat
  (0x0a ≤ n && n ≤ 0x0d) || (0x1c ≤ n && n ≤ 0x1e) || n == 0x85 || n == 0x2028 || n == 0x2029

/-- The cells that a text asks for: those of its widest stretch without an end of line. -/
def fullWidth (t : Text) : Nat := ((t.splitOnP endsMeasure).map cells).foldl max 0

/-- What becomes of a word that is wider than the frame: it goes on in the next line, or its end is left out. -/
inductive Overflow where
  | fold
  | shorten
  deriving DecidableEq

/-- The words of a line, each with the blanks after it, and the first also with the blanks before it. There are none in a
line of blanks. -/
def wordsWithBlanks (t : Text) : List Text :=
  match (trimStart t).splitBy fun a b => !isBlank a || isBlank b with
  | [] => []
  | word :: rest => (t.takeWhile isBlank ++ word) :: rest

/-- The lines of the second list follow on those of the first: the last and the first line make one. -/
def joinLines : List Text → List Text → List Text
  | [], ls => ls
  | [p], [] => [p]
  | [p], l :: ls => (p ++ l) :: ls
  | p :: ps, ls => p :: joinLines ps ls

/-- Clusters in pieces that are no wider than a line of which some cells are used. -/
def chopClusters (width used : Nat) : List Cluster → List Text
  | [] => [[]]
  | k :: rest =>
    if used + k.width ≤ width then joinLines [k.chars] (chopClusters width (used + k.width) rest)
    else [] :: joinLines [k.chars] (chopClusters width k.width rest)

def chop (width : Nat) (t : Text) : List Text := chopClusters width 0 (clusters t)

/-- Words set line after line. The first line is the rest of one of which some cells are used. -/
def fill (overflow : Overflow) (width used : Nat) : List Text → List Text
  | [] => [[]]
  | word :: rest =>
    let need := cells (trimEnd word)
    if used + need ≤ width then joinLines [word] (fill overflow width (used + cells word) rest)
    else if need ≤ width || overflow == .shorten then
      [] :: joinLines [word] (fill overflow width (cells word) rest)
    else
      let pieces := chop width word
      [] :: joinLines pieces (fill overflow width (cells (pieces.getLast?.getD [])) rest)

/-- The beginning of some clusters with this many cells. A wide one that does not fit leaves a space. -/
def cropClusters (total : Nat) : List Cluster → Text
  | [] => []
  | k :: rest =>
    if k.width ≤ total then k.chars ++ cropClusters (total - k.width) rest
    else if total == 0 then []
    else [' ']

def crop (total : Nat) (t : Text) : Text := cropClusters total (clusters t)

/-- The text without those blanks at its end that make it longer than a line. -/
def cutBlanks (width : Nat) (t : Text) : Text :=
  let blanks := (t.reverse.takeWhile isBlank).length
  t.take (t.length - min blanks (t.length - width))

/-- The text as far as it fits into a line. -/
def fit (overflow : Overflow) (width : Nat) (t : Text) : Text :=
  if cells t ≤ width then t
  else
    match overflow with
    | .fold => crop width t
    | .shorten => crop (width - 1) t ++ ['…']

def wrap (overflow : Overflow) (width : Nat) (t : Text) : List Text :=
  let broken :=
    match fill overflow width 0 (wordsWithBlanks t) with
    | [[]] => [t]
    | [] :: rest => rest
    | ls => ls
  broken.map fun line => fit overflow width (cutBlanks width line)

end Stylebook.Console
