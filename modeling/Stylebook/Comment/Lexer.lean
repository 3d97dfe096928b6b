import Stylebook.Text.Basic

/-!
# Comment blocks of a stylesheet

A block is the text of one comment without its markers. Three forms are read: runs of `//` lines, doc comments
opened by a lone `/**`, whose lines may begin with a star, and plain comments opened by any other lone `/*`,
whose lines lose the indentation of the first line that is not blank. Markers of the last two stand on lines
of their own; a comment still open at the end of the text counts.

* `Scan` : the comment that a lexer stands in, with the lines gathered so far;
* `Lexer.feed`, `Lexer.close` : one line of source, and the end of a source;
* `Lexer.run` : any sequence of such steps;
* `blocks` : the blocks of a whole text, in order.
-/

namespace Stylebook.Comment

open Text

/-- The comment that a lexer stands in, with its lines so far. A plain comment knows its baseline, the
indentation to remove, once a line that is not blank has been seen. -/
inductive Scan where
  | idle
  | run (lines : List Text)
  | plain (baseline : Option Text) (lines : List Text)
  | doc (lines : List Text)
  deriving DecidableEq

def Scan.lines : Scan → List Text
  | .idle => []
  | .run ls => ls
  | .plain _ ls => ls
  | .doc ls => ls

/-! ## Lines -/

def isSlashLine (line : Text) : Bool := ['/', '/'].isPrefixOf (trimStart line)

def isBareSlashLine (line : Text) : Bool := trim line == ['/', '/']

def isCloser (line : Text) : Bool := trim line == ['*', '/']

def isDocOpener (line : Text) : Bool := trim line == ['/', '*', '*']

/-- The line opens a plain or a doc comment: a slash and one star or more. -/
def isOpener (line : Text) : Bool :=
  match trim line with
  | '/' :: '*' :: rest => rest.all (· == '*')
  | _ => false

/-- A `//` line without its indentation, its slashes and one blank after them. -/
def dropSlashes (line : Text) : Text := dropBlank ((trimStart line).drop 2)

/-- A line of a doc comment without its leading star and one blank after it, if it has a leading star. -/
def dropStar (line : Text) : Text :=
  match trimStart line with
  | '*' :: rest => dropBlank rest
  | _ => line

def indentation (line : Text) : Text := line.takeWhile isBlank

/-- The line without `baseline` in front, if it begins so. -/
def dropBaseline (baseline line : Text) : Text := (afterText? baseline line).getD line

/-! ## Steps -/

/-- The lines of a `//` run with one more line; bare lines before any other are left out. -/
def addToRun (lines : List Text) (line : Text) : List Text :=
  if lines.isEmpty && isBareSlashLine line then lines else lines ++ [dropSlashes line]

/-- A plain comment with one more line, which sets the baseline if it is the first that is not empty. -/
def addToPlain (baseline : Option Text) (lines : List Text) (line : Text) : Scan :=
  match baseline with
  | some base => .plain (some base) (lines ++ [dropBaseline base line])
  | none =>
    if line.isEmpty then .plain none lines
    else
      let base := indentation line
      .plain (some base) (lines ++ [dropBaseline base line])

/-- What a line that belongs to no comment begins. -/
def opened (line : Text) : Scan :=
  if isDocOpener line then .doc []
  else if isOpener line then .plain none []
  else .idle

/-- The blocks found so far, and the comment being read. -/
structure Lexer where
  blocks : List Text := []
  scan : Scan := .idle
  deriving DecidableEq

namespace Lexer

/-- Ends the comment being read; its block, without empty lines at its ends, counts unless nothing is left. -/
def flush (x : Lexer) : Lexer :=
  let block := trimLines (unlines x.scan.lines)
  { blocks := if block.isEmpty then x.blocks else x.blocks ++ [block] }

def feed (x : Lexer) (source : Text) : Lexer :=
  let line := trimEnd source
  match x.scan with
  | .idle =>
    if isSlashLine line then { x with scan := .run (addToRun [] line) }
    else { x with scan := opened line }
  | .run ls =>
    if isSlashLine line then { x with scan := .run (addToRun ls line) }
    else { x.flush with scan := opened line }
  | .plain base ls =>
    if isCloser line then x.flush else { x with scan := addToPlain base ls line }
  | .doc ls =>
    if isCloser line then x.flush else { x with scan := .doc (ls ++ [dropStar line]) }

/-- The end of a source: a comment still open is ended. -/
def close (x : Lexer) : Lexer := x.flush

def feedAll (x : Lexer) (lines : List Text) : Lexer := lines.foldl feed x

end Lexer

/-- One step of a lexer's life: a line of source, or the end of a source. -/
inductive Step where
  | line (source : Text)
  | stop
  deriving DecidableEq

def Lexer.step (x : Lexer) : Step → Lexer
  | .line source => x.feed source
  | .stop => x.close

def Lexer.run (x : Lexer) (steps : List Step) : Lexer := steps.foldl Lexer.step x

def blocksOfLines (lines : List Text) : List Text := (({} : Lexer).feedAll lines).close.blocks

def blocks (t : Text) : List Text := blocksOfLines (lines (unifyNewlines t))

end Stylebook.Comment
