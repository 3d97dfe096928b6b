import Stylebook.Phonetic.Matcher
import Stylebook.Text.Case.Fold

/-!
# Labels

A line such as `Markup: <a>` is labelled `Markup`. A label stands at the start of a line, after blanks at most,
is written in any case, and ends in a colon; one blank after the colon belongs to it.

* `Label.after? matcher label t` : what follows the label at the start of `t`. A matcher also lets a misspelt
  label pass;
* `Label.occurs matcher label t` : some line of `t` is so labelled;
* `Label.extract matcher label ps` : the first of the paragraphs `ps` in which the label occurs, without the
  label, and the other paragraphs.
-/

namespace Stylebook.Label

open Text

/-- The rest of a text after `label` and a colon. -/
def afterHere? : (label t : Text) → Option Text
  | [], ':' :: rest => some (dropBlank rest)
  | p :: label, c :: rest => if sameLetter p c then afterHere? label rest else none
  | _, _ => none

/-- The rest of a text after blanks, `label` and a colon. -/
def afterExact? (label : Text) : Text → Option Text
  | [] => afterHere? label []
  | c :: rest =>
    match afterHere? label (c :: rest) with
    | some r => some r
    | none => if isBlank c then afterExact? label rest else none

/-- The characters of a label that may be misspelt: spaces and the letters from `a` to `z`, with the four other
characters that equal one of these up to case. -/
def isLoose (c : Char) : Bool :=
  c == ' ' || c.isAlpha || c == 'İ' || c == 'ı' || c == 'ſ' || c.toNat == 0x212a

/-- The rest of a text after blanks, a written label that sounds like `label`, and a colon. -/
def afterLoose? (m : Matcher) (label t : Text) : Option Text :=
  let start := trimStart t
  match start.dropWhile isLoose with
  | ':' :: rest =>
    if m.alike (trim (start.takeWhile isLoose)) label then some (dropBlank rest) else none
  | _ => none

def after? (m : Option Matcher) (label t : Text) : Option Text :=
  match afterExact? label t with
  | some rest => some rest
  | none => m.bind (afterLoose? · label t)

/-- The number of characters that the label takes up, blanks and colon included. -/
def length? (m : Option Matcher) (label t : Text) : Option Nat :=
  (after? m label t).map (t.length - ·.length)

def occurs (m : Option Matcher) (label t : Text) : Bool :=
  (lines t).any fun line => (after? m label line).isSome

/-- The lines without the first label; a line that holds nothing else is left out. -/
def removeFrom? (m : Option Matcher) (label : Text) : List Text → Option (List Text)
  | [] => none
  | line :: rest =>
    match after? m label line with
    | some value => some (if value.isEmpty then rest else value :: rest)
    | none => (removeFrom? m label rest).map (line :: ·)

def remove? (m : Option Matcher) (label paragraph : Text) : Option Text :=
  (removeFrom? m label (lines paragraph)).map unlines

/-- The first paragraph with the label, without it, and the paragraphs that are left. -/
def extract (m : Option Matcher) (label : Text) : List Text → Option Text × List Text
  | [] => (none, [])
  | p :: rest =>
    match remove? m label p with
    | some value => (some value, rest)
    | none =>
      let (value, others) := extract m label rest
      (value, p :: others)

end Stylebook.Label
