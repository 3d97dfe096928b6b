import Stylebook.Markdown.Inline

/-!
# Emphasis

One star on each side emphasises, two emphasise strongly, three do both. A run of stars can open emphasis unless a blank
follows it, and close some unless a blank stands before it; between two blanks it is plain text.

* `Opener`, `Reading` : a run that has not been closed with the content after it, and what has been read of a text;
* `Opener.fits` : two runs go together, unless one of them could both open and close and their lengths add up to a
  multiple of three;
* `Reading.close?` : one emphasis that a run of stars closes;
* `inlines` : the inline content of a text.
-/

namespace Stylebook.Markdown

open Text

namespace Emphasis

/-- A run of stars that may open emphasis. It is two-sided if it could also have closed some; `inner` is the content after
it, the last one first. -/
structure Opener where
  stars : Nat
  twoSided : Bool
  inner : List Inline := []

/-- What has been read of a text: the content before all openers, the last one first, and the openers, the last one first. -/
structure Reading where
  outside : List Inline := []
  openers : List Opener := []

/-- Content that was collected with the last one first; adjacent plain texts are one text. -/
def collected (content : List Inline) : List Inline := content.foldl (fun rest i => Piece.consInline i rest) []

def plainStars (n : Nat) : Inline := .text (List.replicate n '*')

namespace Reading

def add (r : Reading) (i : Inline) : Reading :=
  match r.openers with
  | [] => { r with outside := i :: r.outside }
  | o :: rest => { r with openers := { o with inner := i :: o.inner } :: rest }

def giveUp (r : Reading) : Reading :=
  match r.openers with
  | [] => r
  | o :: rest => o.inner.foldr (fun i r => r.add i) (({ r with openers := rest } : Reading).add (plainStars o.stars))

def giveUpLast (r : Reading) : Nat → Reading
  | 0 => r
  | n + 1 => r.giveUp.giveUpLast n

def content (r : Reading) : List Inline := collected (r.giveUpLast r.openers.length).outside

end Reading

/-- The opener goes together with a run of stars that closes. -/
def Opener.fits (o : Opener) (stars : Nat) (twoSided : Bool) : Bool :=
  !(o.twoSided || twoSided) || (o.stars + stars) % 3 != 0 || (o.stars % 3 == 0 && stars % 3 == 0)

/-- The number of stars that the innermost emphasis between two runs of `n` stars takes from each. -/
def marks (n : Nat) : Nat := if n == 1 || n == 3 then 1 else 2

def emphasised (stars : Nat) (content : List Inline) : Inline :=
  if stars == 1 then .em content else .strong content

/-- The emphasis that a run of stars closes, and the number of stars it takes. The opener is the last of its kind, two-sided
or not, where some opener of that kind fits. If it is not the one that fits, a two-sided run closes it as if it were as long. -/
def Reading.close? (r : Reading) (stars : Nat) (twoSided : Bool) : Option (Nat × Reading) := do
  let last ← r.openers.findIdx? fun o =>
    r.openers.any fun p => p.twoSided == o.twoSided && p.fits stars twoSided
  let r := r.giveUpLast last
  match r.openers with
  | [] => none
  | o :: rest =>
    let n := if twoSided && !o.fits stars twoSided then marks o.stars else marks (min o.stars stars)
    let span := emphasised n (collected o.inner)
    let left := o.stars - n
    if left == 0 then some (n, ({ r with openers := rest } : Reading).add span)
    else some (n, { r with openers := ⟨left, false, [span]⟩ :: rest })

/-- All emphasis that a run of stars closes: the stars of it that are left, the stars that it is short of, and what has been
read then. -/
def Reading.closeAll (r : Reading) (twoSided : Bool) (stars : Nat) : (fuel : Nat) → Nat × Nat × Reading
  | 0 => (stars, 0, r)
  | fuel + 1 =>
    match r.close? stars twoSided with
    | none => (stars, 0, r)
    | some (n, r) => if n < stars then r.closeAll twoSided (stars - n) fuel else (0, n - stars, r)

/-- A run of stars has been read, and the number of characters behind it that it takes along. -/
def Reading.run (r : Reading) (stars : Nat) (opens closes : Bool) : Reading × Nat :=
  let (left, short, r) := if closes then r.closeAll opens stars stars else (stars, 0, r)
  if left == 0 then (r, short)
  else if opens then ({ r with openers := ⟨left, closes && left == stars, []⟩ :: r.openers }, 0)
  else (r.add (plainStars left), 0)

/-- What has been read after more pieces, of which `used` in front belong to a run of stars. -/
def Reading.read (r : Reading) (before : Option Piece) (used : Nat) : List Piece → Reading
  | [] => r
  | p :: rest =>
    match used with
    | n + 1 => r.read (some p) n rest
    | 0 =>
      if p.isStar then
        let stars := (rest.takeWhile Piece.isStar).length + 1
        let opens := (rest.drop (stars - 1)).head?.any (!·.isBlank)
        let (r, taken) := r.run stars opens (before.any (!·.isBlank))
        r.read (some p) (stars - 1 + taken) rest
      else (r.add p.content).read (some p) 0 rest

end Emphasis

def inlines (t : Text) : List Inline := (Emphasis.Reading.read {} none 0 (Piece.ofText t)).content

end Stylebook.Markdown
