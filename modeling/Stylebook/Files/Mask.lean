import Stylebook.Text.Basic

/-!
# Masks

A mask is a list of patterns divided by bars. In a pattern, `*` stands for any text, `?` for any character and
`[...]` for one of several characters, or `[!...]` for any other; a bracket that nothing closes stands for itself.

* `Pattern.Token`, `Pattern.ofText` : the parts of a pattern;
* `Pattern.suffixMatches`, `Pattern.accepts` : which suffixes of a name the pattern fits, and whether it fits all of
  it;
* `Mask.accepts` : one of the patterns of a mask fits a name.
-/

namespace Stylebook

open Text

namespace Pattern

/-! ## Character sets

The content of brackets is cut at the dashes that make a range, so that a range goes from the last character of a
chunk to the first of the next. A dash that is the first or the last character, or follows the end of a range,
stands for itself. -/

/-- Cuts the content of brackets; the next `keep` characters belong to the chunk in any case. -/
def chunksFrom (keep : Nat) (chunk : Text) : Text → List Text
  | [] => [chunk]
  | c :: rest =>
    match keep with
    | n + 1 => chunksFrom n (chunk ++ [c]) rest
    | 0 =>
      if c == '-' then
        if rest.isEmpty then [chunk ++ ['-']] else chunk :: chunksFrom 2 [] rest
      else chunksFrom 0 (chunk ++ [c]) rest

def chunks (content : Text) : List Text :=
  chunksFrom (if content.head? == some '!' then 2 else 1) [] content

/-- The range from the last character of one chunk to the first of the next runs backwards. -/
def runsBackwards (a b : Text) : Bool :=
  match a.getLast?, b.head? with
  | some x, some y => y.toNat < x.toNat
  | _, _ => false

/-- Joins chunks, from the last on, where the range between them runs backwards; its ends drop out. -/
def dropBackwards : List Text → List Text
  | [] => []
  | a :: rest =>
    match dropBackwards rest with
    | [] => [a]
    | b :: more => if runsBackwards a b then (a.dropLast ++ b.drop 1) :: more else a :: b :: more

def rangesBetween : List Text → List (Char × Char)
  | a :: b :: more =>
    match a.getLast?, b.head? with
    | some x, some y => (x, y) :: rangesBetween (b :: more)
    | _, _ => rangesBetween (b :: more)
  | _ => []

/-- The characters of chunks, and the ranges between them. -/
def ranges (cs : List Text) : List (Char × Char) :=
  cs.flatten.map (fun c => (c, c)) ++ rangesBetween cs

/-- A set of characters, given by ranges or by what they leave out. -/
structure CharSet where
  negated : Bool
  ranges : List (Char × Char)
  deriving DecidableEq

/-- The set that the content of brackets denotes. A mark `!` in front, once backward ranges have dropped out,
negates the set; if the mark alone was the start of a range, the dash stands for itself. -/
def CharSet.ofContent (content : Text) : CharSet :=
  match dropBackwards (chunks content) with
  | ['!'] :: b :: more => ⟨true, ('-', '-') :: Pattern.ranges (b :: more)⟩
  | ('!' :: a) :: more => ⟨true, Pattern.ranges (a :: more)⟩
  | cs => ⟨false, Pattern.ranges cs⟩

def CharSet.holds (s : CharSet) (c : Char) : Bool :=
  (s.ranges.any fun r => r.1.toNat ≤ c.toNat && c.toNat ≤ r.2.toNat) != s.negated

/-! ## Patterns -/

inductive Token where
  | any
  | one
  | char (c : Char)
  | set (s : CharSet)
  deriving DecidableEq

def upToBracket : Text → Option Text
  | [] => none
  | c :: rest => if c == ']' then some [] else (upToBracket rest).map (c :: ·)

/-- The content of brackets after the opening one. A closing bracket right after the opening one, or after a mark
of negation, is part of the content. -/
def bracketContent? : Text → Option Text
  | '!' :: ']' :: rest => (upToBracket rest).map ('!' :: ']' :: ·)
  | '!' :: rest => (upToBracket rest).map ('!' :: ·)
  | ']' :: rest => (upToBracket rest).map (']' :: ·)
  | t => upToBracket t

/-- The parts of a pattern, of which `used` characters in front belong to the part before. -/
def tokensFrom (used : Nat) : Text → List Token
  | [] => []
  | c :: rest =>
    match used with
    | n + 1 => tokensFrom n rest
    | 0 =>
      if c == '*' then .any :: tokensFrom 0 rest
      else if c == '?' then .one :: tokensFrom 0 rest
      else if c == '[' then
        match bracketContent? rest with
        | some content => .set (.ofContent content) :: tokensFrom (content.length + 1) rest
        | none => .char c :: tokensFrom 0 rest
      else .char c :: tokensFrom 0 rest

def ofText (t : Text) : List Token := tokensFrom 0 t

/-- A part that stands for a single character stands for `c`. -/
def Token.fits : Token → Char → Bool
  | .any, _ => false
  | .one, _ => true
  | .char d, c => c == d
  | .set s, c => s.holds c

/-- For every suffix of a list, whether one of its entries from there on is true. -/
def anyFrom : List Bool → List Bool
  | [] => []
  | b :: rest =>
    match anyFrom rest with
    | [] => [b]
    | r :: more => (b || r) :: r :: more

/-- For every suffix of a name, the longest first, whether the pattern fits it. -/
def suffixMatches (ts : List Token) (name : Text) : List Bool :=
  match ts with
  | [] => name.map (fun _ => false) ++ [true]
  | .any :: rest => anyFrom (suffixMatches rest name)
  | t :: rest => List.zipWith (fun c fits => t.fits c && fits) name ((suffixMatches rest name).drop 1) ++ [false]

def accepts (ts : List Token) (name : Text) : Bool := (suffixMatches ts name).headD false

end Pattern

namespace Mask

/-- The patterns of a mask; blanks around them do not count. -/
def patterns (mask : Text) : List Text := (mask.splitOn '|').map trim

/-- One of the patterns of the mask fits the name. -/
def accepts (mask name : Text) : Bool := (patterns mask).any fun p => Pattern.accepts (Pattern.ofText p) name

def stylesheets : Text := "*.css|*.less|*.sass|*.scss|*.styl|*.stylus".toList

end Mask

end Stylebook
