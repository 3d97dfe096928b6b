import Stylebook.Yaml.Fault
import Stylebook.Yaml.Plain

/-!
# Quoted scalars

* `Quoted.Part` : what stands between the quotes: a character that counts as it is, a space, tab or line break of
  the layout, or a line break that a backslash hides;
* `Quoted.single`, `Quoted.double` : the parts of a scalar between single quotes, where a doubled quote stands for
  one, and between double quotes, where a backslash begins an escape. No line of either may begin or end a document;
* `Quoted.fold` : the text of the parts, in which line breaks are folded;
* `Quoted.read` : the scalar at a cursor, and the place after it.
-/

namespace Stylebook.Yaml

/-- The value of a digit of any base up to sixteen. -/
def digitOf (c : Char) : Nat :=
  if c.isDigit then c.toNat - '0'.toNat else c.toLower.toNat - 'a'.toNat + 10

/-- The number with the given digits in a base; underscores among them do not count. -/
def inBase (base : Nat) (ds : Text) : Nat :=
  (ds.filter (· != '_')).foldl (fun n c => base * n + digitOf c) 0

def isHex (c : Char) : Bool := c.isDigit || ('a' ≤ c && c ≤ 'f') || ('A' ≤ c && c ≤ 'F')

namespace Quoted

inductive Part where
  | char (c : Char)
  | blank (c : Char)
  | join
  deriving DecidableEq

def Part.ofChar (c : Char) : Part := if isGap c then .blank c else .char c

/-- The parts of a scalar, and the number of characters read with the closing quote. -/
abbrev Parts := Except Fault (List Part × Nat)

/-- Further parts with one more in front, which takes up `n` characters. -/
def Parts.cons (p : Part) (n : Nat) (more : Parts) : Parts := more.map fun (ps, m) => (p :: ps, m + n)

/-- The character ends a line before a line that begins or ends a document. -/
def endsDocument (c : Char) (rest : Text) : Bool := isBreak c && isMarker rest

/-- The parts up to the closing single quote. -/
def single : Text → Parts
  | '\'' :: '\'' :: rest => Parts.cons (.char '\'') 2 (single rest)
  | '\'' :: _ => .ok ([], 1)
  | c :: rest => if endsDocument c rest then .error .malformed else Parts.cons (.ofChar c) 1 (single rest)
  | [] => .error .malformed

/-- The characters that an escape of one letter stands for. -/
def escapes : List (Char × Nat) := [
  ('0', 0x00), ('a', 0x07), ('b', 0x08), ('t', 0x09), ('\t', 0x09), ('n', 0x0a), ('v', 0x0b), ('f', 0x0c),
  ('r', 0x0d), ('e', 0x1b), (' ', 0x20), ('"', 0x22), ('\\', 0x5c), ('/', 0x2f), ('N', 0x85), ('_', 0xa0),
  ('L', 0x2028), ('P', 0x2029)]

/-- The number of hexadecimal digits after an escape. -/
def hexWidth? (c : Char) : Option Nat :=
  if c == 'x' then some 2 else if c == 'u' then some 4 else if c == 'U' then some 8 else none

/-- The part that an escape stands for, given the text after its backslash, and the number of characters that it
takes up. -/
def escape : Text → Except Fault (Part × Nat)
  | [] => .error .malformed
  | c :: rest =>
    if isBreak c then if isMarker rest then .error .malformed else .ok (.join, 1)
    else match escapes.lookup c, hexWidth? c with
      | some n, _ => .ok (.char (Char.ofNat n), 1)
      | none, some width =>
        let digits := rest.take width
        let n := inBase 16 digits
        if digits.length < width || !digits.all isHex then .error .malformed
        else if 0x10ffff < n then .error .codePoint
        else if n.isValidChar then .ok (.char (Char.ofNat n), width + 1)
        else .error .malformed
      | none, none => .error .malformed

/-- The parts up to the closing double quote; `used` characters in front belong to an escape. -/
def doubleFrom (used : Nat) : Text → Parts
  | [] => .error .malformed
  | c :: rest =>
    match used with
    | n + 1 => (doubleFrom n rest).map fun (ps, m) => (ps, m + 1)
    | 0 =>
      if c == '"' then .ok ([], 1)
      else if c == '\\' then
        match escape rest with
        | .ok (p, n) => Parts.cons p 1 (doubleFrom n rest)
        | .error f => .error f
      else if endsDocument c rest then .error .malformed
      else Parts.cons (.ofChar c) 1 (doubleFrom 0 rest)

def double (t : Text) : Parts := doubleFrom 0 t

/-- The text of a run of layout: spaces and tabs on one line stay, and line breaks are folded. -/
def foldRun (run : Text) : Text :=
  match run.dropWhile (!isBreak ·) with
  | [] => run
  | first :: rest => Plain.joint first ((rest.filter isBreak).map normalBreak)

/-- The text of parts after a run of layout, the last character first; `hidden` tells that a backslash hides the
line break that the run follows. -/
def foldFrom (hidden : Bool) (run : Text) : List Part → Text
  | [] => flush
  | .char c :: rest => flush ++ c :: foldFrom false [] rest
  | .blank c :: rest => foldFrom hidden (c :: run) rest
  | .join :: rest => flush ++ foldFrom true [] rest
where
  /-- The text of the run. -/
  flush : Text :=
    if hidden then (run.reverse.filter isBreak).map normalBreak else foldRun run.reverse

def fold (ps : List Part) : Text := foldFrom false [] ps

def read (cur : Cursor) : Except Fault (Text × Cursor) :=
  let parts := match cur.rest with
    | '\'' :: rest => single rest
    | '"' :: rest => double rest
    | _ => .error .malformed
  parts.map fun (ps, n) => (fold ps, cur.skip (n + 1))

end Quoted

end Stylebook.Yaml
