/-!
# Texts

A text is a list of characters, so that every operation on it is a plain recursion.

* `isBlank` : the characters that count as white space everywhere in this library;
* `trimStart`, `trimEnd`, `trim` : without the blanks at one end or both; `trimLines` drops only line feeds,
  `dropBlank` at most one leading blank;
* `words` : the maximal runs of characters that are not blank;
* `lines`, `unlines` : cutting at line feeds, and the inverse;
* `unifyNewlines` : every line ending as a single line feed;
* `splitOnText sep`, `replaceText old new` : cutting at, and replacing, the occurrences of a text, found from
  the left without overlaps; `hasText` : whether there is one;
* `afterText? p t`, `endsWith s t` : what follows `p` at the front of `t`, and whether `t` ends in `s`.
-/

namespace Stylebook

abbrev Text := List Char

namespace Text

/-- White space: the controls from tab to carriage return and from U+001C to U+001F, the next-line control,
and the space separators, line separator and paragraph separator of Unicode. -/
def isBlank (c : Char) : Bool :=
  let n := c.toNat
  (0x09 ≤ n && n ≤ 0x0d) || (0x1c ≤ n && n ≤ 0x20) || n == 0x85 || n == 0xa0 || n == 0x1680 ||
    (0x2000 ≤ n && n ≤ 0x200a) || n == 0x2028 || n == 0x2029 || n == 0x202f || n == 0x205f || n == 0x3000

def trimStart (t : Text) : Text := t.dropWhile isBlank

def trimEnd (t : Text) : Text := (t.reverse.dropWhile isBlank).reverse

def trim (t : Text) : Text := trimEnd (trimStart t)

def trimLines (t : Text) : Text :=
  ((t.dropWhile (· == '\n')).reverse.dropWhile (· == '\n')).reverse

/-- The text without its first character if that is a blank. -/
def dropBlank : Text → Text
  | c :: rest => if isBlank c then rest else c :: rest
  | [] => []

/-- The maximal runs of characters that are not blank. -/
def words (t : Text) : List Text := (t.splitOnP isBlank).filter (!·.isEmpty)

def unwords (ws : List Text) : Text := [' '].intercalate ws

/-- The lines of a text: one more than it has line feeds. -/
def lines (t : Text) : List Text := t.splitOn '\n'

def unlines (ls : List Text) : Text := ['\n'].intercalate ls

/-- Every line ending, be it CR LF, CR or LF, as a line feed. -/
def unifyNewlines : Text → Text
  | '\r' :: '\n' :: rest => '\n' :: unifyNewlines rest
  | '\r' :: rest => '\n' :: unifyNewlines rest
  | c :: rest => c :: unifyNewlines rest
  | [] => []

/-- The rest of `t` after `p`, if `t` begins with `p`. -/
def afterText? : (p t : Text) → Option Text
  | [], t => some t
  | a :: p, b :: t => if a == b then afterText? p t else none
  | _ :: _, [] => none

def endsWith (s t : Text) : Bool := s.reverse.isPrefixOf t.reverse

/-- Cuts a text at the occurrences of `sep`; `skip` counts the characters of an occurrence still to pass. -/
def splitOnTextFrom (sep : Text) : (skip : Nat) → Text → List Text
  | _, [] => [[]]
  | skip + 1, _ :: rest => splitOnTextFrom sep skip rest
  | 0, c :: rest =>
    if sep.isPrefixOf (c :: rest) then [] :: splitOnTextFrom sep (sep.length - 1) rest
    else (splitOnTextFrom sep 0 rest).modifyHead (c :: ·)

/-- The pieces of a text between the occurrences of `sep`, taken from the left without overlaps. -/
def splitOnText (sep t : Text) : List Text := splitOnTextFrom sep 0 t

def replaceText (old new t : Text) : Text := new.intercalate (splitOnText old t)

def hasText (part : Text) : Text → Bool
  | [] => part.isEmpty
  | c :: rest => part.isPrefixOf (c :: rest) || hasText part rest

def replaceChar (old : Char) (new : Text) (t : Text) : Text :=
  t.flatMap fun c => if c == old then new else [c]

end Text

end Stylebook
