import Stylebook.Text.Basic
import Stylebook.Text.Case.Full

/-!
# References

A reference names a section and places it in a hierarchy: `2.1.3`, or `Forms - Buttons`.

* `Reference.delimiter`, `Reference.levels` : the levels of a reference, without blank ones;
* `Reference.uri` : the reference as a URI fragment, made of lower-case letters from `a` to `z`, digits,
  underscores and dashes.
-/

namespace Stylebook.Reference

open Text

/-- A dash between spaces, which divides levels of several words. -/
def dash : Text := [' ', '-', ' ']

/-- What divides the levels: a dash between spaces if there is one, and else a dot. -/
def delimiter (reference : Text) : Text := if hasText dash reference then dash else ['.']

def levels (reference : Text) : List Text :=
  ((splitOnText (delimiter reference) reference).map trim).filter (!·.isEmpty)

def isSafe (c : Char) : Bool := c.isAlphanum || c == '_' || c == '-'

/-- Every run of other characters as one dash; `inRun` tells whether one is being read. -/
def dashUnsafe (inRun : Bool) : Text → Text
  | [] => []
  | c :: rest =>
    if isSafe c then c :: dashUnsafe false rest
    else if inRun then dashUnsafe true rest
    else '-' :: dashUnsafe true rest

def uri (reference : Text) : Text :=
  lower (dashUnsafe false (replaceText dash ['-'] reference))

end Stylebook.Reference
